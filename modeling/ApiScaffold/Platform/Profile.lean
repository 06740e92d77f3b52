namespace ApiScaffold

inductive PaginationStyle where
  | cursor
  | offset
  deriving DecidableEq

inductive AuthScheme where
  | session
  | bearer
  deriving DecidableEq

inductive Envelope where
  | plain
  | offlineWrapped
  deriving DecidableEq

inductive Extension where
  | pagination
  | offline
  deriving DecidableEq

def PaginationStyle.name : PaginationStyle → String
  | .cursor => "cursor"
  | .offset => "offset"

def AuthScheme.name : AuthScheme → String
  | .session => "session"
  | .bearer => "bearer"

def Envelope.name : Envelope → String
  | .plain => "plain"
  | .offlineWrapped => "offline-wrapped"

def Extension.name : Extension → String
  | .pagination => "pagination"
  | .offline => "offline"

structure Profile where
  adapterId : String
  pagination : PaginationStyle
  auth : AuthScheme
  envelope : Envelope
  extensions : List Extension
  deriving DecidableEq

namespace Profile

def web : Profile := ⟨"web", .cursor, .session, .plain, [.pagination]⟩

def mobile : Profile := ⟨"mobile", .offset, .bearer, .offlineWrapped, [.pagination, .offline]⟩

def builtin : List Profile := [web, mobile]

def builtin? (adapterId : String) : Option Profile := builtin.find? (·.adapterId == adapterId)

def resolve (adapterId : String) : Profile := (builtin? adapterId).getD web

def isBuiltin (adapterId : String) : Bool := (builtin? adapterId).isSome

def offline (p : Profile) : Bool := p.extensions.contains .offline

theorem resolve_of_ne {adapterId : String} (h : adapterId ≠ "mobile") : resolve adapterId = web := by
  by_cases hw : adapterId = "web"
  · subst hw; rfl
  · simp [resolve, builtin?, builtin, web, mobile, Ne.symm h, Ne.symm hw]

end Profile

end ApiScaffold
