import ApiScaffold.Text.Case

/-!
Business domains and the spellings of their names. Any string is a token: the spellings are total, and
a plural is always an appended `s`.
-/

namespace ApiScaffold

/-- The spellings of a domain. Those of a configured domain come from its token, but a route may carry
any. -/
structure Descriptor where
  token : String
  capitalized : String
  routeSegment : String
  pathParam : String
  deriving DecidableEq

namespace Descriptor

variable (d : Descriptor)

def pluralCapitalized : String := d.capitalized ++ "s"
def collectionPath : String := "/" ++ d.routeSegment
def itemPath : String := "/" ++ d.routeSegment ++ "/\x7b" ++ d.pathParam ++ "\x7d"
def routerName : String := d.token ++ "Router"
def controllerName : String := d.capitalized ++ "Controller"
def repositoryName : String := "I" ++ d.capitalized ++ "Repository"

def responseName : String := d.capitalized ++ "Response"

def createRequestName : String := "Create" ++ d.capitalized ++ "Request"

end Descriptor

structure Domain where
  token : String
  deriving DecidableEq

namespace Domain

variable (d : Domain)

def capitalized : String := Text.capitalize d.token
def routeSegment : String := d.token ++ "s"
def pathParam : String := d.token ++ "Id"

def descriptor : Descriptor := ⟨d.token, d.capitalized, d.routeSegment, d.pathParam⟩

instance : Coe Domain Descriptor := ⟨descriptor⟩

def pluralCapitalized : String := d.descriptor.pluralCapitalized
def collectionPath : String := d.descriptor.collectionPath
def itemPath : String := d.descriptor.itemPath
def routerName : String := d.descriptor.routerName
def controllerName : String := d.descriptor.controllerName
def repositoryName : String := d.descriptor.repositoryName
def responseName : String := d.descriptor.responseName
def createRequestName : String := d.descriptor.createRequestName

@[simp] theorem descriptor_token : d.descriptor.token = d.token := rfl
@[simp] theorem descriptor_capitalized : d.descriptor.capitalized = d.capitalized := rfl
@[simp] theorem descriptor_routeSegment : d.descriptor.routeSegment = d.routeSegment := rfl
@[simp] theorem descriptor_pathParam : d.descriptor.pathParam = d.pathParam := rfl
@[simp] theorem descriptor_pluralCapitalized : d.descriptor.pluralCapitalized = d.pluralCapitalized := rfl
@[simp] theorem descriptor_collectionPath : d.descriptor.collectionPath = d.collectionPath := rfl
@[simp] theorem descriptor_itemPath : d.descriptor.itemPath = d.itemPath := rfl
@[simp] theorem descriptor_routerName : d.descriptor.routerName = d.routerName := rfl
@[simp] theorem descriptor_controllerName : d.descriptor.controllerName = d.controllerName := rfl
@[simp] theorem descriptor_repositoryName : d.descriptor.repositoryName = d.repositoryName := rfl
@[simp] theorem descriptor_responseName : d.descriptor.responseName = d.responseName := rfl
@[simp] theorem descriptor_createRequestName : d.descriptor.createRequestName = d.createRequestName := rfl

theorem pluralCapitalized_eq : d.pluralCapitalized = d.capitalized ++ "s" := rfl
theorem collectionPath_eq : d.collectionPath = "/" ++ d.routeSegment := rfl
theorem itemPath_eq : d.itemPath = "/" ++ d.routeSegment ++ "/\x7b" ++ d.pathParam ++ "\x7d" := rfl
theorem routerName_eq : d.routerName = d.token ++ "Router" := rfl
theorem controllerName_eq : d.controllerName = d.capitalized ++ "Controller" := rfl
theorem repositoryName_eq : d.repositoryName = "I" ++ d.capitalized ++ "Repository" := rfl
theorem responseName_eq : d.responseName = d.capitalized ++ "Response" := rfl
theorem createRequestName_eq : d.createRequestName = "Create" ++ d.capitalized ++ "Request" := rfl

theorem collectionPath_inj {d e : Domain} : d.collectionPath = e.collectionPath ↔ d = e := by
  obtain ⟨s⟩ := d
  obtain ⟨t⟩ := e
  simp [collectionPath_eq, routeSegment, ← String.toList_inj]

@[simp] theorem descriptor_inj {d e : Domain} : d.descriptor = e.descriptor ↔ d = e :=
  ⟨fun h => collectionPath_inj.mp (congrArg Descriptor.collectionPath h), congrArg descriptor⟩

end Domain

namespace PackageName

def core : String := "core"
def contracts : String := "contracts"
def adapter (adapterId : String) : String := "adapter-" ++ adapterId
def inRegistry (directory : String) : String := "@corebridge/" ++ directory
def routerFactory (adapterId : String) : String := "create" ++ Text.capitalize adapterId ++ "Router"

end PackageName

end ApiScaffold
