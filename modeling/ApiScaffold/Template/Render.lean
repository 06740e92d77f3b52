import ApiScaffold.Data.Display
import ApiScaffold.Template.Basic
import ApiScaffold.Template.Literal
import ApiScaffold.Text.Case

namespace ApiScaffold.Template

inductive Value where
  | defined (v : Data)
  | undefined (u : Undefined)

abbrev Scope := List (String × Value)

namespace Value

def demand : Value → Except Fault Data
  | defined v => .ok v
  | undefined u => .error (.undefined u)

def ofAttribute (n : String) (v : Data) : Value :=
  match v.get? n with
  | some field => defined field
  | none => undefined (.attribute v n)

def ofFirst : Data → Value
  | .list (item :: _) => defined item
  | .string s =>
    match s.toList with
    | c :: _ => defined (.string (String.singleton c))
    | [] => undefined (.element (.string s))
  | v => undefined (.element v)

end Value

namespace Scope

def value (scope : Scope) (n : String) : Value := (Assoc.get? n scope).getD (.undefined (.name n))

def bind (scope : Scope) (n : String) (v : Data) : Scope := (n, .defined v) :: scope

end Scope

def Filter.apply (f : Filter) (v : Data) : Except Fault Data :=
  match f with
  | .quoted => .ok (.string (Literal.quote v.display))
  | .lowered => .ok (.string (Text.lower v.display))
  | .capitalized =>
    match v with
    | .string s => .ok (.string (Text.capitalize s))
    | .list _ => .error (.noUpperCase v)
    | .map _ => .error .sliceAsKey
    | _ => .error (.notSliceable v)

namespace Expr

def walk (v : Value) : List String → Except Fault Value
  | [] => .ok v
  | n :: rest => do walk (.ofAttribute n (← v.demand)) rest

def eval (scope : Scope) : Expr → Except Fault Value
  | path root attributes => walk (scope.value root) attributes
  | first e => do return Value.ofFirst (← (← e.eval scope).demand)
  | filtered f e => do return .defined (← f.apply (← (← e.eval scope).demand))

def data (scope : Scope) (e : Expr) : Except Fault Data := do (← e.eval scope).demand

end Expr

def Condition.eval (scope : Scope) : Condition → Except Fault Bool
  | holds e => do return (← e.data scope).truthy
  | fails e => do return !(← e.data scope).truthy
  | equals e text => do
    match ← e.data scope with
    | .string s => return s == text
    | _ => return false

def iterate : Data → Except Fault (List Data)
  | .list items => .ok items
  | .string s => .ok (s.toList.map fun c => .string (String.singleton c))
  | .map entries => .ok (entries.map fun (key, _) => .string key)
  | v => .error (.notIterable v)

def entries : Data → Except Fault (List (String × Data))
  | .map entries => .ok entries
  | v => .error (.undefined (.attribute v "items"))

def withLast {α : Type} : List α → List (α × Bool)
  | [] => []
  | x :: rest => (x, rest.isEmpty) :: withLast rest

def loopData (last : Bool) : Data := .map [("last", .bool last)]

def renderNodes (scope : Scope) : List Node → Except Fault String
  | [] => .ok ""
  | .text s :: rest => do return s ++ (← renderNodes scope rest)
  | .print e :: rest => do return (← e.data scope).display ++ (← renderNodes scope rest)
  | .assign n e :: rest => do renderNodes ((n, ← e.eval scope) :: scope) rest
  | .when condition body otherwise :: rest => do
    let text ← if ← condition.eval scope then renderNodes scope body else renderNodes scope otherwise
    return text ++ (← renderNodes scope rest)
  | .forEach n source body otherwise :: rest => do
    let items ← iterate (← source.data scope)
    let text ←
      if items.isEmpty then renderNodes scope otherwise
      else
        String.join <$> (withLast items).mapM fun (item, last) =>
          renderNodes ((scope.bind "loop" (loopData last)).bind n item) body
    return text ++ (← renderNodes scope rest)
  | .forEntries k v source only body :: rest => do
    let items ← entries (← source.data scope)
    let texts ← items.mapM fun (key, item) => do
      let inner := (scope.bind k (.string key)).bind v item
      if (← only.data inner).truthy then renderNodes inner body else return ""
    return String.join texts ++ (← renderNodes scope rest)

def render (template : Template) (context : List (String × Data)) : Except Fault String :=
  if context.any (·.1 = "self") then .error (.reservedName "self")
  else renderNodes (context.map fun (n, v) => (n, .defined v)) template

end ApiScaffold.Template
