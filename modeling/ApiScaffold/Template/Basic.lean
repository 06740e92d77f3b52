import ApiScaffold.Data.Basic

/-!
Templates: text with expressions, bindings, choices and loops. A name that is not bound is no error
by itself, only its use is, so that a missing key cannot leave a gap in the text.
-/

namespace ApiScaffold.Template

inductive Filter where
  | capitalized
  | quoted
  | lowered
  deriving DecidableEq

inductive Expr where
  | path (root : String) (attributes : List String)
  | first (e : Expr)
  | filtered (f : Filter) (e : Expr)

def var (name : String) : Expr := .path name []

inductive Condition where
  | holds (e : Expr)
  | fails (e : Expr)
  | equals (e : Expr) (text : String)

inductive Node where
  | text (s : String)
  | print (e : Expr)
  | assign (name : String) (e : Expr)
  | when (condition : Condition) (body otherwise : List Node)
  | forEach (name : String) (source : Expr) (body otherwise : List Node)
  | forEntries (key value : String) (source only : Expr) (body : List Node)

def field (root : String) (attributes : List String) : Node := .print (.path root attributes)

def name (n : String) : Node := .print (var n)

inductive Undefined where
  | name (n : String)
  | attribute (owner : Data) (n : String)
  | element (owner : Data)

inductive Fault where
  | undefined (u : Undefined)
  | notIterable (v : Data)
  | notSliceable (v : Data)
  | noUpperCase (v : Data)
  | sliceAsKey
  | notFound (template : String)
  | reservedName (n : String)

def typeName : Data → String
  | .null => "NoneType"
  | .bool _ => "bool"
  | .int _ => "int"
  | .float _ => "float"
  | .string _ => "str"
  | .list _ => "list"
  | .map _ => "dict"

def ownerName : Data → String
  | .null => "None"
  | v => typeName v ++ " object"

def Undefined.message : Undefined → String
  | .name n => "'" ++ n ++ "' is undefined"
  | .attribute owner n => "'" ++ ownerName owner ++ "' has no attribute '" ++ n ++ "'"
  | .element owner => ownerName owner ++ " has no element 0"

def Fault.message : Fault → String
  | .undefined u => u.message
  | .notIterable v => "'" ++ typeName v ++ "' object is not iterable"
  | .notSliceable v => "'" ++ typeName v ++ "' object is not subscriptable"
  | .noUpperCase v => "'" ++ typeName v ++ "' object has no attribute 'upper'"
  | .sliceAsKey => "unhashable type: 'slice'"
  | .notFound template => template
  | .reservedName n => "Template.render() got multiple values for argument '" ++ n ++ "'"

end ApiScaffold.Template

namespace ApiScaffold

abbrev Template := List Template.Node

end ApiScaffold
