import ApiScaffold.Package.Plan
import ApiScaffold.Proofs.Text.Fields
import ApiScaffold.Proofs.Text.Identifier
import ApiScaffold.Package.Artifact

/-!
The interface as one reads it off generated packages: off the lines of the route table, off the OpenAPI
document, and off the mounts of an adapter together with the handlers of its controllers.
-/

namespace ApiScaffold

open Text

structure Endpoint where
  method : Method
  path : String
  operationId : String
  deriving DecidableEq

def Route.endpoint (r : Route) : Endpoint := ⟨r.method, r.path, r.operationId⟩

namespace Surface

def routeStart : List Char := "  \x7b method: '".toList

def routeMarks : List (List Char) := ["', path: '".toList, "', operationId: '".toList, "' \x7d,".toList]

def methodOfName? (name : List Char) : Option Method := [Method.get, .post].find? (·.name.toList == name)

def readRoute (line : List Char) : Option Endpoint :=
  match readFields routeStart routeMarks line with
  | some [method, path, op] => (methodOfName? method).map (⟨·, String.ofList path, String.ofList op⟩)
  | _ => none

def ofRouteTable (source : String) : Option (List Endpoint) := (linesWith [routeStart] source).mapM readRoute

def methodOfKey? (key : List Char) : Option Method := [Method.get, .post].find? (·.key.toList == key)

def readOperation (path : String) (entry : String × Data) : Option Endpoint :=
  match methodOfKey? entry.1.toList, entry.2.get? "operationId" with
  | some method, some (.string op) => some ⟨method, path, op⟩
  | _, _ => none

def readPathItem (entry : String × Data) : Option (List Endpoint) :=
  match entry.2 with
  | .map operations => operations.mapM (readOperation entry.1)
  | _ => none

def ofDocument (document : Data) : Option (List Endpoint) :=
  match document.get? "paths" with
  | some (.map items) => (items.mapM readPathItem).map List.flatten
  | _ => none

def mountStart : List Char := "  router.use('".toList

structure Mount where
  path : List Char
  router : List Char
  token : List Char

def readMount (line : List Char) : Option Mount :=
  match readFields mountStart ["', ".toList, "(deps.".toList, "));".toList] line with
  | some [path, router, token] => some ⟨path, router, token⟩
  | _ => none

def exportStart : List Char := "export function ".toList

def exported (source : String) : List (List Char) :=
  (linesWith [exportStart] source).filterMap fun line =>
    (readFields exportStart ["(".toList] line).bind List.head?

def handlerStart : List Char := "  router.".toList

def awaitStart : List Char := "      const result = await ".toList

structure Handler where
  method : Method
  relative : List Char
  operation : List Char

def readHandler (line awaiting : List Char) : Option Handler :=
  match readFields handlerStart ["('".toList, "', ".toList] line,
    readFields awaitStart ["(".toList] awaiting with
  | some [key, relative], some [op] => (methodOfKey? key).map (⟨·, relative, op⟩)
  | _, _ => none

def readHandlers : List (List Char) → Option (List Handler)
  | [] => some []
  | line :: awaiting :: rest => do return (← readHandler line awaiting) :: (← readHandlers rest)
  | [_] => none

def handlers (source : String) : Option (List Handler) :=
  readHandlers (linesWith [handlerStart, awaitStart] source)

def templated (s : List Char) : List Char :=
  match s with
  | [] => []
  | c :: rest =>
    if c = ':' then '\x7b' :: (rest.takeWhile isWordChar ++ '\x7d' :: templated (rest.dropWhile isWordChar))
    else c :: templated rest
termination_by s.length
decreasing_by
  · simpa using Nat.lt_succ_of_le (List.dropWhile_sublist isWordChar).length_le
  · simp

def join (mount : List Char) (h : Handler) : Endpoint where
  method := h.method
  path := String.ofList (if h.relative = ['/'] then mount else mount ++ templated h.relative)
  operationId := String.ofList h.operation

def controllerFolder : List Char := "src/controllers/".toList

def isController (path : String) : Bool := controllerFolder.isPrefixOf path.toList

def controllers (s : ArtifactSet) : List Artifact := s.artifacts.filter (isController ·.path)

def served (controllers : List Artifact) (mount : Mount) : Option (List Endpoint) :=
  (controllers.find? fun a => (exported a.content).contains mount.router).bind fun a =>
    (handlers a.content).map (·.map (join mount.path))

def ofAdapter (s : ArtifactSet) : Option (List Endpoint) := do
  let index ← (s.artifacts.find? (·.path == "src/index.ts")).map Artifact.content
  let mounts ← (linesWith [mountStart] index).mapM readMount
  (mounts.mapM (served (controllers s))).map List.flatten

end Surface

end ApiScaffold
