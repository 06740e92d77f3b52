/-!
Path templates such as `/users/{userId}`. A parameter is a non-empty run of characters between an
opening brace and the next closing one; any other brace stands for itself.
-/

namespace ApiScaffold.PathTemplate

inductive Piece where
  | literal (c : Char)
  | param (name : List Char)
  deriving DecidableEq

def name? (s : List Char) : Option (List Char × List Char) :=
  match s.takeWhile (· != '\x7d'), s.dropWhile (· != '\x7d') with
  | c :: name, _ :: rest => some (c :: name, rest)
  | _, _ => none

theorem name?_length {s name rest : List Char} (h : name? s = some (name, rest)) :
    rest.length < s.length := by
  have hlen := (List.dropWhile_sublist (l := s) (· != '\x7d')).length_le
  unfold name? at h
  split at h
  · rename_i hd
    rw [hd] at hlen
    simp at h
    rw [← h.2]
    simp at hlen
    omega
  · simp at h

def pieces (s : List Char) : List Piece :=
  match s with
  | [] => []
  | c :: tail =>
    if c = '\x7b' then
      match _h : name? tail with
      | some (name, rest) => .param name :: pieces rest
      | none => .literal c :: pieces tail
    else .literal c :: pieces tail
termination_by s.length
decreasing_by
  · have := name?_length _h; simp; omega
  · simp
  · simp

def params (s : String) : List String :=
  (pieces s.toList).filterMap fun
    | .param name => some (String.ofList name)
    | .literal _ => none

def Piece.inRouter : Piece → List Char
  | .literal c => [c]
  | .param name => ':' :: name

def inRouter (s : List Char) : List Char := (pieces s).flatMap Piece.inRouter

def below (mount path : String) : String :=
  let rest := path.toList.drop mount.length
  if rest.isEmpty then "/" else String.ofList (inRouter rest)

end ApiScaffold.PathTemplate
