import ApiScaffold.Console.Style

/-!
Markup in console text: tags in brackets, which have to be closed in any order or not at all, and
names of pictographs between colons. A backslash keeps a tag as text.
-/

namespace ApiScaffold.Console

inductive MarkupFault where
  | noOpenTag (tag : String) (offset : Nat)
  | nothingToClose (offset : Nat)
  | handler (detail : String)
  | number (fault : NumberFault)

def MarkupFault.message : MarkupFault → String
  | .noOpenTag tag offset =>
    "closing tag '" ++ tag ++ "' at position " ++ toString offset ++ " doesn't match any open tag"
  | .nothingToClose offset => "closing tag '[/]' at position " ++ toString offset ++ " has nothing to close"
  | .handler detail => detail
  | .number fault => fault.message

inductive Piece where
  | text (s : List Char)
  | tag (name : List Char) (offset : Nat)

def startsTag (c : Char) : Bool := ('a' ≤ c && c ≤ 'z') || c = '#' || c = '/' || c = '@'

def tagInside? (s : List Char) : Option (List Char) :=
  let inside := s.takeWhile fun c => c != '[' && c != ']'
  if inside.head?.any startsTag ∧ (s.drop inside.length).head? = some ']' then some inside else none

def gathered (reversed : List Char) : List Piece :=
  if reversed.isEmpty then [] else [.text reversed.reverse]

/--
The pieces of a text whose first character stands at `offset`. `plain` is the text since the last tag
and `slashes` the number of backslashes after it, which count only before a tag.
-/
def piecesFrom (offset : Nat) (plain : List Char) (slashes : Nat) (s : List Char) : List Piece :=
  match s with
  | [] => gathered (List.replicate slashes '\\' ++ plain)
  | c :: rest =>
    if c = '\\' then piecesFrom (offset + 1) plain (slashes + 1) rest
    else
      match if c = '[' then tagInside? rest else none with
      | some inside =>
        let after := rest.drop (inside.length + 1)
        let next := offset + inside.length + 2
        let kept := gathered plain ++ gathered (List.replicate (slashes / 2) '\\')
        if slashes % 2 = 1 then
          kept ++ .text ('[' :: inside ++ [']']) :: piecesFrom next [] 0 after
        else
          kept ++ .tag inside (offset - slashes + slashes / 2 * 2) :: piecesFrom next [] 0 after
      | none => piecesFrom (offset + 1) (c :: (List.replicate slashes '\\' ++ plain)) 0 rest
termination_by s.length
decreasing_by
  all_goals simp only [List.length_cons, List.length_drop]
  all_goals omega

def unescape : List Char → List Char
  | '\\' :: '[' :: rest => '[' :: unescape rest
  | c :: rest => c :: unescape rest
  | [] => []

def pictographs : List (String × Char) := [("smile", '😄')]

def variants : List (String × List Char) := [("-emoji", ['\ufe0f']), ("-text", ['\ufe0e'])]

def pictograph? (name : List Char) : Option (List Char) :=
  let (stem, variant) :=
    match variants.find? fun (ending, _) => ending.toList.isSuffixOf name with
    | some (ending, variant) => (name.take (name.length - ending.length), variant)
    | none => (name, [])
  (pictographs.find? fun (n, _) => n == Style.lowercase stem).map fun (_, c) => c :: variant

def replacePictographs (s : List Char) : List Char :=
  match s with
  | [] => []
  | c :: rest =>
    if c = ':' then
      let name := rest.takeWhile fun d => d != ':' && !Text.isBlank d
      if (rest.drop name.length).head? = some ':' then
        (pictograph? name).getD (':' :: name ++ [':']) ++ replacePictographs (rest.drop (name.length + 1))
      else c :: replacePictographs rest
    else c :: replacePictographs rest
termination_by s.length
decreasing_by
  all_goals simp only [List.length_cons, List.length_drop]
  all_goals omega

def tagName (inside : List Char) : List Char := inside.takeWhile (· != '=')

def tagParameters (inside : List Char) : List Char := inside.drop ((tagName inside).length + 1)

def tagStyle (name : String) (inside : List Char) : List Char :=
  if inside.contains '=' then name.toList ++ ' ' :: tagParameters inside else name.toList

/--
What a console does with the parameters of handlers and with the styles that it paints in some
columns. Which of the styles are painted depends on how the text is laid out.
-/
class Painter where
  handlerFault? : List Char → Option String
  styleFault? : Nat → String → Option NumberFault

structure Opened where
  style : String
  parameters : List Char
  deriving DecidableEq

section

variable [Painter]

def Opened.close (tag : Opened) : Except MarkupFault Unit :=
  if tag.style.toList.head? = some '@' ∧ tag.parameters ≠ [] then
    match Painter.handlerFault? tag.parameters with
    | some detail => .error (.handler detail)
    | none => .ok ()
  else .ok ()

def closeStyle (opened : List Opened) (style : String) (missing : MarkupFault) :
    Except MarkupFault (List Opened) :=
  match opened.find? (·.style = style) with
  | some tag => do
    tag.close
    return opened.eraseP (·.style = style)
  | none => .error missing

def applyTag (opened : List Opened) (inside : List Char) (offset : Nat) : Except MarkupFault (List Opened) :=
  match tagName inside with
  | '/' :: closed =>
    if Text.strip closed = [] then
      match opened with
      | tag :: outer => do
        tag.close
        return outer
      | [] => .error (.nothingToClose offset)
    else do
      let style ← (Style.normalize (Text.strip closed)).mapError .number
      closeStyle opened style (.noOpenTag ("[" ++ String.ofList inside ++ "]") offset)
  | name => do
    let style ← (Style.normalize name).mapError .number
    return ⟨style, tagParameters inside⟩ :: opened

def renderPieces (opened : List Opened) : List Piece → Except MarkupFault (List Char)
  | [] => .ok []
  | .text s :: rest => do return replacePictographs (unescape s) ++ (← renderPieces opened rest)
  | .tag inside offset :: rest => do renderPieces (← applyTag opened inside offset) rest

def isDropped (c : Char) : Bool := c.toNat = 7 || c.toNat = 8 || (11 ≤ c.toNat && c.toNat ≤ 13)

def plainText (markup : String) : Except MarkupFault (List Char) := do
  let s := markup.toList
  let text ← if s.contains '[' then renderPieces [] (piecesFrom 0 [] 0 s) else .ok (replacePictographs s)
  return text.filter (!isDropped ·)

def paintedText (columns : Nat) (markup : String) : Except MarkupFault (List Char) := do
  let text ← plainText markup
  match Painter.styleFault? columns markup with
  | some fault => .error (.number fault)
  | none => return text

end

end ApiScaffold.Console
