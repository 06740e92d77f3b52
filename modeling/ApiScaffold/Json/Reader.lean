import ApiScaffold.Json.Token

/-!
Reading JSON: one step of a stack machine for each token. Of two equal keys in one object the later
value counts, at the place of the first.
-/

namespace ApiScaffold.Json

inductive Frame where
  | list (items : List Data)
  | map (entries : List (String × Data)) (key : String)

inductive State where
  | value (outer : List Frame)
  | firstItem (outer : List Frame)
  | key (first : Bool) (entries : List (String × Data)) (outer : List Frame)
  | colon (key : String) (entries : List (String × Data)) (outer : List Frame)
  | afterItem (items : List Data) (outer : List Frame)
  | afterEntry (entries : List (String × Data)) (outer : List Frame)
  | done (value : Data)

def complete (value : Data) : List Frame → State
  | [] => .done value
  | .list items :: outer => .afterItem (value :: items) outer
  | .map entries key :: outer => .afterEntry ((key, value) :: entries) outer

def closeMap (entries : List (String × Data)) (outer : List Frame) : State :=
  complete (.map (Assoc.ofList entries.reverse)) outer

def startValue (offset : Nat) (token : Token) (outer : List Frame) : Except Failure State :=
  match token with
  | .scalar value => .ok (complete value outer)
  | .openList => .ok (.firstItem outer)
  | .openMap => .ok (.key true [] outer)
  | .badString failure | .badScalar failure => .error failure
  | _ => .error ⟨.expectedValue, offset⟩

def step (state : State) : Nat × Token → Except Failure State
  | (offset, token) =>
    match state with
    | .value outer => startValue offset token outer
    | .firstItem outer =>
      match token with
      | .closeList => .ok (complete (.list []) outer)
      | _ => startValue offset token (.list [] :: outer)
    | .key first entries outer =>
      match token with
      | .scalar (.string key) => .ok (.colon key entries outer)
      | .badString failure => .error failure
      | .closeMap => if first then .ok (closeMap entries outer) else .error ⟨.expectedKey, offset⟩
      | _ => .error ⟨.expectedKey, offset⟩
    | .colon key entries outer =>
      match token with
      | .colon => .ok (.value (.map entries key :: outer))
      | _ => .error ⟨.expectedColon, offset⟩
    | .afterItem items outer =>
      match token with
      | .comma => .ok (.value (.list items :: outer))
      | .closeList => .ok (complete (.list items.reverse) outer)
      | _ => .error ⟨.expectedComma, offset⟩
    | .afterEntry entries outer =>
      match token with
      | .comma => .ok (.key false entries outer)
      | .closeMap => .ok (closeMap entries outer)
      | _ => .error ⟨.expectedComma, offset⟩
    | .done value =>
      match token with
      | .finish => .ok (.done value)
      | _ => .error ⟨.extraText, offset⟩

def run (state : State) : List (Nat × Token) → Except Failure State
  | [] => .ok state
  | token :: rest => do run (← step state token) rest

def parse (s : List Char) : Except Failure Data :=
  if s.head? = some '\ufeff' then .error ⟨.byteOrderMark, 0⟩
  else
    match run (.value []) (tokens 0 s) with
    | .ok (.done value) => .ok value
    | .ok _ => .error ⟨.expectedValue, s.length⟩
    | .error failure => .error failure

theorem run_append (state : State) (ts us : List (Nat × Token)) :
    run state (ts ++ us) = run state ts >>= fun next => run next us := by
  induction ts generalizing state with
  | nil => rfl
  | cons t ts ih =>
    simp only [List.cons_append, run]
    cases step state t with
    | error => rfl
    | ok next => exact ih next

def Fault.message : Fault → String
  | .expectedValue => "Expecting value"
  | .expectedKey => "Expecting property name enclosed in double quotes"
  | .expectedColon => "Expecting ':' delimiter"
  | .expectedComma => "Expecting ',' delimiter"
  | .extraText => "Extra data"
  | .unterminatedString => "Unterminated string starting at"
  | .controlCharacter => "Invalid control character at"
  | .invalidEscape => "Invalid \\escape"
  | .invalidUnicodeEscape => "Invalid \\uXXXX escape"
  | .byteOrderMark => "Unexpected UTF-8 BOM (decode using utf-8-sig)"
  | .tooManyDigits count => tooManyDigitsMessage count

def Failure.message (failure : Failure) (s : List Char) : String :=
  let before := s.take failure.offset
  let line := before.count '\n' + 1
  let column := (before.reverse.takeWhile (· != '\n')).length + 1
  failure.fault.message ++ ": line " ++ toString line ++ " column " ++ toString column
    ++ " (char " ++ toString failure.offset ++ ")"

end ApiScaffold.Json
