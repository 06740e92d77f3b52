import ApiScaffold.Proofs.Numeric.Binary64
import ApiScaffold.Proofs.Package.Offline
import ApiScaffold.Proofs.Platform.Query

/-!
The page limit that an emitted adapter reads: the values of a query and their texts, the expressions
that the adapter consists of, with the text and the result of each, and the lines of the emitted
functions.
-/

namespace ApiScaffold.Script

open Pagination

/--
A parameter that is repeated has a list of values. Each whole number is a number of its own in
floating point.
-/
inductive Value where
  | null
  | string (s : String)
  | int (n : Int) (safe : n.natAbs ≤ 9007199254740992)
  | list (items : List Value)

abbrev Query := List (String × Value)

def param (name : String) (query : Query) : Value := (Assoc.get? name query).getD .null

mutual

def Value.text : Value → String
  | .null => ""
  | .string s => s
  | .int n _ => n.repr
  | .list items => ",".intercalate (itemTexts items)

def itemTexts : List Value → List String
  | [] => []
  | item :: rest => item.text :: itemTexts rest

end

def blankRanges : List (Nat × Nat) := [
  (9, 13), (32, 32), (160, 160), (5760, 5760), (8192, 8202), (8232, 8233), (8239, 8239),
  (8287, 8287), (12288, 12288), (65279, 65279)]

def isBlank (c : Char) : Bool := Text.inRanges blankRanges c.toNat

lemma apart_isBlank : Apart isBlank := apart_of_lt (by decide)

/-- The decimal integer that starts a text, rounded once. All of its digits count. -/
def parseInt (s : List Char) : Binary64 :=
  let t := s.dropWhile isBlank
  if digitsOf t = [] then .nan else .ofRatio (signOf t = ['-']) (digitsValue (digitsOf t)) 1

inductive Kind where
  | value
  | text
  | number

abbrev Kind.Carrier : Kind → Type
  | value => Value
  | text => String
  | number => Binary64

inductive Expr : Kind → Type where
  | param (name : String) : Expr .value
  | orEmpty (e : Expr .value) : Expr .value
  | text (e : Expr .value) : Expr .text
  | parseInt (e : Expr .text) : Expr .number
  | literal (n : Nat) : Expr .number
  | constant (name : String) : Expr .number
  | or (e f : Expr .number) : Expr .number
  | minimum (e f : Expr .number) : Expr .number

def Expr.source {k : Kind} : Expr k → String
  | param name => "query." ++ name
  | orEmpty e => e.source ++ " ?? ''"
  | text e => "String(" ++ e.source ++ ")"
  | parseInt e => "parseInt(" ++ e.source ++ ", 10)"
  | literal n => toString n
  | constant name => name
  | or e f => e.source ++ " || " ++ f.source
  | minimum e f => "Math.min(" ++ e.source ++ ", " ++ f.source ++ ")"

def Value.orEmpty : Value → Value
  | .null => .string ""
  | v => v

def Expr.eval (query : Query) (constants : List (String × Binary64)) {k : Kind} : Expr k → Option k.Carrier
  | param name => some (Script.param name query)
  | orEmpty e => return (← e.eval query constants).orEmpty
  | text e => return (← e.eval query constants).text
  | parseInt e => return Script.parseInt (← e.eval query constants).toList
  | literal n => some (.ofInt n)
  | constant name => Assoc.get? name constants
  | or e f => do
    let x ← e.eval query constants
    if x.falsy then f.eval query constants else return x
  | minimum e f => return .minimum (← e.eval query constants) (← f.eval query constants)

def limitConstant : Expr .number := .or (.parseInt (.text (.orEmpty (.param "limit")))) (.literal 20)

def limitField : Expr .number := .minimum (.constant "limit") (.literal 100)

def limit (query : Query) : Option Binary64 := do
  let x ← limitConstant.eval query []
  limitField.eval query [("limit", x)]

variable {s : List Char} {m : Int} {query : Query}

lemma text_orEmpty (v : Value) : v.orEmpty.text = v.text := by
  cases v <;> rfl

def orDefault (x : Binary64) : Binary64 := if x.falsy then .ofInt 20 else x

def bounded (x : Binary64) : Binary64 := .minimum (orDefault x) (.ofInt 100)

lemma limit_eq (query : Query) :
    limit query = some (bounded (parseInt (param "limit" query).text.toList)) := by
  have hconstant : limitConstant.eval query [] =
      some (orDefault (parseInt (param "limit" query).text.toList)) := by
    rw [← text_orEmpty, orDefault, apply_ite some]
    rfl
  rw [limit, hconstant]
  rfl

lemma parseInt_of_number (h : Number isBlank s m) :
    if m = 0 then (parseInt s).falsy else parseInt s = .ofInt m := by
  rw [number_iff apart_isBlank] at h
  rw [parseInt]
  generalize s.dropWhile isBlank = t at h
  subst h
  by_cases hnil : digitsOf t = []
  · have hzero : signed (signOf t) [] = 0 := by simp [signed, digitsValue]
    rw [hnil, if_pos hzero]
    rfl
  · rw [if_neg hnil, Binary64.ofInt, signed]
    generalize digitsValue (digitsOf t) = value
    cases value with
    -- Zero keeps its sign, but either zero is falsy.
    | zero => simp [Binary64.ofRatio, Binary64.falsy, Binary64.isZero]
    | succ n =>
      by_cases hminus : signOf t = ['-']
      · have hneg : -((n + 1 : Nat) : Int) < 0 := by omega
        rw [if_pos hminus, if_neg hneg.ne, decide_eq_true hminus, decide_eq_true hneg, Int.natAbs_neg,
          Int.natAbs_natCast]
      · have hpos : 0 < ((n + 1 : Nat) : Int) := by omega
        rw [if_neg hminus, if_neg hpos.ne', decide_eq_false hminus, decide_eq_false hpos.not_gt,
          Int.natAbs_natCast]

lemma toRat?_default : (Binary64.ofInt 20).toRat? = some 20 := Binary64.toRat?_ofInt_of_le (by decide)

lemma toRat?_greatest : (Binary64.ofInt 100).toRat? = some 100 := Binary64.toRat?_ofInt_of_le (by decide)

lemma toRat?_bounded_of_falsy {x : Binary64} (h : x.falsy) : (bounded x).toRat? = some 20 := by
  rw [bounded, orDefault, if_pos h, Binary64.toRat?_minimum toRat?_default toRat?_greatest]
  norm_num

lemma toRat?_bounded {x : Binary64} {a : Rat} (hx : x.toRat? = some a) (ha : a ≠ 0) :
    (bounded x).toRat? = some (min a 100) := by
  have hfalsy : ¬x.falsy := by simp [Binary64.falsy_of_toRat? hx ha]
  rw [bounded, orDefault, if_neg hfalsy, Binary64.toRat?_minimum hx toRat?_greatest]

lemma toRat?_bounded_infinite (negative : Bool) :
    (bounded (.infinite negative)).toRat? = if negative then none else some 100 := by
  have hfalsy : ¬(Binary64.infinite negative).falsy := by simp [Binary64.falsy, Binary64.isZero]
  rw [bounded, orDefault, if_neg hfalsy, Binary64.minimum_infinite negative toRat?_greatest]
  cases negative with
  | false => exact toRat?_greatest
  | true => rfl

lemma toRat?_bounded_of_number (h : Number isBlank s m) :
    (bounded (parseInt s)).toRat? = if m < 0 then (Binary64.ofInt m).toRat? else some (limitOf m : Rat) := by
  have hparse := parseInt_of_number h
  by_cases hzero : m = 0
  · subst hzero
    rw [if_pos rfl] at hparse
    exact toRat?_bounded_of_falsy hparse
  rw [if_neg hzero] at hparse
  rw [hparse]
  by_cases hneg : m < 0
  · rw [if_pos hneg]
    rcases Binary64.ofInt_of_neg hneg with hinf | ⟨a, ha, hx⟩
    · rw [hinf]
      exact toRat?_bounded_infinite true
    · rw [toRat?_bounded hx ha.ne, hx, min_eq_left (by linarith)]
  rw [if_neg hneg, limitOf, if_neg hzero]
  rcases le_total m (2 ^ 53) with hle | hge
  · have hexact := Binary64.toRat?_ofInt_of_le (n := m) (by omega)
    rw [toRat?_bounded hexact (Int.cast_ne_zero.mpr hzero)]
    push_cast
    rfl
  · -- Whatever a greater number is rounded to, the greatest limit takes its place.
    have hgreat : min m 100 = 100 := by omega
    rw [hgreat]
    rcases Binary64.ofInt_of_le hge with hinf | ⟨a, ha, hx⟩
    · rw [hinf]
      exact toRat?_bounded_infinite false
    · rw [toRat?_bounded hx (by linarith), min_eq_right (by linarith)]
      rfl

open AdapterPackage Template Text

def opening : PaginationStyle → String
  | .cursor =>
    "export function parseCursorPagination(query: Record<string, unknown>): CursorPaginationParams \x7b"
  | .offset =>
    "export function parseOffsetPagination(query: Record<string, unknown>): OffsetPaginationParams \x7b"

def startField : PaginationStyle → String
  | .cursor => "    cursor: typeof query.cursor === 'string' ? query.cursor : undefined,"
  | .offset => "    offset: parseInt(String(query.offset ?? ''), 10) || 0,"

def constantLine : String := "  const limit = " ++ limitConstant.source ++ ";"

def fieldLine : String := "    limit: " ++ limitField.source ++ ","

def body (style : PaginationStyle) : List (List Char) :=
  [constantLine, "  return \x7b", startField style, fieldLine, "  \x7d;"].map String.toList

def leadLength : PaginationStyle → Nat
  | .cursor => 16
  | .offset => 18

def constantNodes : List Node :=
  [.text "  const limit = parseInt(String(query.limit ?? ''), 10) || ", name "default_limit", .text ";\n"]

def fieldNodes : List Node := [.text "    limit: Math.min(limit, ", name "max_limit", .text "),\n"]

lemma paginationTemplate_eq (style : PaginationStyle) :
    let nodes := (paginationTemplate style).drop (leadLength style)
    paginationTemplate style = (paginationTemplate style).take (leadLength style) ++ (nodes.take 1 ++
      (constantNodes ++
        ((nodes.drop 4).take 2 ++ (fieldNodes ++ ((nodes.drop 9).take 2 ++ nodes.drop 11))))) := by
  cases style <;> rfl

lemma notMem_body (style : PaginationStyle) : "\x7d".toList ∉ body style := by
  cases style <;> decide

lemma exists_textLines_paginationTemplate (style : PaginationStyle) :
    (∃ before, textLines ((paginationTemplate style).take (leadLength style)) = some before ∧
      (opening style).toList ∉ before) ∧
    ∃ after, textLines (((paginationTemplate style).drop (leadLength style)).drop 11) = some after := by
  have hbefore : (textLines ((paginationTemplate style).take (leadLength style))).any
      fun ls => !ls.contains (opening style).toList := by
    cases style <;> decide +kernel
  have hafter : (textLines (((paginationTemplate style).drop (leadLength style)).drop 11)).isSome := by
    cases style <;> decide +kernel
  obtain ⟨before, hlines, hopening⟩ := (Option.any_eq_true ..).mp hbefore
  exact ⟨⟨before, hlines, by simpa using hopening⟩, Option.isSome_iff_exists.mp hafter⟩

variable {plan : Plan} {adapterId : String} {profile : Profile}

lemma reads_constantNodes :
    Reads some (.ofContext (context plan adapterId profile)) constantNodes [constantLine.toList] := by
  have hdefault : (var "default_limit").data (.ofContext (context plan adapterId profile)) = .ok (.int 20) :=
    rfl
  have hrender : renderNodes (.ofContext (context plan adapterId profile)) constantNodes =
      .ok (constantLine ++ "\n") := by
    simp [constantNodes, renderNodes, name, hdefault]
    rfl
  exact .line hrender (String.toList_append ..) (by decide) rfl

lemma reads_fieldNodes :
    Reads some (.ofContext (context plan adapterId profile)) fieldNodes [fieldLine.toList] := by
  have hgreatest : (var "max_limit").data (.ofContext (context plan adapterId profile)) = .ok (.int 100) :=
    rfl
  have hrender : renderNodes (.ofContext (context plan adapterId profile)) fieldNodes =
      .ok (fieldLine ++ "\n") := by
    simp [fieldNodes, renderNodes, name, hgreatest]
    rfl
  exact .line hrender (String.toList_append ..) (by decide) rfl

lemma reads_textNodes (scope : Scope) (style : PaginationStyle) :
    let nodes := (paginationTemplate style).drop (leadLength style)
    Reads some scope (nodes.take 1) [(opening style).toList] ∧
      Reads some scope ((nodes.drop 4).take 2) ["  return \x7b".toList, (startField style).toList] ∧
      Reads some scope ((nodes.drop 9).take 2) ["  \x7d;".toList, "\x7d".toList] := by
  -- The characters of a line are compared as they are written, never decoded from its bytes.
  have hline {body : List Char} : some body = some (String.ofList body).toList :=
    congrArg some String.toList_ofList.symm
  cases style with
  | cursor | offset =>
    exact ⟨.text rfl rfl hline .nil, .text rfl rfl hline (.text rfl rfl hline .nil),
      .text rfl rfl hline (.text rfl rfl hline .nil)⟩

lemma reads_paginationTemplate (style : PaginationStyle) : ∃ before after, (opening style).toList ∉ before ∧
    Reads some (.ofContext (context plan adapterId profile)) (paginationTemplate style)
      (before ++ ((opening style).toList :: (body style ++ "\x7d".toList :: after))) := by
  obtain ⟨⟨before, hbefore, hnotMem⟩, after, hafter⟩ := exists_textLines_paginationTemplate style
  obtain ⟨hopening, hstart, hend⟩ := reads_textNodes (.ofContext (context plan adapterId profile)) style
  refine ⟨before, after, hnotMem, ?_⟩
  rw [paginationTemplate_eq]
  exact .texts_append hbefore (.append (by cases style <;> rfl) hopening (.append rfl reads_constantNodes
    (.append (by cases style <;> rfl) hstart (.append rfl reads_fieldNodes
      (.append (by cases style <;> rfl) hend (.texts hafter))))))

lemma block_render (plan : Plan) (adapterId : String) (profile : Profile) : ∃ source,
    Template.render (paginationTemplate profile.pagination) (context plan adapterId profile) = .ok source ∧
      Offline.block (opening profile.pagination).toList "\x7d".toList source = body profile.pagination := by
  obtain ⟨before, after, hopening, ls, hrender, hls, hread⟩ := reads_paginationTemplate profile.pagination
  rw [List.filterMap_some] at hread
  have hlines := lines_ofList_unlines hls
  rw [hread] at hlines
  rw [hread] at hrender
  exact ⟨_, hrender, Offline.block_append hlines hopening (notMem_body _)⟩

end ApiScaffold.Script
