import ApiScaffold.Yaml.Scalar
import Mathlib.Data.List.SplitBy
import Mathlib.Tactic.Lemma

/-!
Scalars of printable characters can be read back without knowing at which columns they were folded: a line
break followed by the indent stands for a blank, and what ends a scalar does not occur inside it.
-/

namespace ApiScaffold.Yaml

def isPrintable (c : Char) : Bool := ' ' ≤ c && c ≤ '~'

def asIs (c : Char) : List Char := [c]

def inQuotes (c : Char) : List Char := if c = '\'' then ['\'', '\''] else [c]

inductive Folded (write : Char → List Char) (indent : Nat) : List Char → List Char → Prop
  | nil : Folded write indent [] []
  | keep (c : Char) {s t : List Char} : Folded write indent s t → Folded write indent (c :: s) (write c ++ t)
  | fold {s t : List Char} : Folded write indent s t → Folded write indent (' ' :: s) (newline indent ++ t)

variable {write : Char → List Char} {indent : Nat} {spot : Spot} {s t rest : List Char} {c : Char}

lemma Folded.append (run : List Char) (h : Folded write indent s t) :
    Folded write indent (run ++ s) (run.flatMap write ++ t) := by
  induction run with
  | nil => exact h
  | cons c run ih =>
    rw [List.flatMap_cons, List.append_assoc]
    exact .keep c ih

lemma flatMap_asIs (run : List Char) : run.flatMap asIs = run := List.flatMap_singleton' run

lemma eq_of_foldsAt {run : List Char} (h : foldsAt spot run) : spot.folds ∧ run = [' '] := by
  simp only [foldsAt, Bool.and_eq_true, beq_iff_eq] at h
  exact h.1

lemma folded_writePlain (runs : List (List Char)) (spot : Spot)
    (hindent : spot.folds → spot.indent = indent) :
    Folded asIs indent runs.flatten (writePlain spot runs) := by
  induction runs generalizing spot with
  | nil => exact .nil
  | cons run rest ih =>
    rw [writePlain, List.flatten_cons]
    split
    · rename_i hfolds
      obtain ⟨hspot, rfl⟩ := eq_of_foldsAt hfolds
      rw [hindent hspot]
      exact .fold (ih _ fun _ => rfl)
    · have hrun := (ih { spot with column := spot.column + run.length } hindent).append run
      rwa [flatMap_asIs] at hrun

lemma folded_writeSingle {runs : List (List Char)}
    (hbreak : ∀ run ∈ runs, run.any isBreak = false) (first : Bool)
    (spot : Spot) (hindent : spot.folds → spot.indent = indent) :
    Folded inQuotes indent runs.flatten (writeSingle first spot runs) := by
  induction runs generalizing first spot with
  | nil => exact .nil
  | cons run rest ih =>
    obtain ⟨hrun, hrest⟩ := List.forall_mem_cons.mp hbreak
    simp only [writeSingle, List.flatten_cons, hrun, Bool.false_eq_true, if_false]
    split
    · rename_i hfolds
      obtain ⟨hspot, rfl⟩ := eq_of_foldsAt hfolds.1
      rw [hindent hspot]
      exact .fold (ih hrest false _ fun _ => rfl)
    · exact
        (ih hrest false { spot with column := spot.column + (doubleQuotes run).length } hindent).append run

/--
What follows a scalar whose further lines have an indent: the end, a line with less of it, or the
mark of a key.
-/
inductive Stops (indent : Nat) : List Char → Prop
  | nil : Stops indent []
  | line {rest : List Char} : ¬ List.replicate indent ' ' <+: rest → Stops indent ('\n' :: rest)
  | key {rest : List Char} : (∀ c ∈ rest.head?, c = ' ' ∨ c = '\n') → Stops indent (':' :: rest)

def readPlain (indent : Nat) (s : List Char) : List Char × List Char :=
  match s with
  | [] => ([], [])
  | c :: rest =>
    if c = '\n' then
      if (List.replicate indent ' ').isPrefixOf rest then
        let (s, after) := readPlain indent (rest.drop indent)
        (' ' :: s, after)
      else ([], c :: rest)
    else if c = ':' ∧ rest.head?.all fun d => d = ' ' || d = '\n' then ([], c :: rest)
    else
      let (s, after) := readPlain indent rest
      (c :: s, after)
termination_by s.length
decreasing_by
  all_goals simp only [List.length_cons, List.length_drop]
  all_goals omega

def readSingle (indent : Nat) (s : List Char) : List Char × List Char :=
  match s with
  | [] => ([], [])
  | '\'' :: '\'' :: rest =>
    let (s, after) := readSingle indent rest
    ('\'' :: s, after)
  | '\'' :: rest => ([], rest)
  | c :: rest =>
    if c = '\n' then
      let (s, after) := readSingle indent (rest.drop indent)
      (' ' :: s, after)
    else
      let (s, after) := readSingle indent rest
      (c :: s, after)
termination_by s.length
decreasing_by
  all_goals simp only [List.length_cons, List.length_drop]
  all_goals omega

lemma readPlain_stop (h : Stops indent rest) : readPlain indent rest = ([], rest) := by
  cases h with
  | nil => rw [readPlain]
  | line hindent => rw [readPlain, if_pos rfl, if_neg (by rwa [List.isPrefixOf_iff_prefix])]
  | key hnext =>
    rw [readPlain, if_neg (by decide), if_pos ⟨rfl, by simpa [Option.all_eq_true] using hnext⟩]

lemma readPlain_fold (indent : Nat) (s : List Char) :
    readPlain indent (newline indent ++ s) = (' ' :: (readPlain indent s).1, (readPlain indent s).2) := by
  have hprefix : (List.replicate indent ' ').isPrefixOf (List.replicate indent ' ' ++ s) := by simp
  rw [newline, List.cons_append, readPlain, if_pos rfl, if_pos hprefix, List.drop_left' (by simp)]

lemma readSingle_fold (indent : Nat) (s : List Char) :
    readSingle indent (newline indent ++ s) = (' ' :: (readSingle indent s).1, (readSingle indent s).2) := by
  rw [newline, List.cons_append, readSingle, if_pos rfl, List.drop_left' (by simp)]
  · nofun
  · nofun

lemma containsIndicator_cons (h : containsIndicator (c :: s) = false) :
    containsIndicator s = false ∧ (c = ':' → endsAtBlank s = false) := by
  unfold containsIndicator at h
  split at h
  · cases h
  · rename_i hcons
    cases hcons
    rw [Bool.or_eq_false_iff] at h
    exact ⟨h.2, fun _ => h.1⟩
  · rename_i hcolon hcons
    cases hcons
    exact ⟨h, fun hc => (hcolon hc).elim⟩
  · rename_i hnil
    cases hnil

lemma Folded.exists_of_ne (h : Folded asIs indent (c :: s) t) (hc : c ≠ ' ') :
    ∃ u, t = c :: u ∧ Folded asIs indent s u := by
  cases h with
  | keep _ h => exact ⟨_, rfl, h⟩
  | fold => exact absurd rfl hc

lemma Folded.readPlain_eq (h : Folded asIs indent s t) (hbreak : '\n' ∉ s)
    (hplain : containsIndicator s = false)
    (hrest : Stops indent rest) : readPlain indent (t ++ rest) = (s, rest) := by
  induction h with
  | nil => exact readPlain_stop hrest
  | @keep c s t h ih =>
    obtain ⟨hne, hbreak⟩ := not_or.mp fun hmem => hbreak (List.mem_cons.mpr hmem)
    obtain ⟨hplain, hcolon⟩ := containsIndicator_cons hplain
    -- a colon inside is followed by a character of the scalar, which is no blank and so not folded
    have hgoes : ¬(c = ':' ∧ (t ++ rest).head?.all fun d => d = ' ' || d = '\n') := by
      rintro ⟨hc, hhead⟩
      have hblank := hcolon hc
      cases s with
      | nil => cases hblank
      | cons d s =>
        have hd : d ≠ ' ' := by simpa [endsAtBlank] using hblank
        obtain ⟨u, rfl, -⟩ := h.exists_of_ne hd
        have hd' : d ≠ '\n' := fun hd => hbreak (hd ▸ List.mem_cons_self)
        simp [hd, hd'] at hhead
    show readPlain indent (c :: (t ++ rest)) = _
    rw [readPlain, if_neg (Ne.symm hne), if_neg hgoes, ih hbreak hplain]
  | fold h ih =>
    obtain ⟨-, hbreak⟩ := not_or.mp fun hmem => hbreak (List.mem_cons.mpr hmem)
    rw [List.append_assoc, readPlain_fold, ih hbreak (containsIndicator_cons hplain).1]

lemma Folded.readSingle_eq (h : Folded inQuotes indent s t) (hbreak : '\n' ∉ s)
    (hrest : rest.head? ≠ some '\'') :
    readSingle indent (t ++ '\'' :: rest) = (s, rest) := by
  induction h with
  | nil =>
    rw [List.nil_append, readSingle]
    rintro more rfl
    exact hrest rfl
  | @keep c s t h ih =>
    obtain ⟨hne, hs⟩ := not_or.mp fun hmem => hbreak (List.mem_cons.mpr hmem)
    by_cases hquote : c = '\''
    · subst hquote
      show readSingle indent ('\'' :: '\'' :: (t ++ '\'' :: rest)) = _
      rw [readSingle, ih hs]
    · rw [inQuotes, if_neg hquote]
      show readSingle indent (c :: (t ++ '\'' :: rest)) = _
      rw [readSingle, if_neg (Ne.symm hne), ih hs]
      · rintro _ rfl
        exact absurd rfl hquote
      · rintro rfl
        exact absurd rfl hquote
  | fold h ih =>
    obtain ⟨-, hbreak⟩ := not_or.mp fun hmem => hbreak (List.mem_cons.mpr hmem)
    rw [List.append_assoc, readSingle_fold, ih hbreak]

structure Token where
  quoted : Bool
  content : List Char

/-- Content that stands without quotes and is taken for nothing but a scalar. -/
structure IsPlain (s : List Char) : Prop where
  line : '\n' ∉ s
  inside : containsIndicator s = false
  starts : ∃ c rest, s = c :: rest ∧ c ≠ ' ' ∧ c ≠ '\'' ∧ (c = '-' ∨ c = '?' → endsAtBlank rest = false)

namespace Token

variable {token : Token}

inductive Spells (indent : Nat) : Token → List Char → Prop
  | plain {s t : List Char} : IsPlain s → Folded asIs indent s t → Spells indent ⟨false, s⟩ t
  | single {s t : List Char} : '\n' ∉ s → Folded inQuotes indent s t →
    Spells indent ⟨true, s⟩ ('\'' :: (t ++ ['\'']))

def read (indent : Nat) (s : List Char) : Token × List Char :=
  if s.head? = some '\'' then
    let (content, after) := readSingle indent s.tail
    (⟨true, content⟩, after)
  else
    let (content, after) := readPlain indent s
    (⟨false, content⟩, after)

lemma Spells.head (h : token.Spells indent t) : ∃ c u, t = c :: u ∧ c ≠ ' ' ∧ (c = '\'' ↔ token.quoted) := by
  cases h with
  | plain hplain h =>
    obtain ⟨c, rest, rfl, hblank, hquote, -⟩ := hplain.starts
    obtain ⟨u, rfl, -⟩ := h.exists_of_ne hblank
    exact ⟨c, u, rfl, hblank, by simpa using hquote⟩
  | single => exact ⟨_, _, rfl, by decide, by simp⟩

lemma Spells.read_eq (h : token.Spells indent t) (hrest : Stops indent rest) :
    read indent (t ++ rest) = (token, rest) := by
  obtain ⟨c, u, hhead, -, hquote⟩ := h.head
  cases h with
  | plain hplain h =>
    have hread := h.readPlain_eq hplain.line hplain.inside hrest
    have hc : (t ++ rest).head? ≠ some '\'' := by simpa [hhead] using hquote
    rw [read, if_neg hc, hread]
  | @single s t hline h =>
    have hnext : rest.head? ≠ some '\'' := by cases hrest <;> simp
    have hread := h.readSingle_eq hline hnext
    have htail : ('\'' :: (t ++ ['\'']) ++ rest).tail = t ++ '\'' :: rest := by simp
    rw [read, if_pos (by rfl), htail, hread]

def Marked (s : List Char) : Prop := ∃ c rest, s = c :: ' ' :: rest ∧ (c = '-' ∨ c = '?')

lemma Spells.not_marked (h : token.Spells indent t) (rest : List Char) : ¬ Marked (t ++ rest) := by
  rintro ⟨c, more, hmarked, hc⟩
  cases h with
  | plain hplain h =>
    obtain ⟨d, s, rfl, hblank, -, hmark⟩ := hplain.starts
    obtain ⟨u, rfl, hrest⟩ := h.exists_of_ne hblank
    obtain ⟨rfl, hmore⟩ := List.cons.inj hmarked
    have hnext := hmark hc
    cases s with
    | nil => cases hnext
    | cons e s =>
      have he : e ≠ ' ' := by simpa [endsAtBlank] using hnext
      obtain ⟨v, rfl, -⟩ := hrest.exists_of_ne he
      exact he (List.cons.inj hmore).1
  | single =>
    obtain ⟨rfl, -⟩ := List.cons.inj hmarked
    revert hc
    decide

def ofString (s : List Char) : Token := ⟨style false s != .plain, s⟩

end Token

lemma isBreak_of_printable (h : isPrintable c) : isBreak c = false := by
  simp only [isPrintable, Bool.and_eq_true, decide_eq_true_eq, Char.le_def] at h
  simp only [isBreak, Bool.or_eq_false_iff, decide_eq_false_iff_not]
  refine ⟨⟨⟨?_, ?_⟩, ?_⟩, ?_⟩ <;> (rintro rfl; revert h; decide)

lemma isUnescaped_of_printable (h : isPrintable c) : isUnescaped c := by
  simp only [isPrintable, Bool.and_eq_true, decide_eq_true_eq] at h
  have hlow : ' '.toNat ≤ c.toNat := h.1
  have hhigh : c.toNat ≤ '~'.toNat := h.2
  simp only [isUnescaped, Bool.or_eq_true, Bool.and_eq_true, decide_eq_true_eq]
  exact .inl (.inl (.inr ⟨hlow, hhigh⟩))

lemma notMem_of_printable (h : ∀ c ∈ s, isPrintable c) : '\n' ∉ s := fun hmem => by
  have hline := h _ hmem
  revert hline
  decide

lemma breakMeetsBlank_of_printable (h : ∀ c ∈ s, isPrintable c) : breakMeetsBlank s = false := by
  induction s with
  | nil => rfl
  | cons c s ih =>
    obtain ⟨hc, hs⟩ := List.forall_mem_cons.mp h
    cases s with
    | nil => rfl
    | cons d s =>
      rw [breakMeetsBlank, ih hs, isBreak_of_printable hc, isBreak_of_printable (hs d List.mem_cons_self)]
      simp

lemma style_of_printable (h : ∀ c ∈ s, isPrintable c) (simpleKey : Bool) :
    style simpleKey s = if !isImplicit s && isPlainSafe s then .plain else .single := by
  have hall : s.all isUnescaped := List.all_eq_true.mpr fun c hc => isUnescaped_of_printable (h c hc)
  have hbreak : s.any isBreak = false := List.any_eq_false.mpr fun c hc => by
    simp [isBreak_of_printable (h c hc)]
  rw [style, isSingleSafe, hall, hbreak, breakMeetsBlank_of_printable h]
  simp

lemma isPlain_of_style (h : ∀ c ∈ s, isPrintable c) (himplicit : isImplicit s = false)
    (hsafe : isPlainSafe s) : IsPlain s := by
  simp only [isPlainSafe, Bool.and_eq_true, Bool.not_eq_true'] at hsafe
  obtain ⟨⟨⟨⟨-, hedge⟩, -⟩, hstart⟩, hinside⟩ := hsafe
  cases s with
  | nil => exact absurd himplicit (by decide)
  | cons c s =>
    simp only [startsWithIndicator, Bool.or_eq_false_iff, Bool.and_eq_false_iff] at hstart
    obtain ⟨-, hindicator, hmark⟩ := hstart
    refine ⟨notMem_of_printable h, hinside, c, s, rfl, ?_, ?_, fun hc => hmark.resolve_left ?_⟩
    · rintro rfl
      cases hedge
    · rintro rfl
      revert hindicator
      decide
    · rcases hc with rfl | rfl <;> decide

lemma spells_writeString (h : ∀ c ∈ s, isPrintable c) (simpleKey : Bool) (spot : Spot)
    (hindent : spot.folds → spot.indent = indent) :
    (Token.ofString s).Spells indent (writeString simpleKey spot s) := by
  have hruns : (runs s).flatten = s := List.flatten_splitBy _ s
  rw [Token.ofString, writeString, style_of_printable h, style_of_printable h]
  cases hstyle : !isImplicit s && isPlainSafe s with
  | true =>
    rw [Bool.and_eq_true, Bool.not_eq_true'] at hstyle
    have hfolded := folded_writePlain (runs s) spot hindent
    rw [hruns] at hfolded
    exact .plain (isPlain_of_style h hstyle.1 hstyle.2) hfolded
  | false =>
    have hbreak : ∀ run ∈ runs s, run.any isBreak = false :=
      fun run hrun => List.any_eq_false.mpr fun c hc => by
      simp [isBreak_of_printable (h c (hruns ▸ List.mem_flatten.mpr ⟨run, hrun, hc⟩))]
    have hfolded := folded_writeSingle hbreak true { spot with column := spot.column + 1 } hindent
    rw [hruns] at hfolded
    exact .single (notMem_of_printable h) hfolded

end ApiScaffold.Yaml
