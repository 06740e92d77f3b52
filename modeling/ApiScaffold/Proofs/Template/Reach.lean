import ApiScaffold.Proofs.Numeric.Digits
import ApiScaffold.Proofs.Template.Shape
import ApiScaffold.Proofs.Text.Lines
import ApiScaffold.Proofs.Text.Trim

/-!
What is known of a line while a template renders it, and from that, whether one of some given texts
stands in front of it.
-/

namespace ApiScaffold.Template

open Chain Text

/--
A line that has begun, also with a text and word characters behind it, or one that none of the texts
starts.
-/
inductive Reach where
  | begun (text : List Char)
  | word (text : List Char)
  | passed
  | hit
  deriving DecidableEq

variable (starts : List (List Char))

def leaves (p : List Char) (c : Char) (start : List Char) : Bool :=
  clash p start || (p.isPrefixOf start && match (start.drop p.length).dropWhile isWordChar with
    | x :: _ => x ≠ c
    | [] => false)

namespace Reach

def settled : Reach → Bool
  | begun [] | passed => true
  | _ => false

def Describes : Reach → List Char → Prop
  | begun p, line => line = p ∧ startsWithOne starts p = false
  | word p, line => ∃ w, isWord w ∧ line = p ++ w ∧ startsWithOne starts p = false
  | passed, line => ∀ start ∈ starts, clash line start
  | hit, line => startsWithOne starts line

def feed : Reach → List Char → Option Reach
  | begun p, s =>
    if startsWithOne starts (p ++ s) then some hit
    else if starts.all (clash (p ++ s)) then some passed
    else some (begun (p ++ s))
  | word p, s =>
    match s.dropWhile isWordChar with
    | [] => some (word p)
    | c :: _ => if starts.all (leaves p c) then some passed else none
  | r, _ => some r

def print : Reach → Shape → Option Reach
  | begun p, .word | word p, .word => some (word p)
  | passed, .word | passed, .line | passed, .number => some passed
  | hit, .word | hit, .line | hit, .number => some hit
  | _, _ => none

def finish : Reach → Option Bool
  | begun _ | passed => some false
  | word p =>
    if starts.all fun start =>
      clash p start || (p.isPrefixOf start && !isWord (start.drop p.length)) then some false
    else none
  | hit => some true

end Reach

variable {starts}

lemma clash_of_word_end {w u : List Char} {c x : Char} (hw : isWord w) (hu : isWord u)
    (hc : isWordChar c = false)
    (hx : isWordChar x = false) (hne : c ≠ x) (s t : List Char) : clash (w ++ c :: s) (u ++ x :: t) := by
  induction w generalizing u with
  | nil =>
    cases u with
    | nil => simp [clash, hne]
    | cons d u =>
      have hd : isWordChar d = true := (Bool.and_eq_true_iff.mp hu).1
      have : c ≠ d := by rintro rfl; rw [hc] at hd; cases hd
      simp [clash, this]
  | cons a w ih =>
    obtain ⟨ha, hw⟩ := Bool.and_eq_true_iff.mp hw
    cases u with
    | nil =>
      have : a ≠ x := by rintro rfl; rw [hx] at ha; cases ha
      simp [clash, this]
    | cons d u =>
      obtain ⟨-, hu⟩ := Bool.and_eq_true_iff.mp hu
      simp only [List.cons_append, clash]
      split
      · exact ih hw hu
      · rfl

lemma leaves_clash {p w more start : List Char} {c : Char} (hw : isWord w) (hc : isWordChar c = false)
    (h : leaves p c start) : clash (p ++ w ++ c :: more) start := by
  simp only [leaves, Bool.or_eq_true, Bool.and_eq_true] at h
  rcases h with h | ⟨hp, h⟩
  · simpa using clash_append h (w ++ c :: more) []
  · obtain ⟨q, rfl⟩ := List.isPrefixOf_iff_prefix.mp hp
    rw [List.drop_left] at h
    split at h
    · rename_i x tail hx
      have hq : q = q.takeWhile isWordChar ++ x :: tail := by rw [← hx, List.takeWhile_append_dropWhile]
      have hword : isWord (q.takeWhile isWordChar) := List.all_takeWhile
      have hnot : isWordChar x = false := head?_dropWhile isWordChar q x (by simp [hx])
      rw [hq, List.append_assoc, clash_append_append]
      exact clash_of_word_end hw hword hc hnot (by simpa using Ne.symm (by simpa using h)) more tail
    · simp at h

namespace Reach

lemma describes_feed_begun {next : Reach} {p s : List Char} (h : (begun p).feed starts s = some next) :
    next.Describes starts (p ++ s) := by
  simp only [feed] at h
  split at h
  · rename_i hs
    cases h
    exact hs
  rename_i hs
  split at h
  · rename_i hc
    cases h
    exact fun start hstart => List.all_eq_true.mp hc start hstart
  · cases h
    exact ⟨rfl, by simpa using hs⟩

lemma describes_feed_word {next : Reach} {p w s : List Char} (hw : isWord w)
    (hp : startsWithOne starts p = false)
    (h : (word p).feed starts s = some next) : next.Describes starts (p ++ w ++ s) := by
  have hs : s.takeWhile isWordChar ++ s.dropWhile isWordChar = s := List.takeWhile_append_dropWhile
  have hlonger : isWord (w ++ s.takeWhile isWordChar) := by
    rw [isWord_append, hw]
    exact List.all_takeWhile
  simp only [feed] at h
  split at h
  · -- the line still ends in the word
    rename_i hnil
    cases h
    rw [hnil, List.append_nil] at hs
    rw [hs] at hlonger
    exact ⟨w ++ s, hlonger, List.append_assoc p w s, hp⟩
  · -- the word has ended, and no text goes on as the line does
    rename_i c more hmore
    simp only [Option.ite_none_right_eq_some, Option.some.injEq] at h
    obtain ⟨hall, rfl⟩ := h
    have hc : isWordChar c = false := head?_dropWhile isWordChar s c (by simp [hmore])
    intro start hstart
    rw [← hs, hmore, List.append_assoc, ← List.append_assoc w]
    simpa using leaves_clash hlonger hc (List.all_eq_true.mp hall start hstart)

lemma describes_feed {r next : Reach} {line s : List Char} (h : r.feed starts s = some next)
    (hr : r.Describes starts line) : next.Describes starts (line ++ s) := by
  cases r with
  | begun p =>
    obtain ⟨rfl, -⟩ := hr
    exact describes_feed_begun h
  | word p =>
    obtain ⟨w, hw, rfl, hp⟩ := hr
    exact describes_feed_word hw hp h
  | passed =>
    cases h
    intro start hstart
    simpa using clash_append (hr start hstart) s []
  | hit =>
    cases h
    obtain ⟨start, hstart, hprefix⟩ := List.any_eq_true.mp hr
    refine List.any_eq_true.mpr ⟨start, hstart, ?_⟩
    rw [List.isPrefixOf_iff_prefix] at hprefix ⊢
    exact hprefix.trans (List.prefix_append line s)

lemma feed_passed {next : Reach} {s : List Char} (h : passed.feed starts s = some next) : next = passed :=
  (Option.some.inj h).symm

lemma print_eq_self {r next : Reach} {shape : Shape} (hr : r = .passed ∨ r = .hit)
    (h : r.print shape = some next) :
    next = r := by
  rcases hr with rfl | rfl <;> cases shape with
  | word | line | number => exact (Option.some.inj h).symm
  | _ => simp [print] at h

lemma notMem_of_print {r next : Reach} {shape : Shape} {v : Data} (h : r.print shape = some next)
    (hv : Fits shape v) :
    '\n' ∉ v.display.toList := by
  cases hv with
  | word hs => exact notMem_of_isWord (by decide) hs
  | line hs => exact hs
  | number n => exact notMem_repr (by decide) (by decide) n
  | _ => cases r <;> simp [print] at h

lemma describes_print {r next : Reach} {line : List Char} {shape : Shape} {v : Data}
    (h : r.print shape = some next) (hv : Fits shape v) (hr : r.Describes starts line) :
    next.Describes starts (line ++ v.display.toList) := by
  cases r with
  | begun p =>
    cases hv with
    | @word s hs =>
      cases h
      obtain ⟨rfl, hp⟩ := hr
      exact ⟨s.toList, hs, rfl, hp⟩
    | _ => simp [print] at h
  | word p =>
    cases hv with
    | @word s hs =>
      cases h
      obtain ⟨w, hw, rfl, hp⟩ := hr
      have hlonger : isWord (w ++ s.toList) := by rw [isWord_append, hw, hs, Bool.and_self]
      exact ⟨w ++ s.toList, hlonger, List.append_assoc p w s.toList, hp⟩
    | _ => simp [print] at h
  | passed =>
    obtain rfl := print_eq_self (.inl rfl) h
    exact describes_feed (r := .passed) rfl hr
  | hit =>
    obtain rfl := print_eq_self (.inr rfl) h
    exact describes_feed (r := .hit) rfl hr

lemma finish_eq {r : Reach} {line : List Char} {keep : Bool} (h : r.finish starts = some keep)
    (hr : r.Describes starts line) : startsWithOne starts line = keep := by
  cases r with
  | begun p =>
    cases h
    rw [hr.1]
    exact hr.2
  | word p =>
    obtain ⟨w, hw, rfl, -⟩ := hr
    simp only [finish, Option.ite_none_right_eq_some, Option.some.injEq] at h
    obtain ⟨hall, rfl⟩ := h
    refine List.any_eq_false.mpr fun start hstart hprefix => ?_
    rw [List.isPrefixOf_iff_prefix] at hprefix
    have := List.all_eq_true.mp hall start hstart
    simp only [Bool.or_eq_true, Bool.and_eq_true, Bool.not_eq_true'] at this
    rcases this with hc | ⟨hp, hq⟩
    · exact not_prefix_of_clash (by simpa using clash_append hc w []) hprefix
    · obtain ⟨q, rfl⟩ := List.isPrefixOf_iff_prefix.mp hp
      rw [List.drop_left] at hq
      obtain ⟨u, rfl⟩ := (List.prefix_append_right_inj p).mp hprefix
      rw [isWord_append, hq, Bool.false_and] at hw
      exact Bool.false_ne_true hw
  | passed =>
    cases h
    refine List.any_eq_false.mpr fun start hstart hprefix => ?_
    exact not_prefix_of_clash (hr start hstart) (List.isPrefixOf_iff_prefix.mp hprefix)
  | hit =>
    cases h
    exact hr

end Reach

end ApiScaffold.Template
