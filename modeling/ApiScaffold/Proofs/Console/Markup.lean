import ApiScaffold.Console.Message
import ApiScaffold.Proofs.Except

/-!
Which marked up texts can be shown. For that a text is the list of its tags: it cannot be shown exactly if one
of them closes a style that is not open.
-/

namespace ApiScaffold.Console

open Chain

def tagsFrom (escaped : Bool) : List Char → List (List Char)
  | [] => []
  | c :: rest =>
    if c = '\\' then tagsFrom (!escaped) rest
    else (if c = '[' ∧ !escaped then (tagInside? rest).toList else []) ++ tagsFrom false rest

def tags (text : String) : List (List Char) := tagsFrom false text.toList

def escapesNext (escaped : Bool) : List Char → Bool
  | [] => escaped
  | c :: rest => escapesNext (c = '\\' && !escaped) rest

variable {inside s rest style text : List Char} {escaped : Bool}

lemma exists_of_tagInside? (h : tagInside? s = some inside) :
    s = inside ++ ']' :: s.drop (inside.length + 1) ∧ ∀ c ∈ inside, c ≠ '[' ∧ c ≠ ']' := by
  rw [tagInside?] at h
  split at h
  · rename_i hclosed
    cases h
    have hsplit := List.prefix_iff_eq_append.mp (s.takeWhile_prefix fun c => c != '[' && c != ']')
    refine ⟨?_, fun c hc => by simpa using List.all_eq_true.mp (List.all_takeWhile) c hc⟩
    rw [← List.drop_drop]
    cases hdrop : s.drop (s.takeWhile fun c => c != '[' && c != ']').length with
    | nil => simp [hdrop] at hclosed
    | cons c after =>
      rw [hdrop] at hclosed hsplit
      obtain rfl : c = ']' := by simpa using hclosed.2
      exact hsplit.symm
  · cases h

lemma tagInside?_append (hinside : ∀ c ∈ inside, c ≠ '[' ∧ c ≠ ']') (hstarts : inside.head?.any startsTag)
    (rest : List Char) : tagInside? (inside ++ ']' :: rest) = some inside := by
  have htake : (inside ++ ']' :: rest).takeWhile (fun c => c != '[' && c != ']') = inside := by
    rw [List.takeWhile_append_of_pos]
    · simp
    · intro c hc
      simpa using hinside c hc
  simp only [tagInside?, htake, List.drop_left, List.head?_cons, hstarts, true_and, if_true]

lemma tagInside?_append_open (s rest : List Char) : tagInside? (s ++ '[' :: rest) = tagInside? s := by
  have htake : (s ++ '[' :: rest).takeWhile (fun c => c != '[' && c != ']') =
      s.takeWhile (fun c => c != '[' && c != ']') := by
    rw [List.takeWhile_append]
    split
    · rename_i hlength
      rw [(s.takeWhile_prefix _).eq_of_length hlength]
      simp
    · rfl
  have hlength := (s.takeWhile_prefix fun c => c != '[' && c != ']').length_le
  simp only [tagInside?, htake, List.drop_append_of_le_length hlength]
  cases s.drop (s.takeWhile fun c => c != '[' && c != ']').length with
  | nil => simp
  | cons c after => rfl

lemma tagsFrom_slash (escaped : Bool) (rest : List Char) :
    tagsFrom escaped ('\\' :: rest) = tagsFrom (!escaped) rest := by
  rw [tagsFrom, if_pos rfl]

lemma tagsFrom_open (rest : List Char) :
    tagsFrom false ('[' :: rest) = (tagInside? rest).toList ++ tagsFrom false rest := rfl

lemma tagsFrom_of_ne {c : Char} (hslash : c ≠ '\\') (h : ¬(c = '[' ∧ !escaped)) (rest : List Char) :
    tagsFrom escaped (c :: rest) = tagsFrom false rest := by
  rw [tagsFrom, if_neg hslash, if_neg h, List.nil_append]

lemma tagsFrom_inside (hinside : ∀ c ∈ inside, c ≠ '[' ∧ c ≠ ']') (escaped : Bool) (rest : List Char) :
    tagsFrom escaped (inside ++ ']' :: rest) = tagsFrom false rest := by
  induction inside generalizing escaped with
  | nil => exact tagsFrom_of_ne (by decide) (by simp) rest
  | cons c inside ih =>
    obtain ⟨hc, hinside⟩ := List.forall_mem_cons.mp hinside
    rw [List.cons_append]
    by_cases hslash : c = '\\'
    · rw [hslash, tagsFrom_slash, ih hinside]
    · rw [tagsFrom_of_ne hslash (fun h => hc.1 h.1), ih hinside]

lemma tagsFrom_append_open (escaped : Bool) (s rest : List Char) :
    tagsFrom escaped (s ++ '[' :: rest) = tagsFrom escaped s ++
      tagsFrom (escapesNext escaped s) ('[' :: rest) := by
  induction s generalizing escaped with
  | nil => rfl
  | cons c s ih =>
    rw [List.cons_append, escapesNext]
    by_cases hslash : c = '\\'
    · rw [hslash, tagsFrom_slash, tagsFrom_slash, ih, decide_eq_true rfl, Bool.true_and]
    · rw [tagsFrom, tagsFrom, if_neg hslash, if_neg hslash, tagInside?_append_open, ih,
        decide_eq_false hslash, Bool.false_and, List.append_assoc]

lemma tagsFrom_of_notMem (h : '[' ∉ s) (escaped : Bool) : tagsFrom escaped s = [] := by
  induction s generalizing escaped with
  | nil => rfl
  | cons c s ih =>
    obtain ⟨hc, hs⟩ := not_or.mp fun hmem => h (List.mem_cons.mpr hmem)
    by_cases hslash : c = '\\'
    · rw [hslash, tagsFrom_slash, ih hs]
    · rw [tagsFrom_of_ne hslash (fun h => hc h.1.symm), ih hs]

def Piece.tag? : Piece → Option (List Char)
  | .text _ => none
  | .tag inside _ => some inside

lemma filterMap_gathered (reversed : List Char) : (gathered reversed).filterMap Piece.tag? = [] := by
  rw [gathered]
  split <;> rfl

lemma filterMap_gathered_append (reversed others : List Char) (rest : List Piece) :
    (gathered reversed ++ gathered others ++ rest).filterMap Piece.tag? = rest.filterMap Piece.tag? := by
  rw [List.filterMap_append, List.filterMap_append, filterMap_gathered, filterMap_gathered, List.append_nil,
    List.nil_append]

lemma tagsFrom_tag (htag : tagInside? rest = some inside) (escaped : Bool) :
    tagsFrom escaped ('[' :: rest) = (if escaped then [] else [inside]) ++
      tagsFrom false (rest.drop (inside.length + 1)) := by
  obtain ⟨hrest, hinside⟩ := exists_of_tagInside? htag
  have hafter : tagsFrom false rest = tagsFrom false (rest.drop (inside.length + 1)) :=
    (congrArg (tagsFrom false) hrest).trans (tagsFrom_inside hinside false _)
  cases escaped with
  | false => rw [tagsFrom_open, htag, hafter]; rfl
  | true => rw [tagsFrom_of_ne (by decide) (by simp), hafter]; rfl

lemma filterMap_piecesFrom (offset : Nat) (plain : List Char) (slashes : Nat) (s : List Char) :
    (piecesFrom offset plain slashes s).filterMap Piece.tag? = tagsFrom (slashes % 2 = 1) s := by
  -- `slashes` counts the backslashes since the last other character; `tagsFrom` keeps only its parity
  induction offset, plain, slashes, s using piecesFrom.induct with
  | case1 offset plain slashes => rw [piecesFrom, filterMap_gathered, tagsFrom]
  | case2 offset plain slashes rest ih =>
    rw [piecesFrom, if_pos rfl, ih, tagsFrom_slash]
    congr 1
    rw [← decide_not, decide_eq_decide]
    omega
  | case3 offset plain slashes c rest hslash inside hinside after next hodd ih =>
    obtain ⟨rfl, htag⟩ := Option.ite_none_right_eq_some.mp hinside
    rw [piecesFrom, if_neg hslash, if_pos rfl, htag, tagsFrom_tag htag]
    simp only [filterMap_gathered_append, List.filterMap_cons, Piece.tag?, hodd, decide_true, if_true]
    exact ih
  | case4 offset plain slashes c rest hslash inside hinside after next hodd ih =>
    obtain ⟨rfl, htag⟩ := Option.ite_none_right_eq_some.mp hinside
    rw [piecesFrom, if_neg hslash, if_pos rfl, htag, tagsFrom_tag htag]
    simp only [filterMap_gathered_append, List.filterMap_cons, Piece.tag?, hodd, decide_false, if_false]
    exact congrArg (inside :: ·) ih
  | case5 offset plain slashes c rest hslash hnone ih =>
    rw [piecesFrom, if_neg hslash]
    rw [dite_eq_ite] at hnone
    rw [hnone, tagsFrom, if_neg hslash]
    have htags : (if c = '[' ∧ !decide (slashes % 2 = 1) then (tagInside? rest).toList else []) = [] := by
      split
      · rename_i hopen
        rw [if_pos hopen.1] at hnone
        rw [hnone, Option.toList_none]
      · rfl
    rw [htags]
    exact ih

section

variable [Painter] {opened : List Opened}

def HasPlainText (markup : String) : Prop := ∃ plain, plainText markup = .ok plain

def openAfter (opened : List Opened) (tags : List (List Char)) : Option (List Opened) :=
  tags.foldlM (fun opened inside => (applyTag opened inside 0).toOption) opened

lemma renderPieces_text (s : List Char) (pieces : List Piece) :
    (∃ plain, renderPieces opened (.text s :: pieces) = .ok plain) ↔
    ∃ plain, renderPieces opened pieces = .ok plain := by
  rw [renderPieces]
  cases renderPieces opened pieces <;> simp [bind, Except.bind, pure, Except.pure]

lemma closeStyle_toOption (opened : List Opened) (style : String) (missing missing' : MarkupFault) :
    (closeStyle opened style missing).toOption = (closeStyle opened style missing').toOption := by
  unfold closeStyle
  split <;> rfl

lemma applyTag_toOption (opened : List Opened) (inside : List Char) (offset : Nat) :
    (applyTag opened inside offset).toOption = (applyTag opened inside 0).toOption := by
  unfold applyTag
  split
  · split
    · split <;> rfl
    · cases (Style.normalize (Text.strip _)).mapError MarkupFault.number with
      | error fault => rfl
      | ok style => exact closeStyle_toOption opened style _ _
  · rfl

lemma exists_renderPieces_iff (opened : List Opened) (pieces : List Piece) :
    (∃ plain, renderPieces opened pieces = .ok plain) ↔
    (openAfter opened (pieces.filterMap Piece.tag?)).isSome := by
  induction pieces generalizing opened with
  | nil => simp [renderPieces, openAfter]
  | cons piece pieces ih =>
    cases piece with
    | text s => rw [renderPieces_text, ih, List.filterMap_cons_none rfl]
    | tag inside offset =>
      have happly := applyTag_toOption opened inside offset
      rw [renderPieces, List.filterMap_cons, Piece.tag?, openAfter, List.foldlM_cons, ← happly]
      cases applyTag opened inside offset with
      | error fault => simp [bind, Except.bind, Except.toOption]
      | ok opened => exact ih opened

theorem hasPlainText_iff (markup : String) : HasPlainText markup ↔ (openAfter [] (tags markup)).isSome := by
  have hfilter (result : Except MarkupFault (List Char)) :
      (∃ plain, (result >>= fun text => pure (text.filter (!isDropped ·))) = .ok plain) ↔
      ∃ plain, result = .ok plain := by
    cases result <;> simp [bind, Except.bind, pure, Except.pure]
  simp only [HasPlainText, plainText, tags]
  split
  · rw [hfilter, exists_renderPieces_iff, filterMap_piecesFrom]
    rfl
  · rename_i hbare
    rw [hfilter, tagsFrom_of_notMem (by simpa using hbare)]
    simp [openAfter]

lemma exists_paintedText_iff (columns : Nat) (markup : String) :
    (∃ text, paintedText columns markup = .ok text) ↔
      HasPlainText markup ∧ Painter.styleFault? columns markup = none := by
  rw [HasPlainText, paintedText]
  cases plainText markup with
  | error fault => simp
  | ok text => cases Painter.styleFault? columns markup <;> simp

end

/-- The name of a style in its normal form: its tags are told from the text around them. -/
structure IsStyle (style : List Char) : Prop where
  inside : ∀ c ∈ style, c ≠ '[' ∧ c ≠ ']' ∧ c ≠ '='
  starts : style.head?.any startsTag
  opens : style.head? ≠ some '/' ∧ style.head? ≠ some '@'
  stripped : Text.strip style = style
  normal : (Style.normalize style).toOption = some (String.ofList style)

instance (style : List Char) : Decidable (IsStyle style) :=
  -- decided along the text, not over all characters
  have : Decidable (∀ c ∈ style, c ≠ '[' ∧ c ≠ ']' ∧ c ≠ '=') := List.decidableBAll _ _
  decidable_of_iff ((∀ c ∈ style, c ≠ '[' ∧ c ≠ ']' ∧ c ≠ '=') ∧ style.head?.any startsTag ∧
    (style.head? ≠ some '/' ∧ style.head? ≠ some '@') ∧ Text.strip style = style ∧
    (Style.normalize style).toOption = some (String.ofList style))
    ⟨fun ⟨a, b, c, d, e⟩ => ⟨a, b, c, d, e⟩, fun ⟨a, b, c, d, e⟩ => ⟨a, b, c, d, e⟩⟩

lemma takeWhile_of_forall {p : Char → Bool} {s : List Char} (h : ∀ c ∈ s, p c) : s.takeWhile p = s := by
  have happend : (s ++ []).takeWhile p = s ++ [].takeWhile p := List.takeWhile_append_of_pos h
  simpa using happend

lemma tagName_eq (h : ∀ c ∈ inside, c ≠ '=') : tagName inside = inside :=
  takeWhile_of_forall fun c hc => by simpa using h c hc

section

variable [Painter]

def plainly (style : String) : Opened := ⟨style, []⟩

lemma applyTag_open {style : String} (hstyle : IsStyle style.toList) (opened : List Opened) (offset : Nat) :
    applyTag opened style.toList offset = .ok (plainly style :: opened) := by
  have hname : tagName style.toList = style.toList := tagName_eq fun c hc => (hstyle.inside c hc).2.2
  have hnormal := eq_ok_of_toOption hstyle.normal
  have hparameters : tagParameters style.toList = [] := by
    rw [tagParameters, hname]
    simp
  unfold applyTag
  rw [hname]
  split
  · rename_i closed heq
    exact absurd (congrArg List.head? heq) hstyle.opens.1
  · rw [hnormal, hparameters, String.ofList_toList]
    rfl

lemma close_of_ne {tag : Opened} (h : tag.style.toList.head? ≠ some '@') : tag.close = .ok () := by
  rw [Opened.close, if_neg fun hhandler => h hhandler.1]

lemma applyTag_close {style : String} (hstyle : IsStyle style.toList) (opened : List Opened) (offset : Nat) :
    (∃ rest, applyTag opened ('/' :: style.toList) offset = .ok rest) ↔ style ∈ opened.map Opened.style := by
  have hname : tagName ('/' :: style.toList) = '/' :: style.toList := by
    refine tagName_eq ?_
    rintro c (_ | ⟨_, hc⟩)
    · decide
    · exact (hstyle.inside c hc).2.2
  have hne : style.toList ≠ [] := by
    intro hnil
    exact absurd hstyle.starts (by rw [hnil]; decide)
  have hnormal := eq_ok_of_toOption hstyle.normal
  simp only [applyTag, hname, hstyle.stripped, if_neg hne, hnormal, mapError_ok, ok_bind, closeStyle,
    String.ofList_toList]
  cases hfind : opened.find? (·.style = style) with
  | none =>
    have hnone : style ∉ opened.map Opened.style := by simpa using hfind
    simp [hnone]
  | some tag =>
    have htag : tag.style = style := by simpa using List.find?_some hfind
    have hmem : style ∈ opened.map Opened.style :=
      htag ▸ List.mem_map_of_mem (List.mem_of_find?_eq_some hfind)
    have hclose : tag.close = .ok () := close_of_ne (htag ▸ hstyle.opens.2)
    simp [hclose, hmem]

end

lemma tags_styled {style : String} (hstyle : IsStyle style.toList) (text : String) :
    tags (Message.styled style text) =
      style.toList :: (tags text ++ if escapesNext false text.toList then [] else ['/' :: style.toList]) := by
  have htext : (Message.styled style text).toList =
      '[' :: (style.toList ++ ']' :: (text.toList ++ '[' :: ('/' :: style.toList ++ [']']))) := by
    simp [Message.styled]
  have hmarks : ∀ c ∈ style.toList, c ≠ '[' ∧ c ≠ ']' :=
    fun c hc => ⟨(hstyle.inside c hc).1, (hstyle.inside c hc).2.1⟩
  have hend : tagInside? ('/' :: style.toList ++ [']']) = some ('/' :: style.toList) :=
    tagInside?_append (List.forall_mem_cons.mpr ⟨by decide, hmarks⟩) rfl []
  rw [tags, htext, tagsFrom_tag (tagInside?_append hmarks hstyle.starts _)]
  rw [List.append_cons, List.drop_left' (by simp), tagsFrom_append_open, tagsFrom_tag hend]
  simp [tags, tagsFrom]

theorem hasPlainText_styled_iff [Painter] {style : String} (hstyle : IsStyle style.toList) (text : String) :
    HasPlainText (Message.styled style text) ↔
      ∃ opened, openAfter [plainly style] (tags text) = some opened ∧
        (escapesNext false text.toList ∨ style ∈ opened.map Opened.style) := by
  have hclose (opened : List Opened) :
      (openAfter opened (if escapesNext false text.toList then [] else ['/' :: style.toList])).isSome ↔
        escapesNext false text.toList ∨ style ∈ opened.map Opened.style := by
    split
    · simp [openAfter, *]
    · rw [← applyTag_close hstyle opened 0, openAfter, List.foldlM_cons]
      cases applyTag opened ('/' :: style.toList) 0 with
      | ok rest => simp [Except.toOption, *]
      | error fault => simp [Except.toOption, *]
  have htags : openAfter [] (tags (Message.styled style text)) =
      openAfter [plainly style] (tags text) >>= fun opened =>
        openAfter opened (if escapesNext false text.toList then [] else ['/' :: style.toList]) := by
    rw [tags_styled hstyle, openAfter, List.foldlM_cons, applyTag_open hstyle]
    exact List.foldlM_append
  rw [hasPlainText_iff, htags]
  cases openAfter [plainly style] (tags text) with
  | none => simp
  | some opened => simpa using hclose opened

end ApiScaffold.Console
