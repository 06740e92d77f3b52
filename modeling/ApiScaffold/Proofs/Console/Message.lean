import ApiScaffold.Console.Told
import ApiScaffold.Proofs.Console.Markup
import Mathlib.Data.List.Basic

namespace ApiScaffold.Console

open Chain

def Bare (text : String) : Prop := '[' ∉ text.toList

instance (text : String) : Decidable (Bare text) := inferInstanceAs (Decidable (¬ _))

lemma tags_of_bare {text : String} (h : Bare text) : tags text = [] := tagsFrom_of_notMem h false

lemma openingTags_eq (markup : String) : openingTags markup = (tags markup).filter (·.head? ≠ some '/') := by
  have hpieces : openingTags markup =
      ((piecesFrom 0 [] 0 markup.toList).filterMap Piece.tag?).filter (·.head? ≠ some '/') := by
    rw [openingTags, List.filter_filterMap]
    refine List.filterMap_congr fun piece _ => ?_
    cases piece with
    | text s => rfl
    | tag inside offset => by_cases h : inside.head? = some '/' <;> simp [Piece.tag?, Option.filter, h]
  rw [hpieces, filterMap_piecesFrom]
  rfl

lemma openingTags_styled {style : String} (hstyle : IsStyle style.toList) (text : String) :
    openingTags (Message.styled style text) = style.toList :: openingTags text := by
  have hlast : (if escapesNext false text.toList then [] else ['/' :: style.toList]).filter
      (·.head? ≠ some '/') = [] := by
    split <;> rfl
  rw [openingTags_eq, openingTags_eq, tags_styled hstyle,
    List.filter_cons_of_pos (by simpa using hstyle.opens.1), List.filter_append, hlast, List.append_nil]

lemma paintedStyle_of_isStyle {style : String} (hstyle : IsStyle style.toList) :
    paintedStyle style.toList = .ok style := by
  have hnormal : Style.normalize style.toList = .ok style := by
    simpa using eq_ok_of_toOption hstyle.normal
  have hsign : style.toList.contains '=' = false := by
    simpa using fun hmem => (hstyle.inside '=' hmem).2.2 rfl
  rw [paintedStyle, tagName_eq fun c hc => (hstyle.inside c hc).2.2, hnormal, ok_bind, tagStyle, hsign,
    if_neg Bool.false_ne_true, hnormal]

section

variable [Painter]

def Showable (markup : String) : Prop := ∀ columns, ∃ text, paintedText columns markup = .ok text

lemma Showable.hasPlainText {markup : String} (h : Showable markup) : HasPlainText markup :=
  ((exists_paintedText_iff 0 markup).mp (h 0)).1

lemma showable_of_tags [LawfulPainter] {markup : String} (h : HasPlainText markup)
    (htags : ∀ inside ∈ openingTags markup, ∃ style, paintedStyle inside = .ok style) :
    Showable markup := fun columns =>
  (exists_paintedText_iff columns markup).mpr ⟨h, LawfulPainter.styleFault?_eq_none htags⟩

lemma showable_of_bare [LawfulPainter] {text : String} (h : Bare text) : Showable text := by
  refine showable_of_tags ?_ ?_
  · rw [hasPlainText_iff, tags_of_bare h]
    rfl
  · rw [openingTags_eq, tags_of_bare h]
    exact List.forall_mem_nil _

lemma showable_styled [LawfulPainter] {style text : String} (hstyle : IsStyle style.toList) (h : Bare text) :
    Showable (Message.styled style text) := by
  refine showable_of_tags ?_ ?_
  · refine (hasPlainText_styled_iff hstyle text).mpr ⟨[plainly style], ?_, .inr (by simp [plainly])⟩
    rw [tags_of_bare h]
    rfl
  · rw [openingTags_styled hstyle, openingTags_eq, tags_of_bare h]
    exact List.forall_mem_singleton.mpr ⟨style, paintedStyle_of_isStyle hstyle⟩

end

namespace Table

variable {t : Table}

lemma exists_measure {cells : List String} (h : ∀ cell ∈ cells, Showable cell) (room : Nat) :
    ∃ n, measure room cells = .ok n := by
  refine exists_bind (exists_mapM fun cell hcell => ?_) fun _ => ⟨_, rfl⟩
  rw [measureCell]
  split
  · exact ⟨_, rfl⟩
  · exact exists_bind (h cell hcell).hasPlainText fun _ => ⟨_, rfl⟩

lemma exists_cellLines {cell : String} (h : Showable cell) (fitting : Fitting) (columns : Nat) :
    ∃ lines, cellLines fitting columns cell = .ok lines := by
  rw [cellLines]
  split
  · exact ⟨_, rfl⟩
  · exact exists_bind (h _) fun _ => ⟨_, rfl⟩

lemma exists_rowLines {row : String × String} (hitem : Showable row.1) (hvalue : Showable row.2) (bar : Char)
    (w : Widths) : ∃ lines, rowLines bar w row = .ok lines :=
  exists_bind (exists_cellLines hitem _ _) fun _ =>
    exists_bind (exists_cellLines hvalue _ _) fun _ => ⟨_, rfl⟩

lemma exists_lines (htitle : Showable t.title) (hrows : ∀ row ∈ t.rows, Showable row.1 ∧ Showable row.2)
    (columns : Nat) : ∃ lines, t.lines columns = .ok lines := by
  have hitem : Showable "Item" := showable_of_bare (by decide)
  have hvalue : Showable "Value" := showable_of_bare (by decide)
  have hitems : ∀ cell ∈ t.items, Showable cell :=
    List.forall_mem_cons.mpr ⟨hitem, List.forall_mem_map.mpr fun row hrow => (hrows row hrow).1⟩
  have hvalues : ∀ cell ∈ t.values, Showable cell :=
    List.forall_mem_cons.mpr ⟨hvalue, List.forall_mem_map.mpr fun row hrow => (hrows row hrow).2⟩
  have hwidths : ∃ w, t.widths (columns - borders) = .ok w := by
    refine exists_bind (exists_measure hitems _) fun item =>
      exists_bind (exists_measure hvalues _) fun value => ?_
    dsimp only
    split
    · exact ⟨_, rfl⟩
    · exact exists_bind (exists_measure hitems _) fun _ =>
        exists_bind (exists_measure hvalues _) fun _ => ⟨_, rfl⟩
  have htop (columns : Nat) : ∃ lines, t.titleLines columns = .ok lines := by
    rw [titleLines]
    split
    · exact ⟨_, rfl⟩
    · exact exists_bind (htitle _) fun _ => ⟨_, rfl⟩
  exact exists_bind hwidths fun w => exists_bind (htop _) fun _ =>
    exists_bind (exists_rowLines hitem hvalue _ _) fun _ =>
      exists_bind (exists_mapM fun row hrow => exists_rowLines (hrows row hrow).1 (hrows row hrow).2 _ w)
        fun _ => ⟨_, rfl⟩

end Table

namespace Message

def Clean : Message → Prop
  | blank => True
  | plain text => Showable text
  | header text | success text | warning text | error text => Bare text
  | table t => Showable t.title ∧ ∀ row ∈ t.rows, Showable row.1 ∧ Showable row.2

lemma exists_render {message : Message} (h : message.Clean) (columns : Nat) :
    ∃ text, message.render columns = .ok text := by
  cases message with
  | blank => exact ⟨_, rfl⟩
  | plain text => exact exists_bind (h columns) fun _ => ⟨_, rfl⟩
  | header title =>
    have htitle : Bare (" " ++ title ++ " ") := by simpa [Bare, Clean] using h
    exact exists_bind (showable_styled (by decide +kernel) htitle columns) fun _ => ⟨_, rfl⟩
  | success text => exact exists_bind (showable_styled (by decide +kernel) h columns) fun _ => ⟨_, rfl⟩
  | warning text => exact exists_bind (showable_styled (by decide +kernel) h columns) fun _ => ⟨_, rfl⟩
  | error text => exact exists_bind (showable_styled (by decide +kernel) h columns) fun _ => ⟨_, rfl⟩
  | table t => exact exists_bind (t.exists_lines h.1 h.2 columns) fun _ => ⟨_, rfl⟩

lemma renderAll_of_clean {messages : List Message} (h : ∀ message ∈ messages, message.Clean) (columns : Nat) :
    (renderAll columns messages).2 = none := by
  induction messages with
  | nil => rfl
  | cons message rest ih =>
    obtain ⟨hmessage, hrest⟩ := List.forall_mem_cons.mp h
    obtain ⟨text, htext⟩ := exists_render hmessage columns
    rw [renderAll, htext]
    exact ih hrest

end Message

namespace Told

variable {ε α β : Type}

lemma result_bind (t : Told ε α) (next : α → Told ε β) :
    (t >>= next).result = t.result >>= fun a => (next a).result := by
  show (t.andThen next).result = _
  rw [andThen]
  cases t.result <;> rfl

lemma say_of_clean {messages : List Message} (h : ∀ message ∈ messages, message.Clean) (columns : Nat) :
    (say columns messages).result = .ok () := by
  simp only [say, Message.renderAll_of_clean h, Option.elim]

end Told

end ApiScaffold.Console
