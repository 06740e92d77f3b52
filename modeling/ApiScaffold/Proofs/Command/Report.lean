import ApiScaffold.Command.Run
import ApiScaffold.Proofs.Console.Message
import ApiScaffold.Proofs.FileTree.Walk

/-!
What becomes of a fault that a user can mend. Its message is told as marked up text, so the report itself
succeeds only if the message, with all that it quotes, closes no style but those it opens.
-/

namespace ApiScaffold.Command

open Console

def reportStyle : String := "bold red"

lemma isStyle_reportStyle : IsStyle reportStyle.toList := by
  decide +kernel

lemma tags_report (text : String) : tags ("Error: " ++ text) = tags text := by
  rw [tags, String.toList_append]
  rfl

section

variable [Painter] {tree : FileTree} {cwd : Location} {columns : Nat} {elapsed : Binary64} {command : Command}
  {fault : Fault}

/--
The tags of a text leave the style of a report open, or a backslash at its end keeps the tag that
closes it as text.
-/
def TagsFit (text : String) : Prop :=
  ∃ opened, openAfter [plainly reportStyle] (tags text) = some opened ∧
    (escapesNext false text.toList ∨ reportStyle ∈ opened.map Opened.style)

def Reportable (columns : Nat) (text : String) : Prop :=
  TagsFit text ∧ Painter.styleFault? columns (Message.styled reportStyle ("Error: " ++ text)) = none

instance (text : String) : Decidable (TagsFit text) :=
  decidable_of_iff
    ((openAfter [plainly reportStyle] (tags text)).any fun opened =>
      escapesNext false text.toList || (opened.map Opened.style).contains reportStyle)
    (by simp [TagsFit, Option.any_eq_true])

instance (columns : Nat) (text : String) : Decidable (Reportable columns text) :=
  decidable_of_iff
    (TagsFit text ∧ (Painter.styleFault? columns (Message.styled reportStyle ("Error: " ++ text))).isNone)
    (by simp [Reportable])

lemma reportable_of_tags [LawfulPainter] {text : String} (h : TagsFit text)
    (hstyles : ∀ inside ∈ openingTags text, ∃ style, paintedStyle inside = .ok style) (columns : Nat) :
    Reportable columns text := by
  refine ⟨h, LawfulPainter.styleFault?_eq_none ?_⟩
  rw [openingTags_styled isStyle_reportStyle, openingTags_eq, tags_report, ← openingTags_eq]
  exact List.forall_mem_cons.mpr ⟨⟨_, paintedStyle_of_isStyle isStyle_reportStyle⟩, hstyles⟩

lemma exists_render_iff (columns : Nat) (text : String) :
    (∃ report, Message.render columns (.error ("Error: " ++ text)) = .ok report) ↔
    Reportable columns text := by
  have hescapes : escapesNext false ("Error: " ++ text).toList = escapesNext false text.toList := by
    rw [String.toList_append]
    rfl
  have hplain := hasPlainText_styled_iff isStyle_reportStyle ("Error: " ++ text)
  rw [tags_report, hescapes] at hplain
  rw [Reportable, TagsFit, ← hplain, ← exists_paintedText_iff]
  show (∃ report,
    (paintedText columns _ >>= fun plain => pure (Message.unlines (layOut .folded columns plain))) =
    .ok report) ↔ ∃ plain, paintedText columns _ = .ok plain
  constructor
  · rintro ⟨report, h⟩
    obtain ⟨plain, hplain, -⟩ := Chain.bind_eq_ok.mp h
    exact ⟨plain, hplain⟩
  · rintro ⟨plain, h⟩
    exact Chain.exists_bind ⟨plain, h⟩ fun _ => ⟨_, rfl⟩

lemma finish_of_reported {told : Told Fault Unit} (hfault : told.result = .error fault)
    (hreported : fault.isReported) (columns : Nat) : finish columns told =
      match Message.render columns (.error ("Error: " ++ fault.message)) with
      | .ok report => ⟨told.text ++ report, .ok 1⟩
      | .error m => ⟨told.text, .error (.markup m)⟩ := by
  simp only [finish, hfault, if_pos hreported]
  simp only [say, Told.say, Message.renderAll]
  cases Message.render columns (.error ("Error: " ++ fault.message)) with
  | ok report => simp [bind, pure, Told.andThen, Told.mapFault]
  | error m => simp [bind, Told.andThen, Told.mapFault]

end

variable {tree : FileTree} {cwd : Location}

lemma execute_init_of_exists {config : String} (h : tree.exists? cwd (.ofString config) = .ok true)
    (columns : Nat) (elapsed : Binary64) : execute tree cwd columns elapsed (.init config false) =
      (tree, .ofResult (.error (.save (.alreadyThere (.ofString config))))) := by
  simp only [execute, Config.init, h]
  rfl

def onlyFileIn (directory name : String) : FileTree :=
  ⟨[([directory], .directory), ([directory, name], .file .empty)]⟩

lemma exists?_of_entryAt {path : Path} {entry : FileTree.Entry} (hfits : FileTree.Fits path)
    (hwalk : tree.walk (Path.base cwd path.root) path.segments = .ok (path.resolve cwd))
    (hentry : tree.get? (path.resolve cwd) = some entry) : tree.exists? cwd path = .ok true := by
  have hfound : tree.entryAt cwd path = .ok entry :=
    FileTree.entryAt_eq_ok.mpr ⟨FileTree.locate_eq_ok_iff.mpr ⟨hfits, hwalk⟩, hentry⟩
  rw [FileTree.exists?, hfound]

end ApiScaffold.Command
