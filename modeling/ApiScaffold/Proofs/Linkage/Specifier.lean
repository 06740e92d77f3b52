import ApiScaffold.Proofs.FileTree.Name
import ApiScaffold.Proofs.Package.Draft
import ApiScaffold.Proofs.Template.Reading
import ApiScaffold.Proofs.Text.Fields

/-!
The specifiers of modules in generated sources, and the files that they lead to: a relative specifier is
followed from the folder of the source, and names a source by its compiled form.
-/

namespace ApiScaffold

open Text Template ApiScaffold.Path

lemma Path.isName_of_isIdentifier {s : String} (h : isIdentifier s) : IsName s := by
  refine ⟨?_, ?_, ?_, notMem_of_isWord (by decide) (isWord_of_isIdentifier h)⟩ <;>
  · rintro rfl
    exact absurd h (by decide)

namespace Linkage

def starts : List (List Char) :=
  ["import ".toList, "export * ".toList, "export \x7b".toList, "export type \x7b".toList, "\x7d from ".toList]

def starStart : List Char := "export * ".toList

def specifier? (line : List Char) : Option String :=
  match fields [['\''], ['\'']] line with
  | some [_, specifier] => some (String.ofList specifier)
  | _ => none

def specifiers (source : String) : List String := (linesWith starts source).filterMap specifier?

def starred (source : String) : List String := (linesWith [starStart] source).filterMap specifier?

def isRelative (specifier : String) : Bool :=
  "./".toList.isPrefixOf specifier.toList || "../".toList.isPrefixOf specifier.toList

def sourceOf? (compiled : String) : Option String :=
  match compiled.toList.reverse with
  | 's' :: 'j' :: '.' :: stem => some (String.ofList stem.reverse ++ ".ts")
  | _ => none

def follow : List String → List String → Option (List String)
  | folder, [] => some folder
  | folder, name :: rest =>
    if name = "." then follow folder rest
    else if name = ".." then if folder = [] then none else follow folder.dropLast rest
    else follow (folder ++ [name]) rest

def folder (path : String) : List String := (parts path).dropLast

def destination (importer specifier : String) : Option String :=
  (sourceOf? specifier).bind fun path => (follow (folder importer) (parts path)).map ("/".intercalate ·)

def isSource (path : String) : Bool :=
  match path.toList.reverse with
  | 's' :: 't' :: '.' :: _ => true
  | _ => false

variable {importer up name place specifier : String}

lemma sourceOf?_append (stem : String) : sourceOf? (stem ++ ".js") = some (stem ++ ".ts") := by
  simp [sourceOf?]

lemma follow_append (names more : List String) (folder : List String) :
    follow folder (names ++ more) = (follow folder names).bind (follow · more) := by
  induction names generalizing folder with
  | nil => rfl
  | cons name rest ih =>
    simp only [List.cons_append, follow, ih]
    split_ifs <;> rfl

lemma follow_name {folder : List String} (h : IsName name) :
    follow folder [name] = some (folder ++ [name]) := by
  rw [follow, if_neg h.2.1, if_neg h.2.2.1, follow]

lemma parts_source (directory : String) (h : '/' ∉ name.toList) :
    parts (directory ++ "/" ++ name ++ ".ts") = parts directory ++ [name ++ ".ts"] := by
  have hassoc : directory ++ "/" ++ name ++ ".ts" = directory ++ "/" ++ (name ++ ".ts") := String.append_assoc
  have hfile : '/' ∉ (name ++ ".ts").toList := by simp [h]
  rw [hassoc, parts_append, parts_of_notMem hfile]

lemma folder_source (directory : String) (h : '/' ∉ name.toList) :
    folder (directory ++ "/" ++ name ++ ".ts") = parts directory := by
  rw [folder, parts_source directory h, List.dropLast_concat]

lemma destination_append (hname : '/' ∉ name.toList)
    (h : follow (folder importer) (parts up) = some (parts place)) :
    destination importer (up ++ "/" ++ name ++ ".js") = some (place ++ "/" ++ name ++ ".ts") := by
  have hisName : IsName (name ++ ".ts") := isName_of_length (by simp) (by simp [hname])
  rw [destination, sourceOf?_append, Option.bind_some, parts_source up hname, follow_append, h,
    Option.bind_some, follow_name hisName, Option.map_some, ← parts_source place hname, intercalate_parts]

example : destination "src/use-cases/user/GetUser.ts" "../../ports/IUserRepository.js" =
    some "src/ports/IUserRepository.ts" := by
  decide

lemma notMem_slash {s : String} (h : isWord s.toList) : '/' ∉ s.toList := notMem_of_isWord (by decide) h

def Plain (s : String) : Prop := '\n' ∉ s.toList ∧ '\'' ∉ s.toList

lemma plain_of_chars {s : String} {cs : List Char} (h : s = String.ofList cs)
    (hcs : cs.all fun c => c ≠ '\n' ∧ c ≠ '\'') : Plain s := by
  subst h
  rw [Plain, String.toList_ofList]
  rw [List.all_eq_true] at hcs
  exact ⟨fun h => (of_decide_eq_true (hcs _ h)).1 rfl, fun h => (of_decide_eq_true (hcs _ h)).2 rfl⟩

lemma plain_of_isWord {s : String} (h : isWord s.toList) : Plain s :=
  ⟨notMem_of_isWord (by decide) h, notMem_of_isWord (by decide) h⟩

lemma Plain.append {s t : String} (hs : Plain s) (ht : Plain t) : Plain (s ++ t) := by
  simpa [Plain, hs.1, hs.2] using ht

lemma plain_specifier (hup : Plain up) (hname : isWord name.toList) : Plain (up ++ "/" ++ name ++ ".js") :=
  ((hup.append (plain_of_chars rfl rfl)).append (plain_of_isWord hname)).append (plain_of_chars rfl rfl)

lemma specifier?_append {head specifier : List Char} (hhead : '\'' ∉ head) (hspecifier : '\'' ∉ specifier)
    (after : List Char) :
    specifier? (head ++ '\'' :: (specifier ++ '\'' :: after)) = some (String.ofList specifier) := by
  have hparts : ∀ part ∈ [(head, ['\'']), (specifier, ['\''])], ∃ c ∈ part.2.head?, c ∉ part.1 := by
    simp only [List.forall_mem_cons]
    exact ⟨⟨'\'', rfl, hhead⟩, ⟨'\'', rfl, hspecifier⟩, List.forall_mem_nil _⟩
  have hfields : fields [['\''], ['\'']] (head ++ '\'' :: (specifier ++ '\'' :: after)) =
      some [head, specifier] := by
    simpa using fields_flatMap hparts after
  rw [specifier?, hfields]

lemma reads_statement (head specifier : String) {scope : Scope} {nodes : List Node} {text : String}
    (h : renderNodes scope nodes = .ok text) (htext : text = head ++ "'" ++ specifier ++ "';\n")
    (hhead : Plain head) (hspecifier : Plain specifier) : Reads specifier? scope nodes [specifier] := by
  have hline : text.toList = (head.toList ++ '\'' :: (specifier.toList ++ ['\'', ';'])) ++ ['\n'] := by
    simp [htext]
  have hread := specifier?_append hhead.2 hspecifier.2 [';']
  rw [String.ofList_toList] at hread
  refine Reads.line h hline ?_ hread
  simp [hhead.1, hspecifier.1]

lemma follow_up {folder steps place : List String} (h : follow folder steps = some place) (name : String) :
    follow (folder ++ [name]) (".." :: steps) = some place := by
  rw [follow, if_neg (by decide), if_pos rfl, if_neg (by simp), List.dropLast_concat, h]

def Leads (importer : String) (paths : List String) (specifier : String) : Prop :=
  isRelative specifier → ∃ path ∈ paths, destination importer specifier = some path

variable {paths : List String}

lemma leads_of_not (h : isRelative specifier = false) : Leads importer paths specifier := by
  intro hrelative
  rw [h] at hrelative
  cases hrelative

lemma leads_of_destination {path : String} (h : destination importer specifier = some path)
    (hpath : path ∈ paths) :
    Leads importer paths specifier := fun _ => ⟨path, hpath, h⟩

lemma leads_append (hname : '/' ∉ name.toList) (h : follow (folder importer) (parts up) = some (parts place))
    (hpath : place ++ "/" ++ name ++ ".ts" ∈ paths) : Leads importer paths (up ++ "/" ++ name ++ ".js") :=
  leads_of_destination (destination_append hname h) hpath

end Linkage

namespace Draft

open Linkage

variable {env : Env} {context : List (String × Data)} {template residual : Template} {path : String}
    {out : List String}

lemma filterMap_ofTemplate {starts : List (List Char)} {read : List Char → Option String}
    (hrendered : (ofTemplate path template context).Rendered) (hfits : Fits (.record env) (.map context))
    (hself : env.all (·.1 ≠ "self")) (hstarts : startsWithOne starts [] = false)
    (h : SlicesTo starts env template residual) (hreads : Reads read (.ofContext context) residual out) :
    (linesWith starts (ofTemplate path template context).artifact.content).filterMap read = out :=
  filterMap_linesWith hfits hself hstarts h (content_of_rendered hrendered) hreads

def Linked (paths : List String) (d : Draft) : Prop :=
  isSource d.path → ∀ specifier ∈ specifiers d.artifact.content, Leads d.path paths specifier

lemma linked_ofTemplate {paths : List String} (hrendered : (ofTemplate path template context).Rendered)
    (hfits : Fits (.record env) (.map context)) (hself : env.all (·.1 ≠ "self"))
    (h : SlicesTo Linkage.starts env template residual)
    (hreads : Reads specifier? (.ofContext context) residual out)
    (hleads : ∀ specifier ∈ out, Leads path paths specifier) :
    (ofTemplate path template context).Linked paths := by
  intro _
  rwa [specifiers, filterMap_ofTemplate hrendered hfits hself (by decide) h hreads]

lemma linked_of_not {paths : List String} {d : Draft} (h : isSource d.path = false) : d.Linked paths := by
  intro hsource
  rw [h] at hsource
  cases hsource

end Draft

namespace ArtifactSet

def Linked (s : ArtifactSet) : Prop :=
  ∀ a ∈ s.artifacts, Linkage.isSource a.path → ∀ specifier ∈ Linkage.specifiers a.content,
    Linkage.isRelative specifier →
    ∃ path ∈ s.paths, Linkage.destination a.path specifier = some path

lemma linked_ofDrafts {drafts : List Draft} (h : ∀ d ∈ drafts, d.Linked (drafts.map Draft.path))
    (package : String) :
    Linked ⟨package, drafts.map Draft.artifact⟩ := by
  intro a ha
  obtain ⟨d, hd, rfl⟩ := List.mem_map.mp ha
  rw [paths_ofDrafts]
  exact h d hd

end ArtifactSet

end ApiScaffold
