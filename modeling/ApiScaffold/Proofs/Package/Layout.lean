import ApiScaffold.Proofs.Package.Order

namespace ApiScaffold

open FileTree (Change Entry Fits Grows)
open ApiScaffold.Path (base)
open Relation (ReflTransGen)

namespace FileTree

instance (path : Path) : Decidable (Fits path) := inferInstanceAs (Decidable (_ ∧ _))

def leadsTo (tree : FileTree) (cwd : Location) (directory : Bool) (path : Path) : Bool :=
  match decide (Fits path), tree.walk (base cwd path.root) path.segments with
  | true, .ok location => (tree.get? location).map Entry.isDirectory == some directory
  | _, _ => false

lemma held_of_leadsTo {tree : FileTree} {cwd : Location} {change : Change}
    (h : tree.leadsTo cwd change.entry.isDirectory change.path) : change.Held tree cwd := by
  rw [leadsTo] at h
  split at h
  · rename_i location hfits hwalk
    have hlocate := locate_eq_ok_iff.mpr ⟨of_decide_eq_true hfits, hwalk⟩
    obtain ⟨entry, hentry, hkind⟩ := Option.map_eq_some_iff.mp (beq_iff_eq.mp h)
    refine ⟨entry, ?_, hkind⟩
    rw [entryAt, hlocate, Chain.ok_bind, hentry]
  · cases h

lemma grows_empty (tree : FileTree) : Grows empty tree := by
  intro location
  cases location with
  | nil => exact .inl rfl
  | cons name rest =>
    cases hentry : tree.get? (name :: rest) with
    | none => exact .inl rfl
    | some entry => exact .inr ⟨entry, .fresh entry, rfl⟩

def around (files : List Location) : FileTree :=
  ⟨(files.flatMap fun file => file.inits.dropLast.map fun outer => (outer, .directory)) ++
    files.map fun file => (file, .file .empty)⟩

end FileTree

namespace Writing

variable {cwd : Location} {outputDir : Path} {sets : List ArtifactSet} {w : Writing}

def treeOf (cwd : Location) (outputDir : Path) (packages : List (String × List String)) : FileTree :=
  .around (packages.flatMap fun (package, paths) => paths.map fun path =>
    ((outputDir.join package).join path).resolve cwd)

def hasRoom (cwd : Location) (outputDir : Path) (packages : List (String × List String)) : Bool :=
  let tree := treeOf cwd outputDir packages
  packages.all fun (package, paths) => tree.leadsTo cwd true (outputDir.join package) && paths.all fun path =>
    let target := (outputDir.join package).join path
    tree.leadsTo cwd true target.parent && tree.leadsTo cwd false target

lemma fault_eq_none_of_hasRoom (hroom : hasRoom cwd outputDir (sets.map fun s => (s.package, s.paths)))
    (h : ReflTransGen (Step cwd) (start FileTree.empty outputDir sets) w) :
    ∀ writer ∈ w.writers, writer.fault = none := by
  have hheld : ∀ s ∈ sets, ∀ change ∈ s.changes outputDir,
      change.Held (treeOf cwd outputDir (sets.map fun s => (s.package, s.paths))) cwd := by
    intro s hs change hchange
    simp only [hasRoom, List.all_eq_true, Bool.and_eq_true, List.forall_mem_map, ArtifactSet.paths] at hroom
    obtain ⟨hroot, hpaths⟩ := hroom s hs
    obtain rfl | ⟨a, ha, rfl | rfl⟩ := ArtifactSet.mem_changes.mp hchange
    · exact FileTree.held_of_leadsTo hroot
    · exact FileTree.held_of_leadsTo (hpaths a ha).1
    · exact FileTree.held_of_leadsTo (hpaths a ha).2
  exact (between_of_steps (FileTree.grows_empty _) hheld h).2

lemma writeAll_of_hasRoom (hroom : hasRoom cwd outputDir (sets.map fun s => (s.package, s.paths))) :
    ∀ fault ∈ (ArtifactSet.writeAll FileTree.empty cwd outputDir sets).2, fault = none := by
  obtain ⟨w, hsteps, -, -, hfaults⟩ := steps_writeAll cwd outputDir sets FileTree.empty
  rw [← hfaults]
  exact List.forall_mem_map.mpr (fault_eq_none_of_hasRoom hroom hsteps)

end Writing

end ApiScaffold
