import ApiScaffold.Api.GraphQl
import ApiScaffold.Proofs.Text.Fields
import ApiScaffold.Proofs.Text.Identifier
import ApiScaffold.Proofs.Text.Split
import Mathlib.Data.List.Forall2

namespace ApiScaffold.Sdl

open Text

structure Field where
  name : String
  arguments : List (String × String)
  type : String
  deriving DecidableEq

structure Block where
  keyword : String
  name : String
  fields : List Field
  deriving DecidableEq

def namedType (type : String) : String := String.ofList (type.toList.filter (· ∉ ['[', ']', '!']))

def scalars : List String := ["Int", "Float", "String", "Boolean", "ID"]

def Field.inputs (f : Field) : List String :=
  (f.arguments.map fun argument => namedType argument.2).filter (· ∉ scalars)

def fieldsOf (root : String) (blocks : List Block) : List Field :=
  (blocks.filter (·.name = root)).flatMap Block.fields

def Declares (blocks : List Block) (keyword name : String) : Prop :=
  ∃ b, blocks.filter (·.name = name) = [b] ∧ b.keyword = keyword

def argument? (s : List Char) : Option (String × String) :=
  (upTo ": ".toList (s.dropWhile (· = ' '))).map fun (name, type) => (String.ofList name, String.ofList type)

def field? (line : List Char) : Option Field :=
  match line with
  | ' ' :: ' ' :: rest =>
    let name := String.ofList (rest.takeWhile isWordChar)
    match rest.dropWhile isWordChar with
    | '(' :: more =>
      match upTo "): ".toList more with
      | some (arguments, type) =>
        ((splitAt ',' arguments).mapM argument?).map fun arguments => ⟨name, arguments, String.ofList type⟩
      | none => none
    | ':' :: ' ' :: type => some ⟨name, [], String.ofList type⟩
    | _ => none
  | _ => none

def header? (line : List Char) : Option Block :=
  match splitAt ' ' line with
  | [keyword, name, ['\x7b']] => some ⟨String.ofList keyword, String.ofList name, []⟩
  | _ => none

def readBlocks : Option Block → List (List Char) → Option (List Block)
  | none, [] => some []
  | some _, [] => none
  | none, line :: rest =>
    if line = [] then readBlocks none rest else (header? line).bind fun b => readBlocks (some b) rest
  | some b, line :: rest =>
    if line = ['\x7d'] then (readBlocks none rest).map (b :: ·)
    else (field? line).bind fun f => readBlocks (some { b with fields := b.fields ++ [f] }) rest

def read (text : String) : Option (List Block) := readBlocks none (splitAt '\n' text.toList)

def Prints (text : String) (b : Block) : Prop :=
  ∃ header body, splitAt '\n' text.toList = header :: body ++ [['\x7d']] ∧ header ≠ [] ∧
    header? header = some { b with fields := [] } ∧
      List.Forall₂ (fun line f => line ≠ ['\x7d'] ∧ field? line = some f) body b.fields

lemma readBlocks_fields {body : List (List Char)} {fields : List Field}
    (h : List.Forall₂ (fun line f => line ≠ ['\x7d'] ∧ field? line = some f) body fields) (b : Block)
    (rest : List (List Char)) :
    readBlocks (some b) (body ++ rest) = readBlocks (some { b with fields := b.fields ++ fields }) rest := by
  induction h generalizing b with
  | nil => simp
  | cons hline _ ih =>
    rw [List.cons_append, readBlocks, if_neg hline.1, hline.2, Option.bind_some, ih]
    simp

lemma Prints.readBlocks_append {text : String} {b : Block} (h : Prints text b) (rest : List (List Char)) :
    readBlocks none (splitAt '\n' text.toList ++ rest) = (readBlocks none rest).map (b :: ·) := by
  obtain ⟨header, body, hlines, hne, hheader, hbody⟩ := h
  rw [hlines, List.append_assoc, List.cons_append, readBlocks, if_neg hne, hheader, Option.bind_some,
    readBlocks_fields hbody, List.singleton_append, readBlocks, if_pos rfl]
  rfl

lemma read_intercalate {texts : List String} {blocks : List Block} (h : List.Forall₂ Prints texts blocks) :
    read ("\n\n".intercalate texts ++ "\n") = some blocks := by
  induction h with
  | nil => rfl
  | @cons text b rest blocks hprints hrest ih =>
    cases hrest with
    | nil =>
      have hlines : splitAt '\n' ("\n\n".intercalate [text] ++ "\n").toList =
          splitAt '\n' text.toList ++ [[]] := by
        rw [String.intercalate_singleton, String.toList_append]
        exact splitAt_append_cons '\n' text.toList []
      rw [read, hlines, hprints.readBlocks_append]
      rfl
    | @cons next c rest blocks _ _ =>
      have hlines : splitAt '\n' ("\n\n".intercalate (text :: next :: rest) ++ "\n").toList =
          splitAt '\n' text.toList ++ [] ::
            splitAt '\n' ("\n\n".intercalate (next :: rest) ++ "\n").toList := by
        rw [String.intercalate_cons_cons]
        simp only [String.toList_append, List.append_assoc]
        exact splitAt_append_cons '\n' text.toList ('\n' :: _)
      rw [read] at ih ⊢
      rw [hlines, hprints.readBlocks_append, readBlocks, if_pos rfl, ih, Option.map_some]

end ApiScaffold.Sdl
