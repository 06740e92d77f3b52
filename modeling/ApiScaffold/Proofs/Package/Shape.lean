import ApiScaffold.Package.Plan
import ApiScaffold.Proofs.Template.Check

namespace ApiScaffold

open Template Text

namespace Template

def nameShape (words : Bool) : Shape := if words then .word else .text

def placeShape (words : Bool) : Shape := if words then .line else .text

variable {words : Bool}

lemma fits_name {s : String} (h : words → isWord s.toList) : Fits (nameShape words) (.string s) := by
  cases words with
  | true => exact .word (h rfl)
  | false => exact .text s

lemma fits_place {s : String} (h : words → '\n' ∉ s.toList) : Fits (placeShape words) (.string s) := by
  cases words with
  | true => exact .line (h rfl)
  | false => exact .text s

lemma fits_strings {item : Shape} {items : List String} (h : ∀ s ∈ items, Fits item (.string s)) :
    Fits (.list item) (.strings items) := by
  refine .list fun v hv => ?_
  obtain ⟨s, hs, rfl⟩ := List.mem_map.mp hv
  exact h s hs

lemma fits_list_map {α : Type} {item : Shape} {f : α → Data} {items : List α}
    (h : ∀ x ∈ items, Fits item (f x)) :
    Fits (.list item) (.list (items.map f)) := by
  refine .list fun v hv => ?_
  obtain ⟨x, hx, rfl⟩ := List.mem_map.mp hv
  exact h x hx

lemma Fits.append {fields others : List (String × Shape)} {entries more : List (String × Data)}
    (h : Fits (.record fields) (.map entries)) (hmore : Fits (.record others) (.map more)) :
    Fits (.record (fields ++ others)) (.map (entries ++ more)) := by
  induction fields generalizing entries with
  | nil =>
    cases h
    exact hmore
  | cons field rest ih =>
    cases h with
    | field hv hrest => exact .field hv (ih hrest)

def Scope.ofContext (context : List (String × Data)) : Scope := context.map fun (n, v) => (n, .defined v)

lemma Fits.scope {env : Env} {context : List (String × Data)} (h : Fits (.record env) (.map context)) :
    FitsScope env (.ofContext context) := by
  induction env generalizing context with
  | nil =>
    cases h
    exact .nil
  | cons entry rest ih =>
    cases h with
    | field hv hrest => exact (ih hrest).bind hv

lemma Fits.render {env : Env} {context : List (String × Data)} (h : Fits (.record env) (.map context))
    (hself : env.all (·.1 ≠ "self")) (template : Template) :
    Template.render template context = renderNodes (.ofContext context) template := by
  have hnames : context.any (·.1 = "self") = false := by
    induction env generalizing context with
    | nil =>
      cases h
      rfl
    | cons entry rest ih =>
      cases h with
      | field hv hrest =>
        rw [List.all_cons, Bool.and_eq_true] at hself
        rw [List.any_cons, ih hrest hself.2]
        simpa using hself.1
  rw [Template.render, hnames]
  rfl

lemma Fits.harmless_render {lax : Bool} {env : Env} {context : List (String × Data)}
    (h : Fits (.record env) (.map context)) {template : Template}
    (hcheck : (env.all (·.1 ≠ "self") && check lax env template) = true) :
    Harmless lax (Template.render template context) := by
  rw [Bool.and_eq_true] at hcheck
  rw [h.render hcheck.1]
  exact checked _ _ h.scope hcheck.2

end Template

namespace Domain

def shape (words : Bool) : Shape :=
  .record [
    ("token", nameShape words), ("capitalized", nameShape words), ("path_param", nameShape words),
    ("repository_name", nameShape words), ("router_name", nameShape words),
    ("controller_name", nameShape words), ("collection_path", placeShape words)]

variable {d : Domain}

lemma isWord_capitalized (h : isWord d.token.toList) : isWord d.capitalized.toList := isWord_capitalize h

lemma isWord_pathParam (h : isWord d.token.toList) : isWord d.pathParam.toList := isWord_concat h (by decide)

lemma isWord_routerName (h : isWord d.token.toList) : isWord d.routerName.toList :=
  isWord_concat h (by decide)

lemma isWord_repositoryName (h : isWord d.token.toList) : isWord d.repositoryName.toList :=
  isWord_concat (isWord_concat (by decide) (isWord_capitalized h)) (by decide)

lemma isWord_controllerName (h : isWord d.token.toList) : isWord d.controllerName.toList :=
  isWord_concat (isWord_capitalized h) (by decide)

lemma isWord_createRequestName (h : isWord d.token.toList) : isWord d.createRequestName.toList :=
  isWord_concat (isWord_concat (by decide) (isWord_capitalized h)) (by decide)

lemma notMem_collectionPath (h : isWord d.token.toList) : '\n' ∉ d.collectionPath.toList := by
  simp [collectionPath_eq, routeSegment, notMem_of_isWord (c := '\n') (by decide) h]

lemma fits_toData {words : Bool} (h : words → isWord d.token.toList) : Fits (shape words) d.toData :=
  .field (fits_name h) <| .field (fits_name fun hw => isWord_capitalized (h hw)) <|
    .field (fits_name fun hw => isWord_pathParam (h hw)) <|
    .field (fits_name fun hw => isWord_repositoryName (h hw)) <|
    .field (fits_name fun hw => isWord_routerName (h hw)) <|
    .field (fits_name fun hw => isWord_controllerName (h hw)) <|
    .field (fits_place fun hw => notMem_collectionPath (h hw)) .empty

end Domain

namespace Route

def shape (words : Bool) (kind params : Shape) : Shape :=
  .record [
    ("method", .record [("value", .word)]), ("path", placeShape words),
    ("operation_id", nameShape words), ("kind", .record [("value", kind)]),
    ("relative_path", placeShape words), ("path_params", params)]

lemma isWord_name (m : Method) : isWord m.name.toList := by
  cases m <;> decide

lemma fits_toData {words : Bool} {kind params : Shape} {r : Route} (hpath : words → '\n' ∉ r.path.toList)
    (hop : words → isWord r.operationId.toList) (hkind : Fits kind (.string r.kind.name))
    (hrelative : words → '\n' ∉ r.relativePath.toList) (hparams : Fits params (.strings r.pathParams)) :
    Fits (shape words kind params) r.toData :=
  .field (.field (.word (isWord_name r.method)) .empty) <| .field (fits_place hpath) <|
    .field (fits_name hop) <| .field (.field hkind .empty) <| .field (fits_place hrelative) <|
    .field hparams .empty

end Route

end ApiScaffold
