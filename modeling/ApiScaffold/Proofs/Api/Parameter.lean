import ApiScaffold.Proofs.Api.GraphQl

namespace ApiScaffold

namespace PathTemplate

def Braceless (s : String) : Prop := '\x7b' ∉ s.toList ∧ '\x7d' ∉ s.toList

instance (s : String) : Decidable (Braceless s) := inferInstanceAs (Decidable (_ ∧ _))

structure Parts where
  start : String
  params : List (String × String)

namespace Parts

def names (t : Parts) : List String := t.params.map Prod.fst

def text (t : Parts) : String :=
  t.start ++ String.join (t.params.map fun (name, literal) => "\x7b" ++ name ++ "\x7d" ++ literal)

def inRouter (t : Parts) : String :=
  t.start ++ String.join (t.params.map fun (name, literal) => ":" ++ name ++ literal)

structure WellFormed (t : Parts) : Prop where
  start : Braceless t.start
  params : ∀ p ∈ t.params, p.1 ≠ "" ∧ Braceless p.1 ∧ Braceless p.2

end Parts

variable {t : Parts} {s : String}

lemma pieces_params {params : List (String × String)}
    (h : ∀ p ∈ params, p.1 ≠ "" ∧ Braceless p.1 ∧ Braceless p.2) :
    pieces (String.join (params.map fun (name, literal) => "\x7b" ++ name ++ "\x7d" ++ literal)).toList =
      params.flatMap fun (name, literal) => .param name.toList :: literal.toList.map .literal := by
  induction params with
  | nil => exact pieces_nil
  | cons p rest ih =>
    obtain ⟨⟨hne, hname, hliteral⟩, hrest⟩ := List.forall_mem_cons.mp h
    have hnonempty : p.1.toList ≠ [] := by simpa using hne
    rw [List.map_cons, String.join_cons, List.flatMap_cons, ← ih hrest]
    simp only [String.toList_append, List.append_assoc]
    exact (pieces_param hnonempty hname.2 _).trans (congrArg _ (pieces_append hliteral.1 _))

lemma pieces_text (h : t.WellFormed) : pieces t.text.toList = t.start.toList.map .literal ++
    t.params.flatMap fun (name, literal) => .param name.toList :: literal.toList.map .literal := by
  rw [Parts.text, String.toList_append, pieces_append h.start.1, pieces_params h.params]

lemma flatMap_inRouter_literal (s : List Char) : (s.map Piece.literal).flatMap Piece.inRouter = s := by
  rw [List.flatMap_map]
  exact List.flatMap_singleton' s

lemma inRouter_text (h : t.WellFormed) : PathTemplate.inRouter t.text.toList = t.inRouter.toList := by
  rw [PathTemplate.inRouter, pieces_text h, List.flatMap_append, flatMap_inRouter_literal, List.flatMap_assoc]
  simp only [List.flatMap_cons, Piece.inRouter, flatMap_inRouter_literal]
  simp [Parts.inRouter, List.flatMap_map]

def Piece.name? : Piece → Option String
  | .param name => some (String.ofList name)
  | .literal _ => none

lemma params_eq (s : String) : params s = (pieces s.toList).filterMap Piece.name? := by
  refine List.filterMap_congr fun piece _ => ?_
  cases piece <;> rfl

lemma filterMap_name?_literal (s : List Char) : (s.map Piece.literal).filterMap Piece.name? = [] := by
  simp [List.filterMap_map, Piece.name?]

lemma params_append (hs : Braceless s) (h : t.WellFormed) : params (s ++ t.text) = t.names := by
  rw [params_eq, String.toList_append, pieces_append hs.1, pieces_text h]
  simp only [List.filterMap_append, filterMap_name?_literal, List.nil_append, List.filterMap_flatMap,
    List.filterMap_cons, Piece.name?, String.ofList_toList]
  exact List.map_eq_flatMap.symm

lemma below_append (h : t.WellFormed) : below s (s ++ t.text) = if t.inRouter = "" then "/"
    else t.inRouter := by
  have hdrop : (s ++ t.text).toList.drop s.length = t.text.toList := by
    rw [String.toList_append, ← String.length_toList, List.drop_left]
  have hempty : t.text.toList.isEmpty = true ↔ t.inRouter = "" := by
    rw [Parts.text, Parts.inRouter]
    cases t.params <;> simp
  rw [below, hdrop, inRouter_text h, String.ofList_toList]
  simp only [hempty]

end PathTemplate

namespace Domain

open PathTemplate

variable {d : Domain}

lemma braceless_collectionPath (h : Braceless d.token) : Braceless d.collectionPath := by
  simpa [Braceless, collectionPath_eq, routeSegment] using h

def itemParts (d : Domain) : Parts := ⟨d.collectionPath ++ "/", [(d.pathParam, "")]⟩

lemma text_itemParts (d : Domain) : d.itemParts.text = d.itemPath := by
  simp [← String.toList_inj, itemParts, Parts.text, itemPath_eq, collectionPath_eq]

lemma wellFormed_itemParts (h : Braceless d.token) : d.itemParts.WellFormed := by
  have hpath := braceless_collectionPath h
  refine ⟨by simpa [itemParts, Braceless] using hpath, ?_⟩
  simpa [itemParts, pathParam, Braceless] using h

lemma wellFormed_collectionParts (h : Braceless d.token) : Parts.WellFormed ⟨d.collectionPath, []⟩ :=
  ⟨braceless_collectionPath h, List.forall_mem_nil _⟩

lemma plain_of_braceless (h : Braceless d.token) : d.Plain := ⟨h.1, h.2⟩

lemma exists_parts {r : Route} (h : Braceless d.token) (hr : r ∈ d.routes) : ∃ t : Parts, t.WellFormed ∧
    r.path = t.text ∧ OpenApi.pathParameters (OpenApi.operation r) = t.names := by
  have hcollection : d.collectionPath = Parts.text ⟨d.collectionPath, []⟩ := by
    simp [Parts.text]
  rcases eq_of_mem_routes hr with rfl | rfl | rfl
  · exact ⟨_, wellFormed_collectionParts h, hcollection, rfl⟩
  · exact ⟨_, wellFormed_collectionParts h, hcollection, rfl⟩
  · refine ⟨_, wellFormed_itemParts h, (text_itemParts d).symm, ?_⟩
    rw [OpenApi.pathParameters_operation, pathParams_getRoute (plain_of_braceless h)]
    rfl

end Domain

open PathTemplate in
/--
The parameters of a path are those it was put together from, in their order, and a router has them in the same
places below the mount. A token without braces adds none to its collection and one to its items, and each
operation of the document has the parameters of its path.
-/
theorem parameters_of_parts :
    (∀ (mount : String) (t : Parts), Braceless mount → t.WellFormed →
      params (mount ++ t.text) = t.names ∧
      below mount (mount ++ t.text) = if t.inRouter = "" then "/" else t.inRouter) ∧
    (∀ (r : Route) (t : Parts), Braceless r.mountPath → t.WellFormed → r.path = r.mountPath ++ t.text →
      r.pathParams = t.names ∧ r.relativePath = if t.inRouter = "" then "/" else t.inRouter) ∧
    (∀ d : Domain, Braceless d.token →
      (∀ r ∈ [d.listRoute, d.createRoute], r.relativePath = "/" ∧ r.pathParams = []) ∧
      d.getRoute.relativePath = "/:" ++ (d.token ++ "Id") ∧ d.getRoute.pathParams = [d.token ++ "Id"]) ∧
    ∀ (tokens : List String) (version : String), (∀ token ∈ tokens, Braceless token) →
      let domains := tokens.map Domain.mk
      ∀ op ∈ OpenApi.operations (OpenApi.document version domains (RouteTable.ofDomains domains)),
        ∃ t : Parts, t.WellFormed ∧ op.1 = t.text ∧ OpenApi.pathParameters op.2.2 = t.names := by
  refine ⟨fun mount t hmount ht => ⟨params_append hmount ht, below_append ht⟩, fun r t hmount ht hpath => ?_,
    fun d hd => ⟨?_, ?_, ?_⟩, ?_⟩
  · rw [Route.pathParams, Route.relativePath, hpath]
    exact ⟨params_append hmount ht, below_append ht⟩
  · have hplain := Domain.plain_of_braceless hd
    refine List.forall_mem_cons.mpr ⟨?_, List.forall_mem_singleton.mpr ?_⟩
    · exact ⟨Domain.relativePath_collection rfl rfl, Domain.pathParams_collection hplain rfl⟩
    · exact ⟨Domain.relativePath_collection rfl rfl, Domain.pathParams_collection hplain rfl⟩
  · exact Domain.relativePath_getRoute (Domain.plain_of_braceless hd)
  · exact Domain.pathParams_getRoute (Domain.plain_of_braceless hd)
  · intro tokens version htokens domains op hop
    rw [OpenApi.operations_eraseDups] at hop
    obtain ⟨r, hr, rfl⟩ := List.mem_map.mp hop
    obtain ⟨d, hd, hr⟩ := RouteTable.mem_ofDomains.mp hr
    obtain ⟨token, htoken, rfl⟩ := List.mem_map.mp (List.mem_eraseDups.mp hd)
    exact Domain.exists_parts (htokens token htoken) hr

open PathTemplate in
theorem parameters_of_mixed_parts :
    let r : Route :=
      ⟨.get, "/users:\x7ba\x7d\x7bb\n\x7d:\n\x7bc\x7d", "x", (Domain.mk "user").descriptor, .get⟩
    r.pathParams = ["a", "b\n", "c"] ∧ r.relativePath = "::a:b\n:\n:c" := by
  have h := parameters_of_parts.2.1
  let t : Parts := ⟨":", [("a", ""), ("b\n", ":\n"), ("c", "")]⟩
  exact h ⟨.get, _, "x", (Domain.mk "user").descriptor, .get⟩ t (by decide +kernel)
    ⟨by decide, by decide +kernel⟩ (by decide +kernel)

end ApiScaffold
