import ApiScaffold.Proofs.Api.Reference
import ApiScaffold.Proofs.Api.Sdl
import ApiScaffold.Proofs.Api.Spelling
import ApiScaffold.Proofs.Package.Content

namespace ApiScaffold

namespace GraphQl

open Text Sdl

variable {d : Domain} {r : Route} {domains : List Domain}

def fieldOf (r : Route) : Sdl.Field :=
  match r.kind with
  | .list =>
    ⟨r.operationId, [("limit", "Int"), ("offset", "Int"), ("cursor", "String")],
      "[" ++ r.domain.responseName ++ "!]!"⟩
  | .get => ⟨r.operationId, r.pathParams.map (·, "ID!"), r.domain.responseName⟩
  | .create => ⟨r.operationId, [("input", r.domain.createRequestName ++ "!")], r.domain.responseName ++ "!"⟩

lemma takeWhile_word {name : List Char} (h : isWord name) {c : Char} (hc : isWordChar c = false)
    (rest : List Char) :
    (name ++ c :: rest).takeWhile isWordChar = name ∧
    (name ++ c :: rest).dropWhile isWordChar = c :: rest := by
  have hall : ∀ d ∈ name, isWordChar d := List.all_eq_true.mp h
  have hstop : ∀ d ∈ (c :: rest).head?, isWordChar d = false := by simpa using hc
  exact ⟨takeWhile_append_of_stop hall hstop, dropWhile_append_of_stop hall hstop⟩

lemma field?_arguments {name : String} (inner : List Char)
    (arguments : List (String × String)) (type : String) (hname : isWord name.toList) (hinner : ')' ∉ inner)
    (harguments : (splitAt ',' inner).mapM argument? = some arguments) :
    field? (' ' :: ' ' :: (name.toList ++ '(' :: (inner ++ ("): ".toList ++ type.toList)))) =
      some ⟨name, arguments, type⟩ := by
  obtain ⟨htake, hdrop⟩ :=
    takeWhile_word hname (c := '(') (by decide) (inner ++ ("): ".toList ++ type.toList))
  have hup : upTo "): ".toList (inner ++ ("): ".toList ++ type.toList)) = some (inner, type.toList) :=
    upTo_append (c := ')') (by decide) hinner type.toList
  simp only [field?, htake, hdrop, hup, harguments, Option.map_some, String.ofList_toList]

lemma argument?_append (name type : String) (hname : isWord name.toList) (hne : name.toList ≠ []) :
    argument? (name.toList ++ (": ".toList ++ type.toList)) = some (name, type) := by
  have hspace : (name.toList ++ (": ".toList ++ type.toList)).dropWhile (· = ' ') =
      name.toList ++ (": ".toList ++ type.toList) := by
    obtain ⟨c, rest, hc⟩ := List.exists_cons_of_ne_nil hne
    have hfirst : c ≠ ' ' := by
      rintro rfl
      exact notMem_of_isWord (c := ' ') (by decide) hname (hc ▸ List.mem_cons_self)
    rw [hc, List.cons_append, List.dropWhile_cons_of_neg (by simpa using hfirst)]
  have hup : upTo ": ".toList (name.toList ++ (": ".toList ++ type.toList)) =
      some (name.toList, type.toList) :=
    upTo_append (c := ':') (by decide) (notMem_of_isWord (by decide) hname) type.toList
  rw [argument?, hspace, hup]
  simp

lemma field?_argument {name key type : String} (value : String) (hname : isWord name.toList)
    (hkey : isWord key.toList)
    (hne : key.toList ≠ []) (hparen : ')' ∉ value.toList) (hcomma : ',' ∉ value.toList) :
    field? (' ' :: ' ' :: (name.toList ++ '(' :: ((key.toList ++ (": ".toList ++ value.toList)) ++
      ("): ".toList ++ type.toList)))) = some ⟨name, [(key, value)], type⟩ := by
  refine field?_arguments _ [(key, value)] type hname ?_ ?_
  · simp [notMem_of_isWord (c := ')') (by decide) hkey, hparen]
  · rw [splitAt_of_notMem (by simp [notMem_of_isWord (c := ',') (by decide) hkey, hcomma])]
    simp only [List.mapM_cons, List.mapM_nil, argument?_append key value hkey hne]
    rfl

lemma field?_listLine (h : isWord d.token.toList) :
    field? (operationLine d.listRoute).toList = some (fieldOf d.listRoute) := by
  have hid := Domain.isWord_operationId h (r := d.listRoute) (by simp [Domain.routes])
  have hline : (operationLine d.listRoute).toList = ' ' :: ' ' :: (d.listRoute.operationId.toList ++
      '(' ::
        ("limit: Int, offset: Int, cursor: String".toList ++
          ("): ".toList ++ ("[" ++ d.responseName ++ "!]!").toList))) := by
    simp [operationLine, Domain.listRoute]
  rw [hline]
  exact field?_arguments _ [("limit", "Int"), ("offset", "Int"), ("cursor", "String")] _ hid
    (by decide) (by decide)

lemma field?_createLine (h : isWord d.token.toList) :
    field? (operationLine d.createRoute).toList = some (fieldOf d.createRoute) := by
  have hid := Domain.isWord_operationId h (r := d.createRoute) (by simp [Domain.routes])
  have hword := Domain.isWord_createRequestName h
  have hline : (operationLine d.createRoute).toList = ' ' :: ' ' :: (d.createRoute.operationId.toList ++
      '(' :: (("input".toList ++ (": ".toList ++ (d.createRequestName ++ "!").toList)) ++
        ("): ".toList ++ (d.responseName ++ "!").toList))) := by
    simp [operationLine, Domain.createRoute]
  rw [hline]
  refine field?_argument (d.createRequestName ++ "!") hid (by decide) (by decide) ?_ ?_
  · simp [notMem_of_isWord (c := ')') (by decide) hword]
  · simp [notMem_of_isWord (c := ',') (by decide) hword]

lemma field?_getLine (h : isWord d.token.toList) :
    field? (operationLine d.getRoute).toList = some (fieldOf d.getRoute) := by
  have hid := Domain.isWord_operationId h (r := d.getRoute) (by simp [Domain.routes])
  have hparams := Domain.pathParams_getRoute (Domain.plain_of_isWord h)
  have hkind : d.getRoute.kind = .get := rfl
  have hline : (operationLine d.getRoute).toList = ' ' :: ' ' :: (d.getRoute.operationId.toList ++
      '(' ::
        ((d.pathParam.toList ++ (": ".toList ++ "ID!".toList)) ++
          ("): ".toList ++ d.responseName.toList))) := by
    simp only [operationLine, hparams, hkind]
    simp [Domain.getRoute]
  rw [hline, fieldOf, hparams]
  exact field?_argument "ID!" hid (Domain.isWord_pathParam h) (by simp [Domain.pathParam])
    (by decide) (by decide)

lemma field?_operationLine (h : isWord d.token.toList) (hr : r ∈ d.routes) :
    field? (operationLine r).toList = some (fieldOf r) := by
  rcases Domain.eq_of_mem_routes hr with rfl | rfl | rfl
  · exact field?_listLine h
  · exact field?_createLine h
  · exact field?_getLine h

lemma notMem_operationLine (h : isWord d.token.toList) (hr : r ∈ d.routes) :
    '\n' ∉ (operationLine r).toList := by
  have hid := notMem_of_isWord (c := '\n') (by decide) (Domain.isWord_operationId h hr)
  have hresponse := notMem_of_isWord (c := '\n') (by decide) (Domain.isWord_capitalized h)
  have hrequest := notMem_of_isWord (c := '\n') (by decide) (Domain.isWord_createRequestName h)
  have hparam := notMem_of_isWord (c := '\n') (by decide) (Domain.isWord_pathParam h)
  have hparams := Domain.pathParams_getRoute (Domain.plain_of_isWord h)
  rcases Domain.eq_of_mem_routes hr with rfl | rfl | rfl
  · simp_all [operationLine, Domain.listRoute, Domain.responseName_eq]
  · simp_all [operationLine, Domain.createRoute, Domain.responseName_eq]
  · have hkind : d.getRoute.kind = .get := rfl
    simp only [operationLine, hparams, hkind]
    simp_all [Domain.getRoute, Domain.responseName_eq]

lemma header?_append {keyword name : String} (hkeyword : isWord keyword.toList) (hname : isWord name.toList) :
    header? (keyword ++ " " ++ name ++ " \x7b").toList = some ⟨keyword, name, []⟩ := by
  have hsplit : splitAt ' ' (keyword ++ " " ++ name ++ " \x7b").toList =
      [keyword.toList, name.toList, ['\x7b']] := by
    have hline : (keyword ++ " " ++ name ++ " \x7b").toList =
        keyword.toList ++ ' ' :: (name.toList ++ ' ' :: ['\x7b']) := by simp
    rw [hline, splitAt_append (notMem_of_isWord (by decide) hkeyword),
      splitAt_append (notMem_of_isWord (by decide) hname)]
    rfl
  rw [header?, hsplit]
  simp

lemma prints_block {keyword name : String} {lines : List String} {fields : List Sdl.Field}
    (hkeyword : isWord keyword.toList)
    (hname : isWord name.toList) (hlines : ∀ line ∈ lines, '\n' ∉ line.toList)
    (hfields : List.Forall₂ (fun line f => field? line.toList = some f) lines fields) :
    Prints (block keyword name lines) ⟨keyword, name, fields⟩ := by
  have hjoin : (block keyword name lines).toList =
      ['\n'].intercalate
        ((keyword ++ " " ++ name ++ " \x7b").toList :: lines.map String.toList ++ [['\x7d']]) := by
    rw [block, String.toList_intercalate]
    simp
  have hheader : '\n' ∉ (keyword ++ " " ++ name ++ " \x7b").toList := by
    simp [notMem_of_isWord (c := '\n') (by decide) hkeyword, notMem_of_isWord (c := '\n') (by decide) hname]
  have hall : ∀ line ∈ (keyword ++ " " ++ name ++ " \x7b").toList :: lines.map String.toList ++ [['\x7d']],
      '\n' ∉ line := by
    simp only [List.forall_mem_append, List.forall_mem_cons, List.forall_mem_map]
    exact ⟨⟨hheader, hlines⟩, by decide, List.forall_mem_nil _⟩
  refine ⟨_, _, hjoin ▸ splitAt_intercalate (by simp) hall, by simp, header?_append hkeyword hname, ?_⟩
  rw [List.forall₂_map_left_iff]
  refine hfields.imp fun line f hfield => ⟨fun hclosing => ?_, hfield⟩
  rw [hclosing] at hfield
  cases hfield

def plainField (f : ApiScaffold.Field) : Sdl.Field := ⟨f.name, [], f.graphql⟩

def responseBlock (d : Domain) : Block := ⟨"type", d.responseName, Field.entity.map plainField⟩

def requestBlock (d : Domain) : Block := ⟨"input", d.createRequestName, Field.creation.map plainField⟩

def rootBlocks (name : String) (routes : List Route) : List Block :=
  if routes.isEmpty then [] else [⟨"type", name, routes.map fieldOf⟩]

def types (domains : List Domain) : List Block := domains.flatMap fun d => [responseBlock d, requestBlock d]

def roots (routes : List Route) : List Block :=
  rootBlocks "Query" (routes.filter isQuery) ++ rootBlocks "Mutation" (routes.filter (!isQuery ·))

lemma prints_fieldLines {keyword name : String} (hkeyword : isWord keyword.toList)
    (hname : isWord name.toList)
    {fields : List ApiScaffold.Field} (h : ∀ f ∈ fields, isWord f.name.toList ∧ '\n' ∉ f.graphql.toList) :
    Prints (block keyword name (fieldLines fields)) ⟨keyword, name, fields.map plainField⟩ := by
  refine prints_block hkeyword hname ?_ ?_
  · refine List.forall_mem_map.mpr fun f hf => ?_
    simp [notMem_of_isWord (c := '\n') (by decide) (h f hf).1, (h f hf).2]
  · rw [fieldLines, List.forall₂_map_left_iff, List.forall₂_map_right_iff, List.forall₂_same]
    intro f hf
    obtain ⟨htake, hdrop⟩ := takeWhile_word (h f hf).1 (c := ':') (by decide) (' ' :: f.graphql.toList)
    have hline : ("  " ++ f.name ++ ": " ++ f.graphql).toList =
        ' ' :: ' ' :: (f.name.toList ++ ':' :: ' ' :: f.graphql.toList) := by
      simp
    rw [hline]
    simp [field?, htake, hdrop, plainField]

lemma prints_domainBlocks (h : isWord d.token.toList) :
    List.Forall₂ Prints (domainBlocks d) [responseBlock d, requestBlock d] := by
  have hresponse : isWord d.responseName.toList := isWord_concat (Domain.isWord_capitalized h) (by decide)
  refine .cons (prints_fieldLines (by decide) hresponse (by decide)) (.cons (prints_fieldLines (by decide)
    (Domain.isWord_createRequestName h) (by decide)) .nil)

lemma prints_rootBlock (name : String) (hname : isWord name.toList) {routes : List Route}
    (h : ∀ r ∈ routes, field? (operationLine r).toList = some (fieldOf r) ∧ '\n' ∉ (operationLine r).toList) :
    List.Forall₂ Prints (rootBlock name routes) (rootBlocks name routes) := by
  unfold rootBlock rootBlocks
  split
  · exact .nil
  · refine .cons (prints_block (by decide) hname ?_ ?_) .nil
    · exact List.forall_mem_map.mpr fun r hr => (h r hr).2
    · rw [List.forall₂_map_left_iff, List.forall₂_map_right_iff, List.forall₂_same]
      exact fun r hr => (h r hr).1

lemma read_schema (h : ∀ d ∈ domains, isWord d.token.toList) :
    read (schema domains (RouteTable.ofDomains domains)) =
      some (types domains ++ roots (RouteTable.ofDomains domains)) := by
  have hroutes (p : Route → Bool) : ∀ r ∈ (RouteTable.ofDomains domains).filter p,
      field? (operationLine r).toList = some (fieldOf r) ∧ '\n' ∉ (operationLine r).toList := by
    intro r hr
    obtain ⟨d, hd, hr⟩ := RouteTable.mem_ofDomains.mp (List.mem_filter.mp hr).1
    exact ⟨field?_operationLine (h d hd) hr, notMem_operationLine (h d hd) hr⟩
  have hdomains : List.Forall₂ Prints (domains.flatMap domainBlocks) (types domains) := by
    have hsame : List.Forall₂ (fun d e => d = e ∧ isWord d.token.toList) domains domains :=
      List.forall₂_same.mpr fun d hd => ⟨rfl, h d hd⟩
    refine List.rel_flatMap hsame ?_
    rintro d _ ⟨rfl, hd⟩
    exact prints_domainBlocks hd
  have hqueries := prints_rootBlock "Query" (by decide) (hroutes isQuery)
  have hmutations := prints_rootBlock "Mutation" (by decide) (hroutes (!isQuery ·))
  rw [roots, ← List.append_assoc]
  exact read_intercalate (List.rel_append (List.rel_append hdomains hqueries) hmutations)

end GraphQl

namespace OpenApi

def operations (document : Data) : List (String × String × Data) :=
  match document.get? "paths" with
  | some (.map paths) => paths.flatMap fun (path, item) =>
    match item with
    | .map ops => ops.map fun (method, op) => (path, method, op)
    | _ => []
  | _ => []

def operationIds (document : Data) : List String :=
  (operations document).filterMap fun (_, _, op) =>
    match op.get? "operationId" with
    | some (.string id) => some id
    | _ => none

def pathParameters (op : Data) : List String :=
  match op.get? "parameters" with
  | some (.list parameters) => parameters.filterMap fun parameter =>
    match parameter.get? "in", parameter.get? "name" with
    | some (.string "path"), some (.string name) => some name
    | _, _ => none
  | _ => []

def referencesAt (key : String) (op : Data) : List Data :=
  match op.get? key with
  | some part => part.valuesAt "$ref"
  | none => []

variable {domains : List Domain}

lemma operations_eraseDups (version : String) (domains : List Domain) :
    operations (document version domains (RouteTable.ofDomains domains)) =
      (RouteTable.ofDomains domains.eraseDups).map fun r => (r.path, r.method.key, operation r) := by
  have hpaths : (document version domains (RouteTable.ofDomains domains)).get? "paths" =
      some (.map ((paths (RouteTable.ofDomains domains)).map fun entry => (entry.1, .map entry.2))) := rfl
  have hlisting := listing_paths domains
  rw [listing] at hlisting
  rw [operations, hpaths, ← hlisting]
  simp only [List.flatMap_map]

lemma operations_document (hn : domains.Nodup) (version : String) :
    operations (document version domains (RouteTable.ofDomains domains)) =
      (RouteTable.ofDomains domains).map fun r => (r.path, r.method.key, operation r) := by
  rw [operations_eraseDups, eraseDups_of_nodup hn]

lemma operationId_operation (r : Route) : (operation r).get? "operationId" = some (.string r.operationId) :=
  rfl

lemma operationIds_document (hn : domains.Nodup) (version : String) :
    operationIds (document version domains (RouteTable.ofDomains domains)) =
      RouteTable.operationIds (RouteTable.ofDomains domains) := by
  rw [operationIds, operations_document hn, List.filterMap_map]
  simp only [Function.comp_def, operationId_operation]
  exact congrFun (List.filterMap_eq_map ..) _

lemma pathParameters_operation (d : Domain) :
    pathParameters (operation d.getRoute) = d.getRoute.pathParams := by
  have hparameters : (operation d.getRoute).get? "parameters" =
      some (.list (d.getRoute.pathParams.map pathParameter)) := rfl
  rw [pathParameters, hparameters]
  simp only [List.filterMap_map]
  exact List.filterMap_some

end OpenApi

namespace GraphQl

open Text Sdl

variable {d : Domain} {r : Route} {domains : List Domain}

def rootOf : Method → String
  | .get => "Query"
  | .post => "Mutation"

def rootNames : List String := [rootOf .get, rootOf .post]

def typeForms : List (String × String) := [("", "Response"), ("Create", "Request")]

lemma names_types (domains : List Domain) :
    (types domains).map Block.name = domains.flatMap fun d => typeForms.map d.spelled := by
  rw [types, List.map_flatMap]
  refine List.flatMap_congr fun d _ => ?_
  simp [responseBlock, requestBlock, typeForms, Domain.spelled, Domain.responseName_eq,
    Domain.createRequestName_eq]

lemma names_roots (routes : List Route) : ((roots routes).map Block.name).Sublist rootNames := by
  have hblock (name : String) (routes : List Route) :
      ((rootBlocks name routes).map Block.name).Sublist [name] := by
    unfold rootBlocks
    split
    · exact List.nil_sublist _
    · exact .refl _
  rw [roots, List.map_append]
  exact (hblock "Query" _).append (hblock "Mutation" _)

lemma spelled_notMem_rootNames (d : Domain) {form : String × String} (hform : form ∈ typeForms) :
    d.spelled form ∉ rootNames := by
  have hclash : ∀ form ∈ typeForms, ∀ name ∈ rootNames, clash form.2.toList.reverse name.toList.reverse := by
    decide
  intro hmem
  exact ne_of_clash_reverse (hclash form hform _ hmem) (form.1 ++ d.capitalized) "" rfl

lemma nodup_names (hcaps : (domains.map Domain.capitalized).Nodup) :
    ((types domains).map Block.name ++ rootNames).Nodup := by
  rw [names_types]
  refine List.nodup_append.mpr ⟨Domain.nodup_spelled hcaps (by decide) (by decide), by decide, ?_⟩
  rintro name hname _ hroot rfl
  obtain ⟨d, -, hname⟩ := List.mem_flatMap.mp hname
  obtain ⟨form, hform, rfl⟩ := List.mem_map.mp hname
  exact spelled_notMem_rootNames d hform hroot

lemma declares_of_mem {blocks : List Block} (hn : (blocks.map Block.name).Nodup) {b : Block}
    (hb : b ∈ blocks) :
    Declares blocks b.keyword b.name := ⟨b, Assoc.filter_key hn hb, rfl⟩

lemma isQuery_eq (h : r ∈ RouteTable.ofDomains domains) : isQuery r = decide (r.method = .get) := by
  obtain ⟨d, -, hr⟩ := RouteTable.mem_ofDomains.mp h
  rcases Domain.eq_of_mem_routes hr with rfl | rfl | rfl <;> rfl

lemma fieldsOf_rootBlocks (name other : String) (routes : List Route) :
    fieldsOf name (rootBlocks other routes) = if other = name then routes.map fieldOf else [] := by
  unfold rootBlocks fieldsOf
  cases routes with
  | nil => simp
  | cons r rest => by_cases h : other = name <;> simp [h]

lemma fieldsOf_append (name : String) (xs ys : List Block) :
    fieldsOf name (xs ++ ys) = fieldsOf name xs ++ fieldsOf name ys := by
  simp only [fieldsOf, List.filter_append, List.flatMap_append]

def blocks (domains : List Domain) : List Block := types domains ++ roots (RouteTable.ofDomains domains)

lemma nodup_blocks (hcaps : (domains.map Domain.capitalized).Nodup) :
    ((blocks domains).map Block.name).Nodup := by
  rw [blocks, List.map_append]
  exact (nodup_names hcaps).sublist ((names_roots _).append_left _)

lemma fieldsOf_rootOf (hcaps : (domains.map Domain.capitalized).Nodup) (method : Method) :
    fieldsOf (rootOf method) (blocks domains) =
      ((RouteTable.ofDomains domains).filter (·.method = method)).map fieldOf := by
  have htypes : fieldsOf (rootOf method) (types domains) = [] := by
    have hroot : rootOf method ∈ rootNames := by cases method <;> decide
    have hnone : (types domains).filter (·.name = rootOf method) = [] := by
      refine List.filter_eq_nil_iff.mpr fun b hb heq => ?_
      have hdisjoint := List.disjoint_of_nodup_append (nodup_names hcaps)
      exact hdisjoint (List.mem_map_of_mem hb) (of_decide_eq_true heq ▸ hroot)
    rw [fieldsOf, hnone, List.flatMap_nil]
  rw [blocks, fieldsOf_append, htypes, List.nil_append, roots, fieldsOf_append, fieldsOf_rootBlocks,
    fieldsOf_rootBlocks]
  cases method with
  | get =>
    have hqueries : (RouteTable.ofDomains domains).filter isQuery =
        (RouteTable.ofDomains domains).filter (·.method = .get) :=
      List.filter_congr fun r hr => isQuery_eq hr
    rw [hqueries]
    simp [rootOf]
  | post =>
    have hmutations : (RouteTable.ofDomains domains).filter (!isQuery ·) =
        (RouteTable.ofDomains domains).filter (·.method = .post) := by
      refine List.filter_congr fun r hr => ?_
      rw [isQuery_eq hr]
      cases r.method <;> rfl
    rw [hmutations]
    simp [rootOf]

lemma name_fieldOf (r : Route) : (fieldOf r).name = r.operationId := by
  cases hkind : r.kind <;> simp [fieldOf, hkind]

lemma names_fieldsOf (hcaps : (domains.map Domain.capitalized).Nodup) (method : Method) :
    (fieldsOf (rootOf method) (blocks domains)).map Sdl.Field.name =
      RouteTable.operationIds ((RouteTable.ofDomains domains).filter (·.method = method)) := by
  rw [fieldsOf_rootOf hcaps, List.map_map]
  exact List.map_congr_left fun r _ => name_fieldOf r

lemma perm_names_fieldsOf (hcaps : (domains.map Domain.capitalized).Nodup) :
    (rootNames.flatMap fun root => (fieldsOf root (blocks domains)).map Sdl.Field.name).Perm
      (RouteTable.operationIds (RouteTable.ofDomains domains)) := by
  have hpost : (RouteTable.ofDomains domains).filter (·.method = .post) =
      (RouteTable.ofDomains domains).filter fun r => !decide (r.method = .get) :=
    List.filter_congr fun r _ => by cases r.method <;> rfl
  have hsplit :=
    (List.filter_append_perm (fun r => decide (r.method = .get)) (RouteTable.ofDomains domains)).map
      Route.operationId
  rw [rootNames, List.flatMap_cons, List.flatMap_cons, List.flatMap_nil, List.append_nil,
    names_fieldsOf hcaps, names_fieldsOf hcaps, hpost]
  rwa [List.map_append] at hsplit

lemma namedType_append (before after : String) {name : String} (hname : isWord name.toList)
    (hmarks : (before.toList ++ after.toList).all (· ∈ ['[', ']', '!'])) :
    namedType (before ++ name ++ after) = name := by
  have hword : ∀ c ∈ name.toList, c ∉ ['[', ']', '!'] := by
    have hmark : ['[', ']', '!'].all (!isWordChar ·) := by decide
    intro c hc hmem
    exact notMem_of_isWord (by simpa using List.all_eq_true.mp hmark c hmem) hname hc
  have hfilter (s : List Char) (h : s.all (· ∈ ['[', ']', '!'])) : s.filter (· ∉ ['[', ']', '!']) = [] :=
    List.filter_eq_nil_iff.mpr fun c hc hnot =>
      of_decide_eq_true hnot (of_decide_eq_true (List.all_eq_true.mp h c hc))
  rw [List.all_append, Bool.and_eq_true] at hmarks
  rw [namedType, String.toList_append, String.toList_append, List.filter_append, List.filter_append,
    hfilter _ hmarks.1,
    hfilter _ hmarks.2, List.filter_eq_self.mpr fun c hc => decide_eq_true (hword c hc), List.nil_append,
    List.append_nil, String.ofList_toList]

structure Agrees (r : Route) (op : Data) (field : Sdl.Field) : Prop where
  name : field.name = r.operationId
  operationId : op.get? "operationId" = some (.string r.operationId)
  parameters : r.kind = .get → field.arguments = (OpenApi.pathParameters op).map (·, "ID!")
  response : OpenApi.referencesAt "responses" op = [OpenApi.pointer (namedType field.type)]
  request : OpenApi.referencesAt "requestBody" op = field.inputs.map OpenApi.pointer

lemma namedType_fieldOf (h : isWord d.token.toList) (hr : r ∈ d.routes) :
    namedType (fieldOf r).type = d.responseName := by
  have hresponse : isWord d.responseName.toList := isWord_concat (Domain.isWord_capitalized h) (by decide)
  rcases Domain.eq_of_mem_routes hr with rfl | rfl | rfl
  · have htype : (fieldOf d.listRoute).type = "[" ++ d.responseName ++ "!]!" := rfl
    rw [htype, namedType_append "[" "!]!" hresponse (by decide)]
  · have htype : (fieldOf d.createRoute).type = "" ++ d.responseName ++ "!" := by
      simp [fieldOf, Domain.createRoute]
    rw [htype, namedType_append "" "!" hresponse (by decide)]
  · have htype : (fieldOf d.getRoute).type = "" ++ d.responseName ++ "" := by simp [fieldOf, Domain.getRoute]
    rw [htype, namedType_append "" "" hresponse (by decide)]

lemma inputs_fieldOf (h : isWord d.token.toList) (hr : r ∈ d.routes) :
    (fieldOf r).inputs = if r.kind = .create then [d.createRequestName] else [] := by
  rcases Domain.eq_of_mem_routes hr with rfl | rfl | rfl
  · rfl
  · have hinput : namedType (d.createRequestName ++ "!") = d.createRequestName := by
      simpa using namedType_append "" "!" (Domain.isWord_createRequestName h) (by decide)
    have hscalar : d.createRequestName ∉ scalars := by
      have hclash : ∀ scalar ∈ scalars, clash "Create".toList scalar.toList := by decide
      intro hmem
      exact ne_of_clash (hclash _ hmem) (d.capitalized ++ "Request") ""
        (by simp [Domain.createRequestName_eq, String.append_assoc])
    simp [fieldOf, Sdl.Field.inputs, Domain.createRoute, hinput, hscalar]
  · have hkind : d.getRoute.kind = .get := rfl
    have hparams := Domain.pathParams_getRoute (Domain.plain_of_isWord h)
    have hid : namedType "ID!" ∈ scalars := by decide
    simp only [fieldOf, hparams, hkind]
    simp [Sdl.Field.inputs, hid]

lemma agrees_fieldOf (h : isWord d.token.toList) (hr : r ∈ d.routes) : Agrees r (OpenApi.operation r)
    (fieldOf r) where
  name := name_fieldOf r
  operationId := rfl
  parameters hkind := by
    rcases Domain.eq_of_mem_routes hr with rfl | rfl | rfl
    · cases hkind
    · cases hkind
    · rw [OpenApi.pathParameters_operation]
      rfl
  response := by
    rw [namedType_fieldOf h hr]
    rcases Domain.eq_of_mem_routes hr with rfl | rfl | rfl <;> rfl
  request := by
    rw [inputs_fieldOf h hr]
    rcases Domain.eq_of_mem_routes hr with rfl | rfl | rfl <;> rfl

/-- What the blocks of a schema, those of its types and those of its roots, say of a route table and of the
document of the same routes. -/
structure Describes (routes : List Route) (document : Data) (types roots : List Block) : Prop where
  fields : ∀ method, (fieldsOf (rootOf method) (types ++ roots)).map Sdl.Field.name =
    RouteTable.operationIds (routes.filter (·.method = method))
  once : (rootNames.flatMap fun root => (fieldsOf root (types ++ roots)).map Sdl.Field.name).Nodup
  documented : (rootNames.flatMap fun root => (fieldsOf root (types ++ roots)).map Sdl.Field.name).Perm
    (OpenApi.operationIds document)
  order : (roots.map Block.name).Sublist rootNames
  names : (types.map Block.name ++ rootNames).Nodup
  declared : ∀ root ∈ rootNames, ∀ field ∈ fieldsOf root (types ++ roots),
    Declares (types ++ roots) "type" (namedType field.type) ∧
    ∀ input ∈ field.inputs, Declares (types ++ roots) "input" input
  operations : ∀ r ∈ routes, ∃ field ∈ fieldsOf (rootOf r.method) (types ++ roots), ∃ op,
    (r.path, r.method.key, op) ∈ OpenApi.operations document ∧ Agrees r op field

lemma mem_types {b : Block} : b ∈ types domains ↔
    ∃ d ∈ domains, b = responseBlock d ∨ b = requestBlock d := by
  simp [types]

lemma declares_fieldOf (h : ∀ d ∈ domains, isWord d.token.toList)
    (hcaps : (domains.map Domain.capitalized).Nodup)
    (hr : r ∈ RouteTable.ofDomains domains) : Declares (blocks domains) "type" (namedType (fieldOf r).type) ∧
      ∀ input ∈ (fieldOf r).inputs, Declares (blocks domains) "input" input := by
  obtain ⟨d, hd, hr⟩ := RouteTable.mem_ofDomains.mp hr
  have hresponse : responseBlock d ∈ blocks domains :=
    List.mem_append_left _ (mem_types.mpr ⟨d, hd, .inl rfl⟩)
  have hrequest : requestBlock d ∈ blocks domains := List.mem_append_left _ (mem_types.mpr ⟨d, hd, .inr rfl⟩)
  rw [namedType_fieldOf (h d hd) hr, inputs_fieldOf (h d hd) hr]
  refine ⟨declares_of_mem (nodup_blocks hcaps) hresponse, ?_⟩
  split
  · exact List.forall_mem_singleton.mpr (declares_of_mem (nodup_blocks hcaps) hrequest)
  · exact List.forall_mem_nil _

lemma exists_rootOf {root : String} (h : root ∈ rootNames) : ∃ method, root = rootOf method := by
  rcases List.mem_cons.mp h with rfl | h
  · exact ⟨_, rfl⟩
  · exact ⟨_, List.mem_singleton.mp h⟩

lemma describes_ofDomains (h : ∀ d ∈ domains, isWord d.token.toList)
    (hcaps : (domains.map Domain.capitalized).Nodup) (version : String) :
    Describes (RouteTable.ofDomains domains) (OpenApi.document version domains (RouteTable.ofDomains domains))
      (types domains) (roots (RouteTable.ofDomains domains)) where
  fields := names_fieldsOf hcaps
  once := (perm_names_fieldsOf hcaps).nodup_iff.mpr (RouteTable.nodup_operationIds hcaps)
  documented := by
    rw [OpenApi.operationIds_document (.of_map _ hcaps)]
    exact perm_names_fieldsOf hcaps
  order := names_roots _
  names := nodup_names hcaps
  declared root hroot field hfield := by
    obtain ⟨method, rfl⟩ := exists_rootOf hroot
    obtain ⟨r, hr, rfl⟩ := List.mem_map.mp (fieldsOf_rootOf hcaps method ▸ hfield)
    exact declares_fieldOf h hcaps (List.mem_filter.mp hr).1
  operations r hr := by
    have hroute : r ∈ (RouteTable.ofDomains domains).filter (·.method = r.method) :=
      List.mem_filter.mpr ⟨hr, by simp⟩
    have hfield : fieldOf r ∈ fieldsOf (rootOf r.method) (blocks domains) :=
      fieldsOf_rootOf hcaps r.method ▸ List.mem_map_of_mem hroute
    refine ⟨fieldOf r, hfield, OpenApi.operation r, ?_, ?_⟩
    · rw [OpenApi.operations_document (.of_map _ hcaps)]
      exact List.mem_map_of_mem hr
    · obtain ⟨d, hd, hr⟩ := RouteTable.mem_ofDomains.mp hr
      exact agrees_fieldOf (h d hd) hr

/-- Where no two tokens are capitalized alike, the schema and the document have the same operations. -/
theorem schema_describes_document (tokens : List String) (version : String)
    (htokens : ∀ token ∈ tokens, isIdentifier token) (hcaps : (tokens.map capitalize).Nodup) :
    let domains := tokens.map Domain.mk
    let routes := RouteTable.ofDomains domains
    ∃ types roots, read (schema domains routes) = some (types ++ roots) ∧
      Describes routes (OpenApi.document version domains routes) types roots := by
  intro domains routes
  have hwords : ∀ d ∈ domains, isWord d.token.toList :=
    List.forall_mem_map.mpr fun token htoken => isWord_of_isIdentifier (htokens token htoken)
  have hcapitalized : (domains.map Domain.capitalized).Nodup := by
    rw [List.map_map]
    exact hcaps
  exact ⟨types domains, roots routes, read_schema hwords, describes_ofDomains hwords hcapitalized version⟩

theorem schema_describes_document_userItem :
    let tokens := ["user", "_item2"]
    let domains := tokens.map Domain.mk
    let routes := RouteTable.ofDomains domains
    (∀ token ∈ tokens, isIdentifier token) ∧ (tokens.map capitalize).Nodup ∧
    ∃ types roots, read (schema domains routes) = some (types ++ roots) ∧
      Describes routes (OpenApi.document "3.1.0" domains routes) types roots := by
  have htokens : ∀ token ∈ ["user", "_item2"], isIdentifier token := by decide
  have hcaps : (["user", "_item2"].map capitalize).Nodup := by decide
  exact ⟨htokens, hcaps, schema_describes_document ["user", "_item2"] "3.1.0" htokens hcaps⟩

end GraphQl

end ApiScaffold
