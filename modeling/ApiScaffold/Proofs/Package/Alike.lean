import ApiScaffold.Proofs.Package.Adapter
import ApiScaffold.Proofs.Package.Sketch

/-!
Adapters with the profile of the web. The package of one is that of any other with its own names in it.
-/

namespace ApiScaffold.AdapterPackage

open Template Chain

inductive Mark where
  | id
  | title
  | factory
  | directory

def Mark.value (adapterId : String) : Mark → String
  | id => adapterId
  | title => Text.capitalize adapterId
  | factory => PackageName.routerFactory adapterId
  | directory => PackageName.adapter adapterId

def marks : List (String × Mark) :=
  [("adapter_id", .id), ("adapter_title", .title), ("router_factory", .factory)]

def manifestRest : List (String × Data) := [
  ("main", .string "dist/index.js"),
  ("types", .string "dist/index.d.ts"),
  Manifest.scripts,
  ("dependencies", Manifest.names [("@corebridge/core", "^0.1.0"), ("@corebridge/contracts", "^0.1.0"),
    ("express", "^4.18.2"), ("cookie-parser", "^1.4.6")]),
  ("devDependencies", Manifest.names [("typescript", "^5.3.0"), ("@types/node", "^20.10.0"),
    ("@types/express", "^4.17.21"), ("@types/cookie-parser", "^1.4.6")]),
  Manifest.license]

def manifestPieces : List (Piece Mark) := [
  .text "\x7b\n  \"name\": \"@corebridge/", .escapedHole .directory,
  .text "\",\n  \"version\": \"0.1.0\",\n  \"description\": \"", .escapedHole .title,
  .text " platform adapter for CoreBridge\"",
  .text (String.ofList (Json.printEntries false 1 manifestRest ++ Json.newline 0 ++ ['\x7d', '\n']))]

lemma manifest_eq (adapterId : String) : manifest adapterId .web =
    .map (("name", .string ("@corebridge/" ++ PackageName.adapter adapterId)) ::
      ("version", .string "0.1.0") ::
        ("description", .string (Text.capitalize adapterId ++ " platform adapter for CoreBridge")) ::
      manifestRest) := rfl

lemma dump_manifest (adapterId : String) :
    Json.dump (manifest adapterId .web) = fill (Mark.value adapterId) manifestPieces := by
  have hregistry : escaped "@corebridge/" = "@corebridge/" := by decide
  have hdescription : escaped " platform adapter for CoreBridge" = " platform adapter for CoreBridge" := by
    decide
  have hname : Json.quote "name" = "\"name\"".toList := by decide
  have hversion : Json.quote "version" = "\"version\"".toList := by decide
  have hnumber : Json.quote "0.1.0" = "\"0.1.0\"".toList := by decide
  have hkey : Json.quote "description" = "\"description\"".toList := by decide
  rw [manifest_eq, Json.dump, ← String.toList_inj]
  simp only [Json.print, Json.printEntries, List.isEmpty_cons, hname, hversion, hnumber, hkey]
  rw [quote_eq_escaped, quote_eq_escaped, escaped_append, escaped_append, hregistry, hdescription]
  simp [manifestPieces, fill, Piece.fill, Mark.value, Json.newline]

lemma render_context (plan : Plan) (adapterId : String) (profile : Profile) (template : Template) :
    template.render (context plan adapterId profile) =
      renderNodes (.ofContext (context plan adapterId profile)) template := rfl

lemma render_controllerContext (plan : Plan) (adapterId : String) (profile : Profile) (d : Domain)
    (template : Template) :
    template.render (controllerContext plan d ++ context plan adapterId profile) =
      renderNodes (.ofContext (controllerContext plan d ++ context plan adapterId profile)) template := rfl

lemma sameBut_context (plan : Plan) (adapterId other : String) (profile : Profile) :
    SameBut (marks.map Prod.fst) (.ofContext (context plan adapterId profile))
      (.ofContext (context plan other profile)) :=
  .of_append (s := (Scope.ofContext (context plan adapterId profile)).take 3)
    (t := (Scope.ofContext (context plan other profile)).take 3) rfl rfl _

lemma value_context (plan : Plan) (adapterId : String) (profile : Profile) :
    ∀ n m, Assoc.get? n marks = some m →
      (Scope.ofContext (context plan adapterId profile)).value n =
        .defined (.string (m.value adapterId)) := by
  have hall : ∀ entry ∈ marks, (Scope.ofContext (context plan adapterId profile)).value entry.1 =
      .defined (.string (entry.2.value adapterId)) := by
    simp only [marks, List.forall_mem_cons]
    exact ⟨rfl, rfl, rfl, List.forall_mem_nil _⟩
  exact fun n m hm => hall (n, m) (Assoc.mem_of_get? hm)

def leadingSketches (plan : Plan) : List (Sketch Mark) :=
  let base := context plan "web" .web
  [⟨"package.json", .ok manifestPieces⟩,
    .ofDraft (.text "tsconfig.json" (Json.dump Manifest.compilerSettings)),
    .ofTemplate marks "src/middleware/auth.ts" Template.Adapter.sessionAuth base,
    .ofDraft (.ofTemplate "src/middleware/errorHandler.ts" Template.Adapter.errorHandler base),
    .ofDraft (.ofTemplate "src/transformers/request.ts" Template.Adapter.request base),
    .ofDraft (.ofTemplate "src/transformers/response.ts" Template.Adapter.plainResponse base),
    .ofDraft (.ofTemplate "src/extensions/pagination.ts" Template.Adapter.cursorPagination base)]

/-- The drafts of an adapter with holes for what tells it from others. -/
def sketches (plan : Plan) : List (Sketch Mark) :=
  let base := context plan "web" .web
  leadingSketches plan ++ plan.domains.map (fun d => Sketch.ofDraft (controller plan base d))
    ++ [Sketch.ofTemplate marks "src/index.ts" Template.Adapter.index base]

variable {plan : Plan} {adapterId : String}

lemma draft_ofDraft {template : Template} (h : avoids (marks.map Prod.fst) template) (plan : Plan)
    (adapterId path : String) :
    (Sketch.ofDraft (.ofTemplate path template (context plan "web" .web))).draft (Mark.value adapterId) =
      .ofTemplate path template (context plan adapterId .web) := by
  rw [Sketch.draft_ofDraft, Draft.ofTemplate, Draft.ofTemplate, render_context, render_context,
    (sameBut_context plan adapterId "web" .web).renderNodes h]

lemma draft_controller (plan : Plan) (adapterId : String) (d : Domain) :
    (Sketch.ofDraft (controller plan (context plan "web" .web) d)).draft (Mark.value adapterId) =
      controller plan (context plan adapterId .web) d := by
  have h : SameBut (marks.map Prod.fst) (.ofContext (controllerContext plan d ++ context plan adapterId .web))
      (.ofContext (controllerContext plan d ++ context plan "web" .web)) :=
    (sameBut_context plan adapterId "web" .web).append (.ofContext (controllerContext plan d))
  rw [Sketch.draft_ofDraft, controller, controller, Draft.ofTemplate, Draft.ofTemplate,
    render_controllerContext, render_controllerContext, h.renderNodes (by cbv)]

lemma draft_ofTemplate {template : Template} (h : holesOnly marks template) (plan : Plan)
    (adapterId path : String) :
    (Sketch.ofTemplate marks path template (context plan "web" .web)).draft (Mark.value adapterId) =
      .ofTemplate path template (context plan adapterId .web) := by
  rw [Sketch.draft, Draft.ofTemplate, render_context,
    renderNodes_eq_fill (sameBut_context plan adapterId "web" .web) (value_context plan adapterId .web) h]
  rfl

lemma drafts_eq_sketches (plan : Plan) (adapterId : String) :
    drafts plan adapterId .web = (sketches plan).map (Sketch.draft (Mark.value adapterId)) := by
  have hmanifest : (⟨"package.json", .ok manifestPieces⟩ : Sketch Mark).draft (Mark.value adapterId) =
      .text "package.json" (Json.dump (manifest adapterId .web)) := by
    rw [dump_manifest]
    rfl
  have hcontrollers :
      (plan.domains.map fun d => Sketch.ofDraft (controller plan (context plan "web" .web) d)).map
      (Sketch.draft (Mark.value adapterId)) =
        plan.domains.map (controller plan (context plan adapterId .web)) := by
    rw [List.map_map]
    exact List.map_congr_left fun d _ => draft_controller plan adapterId d
  simp only [sketches, leadingSketches, List.map_append, List.map_cons, List.map_nil, hcontrollers, hmanifest,
    Sketch.draft_ofDraft (Mark.value adapterId) (.text ..)]
  rw [draft_ofTemplate (by cbv), draft_ofTemplate (by cbv), draft_ofDraft (by cbv), draft_ofDraft (by cbv),
    draft_ofDraft (by cbv), draft_ofDraft (by cbv)]
  rfl

def namedFiles : List String := ["package.json", "src/middleware/auth.ts", "src/index.ts"]

lemma exists_ofDraft {k : Sketch Mark} (hk : k ∈ sketches plan) (hpath : k.path ∉ namedFiles) :
    ∃ d, k = .ofDraft d := by
  simp only [sketches, leadingSketches, List.mem_append, List.mem_cons, List.mem_map,
    List.not_mem_nil, or_false] at hk
  rcases hk with ((rfl | rfl | rfl | rfl | rfl | rfl | rfl) | ⟨d, -, rfl⟩) | rfl
  · exact absurd List.mem_cons_self hpath
  · exact ⟨_, rfl⟩
  · exact absurd (List.mem_cons_of_mem _ List.mem_cons_self) hpath
  · exact ⟨_, rfl⟩
  · exact ⟨_, rfl⟩
  · exact ⟨_, rfl⟩
  · exact ⟨_, rfl⟩
  · exact ⟨_, rfl⟩
  · exact absurd (List.mem_cons_of_mem _ (List.mem_cons_of_mem _ List.mem_cons_self)) hpath

lemma exists_of_mem_namedFiles (plan : Plan) : ∀ path ∈ namedFiles, ∃ k ∈ sketches plan, k.path = path := by
  simp only [namedFiles, List.forall_mem_cons]
  refine ⟨⟨_, List.mem_append_left _ (List.mem_append_left _ List.mem_cons_self), rfl⟩,
    ⟨_, List.mem_append_left _
    (List.mem_append_left _ (List.mem_cons_of_mem _ (List.mem_cons_of_mem _ List.mem_cons_self))), rfl⟩,
    ⟨_, List.mem_append_right _ List.mem_cons_self, rfl⟩, List.forall_mem_nil _⟩

def textWithHoles (plan : Plan) (path : String) : List (Piece Mark) := Sketch.pieces (sketches plan) path

structure Alike (plan : Plan) (adapterId other : String) (s t : ArtifactSet) : Prop where
  packages : s.package = PackageName.adapter adapterId ∧ t.package = PackageName.adapter other
  paths : s.paths = t.paths
  same : ∀ path ∉ namedFiles, s.get path = t.get path
  named : ∀ path ∈ namedFiles, s.get path = .ok (fill (Mark.value adapterId) (textWithHoles plan path)) ∧
    t.get path = .ok (fill (Mark.value other) (textWithHoles plan path))

lemma generate_eq (hid : adapterId ≠ "mobile") (plan : Plan) : generate plan adapterId =
    ArtifactSet.ofDrafts (PackageName.adapter adapterId)
      ((sketches plan).map (Sketch.draft (Mark.value adapterId))) := by
  rw [generate, Profile.resolve_of_ne hid, drafts_eq_sketches]

lemma alike_ofDrafts {other : String}
    (hrendered : ∀ d ∈ (sketches plan).map (Sketch.draft (Mark.value adapterId)), d.Rendered)
    (hotherRendered : ∀ d ∈ (sketches plan).map (Sketch.draft (Mark.value other)), d.Rendered)
    (hn : ((sketches plan).map Sketch.path).Nodup) :
    Alike plan adapterId other
      ⟨PackageName.adapter adapterId,
        ((sketches plan).map (Sketch.draft (Mark.value adapterId))).map Draft.artifact⟩
      ⟨PackageName.adapter other,
        ((sketches plan).map (Sketch.draft (Mark.value other))).map Draft.artifact⟩ := by
  have hpaths (id : String) : ArtifactSet.paths ⟨PackageName.adapter id,
      ((sketches plan).map (Sketch.draft (Mark.value id))).map Draft.artifact⟩ =
        (sketches plan).map Sketch.path := by
    rw [ArtifactSet.paths_ofDrafts, Sketch.paths_drafts]
  refine ⟨⟨rfl, rfl⟩, (hpaths adapterId).trans (hpaths other).symm, fun path hpath => ?_,
    fun path hpath => ?_⟩
  · by_cases hmem : path ∈ (sketches plan).map Sketch.path
    · obtain ⟨k, hk, rfl⟩ := List.mem_map.mp hmem
      rw [Sketch.get_drafts hrendered hn hk, Sketch.get_drafts hotherRendered hn hk]
      obtain ⟨d, rfl⟩ := exists_ofDraft hk hpath
      exact congrArg Except.ok (Sketch.fill_pieces_ofDraft hn hk)
    · rw [Sketch.get_of_notMem (hpaths adapterId ▸ hmem), Sketch.get_of_notMem (hpaths other ▸ hmem)]
  · obtain ⟨k, hk, rfl⟩ := exists_of_mem_namedFiles plan path hpath
    exact ⟨Sketch.get_drafts hrendered hn hk _, Sketch.get_drafts hotherRendered hn hk _⟩

/--
An adapter without a profile of its own fails where the one of the web does and with the same fault,
else its package is that of the web but for its names.
-/
theorem generate_like_web (plan : Plan) (adapterId : String) (hid : adapterId ≠ "mobile") :
    (∀ fault, generate plan "web" = .error fault →
      generate plan adapterId = .error (fault.inPackage (PackageName.adapter adapterId))) ∧
    ∀ web, generate plan "web" = .ok web → ∃ s, generate plan adapterId = .ok s ∧
    Alike plan adapterId "web" s web := by
  rw [generate_eq hid, generate_eq (by decide)]
  refine ⟨fun fault hfault => Sketch.ofDrafts_eq_error hfault _, fun web hweb => ?_⟩
  obtain ⟨hrendered, hn, rfl⟩ := ArtifactSet.eq_of_ofDrafts_eq_ok hweb
  rw [Sketch.paths_drafts] at hn
  have hs := Sketch.ofDrafts_eq_ok hrendered hn (Mark.value adapterId) (PackageName.adapter adapterId)
  obtain ⟨hotherRendered, -, -⟩ := ArtifactSet.eq_of_ofDrafts_eq_ok hs
  exact ⟨_, hs, alike_ofDrafts hotherRendered hrendered hn⟩

theorem generate_like_web_partner :
    let plan := Plan.ofConfig { domains := ["user"] }
    let repeated := Plan.ofConfig { domains := ["user", "User"] }
    "partner" ≠ "mobile" ∧
    (∃ s web, generate plan "web" = .ok web ∧ generate plan "partner" = .ok s ∧
      Alike plan "partner" "web" s web) ∧
    generate repeated "web" = .error (.duplicate ⟨"adapter-web", "src/controllers/UserController.ts"⟩) ∧
    generate repeated "partner" =
      .error (.duplicate ⟨"adapter-partner", "src/controllers/UserController.ts"⟩) := by
  intro plan repeated
  have hid : "partner" ≠ "mobile" := by decide
  have hwords : ∀ d ∈ repeated.domains, Text.isWord d.token.toList := by decide
  have hparams : ∀ d ∈ repeated.domains, d.getRoute.pathParams ≠ [] :=
    fun d hd => Domain.pathParams_getRoute_ne_nil (hwords d hd)
  have hdomains : repeated.domains = [⟨"user"⟩] ++ ⟨"User"⟩ :: [] := rfl
  have hweb : generate plan "web" = _ :=
    generate_eq_ok rfl "web" (fun d hd => hparams d (List.mem_of_mem_take (i := 1) hd)) (by decide)
  obtain ⟨s, hs, halike⟩ := (generate_like_web plan "partner" hid).2 _ hweb
  have hfault : generate repeated "web" =
      .error (.duplicate ⟨"adapter-web", "src/controllers/UserController.ts"⟩) :=
    generate_of_repeated rfl "web" hparams hdomains (by decide) (by decide)
  exact ⟨hid, ⟨s, _, hweb, hs, halike⟩, hfault, (generate_like_web repeated "partner" hid).1 _ hfault⟩

end ApiScaffold.AdapterPackage
