import ApiScaffold.Proofs.Api.Surface
import ApiScaffold.Proofs.Package.Adapter
import ApiScaffold.Proofs.Package.Contracts
import ApiScaffold.Proofs.Template.Reading

/-!
The lines of generated sources off which the interface is read, for tokens that are words: one for each
route in the route table, one for each mount in the router, two for each handler of a controller.
-/

namespace ApiScaffold

open Template Text Chain

namespace ContractsPackage

open Node

variable {plan : Plan}

def routeLine (r : Route) : List Char :=
  layout Surface.routeStart [(r.method.name.toList, "', path: '".toList),
    (r.path.toList, "', operationId: '".toList), (r.operationId.toList, "' \x7d,".toList)]

def routeLines : Template := [
  forEach "route" (var "routes") [
    text "  \x7b method: '", field "route" ["method", "value"], text "', path: '",
    field "route" ["path"], text "', operationId: '", field "route" ["operation_id"], text "' \x7d,\n"] []]

lemma slicesTo_routeLines : SlicesTo [Surface.routeStart]
    (routesEnv true) Template.Contracts.routes routeLines := by
  unfold routeLines
  apply SlicesTo.intro
  · cbv
    repeat' constructor
  · cbv

lemma fits_routes_words (hr : plan.routes = RouteTable.ofDomains plan.domains)
    (h : ∀ d ∈ plan.domains, isWord d.token.toList) :
    Fits (.record (routesEnv true)) (.map [("routes", routesData plan.routes)]) := by
  refine .field (fits_list_map fun r hroute => ?_) .empty
  obtain ⟨d, hd, hroute⟩ := RouteTable.mem_ofDomains.mp (hr ▸ hroute)
  exact Domain.fits_route (fun _ => h d hd) hroute (.text _)

lemma notMem_routeLine {d : Domain} {r : Route} (h : isWord d.token.toList) (hr : r ∈ d.routes) :
    '\n' ∉ routeLine r := by
  have hmethod := notMem_of_isWord (c := '\n') (by decide) (Route.isWord_name r.method)
  have hpath := Domain.notMem_path (c := '\n') (by decide) (by decide) h hr
  have hop := notMem_of_isWord (c := '\n') (by decide) (Domain.isWord_operationId h hr)
  refine notMem_layout (by decide) ?_
  simp only [List.forall_mem_cons]
  exact ⟨⟨hmethod, by decide⟩, ⟨hpath, by decide⟩, ⟨hop, by decide⟩, List.forall_mem_nil _⟩

lemma renderNodes_routeLine (scope : Scope) (r : Route) :
    renderNodes (scope.bind "route" r.toData) [
      text "  \x7b method: '", field "route" ["method", "value"], text "', path: '", field "route" ["path"],
      text "', operationId: '", field "route" ["operation_id"], text "' \x7d,\n"] =
    .ok (String.ofList (unlines [routeLine r])) := by
  have hrender : renderNodes (scope.bind "route" r.toData) [
        text "  \x7b method: '", field "route" ["method", "value"], text "', path: '", field "route" ["path"],
        text "', operationId: '", field "route" ["operation_id"], text "' \x7d,\n"] =
      .ok ("  \x7b method: '" ++
        (r.method.name ++ ("', path: '" ++ (r.path ++ ("', operationId: '" ++ (r.operationId ++
        ("' \x7d,\n" ++ ""))))))) := by
    simp only [renderNodes, field]
    rfl
  rw [hrender, Except.ok.injEq, ← String.toList_inj]
  unfold routeLine Surface.routeStart
  simp [unlines, layout]

lemma linesWith_routes (hr : plan.routes = RouteTable.ofDomains plan.domains)
    (h : ∀ d ∈ plan.domains, isWord d.token.toList) {source : String}
    (hs : Template.render Template.Contracts.routes [("routes", routesData plan.routes)] = .ok source) :
    linesWith [Surface.routeStart] source = plan.routes.map routeLine := by
  have hk : renderNodes [("routes", .defined (routesData plan.routes))] routeLines =
      .ok (String.join (plan.routes.map fun r => String.ofList (unlines [routeLine r]))) :=
    renderNodes_loop (f := Route.toData) rfl fun r _ last => renderNodes_routeLine _ r
  rw [linesWith_render (fits_routes_words hr h) (by decide) (by decide) slicesTo_routeLines hs hk, lines_join]
  · exact List.map_eq_flatMap.symm
  · intro r hroute l hl
    obtain ⟨d, hd, hroute⟩ := RouteTable.mem_ofDomains.mp (hr ▸ hroute)
    obtain rfl := List.mem_singleton.mp hl
    exact notMem_routeLine (h d hd) hroute

lemma readRoute_routeLine {d : Domain} {r : Route} (h : isWord d.token.toList) (hr : r ∈ d.routes) :
    Surface.readRoute (routeLine r) = some r.endpoint := by
  have hmethod := notMem_of_isWord (c := '\'') (by decide) (Route.isWord_name r.method)
  have hpath := Domain.notMem_path (c := '\'') (by decide) (by decide) h hr
  have hop := notMem_of_isWord (c := '\'') (by decide) (Domain.isWord_operationId h hr)
  have hfields : readFields Surface.routeStart Surface.routeMarks (routeLine r ++ []) =
      some [r.method.name.toList, r.path.toList, r.operationId.toList] := by
    refine readFields_layout [(_, _), (_, _), (_, _)] ?_ _ []
    simp only [List.forall_mem_cons]
    exact ⟨⟨'\'', by decide, hmethod⟩, ⟨'\'', by decide, hpath⟩, ⟨'\'', by decide, hop⟩,
      List.forall_mem_nil _⟩
  rw [List.append_nil] at hfields
  have hname : Surface.methodOfName? r.method.name.toList = some r.method := by
    cases r.method <;> decide
  simp [Surface.readRoute, hfields, hname, Route.endpoint]

lemma ofRouteTable_eq (hr : plan.routes = RouteTable.ofDomains plan.domains)
    (h : ∀ d ∈ plan.domains, isWord d.token.toList) {source : String}
    (hs : Template.render Template.Contracts.routes [("routes", routesData plan.routes)] = .ok source) :
    Surface.ofRouteTable source = some (plan.routes.map Route.endpoint) := by
  rw [Surface.ofRouteTable, linesWith_routes hr h hs, List.mapM_map]
  refine mapM_some fun r hroute => ?_
  obtain ⟨d, hd, hroute⟩ := RouteTable.mem_ofDomains.mp (hr ▸ hroute)
  exact readRoute_routeLine (h d hd) hroute

end ContractsPackage

end ApiScaffold
