import ApiScaffold.Api.Route
import ApiScaffold.Proofs.Package.Paths
import Mathlib.Data.List.Flatten

namespace ApiScaffold

open Text

namespace Domain

def spelled (d : Domain) (form : String × String) : String := form.1 ++ d.capitalized ++ form.2

def Apart (f g : String × String) : Prop :=
  clash f.1.toList g.1.toList ∨ clash f.2.toList.reverse g.2.toList.reverse

instance (f g : String × String) : Decidable (Apart f g) := inferInstanceAs (Decidable (_ ∨ _))

variable {d e : Domain} {f g : String × String}

lemma spelled_ne (h : Apart f g) : d.spelled f ≠ e.spelled g := by
  rcases h with h | h
  · rw [spelled, spelled, String.append_assoc, String.append_assoc]
    exact ne_of_clash h _ _
  · exact ne_of_clash_reverse h _ _

lemma capitalized_of_spelled_eq (h : d.spelled f = e.spelled f) : d.capitalized = e.capitalized := by
  simpa [spelled, ← String.toList_inj] using h

lemma nodup_spelled {domains : List Domain} {forms : List (String × String)}
    (hcaps : (domains.map capitalized).Nodup)
    (hforms : forms.Nodup) (hapart : ∀ f ∈ forms, ∀ g ∈ forms, f = g ∨ Apart f g) :
    (domains.flatMap fun d => forms.map d.spelled).Nodup := by
  rw [List.nodup_flatMap]
  refine ⟨fun d _ => hforms.map_on fun f hf g hg heq => ?_, ?_⟩
  · exact (hapart f hf g hg).resolve_right fun h => spelled_ne h heq
  · refine (List.pairwise_map.mp hcaps).imp fun {d e} hne => ?_
    rintro name hd he
    obtain ⟨f, hf, rfl⟩ := List.mem_map.mp hd
    obtain ⟨g, hg, heq⟩ := List.mem_map.mp he
    rcases hapart g hg f hf with rfl | h
    · exact hne (capitalized_of_spelled_eq heq).symm
    · exact spelled_ne h heq

lemma nodup_capitalized_of_spelled {domains : List Domain} {forms : List (String × String)} (hf : f ∈ forms)
    (h : (domains.flatMap fun d => forms.map d.spelled).Nodup) : (domains.map capitalized).Nodup := by
  refine List.pairwise_map.mpr ((List.nodup_flatMap.mp h).2.imp fun {d e} hdisjoint hcapitalized => ?_)
  have heq : d.spelled f = e.spelled f := by rw [spelled, spelled, hcapitalized]
  exact hdisjoint (List.mem_map_of_mem hf) (heq ▸ List.mem_map_of_mem hf)

def schemaForms : List (String × String) := [("Create", "Request"), ("", "Response")]

lemma spelled_schemaForms (d : Domain) :
    schemaForms.map d.spelled = [d.createRequestName, d.responseName] := by
  simp [schemaForms, spelled, createRequestName_eq, responseName_eq]

end Domain

namespace RouteTable

variable {domains : List Domain}

def operationForms : List (String × String) := [("list", "s"), ("create", ""), ("get", "")]

lemma operationIds_ofDomains (domains : List Domain) :
    operationIds (ofDomains domains) = domains.flatMap fun d => operationForms.map d.spelled := by
  rw [operationIds, ofDomains, List.map_flatMap]
  refine List.flatMap_congr fun d _ => ?_
  simp [operationForms, Domain.routes, Domain.listRoute, Domain.createRoute, Domain.getRoute, Domain.spelled,
    Domain.pluralCapitalized_eq, String.append_assoc]

lemma nodup_operationIds (hcaps : (domains.map Domain.capitalized).Nodup) :
    (operationIds (ofDomains domains)).Nodup := by
  rw [operationIds_ofDomains]
  exact Domain.nodup_spelled hcaps (by decide) (by decide)

lemma nodup_operationIds_iff : (operationIds (ofDomains domains)).Nodup ↔
    (domains.map Domain.capitalized).Nodup := by
  refine ⟨fun h => ?_, nodup_operationIds⟩
  rw [operationIds_ofDomains] at h
  exact Domain.nodup_capitalized_of_spelled (f := ("create", "")) (by decide) h

end RouteTable

end ApiScaffold
