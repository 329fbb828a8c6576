import ApiDrift.Proofs.Owners

/-!
# The summary counts entities

The summary is worked out from the changes, but its numbers are those of keys of the two versions.
What comes or goes is counted by the keys that one version lacks; endpoints that become deprecated
or are modified, by the common ids. Parameters are counted at each common endpoint by themselves.

Modified endpoints are told apart by their labels, so the labels of common endpoints must be
different where their ids are. Nothing is asked of keys: any of them may be repeated, and only the
items that stand for their keys are compared. Modified schemas and parameters are left out here.
-/
namespace ApiDrift
open Compare

/-- The comparison finds some change in an endpoint. -/
def Endpoint.Altered (d e : Endpoint) : Prop := ∃ cs, endpointDetails d e = .ok cs ∧ cs ≠ []

/-- An endpoint goes from not deprecated to deprecated. -/
def Endpoint.Retires (d e : Endpoint) : Prop := d.deprecated = false ∧ e.deprecated = true

/-- Common endpoints of different ids have different labels in the new version. -/
def LabelsApart (old new : List Endpoint) : Prop :=
  ∀ d e d' e', Paired Endpoint.id old new d e → Paired Endpoint.id old new d' e' →
    e.label = e'.label → e.id = e'.id

theorem LabelsApart.of_nodup {old new : List Endpoint} (h : (new.map Endpoint.label).Nodup) :
    LabelsApart old new := by
  intro d e d' e' hpair hpair' heq
  rw [List.inj_on_of_nodup_map h hpair.2.1.mem hpair'.2.1.mem heq]

/-- The numbers of a summary are those of the keys of two versions. -/
structure Summary.CountsEntities (s : Summary) (old new : Spec) : Prop where
  endpointsAdded :
    s.endpointsAdded = (keysOnlyIn Endpoint.id new.endpoints old.endpoints).ncard
  endpointsRemoved :
    s.endpointsRemoved = (keysOnlyIn Endpoint.id old.endpoints new.endpoints).ncard
  endpointsDeprecated :
    s.endpointsDeprecated =
      (keysWhere Endpoint.id old.endpoints new.endpoints Endpoint.Retires).ncard
  endpointsModified :
    s.endpointsModified =
      (keysWhere Endpoint.id old.endpoints new.endpoints Endpoint.Altered).ncard
  parametersAdded :
    s.parametersAdded = ((∑ᶠ pair ∈ pairs Endpoint.id old.endpoints new.endpoints,
      (keysOnlyIn Parameter.key pair.2.parameters pair.1.parameters).ncard : Nat) : Int)
  parametersRemoved :
    s.parametersRemoved = ((∑ᶠ pair ∈ pairs Endpoint.id old.endpoints new.endpoints,
      (keysOnlyIn Parameter.key pair.1.parameters pair.2.parameters).ncard : Nat) : Int)
  schemasAdded : s.schemasAdded = (keysOnlyIn Schema.name new.schemas old.schemas).ncard
  schemasRemoved : s.schemasRemoved = (keysOnlyIn Schema.name old.schemas new.schemas).ncard
  securityAdded :
    s.securityAdded = (keysOnlyIn SecurityScheme.name new.security old.security).ncard
  securityRemoved :
    s.securityRemoved = (keysOnlyIn SecurityScheme.name old.security new.security).ncard

namespace Compare

/-! ### Whole entities -/

/-- Where nothing else comes or goes, as many do as there are keys that one side lacks. -/
theorem countP_moves {α : Type} {key : α → String} {old new : List α} {g : Category}
    {f f' : String × α → Change} {rest : List Change}
    (hf : ∀ e, (f e).category = g ∧ (f e).type = .removed)
    (hf' : ∀ e, (f' e).category = g ∧ (f' e).type = .added) (hrest : Still g rest) :
    let cs := (split key old new).removed.map f ++ (split key old new).added.map f' ++ rest
    cs.countP (Change.isOf g .added) = (keysOnlyIn key new old).ncard ∧
      cs.countP (Change.isOf g .removed) = (keysOnlyIn key old new).ncard := by
  intro cs
  have hof : ∀ t, (Change.isOf g t ∘ f) = fun _ => decide (.removed = t) := by
    intro t
    funext e
    simp [Change.isOf, hf e]
  have hof' : ∀ t, (Change.isOf g t ∘ f') = fun _ => decide (.added = t) := by
    intro t
    funext e
    simp [Change.isOf, hf' e]
  have hadded : rest.countP (Change.isOf g .added) = 0 :=
    List.countP_eq_zero.mpr fun c hc => hrest.not_isOf (.inl rfl) hc
  have hremoved : rest.countP (Change.isOf g .removed) = 0 :=
    List.countP_eq_zero.mpr fun c hc => hrest.not_isOf (.inr rfl) hc
  constructor
  · simp [cs, List.countP_append, List.countP_map, hof, hof', hadded, length_added]
  · simp [cs, List.countP_append, List.countP_map, hof, hof', hremoved, length_removed]

theorem endpoints_moved {old new : List Endpoint} {cs : List Change}
    (h : endpoints old new = .ok cs) :
    cs.countP (Change.isOf .endpoint .added) = (keysOnlyIn Endpoint.id new old).ncard ∧
      cs.countP (Change.isOf .endpoint .removed) = (keysOnlyIn Endpoint.id old new).ncard := by
  obtain ⟨details, hdetails, rfl⟩ := endpoints_eq_ok.mp h
  apply countP_moves
  · exact fun e => ⟨rfl, rfl⟩
  · exact fun e => ⟨rfl, rfl⟩
  · exact commonEndpoints_still (.inl rfl) hdetails

theorem schemas_moved (old new : List Schema) :
    (schemas old new).countP (Change.isOf .schema .added) =
        (keysOnlyIn Schema.name new old).ncard ∧
      (schemas old new).countP (Change.isOf .schema .removed) =
        (keysOnlyIn Schema.name old new).ncard := by
  apply countP_moves
  · exact fun e => ⟨rfl, rfl⟩
  · exact fun e => ⟨rfl, rfl⟩
  · exact commonSchemas_still (.inr (.inl rfl)) _

theorem security_moved (old new : List SecurityScheme) :
    (security old new).countP (Change.isOf .security .added) =
        (keysOnlyIn SecurityScheme.name new old).ncard ∧
      (security old new).countP (Change.isOf .security .removed) =
        (keysOnlyIn SecurityScheme.name old new).ncard := by
  rw [← List.append_nil (security old new)]
  apply countP_moves
  · exact fun e => ⟨rfl, rfl⟩
  · exact fun e => ⟨rfl, rfl⟩
  · intro c hc
    simp at hc

/-! ### Common endpoints -/

theorem endpointDetails_deprecations {d e : Endpoint} {cs : List Change}
    (h : endpointDetails d e = .ok cs) :
    cs.countP (Change.isOf .endpoint .deprecated) =
      if !d.deprecated && e.deprecated then 1 else 0 := by
  obtain ⟨params, hparams, rfl⟩ := endpointDetails_parts h
  have hnone : ∀ {g : Category} {zs : List Change}, DetailsOf e.label g zs → g ≠ .endpoint →
      zs.countP (Change.isOf .endpoint .deprecated) = 0 := by
    intro g zs hzs hg
    apply countP_eq_zero_of_category
    intro c hc
    rw [(hzs c hc).2]
    exact hg
  have hparameters := hnone (parameters_detailsOf hparams) (by decide)
  have hbody := hnone (requestBody_detailsOf e.label d.requestBody e.requestBody) (by decide)
  have hresponses := hnone (responses_detailsOf e.label d.responses e.responses) (by decide)
  simp only [List.countP_append, hparameters, hbody, hresponses, deprecation, Nat.add_zero]
  split_ifs with hdep
  · rfl
  · rfl

theorem endpoints_retired {old new : List Endpoint} {cs : List Change}
    (h : endpoints old new = .ok cs) :
    cs.countP (Change.isOf .endpoint .deprecated) =
      (keysWhere Endpoint.id old new Endpoint.Retires).ncard := by
  obtain ⟨details, hdetails, rfl⟩ := endpoints_eq_ok.mp h
  have hcommon := countP_flatMapChecked (fun pair zs hzs => endpointDetails_deprecations hzs)
    hdetails
  have hremoved : (Change.isOf .endpoint .deprecated ∘ fun e : String × Endpoint =>
      endpointRemoved e.1 e.2) = fun _ => false := rfl
  have hadded : (Change.isOf .endpoint .deprecated ∘ fun e : String × Endpoint =>
      endpointAdded e.1 e.2) = fun _ => false := rfl
  have hretires : Endpoint.Retires = fun d e => (!d.deprecated && e.deprecated) = true := by
    funext d e
    simp [Endpoint.Retires]
  rw [List.countP_append, List.countP_append, List.countP_map, List.countP_map, hremoved, hadded,
    hcommon, Number.total_indicator fun pair : Endpoint × Endpoint =>
      !pair.1.deprecated && pair.2.deprecated, hretires, ← countP_common]
  simp

/-- Whatever is reported of a common endpoint modifies it. -/
theorem EndpointRule.modifies {d e : Endpoint} {c : Change}
    (h : EndpointRule d e c.type c.category c.severity) :
    c.modifiedEndpoint? = some c.entity := by
  obtain ⟨t, g, s, path, description, oldValue, newValue, owner⟩ := c
  dsimp only at h
  cases h with
  | deprecated => rfl
  | parameter => rfl
  | body => rfl
  | responseRemoved => rfl
  | responseAdded => rfl

theorem modifiedEndpoint?_of_details {d e : Endpoint} {cs : List Change} {c : Change}
    (h : endpointDetails d e = .ok cs) (hc : c ∈ cs) : c.modifiedEndpoint? = some e.label := by
  have hkind : (c.type, c.category, c.severity) ∈ cs.map Change.kind := List.mem_map_of_mem hc
  have hrule := (kind_mem_endpointDetails h).mp hkind
  rw [hrule.modifies, Change.entity_of_owner (owner_of_endpointDetails h hc),
    if_neg e.label_ne_empty]

theorem endpoints_altered {old new : List Endpoint} {cs : List Change}
    (h : endpoints old new = .ok cs) (hlabels : LabelsApart old new) :
    countDistinct (cs.filterMap Change.modifiedEndpoint?) =
      (keysWhere Endpoint.id old new Endpoint.Altered).ncard := by
  -- Labels are counted in place of ids: both tell the common endpoints apart.
  have hapart : ∀ pair ∈ pairs Endpoint.id old new, ∀ pair' ∈ pairs Endpoint.id old new,
      pair.2.label = pair'.2.label → pair.2.id = pair'.2.id := by
    intro pair hpair pair' hpair' heq
    exact hlabels _ _ _ _ hpair hpair' heq
  rw [countDistinct_eq_ncard, ← ncard_image_pairs hapart]
  congr 1
  ext label
  rw [Set.mem_ofPred_eq, mem_filterMap_endpoints (fun _ _ => rfl) (fun _ _ => rfl) h]
  constructor
  · intro hname
    obtain ⟨d, e, zs, hpair, hzs, hname⟩ := hname
    obtain ⟨c, hc, hlabel⟩ := List.mem_filterMap.mp hname
    rw [modifiedEndpoint?_of_details hzs hc] at hlabel
    exact ⟨(d, e), ⟨hpair, zs, hzs, List.ne_nil_of_mem hc⟩, Option.some.inj hlabel⟩
  · intro hname
    obtain ⟨⟨d, e⟩, ⟨hpair, zs, hzs, hne⟩, rfl⟩ := hname
    obtain ⟨c, hc⟩ := List.exists_mem_of_ne_nil zs hne
    refine ⟨d, e, zs, hpair, hzs, List.mem_filterMap.mpr ⟨c, hc, ?_⟩⟩
    exact modifiedEndpoint?_of_details hzs hc

/-! ### The whole summary -/

section
variable {old new : Spec} {es : List Change}
  (h : endpoints old.endpoints new.endpoints = .ok es)
include h

/-- The changes of one collection are counted among those of all three. -/
theorem countP_changes (t : ChangeType) :
    let cs := es ++ schemas old.schemas new.schemas ++ security old.security new.security
    cs.countP (Change.isOf .endpoint t) = es.countP (Change.isOf .endpoint t) ∧
      cs.countP (Change.isOf .schema t) =
        (schemas old.schemas new.schemas).countP (Change.isOf .schema t) ∧
      cs.countP (Change.isOf .security t) =
        (security old.security new.security).countP (Change.isOf .security t) := by
  intro cs
  have hes := endpoints_allOf h
  have hss := schemas_allOf old.schemas new.schemas
  have hds := security_allOf old.security new.security
  have hsum : ∀ g, cs.countP (Change.isOf g t) = es.countP (Change.isOf g t) +
      (schemas old.schemas new.schemas).countP (Change.isOf g t) +
      (security old.security new.security).countP (Change.isOf g t) := by
    intro g
    rw [List.countP_append, List.countP_append]
  refine ⟨?_, ?_, ?_⟩
  · have hschemas := hss.countP_eq_zero (g := .endpoint) (by decide) t
    have hsecurity := hds.countP_eq_zero (g := .endpoint) (by decide) t
    rw [hsum]
    omega
  · have hendpoints := hes.countP_eq_zero (g := .schema) (by decide) t
    have hsecurity := hds.countP_eq_zero (g := .schema) (by decide) t
    rw [hsum]
    omega
  · have hendpoints := hes.countP_eq_zero (g := .security) (by decide) t
    have hschemas := hss.countP_eq_zero (g := .security) (by decide) t
    rw [hsum]
    omega

end

theorem parametersGained_eq (old new : List Endpoint) :
    parametersGained old new = ∑ᶠ pair ∈ pairs Endpoint.id old new,
      (keysOnlyIn Parameter.key pair.2.parameters pair.1.parameters).ncard := by
  rw [parametersGained, ← total_common]
  simp only [length_added]

theorem parametersLost_eq (old new : List Endpoint) :
    parametersLost old new = ∑ᶠ pair ∈ pairs Endpoint.id old new,
      (keysOnlyIn Parameter.key pair.1.parameters pair.2.parameters).ncard := by
  rw [parametersLost, ← total_common]
  simp only [length_removed]

end Compare

theorem Summary.countOf_eq_of_countP {cs : List Change} {g : Category} {t : ChangeType} {n : Nat}
    (h : cs.countP (Change.isOf g t) = n) : countOf cs g t = n := by
  rw [← h]
  rfl

/-- The summary counts what comes, goes or is deprecated by the keys of the two versions; it counts
the modified endpoints by their ids where common endpoints are told apart by their labels. -/
theorem summary_counts_entities {old new : Spec} {d : Difference}
    (h : old.difference new = .ok d) (hlabels : LabelsApart old.endpoints new.endpoints) :
    d.summary.CountsEntities old new := by
  obtain ⟨changes, hchanges, rfl⟩ := Spec.difference_eq_ok.mp h
  have hmoves := Spec.changes_moves hchanges
  obtain ⟨es, hes, rfl⟩ := Spec.changes_eq_ok.mp hchanges
  obtain ⟨hendpoints, hendpoints'⟩ := endpoints_moved hes
  obtain ⟨hschemas, hschemas'⟩ := schemas_moved old.schemas new.schemas
  obtain ⟨hsecurity, hsecurity'⟩ := security_moved old.security new.security
  constructor
  · exact Summary.countOf_eq_of_countP ((countP_changes hes .added).1.trans hendpoints)
  · exact Summary.countOf_eq_of_countP ((countP_changes hes .removed).1.trans hendpoints')
  · have hretired := endpoints_retired hes
    exact Summary.countOf_eq_of_countP ((countP_changes hes .deprecated).1.trans hretired)
  · have hmodified := endpoints_altered hes hlabels
    rw [← filterMap_changes_endpoints (fun _ _ => Change.home_of_modifiedEndpoint?) es old new]
      at hmodified
    exact congrArg Nat.cast hmodified
  · exact Summary.countOf_eq_of_countP (hmoves.added.trans (parametersGained_eq _ _))
  · exact Summary.countOf_eq_of_countP (hmoves.removed.trans (parametersLost_eq _ _))
  · exact Summary.countOf_eq_of_countP ((countP_changes hes .added).2.1.trans hschemas)
  · exact Summary.countOf_eq_of_countP ((countP_changes hes .removed).2.1.trans hschemas')
  · exact Summary.countOf_eq_of_countP ((countP_changes hes .added).2.2.trans hsecurity)
  · exact Summary.countOf_eq_of_countP ((countP_changes hes .removed).2.2.trans hsecurity')

/-- Books are gone, readers have come, and both common endpoints have other parameters. -/
theorem readers_counted :
    LabelsApart Sample.library.endpoints Sample.libraryOfReaders.endpoints ∧
      ∃ d, Sample.library.difference Sample.libraryOfReaders = .ok d ∧
        d.summary.CountsEntities Sample.library Sample.libraryOfReaders ∧
        (keysOnlyIn Endpoint.id Sample.library.endpoints
          Sample.libraryOfReaders.endpoints).ncard = 1 ∧
        (keysWhere Endpoint.id Sample.library.endpoints Sample.libraryOfReaders.endpoints
          Endpoint.Altered).ncard = 2 := by
  have hlabels : LabelsApart Sample.library.endpoints Sample.libraryOfReaders.endpoints :=
    .of_nodup (by decide +kernel)
  have hd : ∃ d, Sample.library.difference Sample.libraryOfReaders = .ok d ∧
      d.summary.endpointsRemoved = 1 ∧ d.summary.endpointsModified = 2 := ⟨_, rfl, rfl, rfl⟩
  obtain ⟨d, hd, hremoved, hmodified⟩ := hd
  have hcounts := summary_counts_entities hd hlabels
  refine ⟨hlabels, d, hd, hcounts, ?_, ?_⟩
  · exact Nat.cast_injective (hcounts.endpointsRemoved.symm.trans hremoved)
  · exact Nat.cast_injective (hcounts.endpointsModified.symm.trans hmodified)

end ApiDrift
