import ApiDrift.Proofs.Counting

/-!
# What a change belongs to

A summary is worked out from the changes alone, so each change must tell the entity that it is
counted for. Its category tells the collection, and a change of detail has an owner: the label of
its endpoint, which is never empty, or the name of its schema, which may be.
-/
namespace ApiDrift

/-- The collection of a specification to which a category of changes belongs. -/
def Category.home : Category → Category
  | .endpoint | .parameter | .requestBody | .response => .endpoint
  | .schema | .schemaProperty => .schema
  | .security => .security

theorem Endpoint.label_ne_empty (e : Endpoint) : e.label ≠ "" := by
  intro h
  have hlength := congrArg String.length h
  simp [label] at hlength

theorem Change.entity_of_owner {c : Change} {owner : String} (h : c.owner = some owner) :
    c.entity = if owner = "" then c.path else owner := by
  simp [entity, h, String.isEmpty_iff]

/-- Only changes of endpoints and what they hold modify an endpoint. -/
theorem Change.home_of_modifiedEndpoint? {c : Change} {name : String}
    (h : c.modifiedEndpoint? = some name) : c.category.home = .endpoint := by
  obtain ⟨t, g, s, path, description, oldValue, newValue, owner⟩ := c
  cases g with
  | endpoint => rfl
  | parameter => rfl
  | requestBody => rfl
  | response => rfl
  | schema => cases h
  | schemaProperty => cases h
  | security => cases h

theorem Change.modifiedParameter?_eq_some {c : Change} {path : String} :
    c.modifiedParameter? = some path ↔
      c.category = .parameter ∧ c.type ≠ .added ∧ c.type ≠ .removed ∧ c.path = path := by
  simp [modifiedParameter?, and_assoc]

theorem Change.home_of_modifiedParameter? {c : Change} {path : String}
    (h : c.modifiedParameter? = some path) : c.category.home = .endpoint := by
  rw [(modifiedParameter?_eq_some.mp h).1]
  rfl

theorem Change.home_of_modifiedSchema? {c : Change} {name : String}
    (h : c.modifiedSchema? = some name) : c.category.home = .schema := by
  simp only [modifiedSchema?, Option.ite_none_right_eq_some] at h
  rw [h.1]
  rfl

/-- All changes of a list belong to one collection. -/
def AllOf (home : Category) (cs : List Change) : Prop := ∀ c ∈ cs, c.category.home = home

/-- All changes of a list are of one category and have one owner. -/
def DetailsOf (owner : String) (g : Category) (cs : List Change) : Prop :=
  ∀ c ∈ cs, c.owner = some owner ∧ c.category = g

section
variable {home g : Category} {cs : List Change}

theorem AllOf.of_kinds (h : ∀ t g s, (t, g, s) ∈ cs.map Change.kind → g.home = home) :
    AllOf home cs := by
  intro c hc
  exact h c.type c.category c.severity (List.mem_map_of_mem hc)

theorem countP_eq_zero_of_category {t : ChangeType} (h : ∀ c ∈ cs, c.category ≠ g) :
    cs.countP (Change.isOf g t) = 0 := by
  apply List.countP_eq_zero.mpr
  intro c hc hof
  simp only [Change.isOf, Bool.and_eq_true, decide_eq_true_eq] at hof
  exact h c hc hof.1

theorem AllOf.countP_eq_zero (h : AllOf home cs) (hg : g.home ≠ home) (t : ChangeType) :
    cs.countP (Change.isOf g t) = 0 := by
  apply countP_eq_zero_of_category
  intro c hc heq
  exact hg (heq ▸ h c hc)

/-- Names that are read off the changes of one collection are not found in another. -/
theorem AllOf.filterMap_eq_nil {f : Change → Option String} {other : Category}
    (h : AllOf home cs) (hf : ∀ c name, f c = some name → c.category.home = other)
    (hother : other ≠ home) : cs.filterMap f = [] := by
  apply List.filterMap_eq_nil_iff.mpr
  intro c hc
  cases hname : f c with
  | none => rfl
  | some name => exact absurd ((hf c name hname).symm.trans (h c hc)) hother

end

namespace Compare

/-! ### The collection of a change -/

theorem endpoints_allOf {old new : List Endpoint} {cs : List Change}
    (h : endpoints old new = .ok cs) : AllOf .endpoint cs := by
  apply AllOf.of_kinds
  intro t g s hkind
  rcases (kind_mem_endpoints h).mp hkind with ⟨_, -, hk⟩ | ⟨_, -, hk⟩ | ⟨d, e, -, hrule⟩
  · cases hk
    rfl
  · cases hk
    rfl
  · cases hrule with
    | deprecated => rfl
    | parameter => rfl
    | body => rfl
    | responseRemoved => rfl
    | responseAdded => rfl

theorem schemas_allOf (old new : List Schema) : AllOf .schema (schemas old new) := by
  apply AllOf.of_kinds
  intro t g s hkind
  rcases kind_mem_schemas.mp hkind with ⟨_, -, hk⟩ | ⟨_, -, hk⟩ | ⟨_, _, -, rfl, -⟩
  · cases hk
    rfl
  · cases hk
    rfl
  · rfl

theorem security_allOf (old new : List SecurityScheme) : AllOf .security (security old new) := by
  apply AllOf.of_kinds
  intro t g s hkind
  rcases kind_mem_security.mp hkind with ⟨_, -, hk⟩ | ⟨_, -, hk⟩
  · cases hk
    rfl
  · cases hk
    rfl

/-! ### The owner of a change of detail -/

section
variable (base : String)

theorem deprecation_detailsOf (d e : Endpoint) :
    DetailsOf e.label .endpoint (deprecation d e) := by
  intro c hc
  simp only [deprecation, List.mem_ite_nil_right, List.mem_singleton] at hc
  obtain ⟨-, rfl⟩ := hc
  exact ⟨rfl, rfl⟩

theorem parameterDetails_detailsOf (p q : Parameter) :
    DetailsOf base .parameter (parameterDetails base p q) := by
  intro c hc
  have hfinding := finding_parameterDetails hc
  exact ⟨congrArg Finding.owner hfinding, congrArg Finding.category hfinding⟩

theorem parameters_detailsOf {base : String} {ps qs : List Parameter} {cs : List Change}
    (h : parameters base ps qs = .ok cs) : DetailsOf base .parameter cs := by
  obtain ⟨removed, added, hremoved, hadded, rfl⟩ := parameters_eq_ok.mp h
  intro c hc
  simp only [List.mem_append, List.mem_flatMap] at hc
  rcases hc with (hc | hc) | ⟨pair, -, hc⟩
  · obtain ⟨e, -, he⟩ := (mem_mapM hremoved).mp hc
    have hfinding := finding_parameterRemoved he
    exact ⟨congrArg Finding.owner hfinding, congrArg Finding.category hfinding⟩
  · obtain ⟨e, -, he⟩ := (mem_mapM hadded).mp hc
    have hfinding := finding_parameterAdded he
    exact ⟨congrArg Finding.owner hfinding, congrArg Finding.category hfinding⟩
  · exact parameterDetails_detailsOf base _ _ c hc

theorem requestBody_detailsOf (a b : Option RequestBody) :
    DetailsOf base .requestBody (requestBody base a b) := by
  intro c hc
  cases a with
  | none =>
    cases b with
    | none => simp [requestBody] at hc
    | some b =>
      obtain rfl := List.mem_singleton.mp hc
      exact ⟨rfl, rfl⟩
  | some a =>
    cases b with
    | none =>
      obtain rfl := List.mem_singleton.mp hc
      exact ⟨rfl, rfl⟩
    | some b =>
      simp only [requestBody, bodyDetails, List.mem_append, List.mem_ite_nil_right,
        List.mem_singleton, List.mem_map] at hc
      rcases hc with ⟨-, rfl⟩ | ⟨t, -, rfl⟩
      · exact ⟨rfl, rfl⟩
      · exact ⟨rfl, rfl⟩

theorem responses_detailsOf (rs ss : List Response) :
    DetailsOf base .response (responses base rs ss) := by
  intro c hc
  simp only [responses, List.mem_append, List.mem_map] at hc
  rcases hc with ⟨e, -, rfl⟩ | ⟨e, -, rfl⟩
  · exact ⟨rfl, rfl⟩
  · exact ⟨rfl, rfl⟩

theorem schemaDetails_detailsOf (s t : Schema) :
    DetailsOf t.name .schemaProperty (schemaDetails s t) := by
  intro c hc
  simp only [schemaDetails, List.mem_append, List.mem_map, List.mem_flatMap] at hc
  rcases hc with (⟨e, -, rfl⟩ | ⟨e, -, rfl⟩) | ⟨pair, -, hc⟩
  · exact ⟨rfl, rfl⟩
  · exact ⟨rfl, rfl⟩
  · have hfinding := finding_propertyDetails hc
    exact ⟨congrArg Finding.owner hfinding, congrArg Finding.category hfinding⟩

end

/-- What is found in a common endpoint, in the order of its parts. -/
theorem endpointDetails_parts {d e : Endpoint} {cs : List Change}
    (h : endpointDetails d e = .ok cs) :
    ∃ params, parameters e.label d.parameters e.parameters = .ok params ∧
      cs = deprecation d e ++ params ++ requestBody e.label d.requestBody e.requestBody ++
        responses e.label d.responses e.responses := by
  obtain ⟨params, hparams, h⟩ := bind_eq_ok.mp h
  cases h
  exact ⟨params, hparams, rfl⟩

theorem owner_of_endpointDetails {d e : Endpoint} {cs : List Change} {c : Change}
    (h : endpointDetails d e = .ok cs) (hc : c ∈ cs) : c.owner = some e.label := by
  obtain ⟨params, hparams, rfl⟩ := endpointDetails_parts h
  simp only [List.mem_append] at hc
  rcases hc with ((hc | hc) | hc) | hc
  · exact (deprecation_detailsOf d e c hc).1
  · exact (parameters_detailsOf hparams c hc).1
  · exact (requestBody_detailsOf _ _ _ c hc).1
  · exact (responses_detailsOf _ _ _ c hc).1

/-! ### Names that are read off the changes of common entities -/

section
variable {f : Change → Option String} {name : String}

theorem filterMap_changes_endpoints (hf : ∀ c name, f c = some name → c.category.home = .endpoint)
    (es : List Change) (old new : Spec) :
    (es ++ schemas old.schemas new.schemas ++ security old.security new.security).filterMap f =
      es.filterMap f := by
  have hschemas := (schemas_allOf old.schemas new.schemas).filterMap_eq_nil hf (by decide)
  have hsecurity := (security_allOf old.security new.security).filterMap_eq_nil hf (by decide)
  simp [hschemas, hsecurity]

theorem filterMap_changes_schemas (hf : ∀ c name, f c = some name → c.category.home = .schema)
    {es : List Change} {old new : Spec} (h : endpoints old.endpoints new.endpoints = .ok es) :
    (es ++ schemas old.schemas new.schemas ++ security old.security new.security).filterMap f =
      (schemas old.schemas new.schemas).filterMap f := by
  have hendpoints := (endpoints_allOf h).filterMap_eq_nil hf (by decide)
  have hsecurity := (security_allOf old.security new.security).filterMap_eq_nil hf (by decide)
  simp [hendpoints, hsecurity]

/-- Names that no endpoint gives by coming or going are those of common endpoints. -/
theorem mem_filterMap_endpoints {old new : List Endpoint} {cs : List Change}
    (hremoved : ∀ k e, f (endpointRemoved k e) = none)
    (hadded : ∀ k e, f (endpointAdded k e) = none) (h : endpoints old new = .ok cs) :
    name ∈ cs.filterMap f ↔ ∃ d e zs, Paired Endpoint.id old new d e ∧
      endpointDetails d e = .ok zs ∧ name ∈ zs.filterMap f := by
  obtain ⟨details, hdetails, rfl⟩ := endpoints_eq_ok.mp h
  have hnone : ∀ {entries : Keyed Endpoint} {g : String × Endpoint → Change},
      (∀ e, f (g e) = none) → (entries.map g).filterMap f = [] := by
    intro entries g hg
    simp [hg]
  rw [List.filterMap_append, List.filterMap_append, hnone fun e => hremoved e.1 e.2,
    hnone fun e => hadded e.1 e.2, List.nil_append, List.nil_append, List.mem_filterMap]
  constructor
  · intro hname
    obtain ⟨c, hc, hf⟩ := hname
    obtain ⟨⟨d, e⟩, hpair, zs, hzs, hc⟩ := (mem_flatMapChecked hdetails).mp hc
    exact ⟨d, e, zs, mem_common.mp hpair, hzs, List.mem_filterMap.mpr ⟨c, hc, hf⟩⟩
  · intro hname
    obtain ⟨d, e, zs, hpair, hzs, hname⟩ := hname
    obtain ⟨c, hc, hf⟩ := List.mem_filterMap.mp hname
    exact ⟨c, (mem_flatMapChecked hdetails).mpr ⟨_, mem_common.mpr hpair, zs, hzs, hc⟩, hf⟩

/-- Names that no schema gives by coming or going are those of common schemas. -/
theorem mem_filterMap_schemas {old new : List Schema}
    (hf : ∀ c : Change, c.category = .schema → f c = none) :
    name ∈ (schemas old new).filterMap f ↔ ∃ s t, Paired Schema.name old new s t ∧
      name ∈ (schemaDetails s t).filterMap f := by
  have hnone : ∀ {entries : Keyed Schema} {g : String × Schema → Change},
      (∀ e, (g e).category = .schema) → (entries.map g).filterMap f = [] := by
    intro entries g hg
    simp [hf, hg]
  rw [schemas, List.filterMap_append, List.filterMap_append, hnone fun e => rfl,
    hnone fun e => rfl, List.nil_append, List.nil_append, List.filterMap_flatMap]
  simp only [List.mem_flatMap, Prod.exists, mem_common]

end
end Compare
end ApiDrift
