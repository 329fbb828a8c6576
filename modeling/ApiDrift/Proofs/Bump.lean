import ApiDrift.Proofs.Risk
import ApiDrift.Proofs.Rules

/-!
# What decides the version bump

A comparison asks for a major bump where an old client can fail against the new version, for a minor
one where nothing breaks and something is there that was not, and for a patch otherwise. The two
conditions are stated of the specifications, without reference to changes. Of several entities with
one key the last counts.
-/
namespace ApiDrift
open Compare

/-- Something a client of an endpoint did is refused now, or read differently. -/
inductive Endpoint.Breaks (old new : Endpoint) : Prop
  | parameterRemoved {p : Parameter} : Alone Parameter.key old.parameters new.parameters p →
      p.required = true → Endpoint.Breaks old new
  | parameterAdded {p : Parameter} : Alone Parameter.key new.parameters old.parameters p →
      p.required = true → Endpoint.Breaks old new
  | parameterDemanded {p q : Parameter} : Paired Parameter.key old.parameters new.parameters p q →
      p.required = false → q.required = true → Endpoint.Breaks old new
  | parameterRetyped {p q : Parameter} : Paired Parameter.key old.parameters new.parameters p q →
      p.type ≠ q.type → Endpoint.Breaks old new
  | bodyAdded {b : RequestBody} : old.requestBody = none → new.requestBody = some b →
      b.required = true → Endpoint.Breaks old new
  | bodyDemanded {a b : RequestBody} : old.requestBody = some a → new.requestBody = some b →
      a.required = false → b.required = true → Endpoint.Breaks old new
  | contentTypeRemoved {a b : RequestBody} {t : String} : old.requestBody = some a →
      new.requestBody = some b → t ∈ a.contentTypes → t ∉ b.contentTypes → Endpoint.Breaks old new

/-- Values of a schema are read differently, or must hold a property that they could lack. -/
inductive Schema.Breaks (old new : Schema) : Prop
  | propertyRetyped {p q : Property} : Paired Property.name old.properties new.properties p q →
      p.type ≠ q.type → Schema.Breaks old new
  | propertyDemanded {p q : Property} : Paired Property.name old.properties new.properties p q →
      q.name ∉ old.required → q.name ∈ new.required → Schema.Breaks old new

inductive Spec.Breaks (old new : Spec) : Prop
  | endpointRemoved {k : String} : k ∈ old.endpoints.map Endpoint.id →
      k ∉ new.endpoints.map Endpoint.id → Spec.Breaks old new
  | endpoint {d e : Endpoint} : Paired Endpoint.id old.endpoints new.endpoints d e →
      d.Breaks e → Spec.Breaks old new
  | schema {d e : Schema} : Paired Schema.name old.schemas new.schemas d e →
      d.Breaks e → Spec.Breaks old new
  | securityRemoved {k : String} : k ∈ old.security.map SecurityScheme.name →
      k ∉ new.security.map SecurityScheme.name → Spec.Breaks old new

/-- An endpoint takes or answers something that it did not. -/
inductive Endpoint.Extends (old new : Endpoint) : Prop
  | parameter {k : String} : k ∈ new.parameters.map Parameter.key →
      k ∉ old.parameters.map Parameter.key → Endpoint.Extends old new
  | response {k : String} : k ∈ new.responses.map Response.statusCode →
      k ∉ old.responses.map Response.statusCode → Endpoint.Extends old new
  | body {b : RequestBody} : old.requestBody = none → new.requestBody = some b →
      Endpoint.Extends old new

inductive Spec.Extends (old new : Spec) : Prop
  | endpointAdded {k : String} : k ∈ new.endpoints.map Endpoint.id →
      k ∉ old.endpoints.map Endpoint.id → Spec.Extends old new
  | endpoint {d e : Endpoint} : Paired Endpoint.id old.endpoints new.endpoints d e →
      d.Extends e → Spec.Extends old new
  | schemaAdded {k : String} : k ∈ new.schemas.map Schema.name →
      k ∉ old.schemas.map Schema.name → Spec.Extends old new
  | propertyAdded {d e : Schema} {k : String} : Paired Schema.name old.schemas new.schemas d e →
      k ∈ e.properties.map Property.name → k ∉ d.properties.map Property.name →
      Spec.Extends old new
  | securityAdded {k : String} : k ∈ new.security.map SecurityScheme.name →
      k ∉ old.security.map SecurityScheme.name → Spec.Extends old new

theorem Endpoint.breaks_iff {old new : Endpoint} :
    old.Breaks new ↔ ∃ t g, EndpointRule old new t g .breaking := by
  constructor
  · intro h
    cases h with
    | parameterRemoved hp hr =>
      have hrule := ParameterRule.removed hp
      rw [if_pos hr] at hrule
      exact ⟨_, _, .parameter hrule⟩
    | parameterAdded hp hr =>
      have hrule := ParameterRule.added hp
      rw [if_pos hr] at hrule
      exact ⟨_, _, .parameter hrule⟩
    | parameterDemanded hpq hp hq => exact ⟨_, _, .parameter (.demanded hpq hp hq)⟩
    | parameterRetyped hpq hne => exact ⟨_, _, .parameter (.retyped hpq hne)⟩
    | @bodyAdded b ha hb hr =>
      have hrule := BodyRule.added b
      rw [if_pos hr, ← ha, ← hb] at hrule
      exact ⟨_, _, .body hrule⟩
    | bodyDemanded ha hb hp hq =>
      have hrule := BodyRule.demanded hp hq
      rw [← ha, ← hb] at hrule
      exact ⟨_, _, .body hrule⟩
    | contentTypeRemoved ha hb hold hnew =>
      have hrule := BodyRule.narrowed hold hnew
      rw [← ha, ← hb] at hrule
      exact ⟨_, _, .body hrule⟩
  · intro h
    obtain ⟨t, g, h⟩ := h
    -- The severity of a rule may be a condition, which says more than it would as an index.
    generalize hs : Severity.breaking = s at h
    cases h with
    | deprecated => cases hs
    | parameter hrule =>
      cases hrule with
      | removed hp => exact .parameterRemoved hp (by simpa using hs)
      | added hp => exact .parameterAdded hp (by simpa using hs)
      | demanded hpq hp hq => exact .parameterDemanded hpq hp hq
      | retyped hpq hne => exact .parameterRetyped hpq hne
    | body hrule =>
      generalize ha : old.requestBody = a at hrule
      generalize hb : new.requestBody = b at hrule
      cases hrule with
      | added b => exact .bodyAdded ha hb (by simpa using hs)
      | removed => cases hs
      | demanded hp hq => exact .bodyDemanded ha hb hp hq
      | narrowed hold hnew => exact .contentTypeRemoved ha hb hold hnew
    | responseRemoved => cases hs
    | responseAdded => cases hs

theorem Schema.breaks_iff {old new : Schema} :
    old.Breaks new ↔ ∃ t, SchemaRule old new t .breaking := by
  constructor
  · intro h
    cases h with
    | propertyRetyped hpq hne => exact ⟨_, .retyped hpq hne⟩
    | propertyDemanded hpq hold hnew => exact ⟨_, .demanded hpq hold hnew⟩
  · intro h
    obtain ⟨t, h⟩ := h
    generalize hs : Severity.breaking = s at h
    cases h with
    | removed => cases hs
    | added => split at hs <;> cases hs
    | retyped hpq hne => exact .propertyRetyped hpq hne
    | demanded hpq hold hnew => exact .propertyDemanded hpq hold hnew

theorem Spec.breaks_iff {old new : Spec} :
    old.Breaks new ↔ ∃ t g, SpecRule old new t g .breaking := by
  constructor
  · intro h
    cases h with
    | endpointRemoved hold hnew =>
      obtain ⟨e, he⟩ := exists_alone_iff.mpr ⟨_, hold, hnew⟩
      exact ⟨_, _, .endpointRemoved he⟩
    | endpoint hpair h =>
      obtain ⟨t, g, hrule⟩ := Endpoint.breaks_iff.mp h
      exact ⟨_, _, .endpoint hpair hrule⟩
    | schema hpair h =>
      obtain ⟨t, hrule⟩ := Schema.breaks_iff.mp h
      exact ⟨_, _, .schema hpair hrule⟩
    | securityRemoved hold hnew =>
      obtain ⟨e, he⟩ := exists_alone_iff.mpr ⟨_, hold, hnew⟩
      exact ⟨_, _, .securityRemoved he⟩
  · intro h
    obtain ⟨t, g, h⟩ := h
    generalize hs : Severity.breaking = s at h
    cases h with
    | endpointRemoved he =>
      obtain ⟨k, hold, hnew⟩ := exists_alone_iff.mp ⟨_, he⟩
      exact .endpointRemoved hold hnew
    | endpointAdded => cases hs
    | endpoint hpair hrule =>
      subst hs
      exact .endpoint hpair (Endpoint.breaks_iff.mpr ⟨_, _, hrule⟩)
    | schemaRemoved => cases hs
    | schemaAdded => cases hs
    | schema hpair hrule =>
      subst hs
      exact .schema hpair (Schema.breaks_iff.mpr ⟨_, hrule⟩)
    | securityRemoved he =>
      obtain ⟨k, hold, hnew⟩ := exists_alone_iff.mp ⟨_, he⟩
      exact .securityRemoved hold hnew
    | securityAdded => cases hs

theorem Endpoint.extends_iff {old new : Endpoint} :
    old.Extends new ↔ ∃ g s, EndpointRule old new .added g s := by
  constructor
  · intro h
    cases h with
    | parameter hnew hold =>
      obtain ⟨p, hp⟩ := exists_alone_iff.mpr ⟨_, hnew, hold⟩
      exact ⟨_, _, .parameter (.added hp)⟩
    | response hnew hold =>
      obtain ⟨r, hr⟩ := exists_alone_iff.mpr ⟨_, hnew, hold⟩
      exact ⟨_, _, .responseAdded hr⟩
    | @body b ha hb =>
      have hrule := BodyRule.added b
      rw [← ha, ← hb] at hrule
      exact ⟨_, _, .body hrule⟩
  · intro h
    obtain ⟨g, s, h⟩ := h
    cases h with
    | parameter hrule =>
      cases hrule with
      | added hp =>
        obtain ⟨k, hnew, hold⟩ := exists_alone_iff.mp ⟨_, hp⟩
        exact .parameter hnew hold
    | body hrule =>
      generalize ha : old.requestBody = a at hrule
      generalize hb : new.requestBody = b at hrule
      cases hrule with
      | added b => exact .body ha hb
    | responseAdded hr =>
      obtain ⟨k, hnew, hold⟩ := exists_alone_iff.mp ⟨_, hr⟩
      exact .response hnew hold

theorem Spec.extends_iff {old new : Spec} :
    old.Extends new ↔ ∃ g s, SpecRule old new .added g s := by
  constructor
  · intro h
    cases h with
    | endpointAdded hnew hold =>
      obtain ⟨e, he⟩ := exists_alone_iff.mpr ⟨_, hnew, hold⟩
      exact ⟨_, _, .endpointAdded he⟩
    | endpoint hpair h =>
      obtain ⟨g, s, hrule⟩ := Endpoint.extends_iff.mp h
      exact ⟨_, _, .endpoint hpair hrule⟩
    | schemaAdded hnew hold =>
      obtain ⟨e, he⟩ := exists_alone_iff.mpr ⟨_, hnew, hold⟩
      exact ⟨_, _, .schemaAdded he⟩
    | propertyAdded hpair hnew hold =>
      obtain ⟨p, hp⟩ := exists_alone_iff.mpr ⟨_, hnew, hold⟩
      exact ⟨_, _, .schema hpair (.added hp)⟩
    | securityAdded hnew hold =>
      obtain ⟨e, he⟩ := exists_alone_iff.mpr ⟨_, hnew, hold⟩
      exact ⟨_, _, .securityAdded he⟩
  · intro h
    obtain ⟨g, s, h⟩ := h
    cases h with
    | endpointAdded he =>
      obtain ⟨k, hnew, hold⟩ := exists_alone_iff.mp ⟨_, he⟩
      exact .endpointAdded hnew hold
    | endpoint hpair hrule =>
      exact .endpoint hpair (Endpoint.extends_iff.mpr ⟨_, _, hrule⟩)
    | schemaAdded he =>
      obtain ⟨k, hnew, hold⟩ := exists_alone_iff.mp ⟨_, he⟩
      exact .schemaAdded hnew hold
    | schema hpair hrule =>
      cases hrule with
      | added hp =>
        obtain ⟨k, hnew, hold⟩ := exists_alone_iff.mp ⟨_, hp⟩
        exact .propertyAdded hpair hnew hold
    | securityAdded he =>
      obtain ⟨k, hnew, hold⟩ := exists_alone_iff.mp ⟨_, he⟩
      exact .securityAdded hnew hold

theorem breakingOf_ne_nil_iff {changes : List Change} :
    breakingOf changes ≠ [] ↔ ∃ c ∈ changes, c.severity = .breaking := by
  simp [breakingOf, List.filter_eq_nil_iff]

/-- The bump is decided by the two specifications alone. -/
theorem bump_iff {old new : Spec} {c : Comparison} (h : Comparison.ofSpecs old new = .ok c) :
    (c.risk.bump = .major ↔ old.Breaks new) ∧
      (c.risk.bump = .minor ↔ ¬ old.Breaks new ∧ old.Extends new) ∧
      (c.risk.bump = .patch ↔ ¬ old.Breaks new ∧ ¬ old.Extends new) := by
  obtain ⟨changes, hchanges, rfl⟩ := Comparison.ofSpecs_eq_ok.mp h
  have hbreaks : old.Breaks new ↔ breakingOf changes ≠ [] := by
    rw [breakingOf_ne_nil_iff, Spec.breaks_iff,
      Spec.exists_change_iff hchanges fun _ _ s => s = .breaking]
    simp only [exists_eq_right]
  have hextends : old.Extends new ↔ ∃ c ∈ changes, c.type = .added := by
    rw [Spec.extends_iff, Spec.exists_change_iff hchanges fun t _ _ => t = .added]
    simp only [exists_and_right, exists_eq_right]
  rw [hbreaks, hextends, not_not]
  exact ⟨Risk.bumpOf_eq_major_iff, Risk.bumpOf_eq_minor_iff, Risk.bumpOf_eq_patch_iff⟩

/-- An endpoint that is listed twice, with another type of its parameter in each entry. -/
def Sample.listedTwice : Spec :=
  { name := "pets", version := "1", format := .openapi
    endpoints :=
      [{ id := "GET-/pets", path := "/pets", method := "GET"
         parameters := [{ name := "limit", location := "query", required := true }] },
       { id := "GET-/pets", path := "/pets", method := "GET"
         parameters := [{ name := "limit", location := "query", type := "integer" }] }] }

/-- The second entry alone, with one more response. -/
def Sample.listedOnce : Spec :=
  { name := "pets", version := "2", format := .openapi
    endpoints :=
      [{ id := "GET-/pets", path := "/pets", method := "GET"
         parameters := [{ name := "limit", location := "query", type := "integer" }]
         responses := [{ statusCode := "404" }] }] }

/-- The last entry of an endpoint counts: against the first one the parameter would have changed. -/
theorem bump_of_endpoint_listed_twice :
    (∃ c, Comparison.ofSpecs Sample.listedTwice Sample.listedOnce = .ok c ∧ c.risk.bump = .minor) ∧
      ¬ Sample.listedTwice.Breaks Sample.listedOnce ∧
      Sample.listedTwice.Extends Sample.listedOnce :=
  ⟨⟨_, rfl, rfl⟩, (bump_iff rfl).2.1.mp rfl⟩

end ApiDrift
