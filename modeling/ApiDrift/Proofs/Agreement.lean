import ApiDrift.Proofs.Rules
import ApiDrift.Verdict.Detection

/-!
# When a comparison finds nothing

Two specifications agree where each entity of one has its counterpart in the other and nothing that
is looked at differs. A comparison is empty exactly then, and its verdict is the mildest one. Every
specification agrees with itself, however often its keys repeat, so the two texts of an unchanged
file are never found to differ.
-/
namespace ApiDrift
open Compare

/-- Two bodies of which the new one takes all that the old one took. -/
inductive RequestBody.Agree : Option RequestBody → Option RequestBody → Prop
  | absent : RequestBody.Agree none none
  | present {a b : RequestBody} : ¬ (a.required = false ∧ b.required = true) →
      (∀ t ∈ a.contentTypes, t ∈ b.contentTypes) → RequestBody.Agree (some a) (some b)

structure Endpoint.Agrees (old new : Endpoint) : Prop where
  deprecation : ¬ (old.deprecated = false ∧ new.deprecated = true)
  parameterKeys : SameKeys Parameter.key old.parameters new.parameters
  parameters : ∀ p q, Paired Parameter.key old.parameters new.parameters p q →
    ¬ (p.required = false ∧ q.required = true) ∧ p.type = q.type
  body : RequestBody.Agree old.requestBody new.requestBody
  responseCodes : SameKeys Response.statusCode old.responses new.responses

structure Schema.Agrees (old new : Schema) : Prop where
  propertyNames : SameKeys Property.name old.properties new.properties
  properties : ∀ p q, Paired Property.name old.properties new.properties p q →
    p.type = q.type ∧ ¬ (q.name ∉ old.required ∧ q.name ∈ new.required)

structure Spec.Agrees (old new : Spec) : Prop where
  endpointIds : SameKeys Endpoint.id old.endpoints new.endpoints
  endpoints : ∀ d e, Paired Endpoint.id old.endpoints new.endpoints d e → d.Agrees e
  schemaNames : SameKeys Schema.name old.schemas new.schemas
  schemas : ∀ d e, Paired Schema.name old.schemas new.schemas d e → d.Agrees e
  securityNames : SameKeys SecurityScheme.name old.security new.security

theorem RequestBody.agree_iff {a b : Option RequestBody} :
    RequestBody.Agree a b ↔ ∀ t s, ¬ BodyRule a b t s := by
  constructor
  · intro h t s hrule
    cases h with
    | absent => nomatch hrule
    | present hr hc =>
      cases hrule with
      | demanded ha hb => exact hr ⟨ha, hb⟩
      | narrowed hold hnew => exact hnew (hc _ hold)
  · intro h
    cases a with
    | none =>
      cases b with
      | none => exact .absent
      | some b => exact absurd (.added b) (h _ _)
    | some a =>
      cases b with
      | none => exact absurd (.removed a) (h _ _)
      | some b =>
        refine .present (fun hr => h _ _ (.demanded hr.1 hr.2)) fun t ht => ?_
        by_contra hnew
        exact h _ _ (.narrowed ht hnew)

theorem Endpoint.agrees_iff {old new : Endpoint} :
    old.Agrees new ↔ ∀ t g s, ¬ EndpointRule old new t g s := by
  constructor
  · intro h t g s hrule
    have hparameterKeys := sameKeys_iff.mp h.parameterKeys
    have hresponseCodes := sameKeys_iff.mp h.responseCodes
    cases hrule with
    | deprecated hd he => exact h.deprecation ⟨hd, he⟩
    | parameter hrule =>
      cases hrule with
      | removed hp => exact hparameterKeys.1 _ hp
      | added hp => exact hparameterKeys.2 _ hp
      | demanded hpq hp hq => exact (h.parameters _ _ hpq).1 ⟨hp, hq⟩
      | retyped hpq hne => exact hne (h.parameters _ _ hpq).2
    | body hrule => exact RequestBody.agree_iff.mp h.body _ _ hrule
    | responseRemoved hr => exact hresponseCodes.1 _ hr
    | responseAdded hr => exact hresponseCodes.2 _ hr
  · intro h
    refine ⟨?_, ?_, ?_, ?_, ?_⟩
    · intro hdep
      exact h _ _ _ (.deprecated hdep.1 hdep.2)
    · exact sameKeys_iff.mpr ⟨fun p hp => h _ _ _ (.parameter (.removed hp)),
        fun p hp => h _ _ _ (.parameter (.added hp))⟩
    · intro p q hpq
      refine ⟨fun hr => h _ _ _ (.parameter (.demanded hpq hr.1 hr.2)), ?_⟩
      by_contra hne
      exact h _ _ _ (.parameter (.retyped hpq hne))
    · exact RequestBody.agree_iff.mpr fun t s hrule => h _ _ _ (.body hrule)
    · exact sameKeys_iff.mpr ⟨fun r hr => h _ _ _ (.responseRemoved hr),
        fun r hr => h _ _ _ (.responseAdded hr)⟩

theorem Schema.agrees_iff {old new : Schema} :
    old.Agrees new ↔ ∀ t s, ¬ SchemaRule old new t s := by
  constructor
  · intro h t s hrule
    have hnames := sameKeys_iff.mp h.propertyNames
    cases hrule with
    | removed hp => exact hnames.1 _ hp
    | added hp => exact hnames.2 _ hp
    | retyped hpq hne => exact hne (h.properties _ _ hpq).1
    | demanded hpq hold hnew => exact (h.properties _ _ hpq).2 ⟨hold, hnew⟩
  · intro h
    refine ⟨?_, ?_⟩
    · exact sameKeys_iff.mpr ⟨fun p hp => h _ _ (.removed hp), fun p hp => h _ _ (.added hp)⟩
    · intro p q hpq
      refine ⟨?_, fun hr => h _ _ (.demanded hpq hr.1 hr.2)⟩
      by_contra hne
      exact h _ _ (.retyped hpq hne)

theorem Spec.agrees_iff {old new : Spec} :
    old.Agrees new ↔ ∀ t g s, ¬ SpecRule old new t g s := by
  constructor
  · intro h t g s hrule
    have hids := sameKeys_iff.mp h.endpointIds
    have hschemas := sameKeys_iff.mp h.schemaNames
    have hsecurity := sameKeys_iff.mp h.securityNames
    cases hrule with
    | endpointRemoved he => exact hids.1 _ he
    | endpointAdded he => exact hids.2 _ he
    | endpoint hpair hrule => exact Endpoint.agrees_iff.mp (h.endpoints _ _ hpair) _ _ _ hrule
    | schemaRemoved he => exact hschemas.1 _ he
    | schemaAdded he => exact hschemas.2 _ he
    | schema hpair hrule => exact Schema.agrees_iff.mp (h.schemas _ _ hpair) _ _ hrule
    | securityRemoved he => exact hsecurity.1 _ he
    | securityAdded he => exact hsecurity.2 _ he
  · intro h
    refine ⟨?_, ?_, ?_, ?_, ?_⟩
    · exact sameKeys_iff.mpr ⟨fun e he => h _ _ _ (.endpointRemoved he),
        fun e he => h _ _ _ (.endpointAdded he)⟩
    · intro d e hpair
      exact Endpoint.agrees_iff.mpr fun t g s hrule => h _ _ _ (.endpoint hpair hrule)
    · exact sameKeys_iff.mpr ⟨fun e he => h _ _ _ (.schemaRemoved he),
        fun e he => h _ _ _ (.schemaAdded he)⟩
    · intro d e hpair
      exact Schema.agrees_iff.mpr fun t s hrule => h _ _ _ (.schema hpair hrule)
    · exact sameKeys_iff.mpr ⟨fun e he => h _ _ _ (.securityRemoved he),
        fun e he => h _ _ _ (.securityAdded he)⟩

theorem RequestBody.Agree.refl (a : Option RequestBody) : RequestBody.Agree a a := by
  cases a with
  | none => exact .absent
  | some a => exact .present (by simp) fun _ => id

theorem Endpoint.Agrees.refl (e : Endpoint) : e.Agrees e where
  deprecation := by simp
  parameterKeys := .refl _
  parameters p q hpq := by
    obtain rfl := hpq.eq_of_self
    simp
  body := .refl _
  responseCodes := .refl _

theorem Schema.Agrees.refl (e : Schema) : e.Agrees e where
  propertyNames := .refl _
  properties p q hpq := by
    obtain rfl := hpq.eq_of_self
    simp

theorem Spec.Agrees.refl (spec : Spec) : spec.Agrees spec where
  endpointIds := .refl _
  endpoints d _ hpair := hpair.eq_of_self ▸ .refl d
  schemaNames := .refl _
  schemas d _ hpair := hpair.eq_of_self ▸ .refl d
  securityNames := .refl _

/-- No change is reported exactly where the two specifications agree. In particular there is an
answer then: nothing is shown as text where no parameter comes or goes. -/
theorem Spec.changes_eq_nil_iff {old new : Spec} : old.changes new = .ok [] ↔ old.Agrees new := by
  rw [Spec.agrees_iff]
  constructor
  · intro h t g s hrule
    have hmem := (Spec.kind_mem_changes h).mpr hrule
    simp at hmem
  · intro h
    obtain ⟨changes, hchanges⟩ := Spec.exists_changes_iff.mpr fun d e hpair =>
      ⟨fun p hp => absurd (.endpoint hpair (.parameter (.removed hp))) (h _ _ _),
        fun p hp => absurd (.endpoint hpair (.parameter (.added hp))) (h _ _ _)⟩
    cases changes with
    | nil => exact hchanges
    | cons c cs =>
      obtain ⟨t, g, s, hrule, -⟩ := (Spec.exists_change_iff hchanges fun _ _ _ => True).mp
        ⟨c, List.mem_cons_self, trivial⟩
      exact absurd hrule (h t g s)

namespace Comparison

/-- The verdict that nothing changed. -/
def unchanged (name old new : String) : Comparison :=
  { apiName := name, fromVersion := old, toVersion := new
    changes := [], breaking := [], totalChanges := 0
    risk := ⟨0, .low, .patch⟩, summary := {} }

theorem ofSpecs_eq_unchanged_iff {old new : Spec} :
    ofSpecs old new = .ok (unchanged new.name old.version new.version) ↔
      old.changes new = .ok [] := by
  rw [ofSpecs_eq_ok]
  constructor
  · intro h
    obtain ⟨changes, hchanges, h⟩ := h
    have hnil : changes = [] := congrArg Comparison.changes h
    exact hnil ▸ hchanges
  · intro h
    exact ⟨[], h, rfl⟩

theorem narrow_unchanged (n : Narrowing) (name old new : String) :
    (unchanged name old new).narrow n = unchanged name old new := by
  obtain ⟨threshold, deprecations⟩ := n
  cases threshold <;> cases deprecations <;> rfl

end Comparison

/-- A comparison is empty exactly where the specifications agree, and gives the mildest verdict
then. A specification always agrees with itself, and so do the two texts of a file that is not
changed wherever they can be read. -/
theorem empty_iff_agrees (old new : Spec) :
    ((∃ d, old.difference new = .ok d ∧ d.changes = []) ↔ old.Agrees new) ∧
      (Comparison.ofSpecs old new = .ok (.unchanged new.name old.version new.version) ↔
        old.Agrees new) ∧
      (∀ spec : Spec,
        Comparison.ofSpecs spec spec = .ok (.unchanged spec.name spec.version spec.version)) ∧
      ∀ (n : Narrowing) (filename text : String),
        Revision.compare n ⟨filename, text, text⟩ =
          (Reading.readSpec text filename).map fun spec =>
            .unchanged spec.name spec.version spec.version := by
  have hself : ∀ spec : Spec,
      Comparison.ofSpecs spec spec = .ok (.unchanged spec.name spec.version spec.version) := by
    intro spec
    rw [Comparison.ofSpecs_eq_unchanged_iff, Spec.changes_eq_nil_iff]
    exact .refl spec
  refine ⟨?_, ?_, hself, ?_⟩
  · rw [← Spec.changes_eq_nil_iff]
    simp only [Spec.difference, bind_eq_ok, pure, Except.pure, Except.ok.injEq]
    constructor
    · intro h
      obtain ⟨d, ⟨changes, hchanges, rfl⟩, hnil⟩ := h
      exact hnil ▸ hchanges
    · intro h
      exact ⟨_, ⟨[], h, rfl⟩, rfl⟩
  · rw [Comparison.ofSpecs_eq_unchanged_iff, Spec.changes_eq_nil_iff]
  · intro n filename text
    unfold Revision.compare
    cases Reading.readSpec text filename with
    | error f => rfl
    | ok spec =>
      have hcompare : spec.compare n spec =
          .ok (.unchanged spec.name spec.version spec.version) := by
        simp only [Spec.compare, hself, Comparison.narrow_unchanged]
      exact hcompare

end ApiDrift
