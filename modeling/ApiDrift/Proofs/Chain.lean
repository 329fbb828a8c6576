import ApiDrift.Proofs.Agreement
import Mathlib.Data.List.Chain

/-!
# Chains of versions

Versions that follow one another are compared step by step, or the first with the last. What the
long comparison reports shows at one of the steps, though not always as the same change: a parameter
that is required in the end may have come as an optional one and be demanded later. Where the change
does harm, so does what shows of it. Harmless steps therefore add up to a harmless whole, and empty
ones to an empty one.

Without removals being harm the theorem would fail: what is taken away without breaking anything,
and given back in another form, is a breaking change between the ends.
-/
namespace ApiDrift
open Compare

/-- A change that breaks clients or takes something away. -/
def Harms (t : ChangeType) (s : Severity) : Prop := t = .removed ∨ s = .breaking

/-- Something of a change shows at one of two steps, and does harm if the change does. -/
inductive Shows (earlier later : ChangeType → Severity → Prop) (t : ChangeType) (s : Severity) :
    Prop
  | first {t' : ChangeType} {s' : Severity} : earlier t' s' → (Harms t s → Harms t' s') →
      Shows earlier later t s
  | second {t' : ChangeType} {s' : Severity} : later t' s' → (Harms t s → Harms t' s') →
      Shows earlier later t s

theorem Shows.mono {earlier earlier' later later' : ChangeType → Severity → Prop} {t : ChangeType}
    {s : Severity} (h : Shows earlier later t s) (hearlier : ∀ t s, earlier t s → earlier' t s)
    (hlater : ∀ t s, later t s → later' t s) : Shows earlier' later' t s := by
  cases h with
  | first h hharms => exact .first (hearlier _ _ h) hharms
  | second h hharms => exact .second (hlater _ _ h) hharms

namespace Compare

variable {t : ChangeType} {g : Category} {s : Severity}

theorem ParameterRule.via {old new : List Parameter} (h : ParameterRule old new t s)
    (mid : List Parameter) : Shows (ParameterRule old mid) (ParameterRule mid new) t s := by
  cases h with
  | removed hp =>
    rcases hp.via mid with hp | ⟨q, -, hq⟩
    · exact .first (.removed hp) id
    · exact .second (.removed hq) fun _ => .inl rfl
  | @added p hp =>
    rcases hp.via mid with hp | ⟨q, hpq, hq⟩
    · exact .second (.added hp) id
    · -- It came at the first step; if it was optional then, the second step demands it.
      cases hrequired : q.required with
      | true =>
        refine .first (.added hq) fun _ => .inr ?_
        rw [hrequired, if_pos rfl]
      | false =>
        cases hdemanded : p.required with
        | true => exact .second (.demanded hpq.symm hrequired hdemanded) fun _ => .inr rfl
        | false =>
          refine .first (.added hq) ?_
          simp [Harms]
  | demanded hpq hp hq =>
    rcases hpq.via mid with hp' | ⟨r, hpr, hrq⟩
    · exact .first (.removed hp') fun _ => .inl rfl
    · cases hr : r.required with
      | true => exact .first (.demanded hpr hp hr) id
      | false => exact .second (.demanded hrq hr hq) id
  | @retyped p q hpq hne =>
    rcases hpq.via mid with hp | ⟨r, hpr, hrq⟩
    · exact .first (.removed hp) fun _ => .inl rfl
    · by_cases htype : p.type = r.type
      · exact .second (.retyped hrq (htype ▸ hne)) id
      · exact .first (.retyped hpr htype) id

theorem BodyRule.via {a b : Option RequestBody} (h : BodyRule a b t s) (mid : Option RequestBody) :
    Shows (BodyRule a mid) (BodyRule mid b) t s := by
  cases mid with
  | none =>
    cases h with
    | added b => exact .second (.added b) id
    | removed a => exact .first (.removed a) id
    | @demanded a => exact .first (.removed a) fun _ => .inl rfl
    | @narrowed a => exact .first (.removed a) fun _ => .inl rfl
  | some m =>
    cases h with
    | added b =>
      cases hrequired : m.required with
      | true =>
        refine .first (.added m) fun _ => .inr ?_
        rw [hrequired, if_pos rfl]
      | false =>
        cases hdemanded : b.required with
        | true => exact .second (.demanded hrequired hdemanded) fun _ => .inr rfl
        | false =>
          refine .first (.added m) ?_
          simp [Harms]
    | removed => exact .second (.removed m) id
    | demanded ha hb =>
      cases hm : m.required with
      | true => exact .first (.demanded ha hm) id
      | false => exact .second (.demanded hm hb) id
    | @narrowed _ _ u ha hb =>
      by_cases hm : u ∈ m.contentTypes
      · exact .second (.narrowed hm hb) id
      · exact .first (.narrowed ha hm) id

theorem EndpointRule.via {old new : Endpoint} (h : EndpointRule old new t g s) (mid : Endpoint) :
    Shows (fun t s => ∃ g, EndpointRule old mid t g s) (fun t s => ∃ g, EndpointRule mid new t g s)
      t s := by
  cases h with
  | deprecated hold hnew =>
    cases hmid : mid.deprecated with
    | true => exact .first ⟨_, .deprecated hold hmid⟩ id
    | false => exact .second ⟨_, .deprecated hmid hnew⟩ id
  | parameter h =>
    exact (h.via mid.parameters).mono (fun _ _ h => ⟨_, .parameter h⟩)
      fun _ _ h => ⟨_, .parameter h⟩
  | body h =>
    exact (h.via mid.requestBody).mono (fun _ _ h => ⟨_, .body h⟩) fun _ _ h => ⟨_, .body h⟩
  | responseRemoved hr =>
    rcases hr.via mid.responses with hr | ⟨q, -, hq⟩
    · exact .first ⟨_, .responseRemoved hr⟩ id
    · exact .second ⟨_, .responseRemoved hq⟩ id
  | responseAdded hr =>
    rcases hr.via mid.responses with hr | ⟨q, -, hq⟩
    · exact .second ⟨_, .responseAdded hr⟩ id
    · exact .first ⟨_, .responseAdded hq⟩ id

theorem SchemaRule.via {old new : Schema} (h : SchemaRule old new t s) (mid : Schema) :
    Shows (SchemaRule old mid) (SchemaRule mid new) t s := by
  cases h with
  | removed hp =>
    rcases hp.via mid.properties with hp | ⟨q, -, hq⟩
    · exact .first (.removed hp) id
    · exact .second (.removed hq) id
  | added hp =>
    rcases hp.via mid.properties with hp | ⟨q, -, hq⟩
    · exact .second (.added hp) id
    · refine .first (.added hq) fun hharms => absurd hharms ?_
      rw [Harms]
      split <;> simp
  | @retyped p q hpq hne =>
    rcases hpq.via mid.properties with hp | ⟨r, hpr, hrq⟩
    · exact .first (.removed hp) fun _ => .inl rfl
    · by_cases htype : p.type = r.type
      · exact .second (.retyped hrq (htype ▸ hne)) id
      · exact .first (.retyped hpr htype) id
  | @demanded p q hpq hold hnew =>
    rcases hpq.via mid.properties with hp | ⟨r, hpr, hrq⟩
    · exact .first (.removed hp) fun _ => .inl rfl
    · by_cases hmid : q.name ∈ mid.required
      · have hname : r.name = q.name := hrq.2.2
        exact .first (.demanded hpr (hname ▸ hold) (hname ▸ hmid)) id
      · exact .second (.demanded hrq hmid hnew) id

/-- What the comparison of two versions finds shows before or after any version in between. -/
theorem SpecRule.via {old new : Spec} (h : SpecRule old new t g s) (mid : Spec) :
    Shows (fun t s => ∃ g, SpecRule old mid t g s) (fun t s => ∃ g, SpecRule mid new t g s) t
      s := by
  cases h with
  | endpointRemoved he =>
    rcases he.via mid.endpoints with he | ⟨d, -, hd⟩
    · exact .first ⟨_, .endpointRemoved he⟩ id
    · exact .second ⟨_, .endpointRemoved hd⟩ id
  | endpointAdded he =>
    rcases he.via mid.endpoints with he | ⟨d, -, hd⟩
    · exact .second ⟨_, .endpointAdded he⟩ id
    · exact .first ⟨_, .endpointAdded hd⟩ id
  | endpoint hpair h =>
    rcases hpair.via mid.endpoints with he | ⟨m, hfirst, hsecond⟩
    · exact .first ⟨_, .endpointRemoved he⟩ fun _ => .inl rfl
    · exact (h.via m).mono (fun _ _ h => h.imp fun _ => .endpoint hfirst)
        fun _ _ h => h.imp fun _ => .endpoint hsecond
  | schemaRemoved he =>
    rcases he.via mid.schemas with he | ⟨d, -, hd⟩
    · exact .first ⟨_, .schemaRemoved he⟩ id
    · exact .second ⟨_, .schemaRemoved hd⟩ id
  | schemaAdded he =>
    rcases he.via mid.schemas with he | ⟨d, -, hd⟩
    · exact .second ⟨_, .schemaAdded he⟩ id
    · exact .first ⟨_, .schemaAdded hd⟩ id
  | schema hpair h =>
    rcases hpair.via mid.schemas with he | ⟨m, hfirst, hsecond⟩
    · exact .first ⟨_, .schemaRemoved he⟩ fun _ => .inl rfl
    · exact (h.via m).mono (fun _ _ h => ⟨_, .schema hfirst h⟩) fun _ _ h => ⟨_, .schema hsecond h⟩
  | securityRemoved he =>
    rcases he.via mid.security with he | ⟨d, -, hd⟩
    · exact .first ⟨_, .securityRemoved he⟩ id
    · exact .second ⟨_, .securityRemoved hd⟩ id
  | securityAdded he =>
    rcases he.via mid.security with he | ⟨d, -, hd⟩
    · exact .second ⟨_, .securityAdded he⟩ id
    · exact .first ⟨_, .securityAdded hd⟩ id

end Compare

section
variable {P : ChangeType → Severity → Prop}

/-- Nothing of a kind is to be found between two versions. -/
def Spec.Lacks (P : ChangeType → Severity → Prop) (old new : Spec) : Prop :=
  ∀ t g s, SpecRule old new t g s → ¬ P t s

theorem Spec.Lacks.refl (spec : Spec) : Spec.Lacks P spec spec :=
  fun t g s hrule => absurd hrule (Spec.agrees_iff.mp (.refl spec) t g s)

/-- A kind that a change and what shows of it share is lacking between the ends of two steps where
both steps lack it. -/
theorem Spec.Lacks.trans (hP : ∀ {t s t' s'}, (Harms t s → Harms t' s') → P t s → P t' s')
    {old mid new : Spec} (hfirst : Spec.Lacks P old mid) (hsecond : Spec.Lacks P mid new) :
    Spec.Lacks P old new := by
  intro t g s hrule hPts
  cases hrule.via mid with
  | first h hharms =>
    obtain ⟨g', h⟩ := h
    exact hfirst _ g' _ h (hP hharms hPts)
  | second h hharms =>
    obtain ⟨g', h⟩ := h
    exact hsecond _ g' _ h (hP hharms hPts)

theorem Spec.Lacks.of_isChain (hP : ∀ {t s t' s'}, (Harms t s → Harms t' s') → P t s → P t' s')
    {first : Spec} {later : List Spec} (h : List.IsChain (Spec.Lacks P) (first :: later)) :
    Spec.Lacks P first (later.getLastD first) := by
  induction later generalizing first with
  | nil => exact .refl first
  | cons next later ih =>
    rw [List.isChain_cons_cons] at h
    rw [List.getLastD_cons]
    exact h.1.trans hP (ih h.2)

/-- Between versions that can be compared the rules lack what no change has. -/
theorem Spec.lacks_iff {old new : Spec} {changes : List Change}
    (h : old.changes new = .ok changes) :
    Spec.Lacks P old new ↔ ∀ c ∈ changes, ¬ P c.type c.severity := by
  have hexists := Spec.exists_change_iff h fun t _ s => P t s
  constructor
  · intro hlacks c hc hP
    obtain ⟨t, g, s, hrule, hPts⟩ := hexists.mp ⟨c, hc, hP⟩
    exact hlacks t g s hrule hPts
  · intro hnone t g s hrule hPts
    obtain ⟨c, hc, hP⟩ := hexists.mpr ⟨t, g, s, hrule, hPts⟩
    exact hnone c hc hP

/-- What no comparison of a step finds the comparison of the ends does not find. -/
theorem Spec.forall_changes_of_isChain
    (hP : ∀ {t s t' s'}, (Harms t s → Harms t' s') → P t s → P t' s') {first : Spec}
    {later : List Spec} (hlines : ∀ s ∈ first :: later, s.HasLines)
    (h : List.IsChain (fun old new => ∀ d, old.difference new = .ok d →
      ∀ c ∈ d.changes, ¬ P c.type c.severity) (first :: later)) :
    ∃ d, first.difference (later.getLastD first) = .ok d ∧
      ∀ c ∈ d.changes, ¬ P c.type c.severity := by
  have hsteps : List.IsChain (Spec.Lacks P) (first :: later) := by
    refine h.imp_of_mem_imp fun old new hold hnew hstep => ?_
    obtain ⟨changes, hchanges⟩ := (hlines old hold).exists_changes (hlines new hnew)
    exact (Spec.lacks_iff hchanges).mpr (hstep _ (Spec.difference_eq_ok.mpr ⟨_, hchanges, rfl⟩))
  have hends := Spec.Lacks.of_isChain hP hsteps
  obtain ⟨changes, hchanges⟩ := (hlines first List.mem_cons_self).exists_changes
    (hlines _ List.getLastD_mem_cons)
  exact ⟨_, Spec.difference_eq_ok.mpr ⟨_, hchanges, rfl⟩, (Spec.lacks_iff hchanges).mp hends⟩

end

/-- Nothing is taken away between two versions and no client breaks. -/
def Difference.Additive (d : Difference) : Prop :=
  ∀ c ∈ d.changes, c.severity ≠ .breaking ∧ c.type ≠ .removed

instance (d : Difference) : Decidable d.Additive :=
  inferInstanceAs (Decidable (∀ c ∈ d.changes, c.severity ≠ .breaking ∧ c.type ≠ .removed))

theorem Difference.additive_iff {d : Difference} :
    d.Additive ↔ ∀ c ∈ d.changes, ¬ Harms c.type c.severity := by
  refine forall₂_congr fun c _ => ?_
  rw [Harms, not_or]
  exact and_comm

/-- Additive steps add up to an additive whole, and steps without changes to one without changes. -/
theorem additive_steps_compose {first : Spec} {later : List Spec}
    (hlines : ∀ s ∈ first :: later, s.HasLines) :
    (List.IsChain (fun old new => ∀ d, old.difference new = .ok d → d.Additive) (first :: later) →
      ∃ d, first.difference (later.getLastD first) = .ok d ∧ d.Additive) ∧
    (List.IsChain (fun old new => ∀ d, old.difference new = .ok d → d.changes = [])
        (first :: later) →
      ∃ d, first.difference (later.getLastD first) = .ok d ∧ d.changes = []) := by
  refine ⟨?_, ?_⟩
  · simp only [Difference.additive_iff]
    exact Spec.forall_changes_of_isChain (fun hharms => hharms) hlines
  · have hempty := Spec.forall_changes_of_isChain (P := fun _ _ => True) (fun _ => id) hlines
    simpa only [not_true, ← List.eq_nil_iff_forall_not_mem] using hempty

def Sample.limit : Parameter := { name := "limit", location := "query", type := "integer" }

/-- Versions of an interface to pets with one endpoint, and schemas for it. -/
def Sample.pets (description : String) (parameters : List Parameter) (responses : List Response)
    (schemas : List Schema) : Spec :=
  { name := "pets", version := "1", format := .openapi
    endpoints :=
      [{ id := "GET-/pets", path := "/pets", method := "GET", description := some description
         parameters, responses }]
    schemas }

/-- The first version, one with a parameter more, and one with a response and a schema more. -/
def Sample.growing : Spec × List Spec :=
  (Sample.pets "All pets." [] [{ statusCode := "200" }] [],
    [Sample.pets "All pets." [Sample.limit] [{ statusCode := "200" }] [],
     Sample.pets "All pets." [Sample.limit] [{ statusCode := "200" }, { statusCode := "404" }]
       [{ name := "Pet", properties := [{ name := "id", type := "string" }], required := ["id"] }]])

/-- Three versions that differ in a description. -/
def Sample.described : Spec × List Spec :=
  (Sample.pets "All pets." [Sample.limit] [] [],
    [Sample.pets "All pets there are." [Sample.limit] [] [],
     Sample.pets "Pets." [Sample.limit] [] []])

theorem growing_versions_add :
    (∃ d, Sample.growing.1.difference (Sample.growing.2.getLastD Sample.growing.1) = .ok d ∧
      d.Additive ∧ d.changes.length = 3) ∧
    ∃ d, Sample.described.1.difference (Sample.described.2.getLastD Sample.described.1) = .ok d ∧
      d.changes = [] := by
  have hlimit : Sample.limit.HasLine := ⟨_, rfl⟩
  have hgrowing : ∀ s ∈ Sample.growing.1 :: Sample.growing.2, s.HasLines := by
    simp [Sample.growing, Sample.pets, Spec.HasLines, hlimit]
  have hdescribed : ∀ s ∈ Sample.described.1 :: Sample.described.2, s.HasLines := by
    simp [Sample.described, Sample.pets, Spec.HasLines, hlimit]
  refine ⟨?_, (additive_steps_compose hdescribed).2 ?_⟩
  · have hsteps : List.IsChain (fun old new => ∀ d, old.difference new = .ok d → d.Additive)
        (Sample.growing.1 :: Sample.growing.2) := by
      refine .cons_cons ?_ (.cons_cons ?_ (.singleton _))
      all_goals
        intro d hd
        cases hd
        decide +kernel
    obtain ⟨d, hd, hadditive⟩ := (additive_steps_compose hgrowing).1 hsteps
    refine ⟨d, hd, hadditive, ?_⟩
    cases hd
    rfl
  · refine .cons_cons ?_ (.cons_cons ?_ (.singleton _))
    all_goals
      intro d hd
      cases hd
      rfl

/-! A parameter that goes and comes back with another type: neither step is breaking, but the whole
is, which is why removals count as harm. -/

example :
    let versions := [[Sample.limit], [], [{ Sample.limit with type := "string" }]].map
      fun parameters => Sample.pets "All pets." parameters [] []
    let severities := fun old new : Spec => (old.changes new).map (·.map Change.severity)
    versions.map (fun old => versions.map (severities old)) =
      [[.ok [], .ok [.warning], .ok [.breaking]],
       [.ok [.info], .ok [], .ok [.info]],
       [.ok [.breaking], .ok [.warning], .ok []]] := rfl

end ApiDrift
