import ApiDrift.Verdict.Comparison
import ApiDrift.Proofs.Keyed
import ApiDrift.Proofs.Outcomes

/-!
# The rules of a comparison

Which differences are reported, and under which type, category and severity. Each relation below has
one constructor for each kind of difference, stated of the two versions alone. The theorems show
that the comparison functions report what the rules allow, and nothing else. Paths, descriptions and
values of a change are not part of the rules, and neither is the number of changes of a kind.

A comparison has no answer only where an added or removed parameter of a common endpoint has no
text.
-/
namespace ApiDrift

/-- A parameter that can be shown as a line of data. -/
def Parameter.HasLine (p : Parameter) : Prop := ∃ line, p.line = .ok line

/-- The type, category and severity of a change. -/
def Change.kind (c : Change) : ChangeType × Category × Severity := (c.type, c.category, c.severity)

namespace Compare

inductive ParameterRule (old new : List Parameter) : ChangeType → Severity → Prop
  | removed {p : Parameter} : Alone Parameter.key old new p →
      ParameterRule old new .removed (if p.required then .breaking else .warning)
  | added {p : Parameter} : Alone Parameter.key new old p →
      ParameterRule old new .added (if p.required then .breaking else .info)
  | demanded {p q : Parameter} : Paired Parameter.key old new p q →
      p.required = false → q.required = true → ParameterRule old new .modified .breaking
  | retyped {p q : Parameter} : Paired Parameter.key old new p q →
      p.type ≠ q.type → ParameterRule old new .modified .breaking

inductive BodyRule : Option RequestBody → Option RequestBody → ChangeType → Severity → Prop
  | added (b : RequestBody) :
      BodyRule none (some b) .added (if b.required then .breaking else .info)
  | removed (a : RequestBody) : BodyRule (some a) none .removed .info
  | demanded {a b : RequestBody} : a.required = false → b.required = true →
      BodyRule (some a) (some b) .modified .breaking
  | narrowed {a b : RequestBody} {t : String} : t ∈ a.contentTypes → t ∉ b.contentTypes →
      BodyRule (some a) (some b) .removed .breaking

inductive EndpointRule (old new : Endpoint) : ChangeType → Category → Severity → Prop
  | deprecated : old.deprecated = false → new.deprecated = true →
      EndpointRule old new .deprecated .endpoint .warning
  | parameter {t : ChangeType} {s : Severity} : ParameterRule old.parameters new.parameters t s →
      EndpointRule old new t .parameter s
  | body {t : ChangeType} {s : Severity} : BodyRule old.requestBody new.requestBody t s →
      EndpointRule old new t .requestBody s
  | responseRemoved {r : Response} : Alone Response.statusCode old.responses new.responses r →
      EndpointRule old new .removed .response .warning
  | responseAdded {r : Response} : Alone Response.statusCode new.responses old.responses r →
      EndpointRule old new .added .response .info

inductive SchemaRule (old new : Schema) : ChangeType → Severity → Prop
  | removed {p : Property} : Alone Property.name old.properties new.properties p →
      SchemaRule old new .removed .dangerous
  | added {p : Property} : Alone Property.name new.properties old.properties p →
      SchemaRule old new .added (if new.required.contains p.name then .warning else .info)
  | retyped {p q : Property} : Paired Property.name old.properties new.properties p q →
      p.type ≠ q.type → SchemaRule old new .modified .breaking
  | demanded {p q : Property} : Paired Property.name old.properties new.properties p q →
      q.name ∉ old.required → q.name ∈ new.required → SchemaRule old new .modified .breaking

inductive SpecRule (old new : Spec) : ChangeType → Category → Severity → Prop
  | endpointRemoved {e : Endpoint} : Alone Endpoint.id old.endpoints new.endpoints e →
      SpecRule old new .removed .endpoint .breaking
  | endpointAdded {e : Endpoint} : Alone Endpoint.id new.endpoints old.endpoints e →
      SpecRule old new .added .endpoint .info
  | endpoint {d e : Endpoint} {t : ChangeType} {g : Category} {s : Severity} :
      Paired Endpoint.id old.endpoints new.endpoints d e → EndpointRule d e t g s →
      SpecRule old new t g s
  | schemaRemoved {e : Schema} : Alone Schema.name old.schemas new.schemas e →
      SpecRule old new .removed .schema .dangerous
  | schemaAdded {e : Schema} : Alone Schema.name new.schemas old.schemas e →
      SpecRule old new .added .schema .info
  | schema {d e : Schema} {t : ChangeType} {s : Severity} :
      Paired Schema.name old.schemas new.schemas d e → SchemaRule d e t s →
      SpecRule old new t .schemaProperty s
  | securityRemoved {e : SecurityScheme} : Alone SecurityScheme.name old.security new.security e →
      SpecRule old new .removed .security .breaking
  | securityAdded {e : SecurityScheme} : Alone SecurityScheme.name new.security old.security e →
      SpecRule old new .added .security .info

/-- The only deprecation that is reported is that of an endpoint. -/
theorem SpecRule.eq_of_deprecated {old new : Spec} {g : Category} {s : Severity}
    (h : SpecRule old new .deprecated g s) : g = .endpoint ∧ s = .warning := by
  -- The bodies of the endpoints are no variables, so `nomatch` has to see the rule on its own.
  have hbody : ∀ a b s, ¬ BodyRule a b .deprecated s := fun _ _ _ h => nomatch h
  cases h with
  | endpoint hpair h =>
    cases h with
    | deprecated => exact ⟨rfl, rfl⟩
    | parameter h => nomatch h
    | body h => exact absurd h (hbody _ _ _)
  | schema hpair h => nomatch h

/-- A change that is reported under a condition. -/
theorem kind_mem_ite {p : Prop} [Decidable p] {c : Change}
    {kind : ChangeType × Category × Severity} :
    kind ∈ (if p then [c] else []).map Change.kind ↔ p ∧ c.kind = kind := by
  by_cases hp : p
  · rw [if_pos hp, List.map_singleton, List.mem_singleton]
    exact ⟨fun hk => ⟨hp, hk.symm⟩, fun hk => hk.2.symm⟩
  · rw [if_neg hp]
    exact iff_of_false (by simp) fun hk => hp hk.1

section
variable {α : Type} {key : α → String} {old new : List α} {kind : ChangeType × Category × Severity}

theorem kind_mem_removed {f : String × α → Change} :
    kind ∈ ((split key old new).removed.map f).map Change.kind ↔
      ∃ x, Alone key old new x ∧ (f (key x, x)).kind = kind := by
  simp only [List.map_map, List.mem_map, Prod.exists, mem_removed]
  constructor
  · intro hm
    obtain ⟨k, x, ⟨hx, rfl⟩, hk⟩ := hm
    exact ⟨x, hx, hk⟩
  · intro hm
    obtain ⟨x, hx, hk⟩ := hm
    exact ⟨key x, x, ⟨hx, rfl⟩, hk⟩

theorem kind_mem_added {f : String × α → Change} :
    kind ∈ ((split key old new).added.map f).map Change.kind ↔
      ∃ x, Alone key new old x ∧ (f (key x, x)).kind = kind :=
  kind_mem_removed

theorem kind_mem_common {f : α × α → List Change} :
    kind ∈ ((split key old new).common.flatMap f).map Change.kind ↔
      ∃ x y, Paired key old new x y ∧ kind ∈ (f (x, y)).map Change.kind := by
  simp only [List.map_flatMap, List.mem_flatMap, Prod.exists, mem_common]

end

section
variable {base : String} {t : ChangeType} {g : Category} {s : Severity}

/-! Removed and added parameters are shown as text, one check for each entry of a side. -/

section
variable {entries : Keyed Parameter} {P : Parameter → Prop}
variable {f : String → Parameter → Except PlainFault Change}

theorem kind_mem_shown {severity : Parameter → Severity} {cs : List Change}
    (h : (entries.mapM fun e => f e.1 e.2) = .ok cs)
    (hentries : ∀ k p, (k, p) ∈ entries ↔ P p ∧ p.key = k)
    (hf : ∀ k p c, f k p = .ok c → c.kind = (t, .parameter, severity p))
    (kind : ChangeType × Category × Severity) :
    kind ∈ cs.map Change.kind ↔ ∃ p, P p ∧ (t, .parameter, severity p) = kind := by
  rw [List.mem_map]
  constructor
  · intro hm
    obtain ⟨c, hc, hk⟩ := hm
    obtain ⟨⟨k, p⟩, hp, hc⟩ := (mem_mapM h).mp hc
    exact ⟨p, ((hentries k p).mp hp).1, (hf k p c hc).symm.trans hk⟩
  · intro hm
    obtain ⟨p, hp, hk⟩ := hm
    have hmem := (hentries p.key p).mpr ⟨hp, rfl⟩
    obtain ⟨c, hc⟩ := exists_mapM_iff.mp ⟨cs, h⟩ _ hmem
    exact ⟨c, (mem_mapM h).mpr ⟨_, hmem, hc⟩, (hf _ _ c hc).trans hk⟩

theorem exists_shown_iff (hentries : ∀ k p, (k, p) ∈ entries ↔ P p ∧ p.key = k)
    (hf : ∀ k p, (∃ c, f k p = .ok c) ↔ p.HasLine) :
    (∃ cs, (entries.mapM fun e => f e.1 e.2) = .ok cs) ↔ ∀ p, P p → p.HasLine := by
  rw [exists_mapM_iff]
  simp only [Prod.forall, hentries, hf]
  constructor
  · intro h p hp
    exact h p.key p ⟨hp, rfl⟩
  · intro h k p hp
    exact h p hp.1

end

theorem kind_parameterRemoved {k : String} {p : Parameter} {c : Change}
    (h : parameterRemoved base k p = .ok c) :
    c.kind = (.removed, .parameter, if p.required then .breaking else .warning) := by
  obtain ⟨line, -, h⟩ := bind_eq_ok.mp h
  cases h
  rfl

theorem kind_parameterAdded {k : String} {p : Parameter} {c : Change}
    (h : parameterAdded base k p = .ok c) :
    c.kind = (.added, .parameter, if p.required then .breaking else .info) := by
  obtain ⟨line, -, h⟩ := bind_eq_ok.mp h
  cases h
  rfl

theorem kind_mem_parameterDetails {p q : Parameter} :
    (t, g, s) ∈ (parameterDetails base p q).map Change.kind ↔
      (p.required = false ∧ q.required = true ∨ p.type ≠ q.type) ∧
        (.modified, .parameter, .breaking) = (t, g, s) := by
  rw [parameterDetails, List.map_append, List.mem_append, kind_mem_ite, kind_mem_ite, or_and_right,
    Bool.and_eq_true, Bool.not_eq_true']
  rfl

/-- An answer of the comparison of parameters, taken apart. -/
theorem parameters_eq_ok {old new : List Parameter} {cs : List Change} :
    parameters base old new = .ok cs ↔
      ∃ removed added,
        ((split Parameter.key old new).removed.mapM fun e => parameterRemoved base e.1 e.2) =
          .ok removed ∧
        ((split Parameter.key old new).added.mapM fun e => parameterAdded base e.1 e.2) =
          .ok added ∧
        cs = removed ++ added ++
          (split Parameter.key old new).common.flatMap fun pair =>
            parameterDetails base pair.1 pair.2 := by
  unfold parameters
  simp only [bind_eq_ok, pure, Except.pure, Except.ok.injEq]
  constructor
  · intro hm
    obtain ⟨removed, hremoved, added, hadded, rfl⟩ := hm
    exact ⟨removed, added, hremoved, hadded, rfl⟩
  · intro hm
    obtain ⟨removed, added, hremoved, hadded, rfl⟩ := hm
    exact ⟨removed, hremoved, added, hadded, rfl⟩

theorem kind_mem_parameters {old new : List Parameter} {cs : List Change}
    (h : parameters base old new = .ok cs) :
    (t, g, s) ∈ cs.map Change.kind ↔ g = .parameter ∧ ParameterRule old new t s := by
  obtain ⟨removed, added, hremoved, hadded, rfl⟩ := parameters_eq_ok.mp h
  have hremovals := kind_mem_shown hremoved (fun _ _ => mem_removed)
    (fun _ _ _ => kind_parameterRemoved)
  have hadditions := kind_mem_shown hadded (fun _ _ => mem_added)
    (fun _ _ _ => kind_parameterAdded)
  simp only [List.map_append, List.mem_append, hremovals, hadditions, kind_mem_common,
    kind_mem_parameterDetails]
  constructor
  · intro hm
    rcases hm with (⟨p, hp, hk⟩ | ⟨p, hp, hk⟩) | ⟨p, q, hpq, hdiff, hk⟩
    · cases hk
      exact ⟨rfl, .removed hp⟩
    · cases hk
      exact ⟨rfl, .added hp⟩
    · cases hk
      rcases hdiff with ⟨hp, hq⟩ | hne
      · exact ⟨rfl, .demanded hpq hp hq⟩
      · exact ⟨rfl, .retyped hpq hne⟩
  · intro hm
    obtain ⟨rfl, hrule⟩ := hm
    cases hrule with
    | removed hp => exact .inl (.inl ⟨_, hp, rfl⟩)
    | added hp => exact .inl (.inr ⟨_, hp, rfl⟩)
    | demanded hpq hp hq => exact .inr ⟨_, _, hpq, .inl ⟨hp, hq⟩, rfl⟩
    | retyped hpq hne => exact .inr ⟨_, _, hpq, .inr hne, rfl⟩

theorem kind_mem_bodyDetails {a b : RequestBody} :
    (t, g, s) ∈ (bodyDetails base a b).map Change.kind ↔
      (a.required = false ∧ b.required = true) ∧
        (.modified, .requestBody, .breaking) = (t, g, s) ∨
      ∃ u, (u ∈ a.contentTypes ∧ u ∉ b.contentTypes) ∧
        (.removed, .requestBody, .breaking) = (t, g, s) := by
  rw [bodyDetails, List.map_append, List.mem_append, kind_mem_ite, Bool.and_eq_true,
    Bool.not_eq_true']
  refine or_congr Iff.rfl ?_
  simp only [List.map_map, List.mem_map, List.mem_filter, List.contains_eq_mem,
    Bool.not_eq_true', decide_eq_false_iff_not]
  rfl

theorem kind_mem_requestBody {a b : Option RequestBody} :
    (t, g, s) ∈ (requestBody base a b).map Change.kind ↔ g = .requestBody ∧ BodyRule a b t s := by
  cases a with
  | none =>
    cases b with
    | none =>
      refine iff_of_false (by simp [requestBody]) ?_
      intro hm
      obtain ⟨-, hrule⟩ := hm
      nomatch hrule
    | some b =>
      simp only [requestBody, List.map_cons, List.map_nil, List.mem_singleton, Change.kind]
      constructor
      · intro hm
        obtain ⟨rfl, rfl, rfl⟩ := hm
        exact ⟨rfl, .added b⟩
      · intro hm
        obtain ⟨rfl, ⟨⟩⟩ := hm
        rfl
  | some a =>
    cases b with
    | none =>
      simp only [requestBody, List.map_cons, List.map_nil, List.mem_singleton, Change.kind]
      constructor
      · intro hm
        obtain ⟨rfl, rfl, rfl⟩ := hm
        exact ⟨rfl, .removed a⟩
      · intro hm
        obtain ⟨rfl, ⟨⟩⟩ := hm
        rfl
    | some b =>
      rw [requestBody, kind_mem_bodyDetails]
      constructor
      · intro hm
        rcases hm with ⟨⟨ha, hb⟩, hk⟩ | ⟨u, ⟨ha, hb⟩, hk⟩
        · cases hk
          exact ⟨rfl, .demanded ha hb⟩
        · cases hk
          exact ⟨rfl, .narrowed ha hb⟩
      · intro hm
        obtain ⟨rfl, hrule⟩ := hm
        cases hrule with
        | demanded ha hb => exact .inl ⟨⟨ha, hb⟩, rfl⟩
        | narrowed ha hb => exact .inr ⟨_, ⟨ha, hb⟩, rfl⟩

theorem kind_mem_responses {old new : List Response} :
    (t, g, s) ∈ (responses base old new).map Change.kind ↔
      (∃ r, Alone Response.statusCode old new r ∧ (.removed, .response, .warning) = (t, g, s)) ∨
      ∃ r, Alone Response.statusCode new old r ∧ (.added, .response, .info) = (t, g, s) := by
  rw [responses, List.map_append, List.mem_append, kind_mem_removed, kind_mem_added]
  rfl

theorem kind_mem_endpointDetails {d e : Endpoint} {cs : List Change}
    (h : endpointDetails d e = .ok cs) :
    (t, g, s) ∈ cs.map Change.kind ↔ EndpointRule d e t g s := by
  obtain ⟨params, hparams, h⟩ := bind_eq_ok.mp h
  cases h
  simp only [List.map_append, List.mem_append, kind_mem_parameters hparams, kind_mem_requestBody,
    kind_mem_responses, kind_mem_ite, Bool.and_eq_true, Bool.not_eq_true']
  constructor
  · intro hm
    rcases hm with ((⟨hdep, hk⟩ | ⟨rfl, hrule⟩) | ⟨rfl, hrule⟩) | ⟨r, hr, hk⟩ | ⟨r, hr, hk⟩
    · cases hk
      exact .deprecated hdep.1 hdep.2
    · exact .parameter hrule
    · exact .body hrule
    · cases hk
      exact .responseRemoved hr
    · cases hk
      exact .responseAdded hr
  · intro hrule
    cases hrule with
    | deprecated hd he => exact .inl (.inl (.inl ⟨⟨hd, he⟩, rfl⟩))
    | parameter hrule => exact .inl (.inl (.inr ⟨rfl, hrule⟩))
    | body hrule => exact .inl (.inr ⟨rfl, hrule⟩)
    | responseRemoved hr => exact .inr (.inl ⟨_, hr, rfl⟩)
    | responseAdded hr => exact .inr (.inr ⟨_, hr, rfl⟩)

theorem kind_mem_propertyDetails {old new : Schema} {p q : Property} :
    (t, g, s) ∈ (propertyDetails old new p q).map Change.kind ↔
      (p.type ≠ q.type ∨ q.name ∉ old.required ∧ q.name ∈ new.required) ∧
        (.modified, .schemaProperty, .breaking) = (t, g, s) := by
  rw [propertyDetails, List.map_append, List.mem_append, kind_mem_ite, kind_mem_ite, or_and_right]
  simp only [Bool.and_eq_true, Bool.not_eq_true', List.contains_eq_mem, decide_eq_false_iff_not,
    decide_eq_true_eq]
  rfl

theorem kind_mem_schemaDetails {old new : Schema} :
    (t, g, s) ∈ (schemaDetails old new).map Change.kind ↔
      g = .schemaProperty ∧ SchemaRule old new t s := by
  simp only [schemaDetails, List.map_append, List.mem_append, kind_mem_removed, kind_mem_added,
    kind_mem_common, kind_mem_propertyDetails]
  constructor
  · intro hm
    rcases hm with (⟨p, hp, hk⟩ | ⟨p, hp, hk⟩) | ⟨p, q, hpq, hdiff, hk⟩
    · cases hk
      exact ⟨rfl, .removed hp⟩
    · cases hk
      exact ⟨rfl, .added hp⟩
    · cases hk
      rcases hdiff with hne | ⟨hold, hnew⟩
      · exact ⟨rfl, .retyped hpq hne⟩
      · exact ⟨rfl, .demanded hpq hold hnew⟩
  · intro hm
    obtain ⟨rfl, hrule⟩ := hm
    cases hrule with
    | removed hp => exact .inl (.inl ⟨_, hp, rfl⟩)
    | added hp => exact .inl (.inr ⟨_, hp, rfl⟩)
    | retyped hpq hne => exact .inr ⟨_, _, hpq, .inl hne, rfl⟩
    | demanded hpq hold hnew => exact .inr ⟨_, _, hpq, .inr ⟨hold, hnew⟩, rfl⟩

/-- An answer of the comparison of endpoints, taken apart. -/
theorem endpoints_eq_ok {old new : List Endpoint} {cs : List Change} :
    endpoints old new = .ok cs ↔
      ∃ details,
        flatMapChecked (fun pair => endpointDetails pair.1 pair.2)
          (split Endpoint.id old new).common = .ok details ∧
        (split Endpoint.id old new).removed.map (fun e => endpointRemoved e.1 e.2) ++
          (split Endpoint.id old new).added.map (fun e => endpointAdded e.1 e.2) ++
            details = cs := by
  simp only [endpoints, bind_eq_ok, pure, Except.pure, Except.ok.injEq]

theorem kind_mem_endpoints {old new : List Endpoint} {cs : List Change}
    (h : endpoints old new = .ok cs) :
    (t, g, s) ∈ cs.map Change.kind ↔
      (∃ e, Alone Endpoint.id old new e ∧ (.removed, .endpoint, .breaking) = (t, g, s)) ∨
      (∃ e, Alone Endpoint.id new old e ∧ (.added, .endpoint, .info) = (t, g, s)) ∨
      ∃ d e, Paired Endpoint.id old new d e ∧ EndpointRule d e t g s := by
  obtain ⟨details, hdetails, rfl⟩ := endpoints_eq_ok.mp h
  rw [List.map_append, List.map_append, List.mem_append, List.mem_append, or_assoc,
    kind_mem_removed, kind_mem_added]
  refine or_congr Iff.rfl (or_congr Iff.rfl ?_)
  constructor
  · intro hk
    obtain ⟨c, hc, hk⟩ := List.mem_map.mp hk
    obtain ⟨⟨d, e⟩, hpair, zs, hzs, hc⟩ := (mem_flatMapChecked hdetails).mp hc
    refine ⟨d, e, mem_common.mp hpair, (kind_mem_endpointDetails hzs).mp ?_⟩
    exact hk ▸ List.mem_map_of_mem hc
  · intro hm
    obtain ⟨d, e, hpair, hrule⟩ := hm
    have hmem := mem_common.mpr hpair
    obtain ⟨zs, hzs⟩ := exists_flatMapChecked_iff.mp ⟨_, hdetails⟩ _ hmem
    obtain ⟨c, hc, hk⟩ := List.mem_map.mp ((kind_mem_endpointDetails hzs).mpr hrule)
    exact List.mem_map.mpr ⟨c, (mem_flatMapChecked hdetails).mpr ⟨_, hmem, zs, hzs, hc⟩, hk⟩

theorem kind_mem_schemas {old new : List Schema} :
    (t, g, s) ∈ (schemas old new).map Change.kind ↔
      (∃ e, Alone Schema.name old new e ∧ (.removed, .schema, .dangerous) = (t, g, s)) ∨
      (∃ e, Alone Schema.name new old e ∧ (.added, .schema, .info) = (t, g, s)) ∨
      ∃ d e, Paired Schema.name old new d e ∧ g = .schemaProperty ∧ SchemaRule d e t s := by
  simp only [schemas, List.map_append, List.mem_append, or_assoc, kind_mem_removed, kind_mem_added,
    kind_mem_common, kind_mem_schemaDetails]
  rfl

theorem kind_mem_security {old new : List SecurityScheme} :
    (t, g, s) ∈ (security old new).map Change.kind ↔
      (∃ e, Alone SecurityScheme.name old new e ∧ (.removed, .security, .breaking) = (t, g, s)) ∨
      ∃ e, Alone SecurityScheme.name new old e ∧ (.added, .security, .info) = (t, g, s) := by
  rw [security, List.map_append, List.mem_append, kind_mem_removed, kind_mem_added]
  rfl

theorem exists_parameters_iff {old new : List Parameter} :
    (∃ cs, parameters base old new = .ok cs) ↔
      (∀ p, Alone Parameter.key old new p → p.HasLine) ∧
        ∀ p, Alone Parameter.key new old p → p.HasLine := by
  have hremoved := exists_shown_iff (f := parameterRemoved base)
    (fun k p => (mem_removed : (k, p) ∈ (split Parameter.key old new).removed ↔ _))
    fun _ _ => exists_bind_pure_iff
  have hadded := exists_shown_iff (f := parameterAdded base)
    (fun k p => (mem_added : (k, p) ∈ (split Parameter.key old new).added ↔ _))
    fun _ _ => exists_bind_pure_iff
  rw [← hremoved, ← hadded]
  constructor
  · intro h
    obtain ⟨cs, h⟩ := h
    obtain ⟨removed, added, hr, ha, -⟩ := parameters_eq_ok.mp h
    exact ⟨⟨removed, hr⟩, added, ha⟩
  · intro h
    obtain ⟨⟨removed, hr⟩, added, ha⟩ := h
    exact ⟨_, parameters_eq_ok.mpr ⟨removed, added, hr, ha, rfl⟩⟩

theorem exists_endpointDetails_iff {d e : Endpoint} :
    (∃ cs, endpointDetails d e = .ok cs) ↔
      ∃ cs, parameters e.label d.parameters e.parameters = .ok cs :=
  exists_bind_pure_iff

theorem exists_endpoints_iff {old new : List Endpoint} :
    (∃ cs, endpoints old new = .ok cs) ↔
      ∀ d e, Paired Endpoint.id old new d e → ∃ cs, endpointDetails d e = .ok cs := by
  refine exists_bind_pure_iff.trans ?_
  rw [exists_flatMapChecked_iff]
  simp only [Prod.forall, mem_common]

end

end Compare

namespace Spec
open Compare

variable {old new : Spec} {cs : List Change}

theorem changes_eq_ok :
    old.changes new = .ok cs ↔
      ∃ endpoints, Compare.endpoints old.endpoints new.endpoints = .ok endpoints ∧
        endpoints ++ Compare.schemas old.schemas new.schemas ++
          Compare.security old.security new.security = cs := by
  simp only [changes, bind_eq_ok, pure, Except.pure, Except.ok.injEq]

/-- A comparison reports exactly what the rules give. -/
theorem kind_mem_changes (h : old.changes new = .ok cs) {t : ChangeType} {g : Category}
    {s : Severity} : (t, g, s) ∈ cs.map Change.kind ↔ SpecRule old new t g s := by
  obtain ⟨endpoints, hendpoints, rfl⟩ := changes_eq_ok.mp h
  simp only [List.map_append, List.mem_append, kind_mem_endpoints hendpoints, kind_mem_schemas,
    kind_mem_security]
  constructor
  · intro hm
    rcases hm with (hm | hm) | hm
    · rcases hm with ⟨e, he, hk⟩ | ⟨e, he, hk⟩ | ⟨d, e, hpair, hrule⟩
      · cases hk
        exact .endpointRemoved he
      · cases hk
        exact .endpointAdded he
      · exact .endpoint hpair hrule
    · rcases hm with ⟨e, he, hk⟩ | ⟨e, he, hk⟩ | ⟨d, e, hpair, rfl, hrule⟩
      · cases hk
        exact .schemaRemoved he
      · cases hk
        exact .schemaAdded he
      · exact .schema hpair hrule
    · rcases hm with ⟨e, he, hk⟩ | ⟨e, he, hk⟩
      · cases hk
        exact .securityRemoved he
      · cases hk
        exact .securityAdded he
  · intro hrule
    cases hrule with
    | endpointRemoved he => exact .inl (.inl (.inl ⟨_, he, rfl⟩))
    | endpointAdded he => exact .inl (.inl (.inr (.inl ⟨_, he, rfl⟩)))
    | endpoint hpair hrule => exact .inl (.inl (.inr (.inr ⟨_, _, hpair, hrule⟩)))
    | schemaRemoved he => exact .inl (.inr (.inl ⟨_, he, rfl⟩))
    | schemaAdded he => exact .inl (.inr (.inr (.inl ⟨_, he, rfl⟩)))
    | schema hpair hrule => exact .inl (.inr (.inr (.inr ⟨_, _, hpair, rfl, hrule⟩)))
    | securityRemoved he => exact .inr (.inl ⟨_, he, rfl⟩)
    | securityAdded he => exact .inr (.inr ⟨_, he, rfl⟩)

/-- What holds of the kind of some change holds of the kind that some rule gives. -/
theorem exists_change_iff (h : old.changes new = .ok cs)
    (P : ChangeType → Category → Severity → Prop) :
    (∃ c ∈ cs, P c.type c.category c.severity) ↔ ∃ t g s, SpecRule old new t g s ∧ P t g s := by
  constructor
  · intro hc
    obtain ⟨c, hc, hP⟩ := hc
    exact ⟨_, _, _, (kind_mem_changes h).1 (List.mem_map_of_mem hc), hP⟩
  · intro hrule
    obtain ⟨t, g, s, hrule, hP⟩ := hrule
    obtain ⟨c, hc, hkind⟩ := List.mem_map.1 ((kind_mem_changes h).2 hrule)
    cases hkind
    exact ⟨c, hc, hP⟩

theorem exists_changes_iff :
    (∃ cs, old.changes new = .ok cs) ↔
      ∀ d e, Paired Endpoint.id old.endpoints new.endpoints d e →
        (∀ p, Alone Parameter.key d.parameters e.parameters p → p.HasLine) ∧
          ∀ p, Alone Parameter.key e.parameters d.parameters p → p.HasLine := by
  refine exists_bind_pure_iff.trans ?_
  simp only [exists_endpoints_iff, exists_endpointDetails_iff, exists_parameters_iff]

/-- Every parameter can be shown as a line of data. -/
def HasLines (spec : Spec) : Prop := ∀ e ∈ spec.endpoints, ∀ p ∈ e.parameters, p.HasLine

theorem HasLines.exists_changes (hold : old.HasLines) (hnew : new.HasLines) :
    ∃ cs, old.changes new = .ok cs := by
  refine exists_changes_iff.mpr fun d e hpair => ⟨fun p hp => ?_, fun p hp => ?_⟩
  · exact hold d hpair.1.mem p hp.1.mem
  · exact hnew e hpair.2.1.mem p hp.1.mem

/-- The difference of two versions of which all changes are known. -/
theorem difference_eq_ok {d : Difference} :
    old.difference new = .ok d ↔
      ∃ changes, old.changes new = .ok changes ∧
        ⟨changes, breakingOf changes, Summary.ofChanges changes⟩ = d := by
  simp only [difference, bind_eq_ok, pure, Except.pure, Except.ok.injEq]

end Spec

/-- The verdict on two versions of which all changes are known. -/
theorem Comparison.ofSpecs_eq_ok {old new : Spec} {c : Comparison} :
    Comparison.ofSpecs old new = .ok c ↔
      ∃ changes, old.changes new = .ok changes ∧
        { apiName := new.name, fromVersion := old.version, toVersion := new.version
          changes, breaking := breakingOf changes, totalChanges := changes.length
          risk := Risk.assess (breakingOf changes) changes
          summary := Summary.ofChanges changes } = c := by
  simp only [ofSpecs, Spec.difference, bind_eq_ok, pure, Except.pure, Except.ok.injEq]
  constructor
  · intro h
    obtain ⟨d, ⟨changes, hchanges, rfl⟩, hc⟩ := h
    exact ⟨changes, hchanges, hc⟩
  · intro h
    obtain ⟨changes, hchanges, hc⟩ := h
    exact ⟨_, ⟨changes, hchanges, rfl⟩, hc⟩

end ApiDrift
