import ApiDrift.Proofs.Distinct
import ApiDrift.Proofs.Rules

/-!
# Single edits

A specification whose keys are not repeated is edited in one place. The comparison with the edited
version reports the edit and nothing else: one change, at the place of the edit, with the type and
severity that its kind of edit has.
-/
namespace ApiDrift
open Compare

/-- What a change says apart from its wording. -/
structure Finding where
  type : ChangeType
  category : Category
  severity : Severity
  path : String
  owner : Option String
deriving DecidableEq, Repr

def Change.finding (c : Change) : Finding := ⟨c.type, c.category, c.severity, c.path, c.owner⟩

/-- An edit inside an endpoint, with what is to be found. -/
inductive Endpoint.Edit (e : Endpoint) : Endpoint → Finding → Prop
  | deprecated : e.deprecated = false →
      Edit e { e with deprecated := true }
        ⟨.deprecated, .endpoint, .warning, e.label, some e.label⟩
  | parameterDeleted {p : Parameter} {ps : List Parameter} : Deleted p e.parameters ps →
      Edit e { e with parameters := ps }
        ⟨.removed, .parameter, if p.required then .breaking else .warning, within e.label p.key,
          some e.label⟩
  | parameterInserted {p : Parameter} {ps : List Parameter} : Deleted p ps e.parameters →
      Edit e { e with parameters := ps }
        ⟨.added, .parameter, if p.required then .breaking else .info, within e.label p.key,
          some e.label⟩
  | parameterDemanded {p : Parameter} {ps : List Parameter} :
      Replaced p { p with required := true } e.parameters ps → p.required = false →
      Edit e { e with parameters := ps }
        ⟨.modified, .parameter, .breaking, within e.label p.key, some e.label⟩
  | parameterRetyped {p : Parameter} {type : String} {ps : List Parameter} :
      Replaced p { p with type } e.parameters ps → p.type ≠ type →
      Edit e { e with parameters := ps }
        ⟨.modified, .parameter, .breaking, within e.label p.key, some e.label⟩
  | bodyAdded (b : RequestBody) : e.requestBody = none →
      Edit e { e with requestBody := some b }
        ⟨.added, .requestBody, if b.required then .breaking else .info,
          within e.label "requestBody", some e.label⟩
  | bodyDeleted {b : RequestBody} : e.requestBody = some b →
      Edit e { e with requestBody := none }
        ⟨.removed, .requestBody, .info, within e.label "requestBody", some e.label⟩
  | bodyDemanded {b : RequestBody} : e.requestBody = some b → b.required = false →
      Edit e { e with requestBody := some { b with required := true } }
        ⟨.modified, .requestBody, .breaking, within e.label "requestBody", some e.label⟩
  | contentTypeDropped {b : RequestBody} {t : String} {ts : List String} :
      e.requestBody = some b → Deleted t b.contentTypes ts →
      Edit e { e with requestBody := some { b with contentTypes := ts } }
        ⟨.removed, .requestBody, .breaking, within e.label "requestBody", some e.label⟩
  | responseDeleted {r : Response} {rs : List Response} : Deleted r e.responses rs →
      Edit e { e with responses := rs }
        ⟨.removed, .response, .warning, within e.label ("response:" ++ r.statusCode), some e.label⟩
  | responseInserted {r : Response} {rs : List Response} : Deleted r rs e.responses →
      Edit e { e with responses := rs }
        ⟨.added, .response, .info, within e.label ("response:" ++ r.statusCode), some e.label⟩

/-- Two lists of required names say the same of all properties. -/
def SameDemands (required required' : List String) (properties : List Property) : Prop :=
  ∀ p ∈ properties, p.name ∈ required ↔ p.name ∈ required'

/-- An edit inside a schema, with what is to be found. A property comes and goes with or without its
name in the list of those required. -/
inductive Schema.Edit (s : Schema) : Schema → Finding → Prop
  | propertyDeleted {p : Property} {ps : List Property} {required : List String} :
      Deleted p s.properties ps → SameDemands s.required required ps →
      Edit s { s with properties := ps, required }
        ⟨.removed, .schemaProperty, .dangerous, schemaPath s.name ++ "/" ++ p.name, some s.name⟩
  | propertyInserted {p : Property} {ps : List Property} {required : List String} :
      Deleted p ps s.properties → SameDemands s.required required s.properties →
      Edit s { s with properties := ps, required }
        ⟨.added, .schemaProperty, if p.name ∈ required then .warning else .info,
          schemaPath s.name ++ "/" ++ p.name, some s.name⟩
  | propertyRetyped {p : Property} {type : String} {ps : List Property} :
      Replaced p { p with type } s.properties ps → p.type ≠ type →
      Edit s { s with properties := ps }
        ⟨.modified, .schemaProperty, .breaking, schemaPath s.name ++ "/" ++ p.name, some s.name⟩
  | propertyDemanded {p : Property} {flag : Bool} {ps : List Property} {required : List String} :
      Replaced p { p with required := flag } s.properties ps →
      p.name ∉ s.required → p.name ∈ required →
      (∀ q ∈ s.properties, q.name ≠ p.name → (q.name ∈ s.required ↔ q.name ∈ required)) →
      Edit s { s with properties := ps, required }
        ⟨.modified, .schemaProperty, .breaking, schemaPath s.name ++ "/" ++ p.name, some s.name⟩

/-- The table of severities: one constructor for each kind of edit, here or of an endpoint or schema
whose place is kept. -/
inductive Spec.Edit (s : Spec) : Spec → Finding → Prop
  | endpointDeleted {e : Endpoint} {es : List Endpoint} : Deleted e s.endpoints es →
      Edit s { s with endpoints := es } ⟨.removed, .endpoint, .breaking, e.label, none⟩
  | endpointInserted {e : Endpoint} {es : List Endpoint} : Deleted e es s.endpoints →
      Edit s { s with endpoints := es } ⟨.added, .endpoint, .info, e.label, none⟩
  | endpoint {d e : Endpoint} {es : List Endpoint} {f : Finding} : Replaced d e s.endpoints es →
      d.Edit e f → Edit s { s with endpoints := es } f
  | schemaDeleted {d : Schema} {ds : List Schema} : Deleted d s.schemas ds →
      Edit s { s with schemas := ds } ⟨.removed, .schema, .dangerous, schemaPath d.name, none⟩
  | schemaInserted {d : Schema} {ds : List Schema} : Deleted d ds s.schemas →
      Edit s { s with schemas := ds } ⟨.added, .schema, .info, schemaPath d.name, none⟩
  | schema {d d' : Schema} {ds : List Schema} {f : Finding} : Replaced d d' s.schemas ds →
      d.Edit d' f → Edit s { s with schemas := ds } f
  | securityDeleted {d : SecurityScheme} {ds : List SecurityScheme} : Deleted d s.security ds →
      Edit s { s with security := ds } ⟨.removed, .security, .breaking, securityPath d.name, none⟩
  | securityInserted {d : SecurityScheme} {ds : List SecurityScheme} : Deleted d ds s.security →
      Edit s { s with security := ds } ⟨.added, .security, .info, securityPath d.name, none⟩

/-! The keys that no list may repeat. -/

structure Endpoint.Distinct (e : Endpoint) : Prop where
  parameters : (e.parameters.map Parameter.key).Nodup
  responses : (e.responses.map Response.statusCode).Nodup
  contentTypes : ∀ b ∈ e.requestBody, b.contentTypes.Nodup

def Schema.Distinct (s : Schema) : Prop := (s.properties.map Property.name).Nodup

structure Spec.Distinct (s : Spec) : Prop where
  endpointIds : (s.endpoints.map Endpoint.id).Nodup
  endpoints : ∀ e ∈ s.endpoints, e.Distinct
  schemaNames : (s.schemas.map Schema.name).Nodup
  schemas : ∀ d ∈ s.schemas, d.Distinct
  securityNames : (s.security.map SecurityScheme.name).Nodup

instance (e : Endpoint) : Decidable e.Distinct :=
  decidable_of_iff ((e.parameters.map Parameter.key).Nodup ∧
      (e.responses.map Response.statusCode).Nodup ∧ ∀ b ∈ e.requestBody, b.contentTypes.Nodup)
    ⟨fun ⟨hps, hrs, hts⟩ => ⟨hps, hrs, hts⟩, fun ⟨hps, hrs, hts⟩ => ⟨hps, hrs, hts⟩⟩

instance (s : Schema) : Decidable s.Distinct :=
  inferInstanceAs (Decidable (s.properties.map Property.name).Nodup)

instance (s : Spec) : Decidable s.Distinct :=
  decidable_of_iff ((s.endpoints.map Endpoint.id).Nodup ∧ (∀ e ∈ s.endpoints, e.Distinct) ∧
      (s.schemas.map Schema.name).Nodup ∧ (∀ d ∈ s.schemas, d.Distinct) ∧
        (s.security.map SecurityScheme.name).Nodup)
    ⟨fun ⟨hids, hes, hnames, hds, hsecurity⟩ => ⟨hids, hes, hnames, hds, hsecurity⟩,
      fun ⟨hids, hes, hnames, hds, hsecurity⟩ => ⟨hids, hes, hnames, hds, hsecurity⟩⟩

namespace Compare

section
variable {base : String}

/-! ### What is compared with itself -/

theorem parameterDetails_self (p : Parameter) : parameterDetails base p p = [] := by
  simp [parameterDetails]

theorem propertyDetails_self {s t : Schema} {p : Property}
    (h : p.name ∈ s.required ↔ p.name ∈ t.required) : propertyDetails s t p p = [] := by
  simp [propertyDetails, h]

theorem bodyDetails_self (b : RequestBody) : bodyDetails base b b = [] := by
  simp [bodyDetails, List.filter_eq_nil_iff]

theorem requestBody_self (b : Option RequestBody) : requestBody base b b = [] := by
  cases b with
  | none => rfl
  | some b => exact bodyDetails_self b

theorem responses_self {rs : List Response} (h : (rs.map Response.statusCode).Nodup) :
    responses base rs rs = [] := by
  simp [responses, split_self h]

theorem parameters_self {ps : List Parameter} (h : (ps.map Parameter.key).Nodup) :
    parameters base ps ps = .ok [] := by
  rw [parameters_eq_ok, split_self h]
  refine ⟨[], [], rfl, rfl, ?_⟩
  rw [flatMap_diagonal fun p _ => parameterDetails_self p]
  rfl

/-! ### One edit of a list -/

theorem finding_parameterRemoved {k : String} {p : Parameter} {c : Change}
    (h : parameterRemoved base k p = .ok c) :
    c.finding = ⟨.removed, .parameter, if p.required then .breaking else .warning, within base k,
      some base⟩ := by
  obtain ⟨line, -, h⟩ := bind_eq_ok.mp h
  cases h
  rfl

theorem finding_parameterAdded {k : String} {p : Parameter} {c : Change}
    (h : parameterAdded base k p = .ok c) :
    c.finding = ⟨.added, .parameter, if p.required then .breaking else .info, within base k,
      some base⟩ := by
  obtain ⟨line, -, h⟩ := bind_eq_ok.mp h
  cases h
  rfl

theorem finding_parameterDetails {p q : Parameter} {c : Change}
    (hc : c ∈ parameterDetails base p q) :
    c.finding = ⟨.modified, .parameter, .breaking, within base q.key, some base⟩ := by
  simp only [parameterDetails, List.mem_append, List.mem_ite_nil_right, List.mem_singleton] at hc
  rcases hc with ⟨-, rfl⟩ | ⟨-, rfl⟩
  · rfl
  · rfl

section
variable {ps qs : List Parameter} {p q : Parameter}
variable (hps : (ps.map Parameter.key).Nodup) (hqs : (qs.map Parameter.key).Nodup)
include hps hqs

theorem parameters_deleted (h : Deleted p ps qs) (hp : p.HasLine) :
    ∃ c, parameters base ps qs = .ok [c] ∧
      c.finding = ⟨.removed, .parameter, if p.required then .breaking else .warning,
        within base p.key, some base⟩ := by
  obtain ⟨c, hc⟩ : ∃ c, parameterRemoved base p.key p = .ok c := exists_bind_pure_iff.mpr hp
  refine ⟨c, ?_, finding_parameterRemoved hc⟩
  rw [parameters_eq_ok, split_deleted hps hqs h]
  refine ⟨[c], [], mapM_singleton hc, rfl, ?_⟩
  rw [flatMap_diagonal fun q _ => parameterDetails_self q]
  rfl

theorem parameters_inserted (h : Deleted p qs ps) (hp : p.HasLine) :
    ∃ c, parameters base ps qs = .ok [c] ∧
      c.finding = ⟨.added, .parameter, if p.required then .breaking else .info,
        within base p.key, some base⟩ := by
  obtain ⟨c, hc⟩ : ∃ c, parameterAdded base p.key p = .ok c := exists_bind_pure_iff.mpr hp
  refine ⟨c, ?_, finding_parameterAdded hc⟩
  rw [parameters_eq_ok, split_inserted hps hqs h]
  refine ⟨[], [c], rfl, mapM_singleton hc, ?_⟩
  rw [flatMap_diagonal fun q _ => parameterDetails_self q]
  rfl

theorem parameters_replaced (base : String) (h : Replaced p q ps qs) (hkey : p.key = q.key) :
    parameters base ps qs = .ok (parameterDetails base p q) := by
  obtain ⟨before, after, hsplit, -⟩ := split_replaced hps hqs hkey h
  rw [parameters_eq_ok, hsplit]
  refine ⟨[], [], rfl, rfl, ?_⟩
  rw [flatMap_replaced fun z _ => parameterDetails_self z]
  rfl

end

theorem parameterDetails_demanded (base : String) {p : Parameter} (hp : p.required = false) :
    ∃ c, parameterDetails base p { p with required := true } = [c] ∧
      c.finding = ⟨.modified, .parameter, .breaking, within base p.key, some base⟩ := by
  simp only [parameterDetails, hp, Bool.not_false, Bool.and_self, if_true, ne_eq, not_true,
    if_false, List.append_nil]
  exact ⟨_, rfl, rfl⟩

theorem parameterDetails_retyped (base : String) {p : Parameter} {type : String}
    (hp : p.type ≠ type) :
    ∃ c, parameterDetails base p { p with type } = [c] ∧
      c.finding = ⟨.modified, .parameter, .breaking, within base p.key, some base⟩ := by
  simp only [parameterDetails, Bool.not_and_self, Bool.false_eq_true, if_false, if_pos hp,
    List.nil_append]
  exact ⟨_, rfl, rfl⟩

theorem bodyDetails_demanded (base : String) {b : RequestBody} (hb : b.required = false) :
    ∃ c, bodyDetails base b { b with required := true } = [c] ∧
      c.finding = ⟨.modified, .requestBody, .breaking, within base "requestBody", some base⟩ := by
  have hkept : b.contentTypes.filter (fun u => !b.contentTypes.contains u) = [] := by
    simp [List.filter_eq_nil_iff]
  simp only [bodyDetails, hb, Bool.not_false, Bool.and_self, if_true, hkept, List.map_nil,
    List.append_nil]
  exact ⟨_, rfl, rfl⟩

theorem responses_deleted {rs ss : List Response} {r : Response}
    (hrs : (rs.map Response.statusCode).Nodup) (hss : (ss.map Response.statusCode).Nodup)
    (h : Deleted r rs ss) :
    ∃ c, responses base rs ss = [c] ∧
      c.finding = ⟨.removed, .response, .warning, within base ("response:" ++ r.statusCode),
        some base⟩ := by
  rw [responses, split_deleted hrs hss h]
  exact ⟨_, rfl, rfl⟩

theorem responses_inserted {rs ss : List Response} {r : Response}
    (hrs : (rs.map Response.statusCode).Nodup) (hss : (ss.map Response.statusCode).Nodup)
    (h : Deleted r ss rs) :
    ∃ c, responses base rs ss = [c] ∧
      c.finding = ⟨.added, .response, .info, within base ("response:" ++ r.statusCode),
        some base⟩ := by
  rw [responses, split_inserted hrs hss h]
  exact ⟨_, rfl, rfl⟩

theorem bodyDetails_dropped (base : String) {b : RequestBody} {t : String} {ts : List String}
    (hb : b.contentTypes.Nodup) (h : Deleted t b.contentTypes ts) :
    ∃ c, bodyDetails base b { b with contentTypes := ts } = [c] ∧
      c.finding = ⟨.removed, .requestBody, .breaking, within base "requestBody", some base⟩ := by
  have hkeys : (b.contentTypes.map id).Nodup := by rwa [List.map_id]
  have hdropped : b.contentTypes.filter (fun u => !ts.contains u) = [t] := by
    simpa only [List.map_id, id_eq, List.contains_eq_mem, decide_not] using filter_deleted hkeys h
  simp only [bodyDetails, Bool.not_and_self, Bool.false_eq_true, if_false, List.nil_append,
    hdropped, List.map_singleton]
  exact ⟨_, rfl, rfl⟩

end

/-! ### Edits of an endpoint -/

def deprecation (d e : Endpoint) : List Change :=
  if !d.deprecated && e.deprecated then
    [{ type := .deprecated, category := .endpoint, severity := .warning, path := e.label
       owner := some e.label, description := "Endpoint deprecated: " ++ e.label }]
  else []

theorem deprecation_self {d e : Endpoint} (h : d.deprecated = e.deprecated) :
    deprecation d e = [] := by
  simp [deprecation, h]

theorem endpointDetails_eq_ok (d e : Endpoint) {dep ps body rs : List Change}
    (hdep : deprecation d e = dep) (hps : parameters e.label d.parameters e.parameters = .ok ps)
    (hbody : requestBody e.label d.requestBody e.requestBody = body)
    (hrs : responses e.label d.responses e.responses = rs) :
    endpointDetails d e = .ok (dep ++ ps ++ body ++ rs) := by
  rw [endpointDetails, hps, ← hdep, ← hbody, ← hrs]
  rfl

section
variable {e : Endpoint} (h : e.Distinct)
include h

theorem endpointDetails_deprecated :
    endpointDetails e { e with deprecated := true } =
      .ok (deprecation e { e with deprecated := true }) := by
  have hdetails := endpointDetails_eq_ok e { e with deprecated := true } rfl
    (parameters_self h.parameters) (requestBody_self _) (responses_self h.responses)
  simpa only [List.append_nil] using hdetails

theorem endpointDetails_parameters {ps : List Parameter} {cs : List Change}
    (hcs : parameters e.label e.parameters ps = .ok cs) :
    endpointDetails e { e with parameters := ps } = .ok cs := by
  have hdetails := endpointDetails_eq_ok e { e with parameters := ps } (deprecation_self rfl) hcs
    (requestBody_self _) (responses_self h.responses)
  simpa only [List.nil_append, List.append_nil] using hdetails

theorem endpointDetails_requestBody (b : Option RequestBody) :
    endpointDetails e { e with requestBody := b } = .ok (requestBody e.label e.requestBody b) := by
  have hdetails : endpointDetails e { e with requestBody := b } =
      .ok ([] ++ [] ++ requestBody e.label e.requestBody b ++ []) :=
    endpointDetails_eq_ok e _ (deprecation_self rfl) (parameters_self h.parameters) rfl
      (responses_self h.responses)
  simpa only [List.nil_append, List.append_nil] using hdetails

theorem endpointDetails_responses (rs : List Response) :
    endpointDetails e { e with responses := rs } = .ok (responses e.label e.responses rs) := by
  have hdetails : endpointDetails e { e with responses := rs } =
      .ok ([] ++ [] ++ [] ++ responses e.label e.responses rs) :=
    endpointDetails_eq_ok e _ (deprecation_self rfl) (parameters_self h.parameters)
      (requestBody_self _) rfl
  simpa only [List.nil_append] using hdetails

theorem endpointDetails_self : endpointDetails e e = .ok [] :=
  endpointDetails_parameters h (parameters_self h.parameters)

end

end Compare

theorem Endpoint.Edit.details {d e : Endpoint} {f : Finding} (h : d.Edit e f) (hd : d.Distinct)
    (he : e.Distinct) (hlines : ∀ p ∈ d.parameters ++ e.parameters, p.HasLine) :
    ∃ c, endpointDetails d e = .ok [c] ∧ c.finding = f := by
  cases h with
  | deprecated hdep =>
    rw [endpointDetails_deprecated hd, deprecation, hdep]
    exact ⟨_, rfl, rfl⟩
  | parameterDeleted h =>
    have hline := hlines _ (List.mem_append_left _ h.self_mem)
    obtain ⟨c, hc, hfinding⟩ := parameters_deleted hd.parameters he.parameters h hline
    exact ⟨c, endpointDetails_parameters hd hc, hfinding⟩
  | parameterInserted h =>
    have hline := hlines _ (List.mem_append_right _ h.self_mem)
    obtain ⟨c, hc, hfinding⟩ := parameters_inserted hd.parameters he.parameters h hline
    exact ⟨c, endpointDetails_parameters hd hc, hfinding⟩
  | parameterDemanded h hp =>
    obtain ⟨c, hc, hfinding⟩ := parameterDetails_demanded d.label hp
    have hcs := parameters_replaced hd.parameters he.parameters d.label h rfl
    exact ⟨c, endpointDetails_parameters hd (hc ▸ hcs), hfinding⟩
  | parameterRetyped h ht =>
    obtain ⟨c, hc, hfinding⟩ := parameterDetails_retyped d.label ht
    have hcs := parameters_replaced hd.parameters he.parameters d.label h rfl
    exact ⟨c, endpointDetails_parameters hd (hc ▸ hcs), hfinding⟩
  | bodyAdded b h =>
    rw [endpointDetails_requestBody hd, h]
    exact ⟨_, rfl, rfl⟩
  | bodyDeleted h =>
    rw [endpointDetails_requestBody hd, h]
    exact ⟨_, rfl, rfl⟩
  | bodyDemanded h hb =>
    obtain ⟨c, hc, hfinding⟩ := bodyDetails_demanded d.label hb
    rw [endpointDetails_requestBody hd, h]
    exact ⟨c, congrArg _ hc, hfinding⟩
  | contentTypeDropped h ht =>
    obtain ⟨c, hc, hfinding⟩ := bodyDetails_dropped d.label (hd.contentTypes _ h) ht
    rw [endpointDetails_requestBody hd, h]
    exact ⟨c, congrArg _ hc, hfinding⟩
  | responseDeleted h =>
    obtain ⟨c, hc, hfinding⟩ := responses_deleted hd.responses he.responses h
    rw [endpointDetails_responses hd]
    exact ⟨c, congrArg _ hc, hfinding⟩
  | responseInserted h =>
    obtain ⟨c, hc, hfinding⟩ := responses_inserted hd.responses he.responses h
    rw [endpointDetails_responses hd]
    exact ⟨c, congrArg _ hc, hfinding⟩

theorem Endpoint.Edit.id_eq {d e : Endpoint} {f : Finding} (h : d.Edit e f) : d.id = e.id := by
  cases h <;> rfl

/-! ### Edits of a schema -/

namespace Compare

theorem finding_propertyDetails {s t : Schema} {p q : Property} {c : Change}
    (hc : c ∈ propertyDetails s t p q) :
    c.finding =
      ⟨.modified, .schemaProperty, .breaking, schemaPath t.name ++ "/" ++ q.name, some t.name⟩ := by
  simp only [propertyDetails, List.mem_append, List.mem_ite_nil_right, List.mem_singleton] at hc
  rcases hc with ⟨-, rfl⟩ | ⟨-, rfl⟩
  · rfl
  · rfl

theorem schemaDetails_self {s : Schema} (h : s.Distinct) : schemaDetails s s = [] := by
  rw [schemaDetails, split_self h]
  exact flatMap_diagonal fun _ _ => propertyDetails_self Iff.rfl

theorem schemaDetails_deleted {s t : Schema} {p : Property} (hs : s.Distinct) (ht : t.Distinct)
    (h : Deleted p s.properties t.properties)
    (hsame : SameDemands s.required t.required t.properties) :
    ∃ c, schemaDetails s t = [c] ∧ c.finding =
      ⟨.removed, .schemaProperty, .dangerous, schemaPath t.name ++ "/" ++ p.name, some t.name⟩ := by
  rw [schemaDetails, split_deleted hs ht h]
  dsimp only
  rw [flatMap_diagonal fun q hq => propertyDetails_self (hsame q hq)]
  exact ⟨_, rfl, rfl⟩

theorem schemaDetails_inserted {s t : Schema} {p : Property} (hs : s.Distinct) (ht : t.Distinct)
    (h : Deleted p t.properties s.properties)
    (hsame : SameDemands s.required t.required s.properties) :
    ∃ c, schemaDetails s t = [c] ∧ c.finding =
      ⟨.added, .schemaProperty, if p.name ∈ t.required then .warning else .info,
        schemaPath t.name ++ "/" ++ p.name, some t.name⟩ := by
  rw [schemaDetails, split_inserted hs ht h]
  dsimp only
  rw [flatMap_diagonal fun q hq => propertyDetails_self (hsame q hq)]
  refine ⟨_, rfl, ?_⟩
  simp only [Change.finding, entry, List.contains_eq_mem, decide_eq_true_iff]

theorem schemaDetails_replaced {s t : Schema} {p q : Property} (hs : s.Distinct) (ht : t.Distinct)
    (h : Replaced p q s.properties t.properties) (hname : p.name = q.name)
    (hsame : ∀ r ∈ s.properties, r.name ≠ p.name → (r.name ∈ s.required ↔ r.name ∈ t.required)) :
    schemaDetails s t = propertyDetails s t p q := by
  obtain ⟨before, after, hsplit, hothers⟩ := split_replaced hs ht hname h
  rw [schemaDetails, hsplit]
  exact flatMap_replaced fun r hr =>
    propertyDetails_self (hsame r (hothers r hr).1 (hothers r hr).2)

end Compare

theorem Schema.Edit.details {s t : Schema} {f : Finding} (h : s.Edit t f) (hs : s.Distinct)
    (ht : t.Distinct) : ∃ c, schemaDetails s t = [c] ∧ c.finding = f := by
  cases h with
  | propertyDeleted h hsame => exact schemaDetails_deleted hs ht h hsame
  | propertyInserted h hsame => exact schemaDetails_inserted hs ht h hsame
  | propertyRetyped h htype =>
    rw [schemaDetails_replaced hs ht h rfl fun _ _ _ => Iff.rfl]
    simp only [propertyDetails, if_pos htype, Bool.not_and_self, Bool.false_eq_true, if_false,
      List.append_nil]
    exact ⟨_, rfl, rfl⟩
  | propertyDemanded h hold hnew hsame =>
    rw [schemaDetails_replaced hs ht h rfl hsame]
    simp only [propertyDetails, ne_eq, not_true, if_false, List.contains_eq_mem, hold, hnew,
      decide_false, Bool.not_false, decide_true, Bool.and_self, if_true, List.nil_append]
    exact ⟨_, rfl, rfl⟩

theorem Schema.Edit.name_eq {s t : Schema} {f : Finding} (h : s.Edit t f) : s.name = t.name := by
  cases h <;> rfl

/-! ### Edits of a specification -/

namespace Compare

section
variable {old new : List Endpoint} {d e : Endpoint}
variable (hold : (old.map Endpoint.id).Nodup)
include hold

theorem endpoints_self (hall : ∀ e ∈ old, e.Distinct) : endpoints old old = .ok [] := by
  rw [endpoints, split_self hold]
  dsimp only
  rw [flatMapChecked_diagonal fun e he => endpointDetails_self (hall e he)]
  rfl

theorem endpoints_deleted (hnew : (new.map Endpoint.id).Nodup) (hall : ∀ e ∈ old, e.Distinct)
    (h : Deleted e old new) : endpoints old new = .ok [endpointRemoved e.id e] := by
  rw [endpoints, split_deleted hold hnew h]
  dsimp only
  rw [flatMapChecked_diagonal fun e he => endpointDetails_self (hall e (h.mem he))]
  rfl

theorem endpoints_inserted (hnew : (new.map Endpoint.id).Nodup) (hall : ∀ e ∈ old, e.Distinct)
    (h : Deleted e new old) : endpoints old new = .ok [endpointAdded e.id e] := by
  rw [endpoints, split_inserted hold hnew h]
  dsimp only
  rw [flatMapChecked_diagonal fun e he => endpointDetails_self (hall e he)]
  rfl

theorem endpoints_replaced (hnew : (new.map Endpoint.id).Nodup) (hall : ∀ e ∈ old, e.Distinct)
    (h : Replaced d e old new) (hid : d.id = e.id) {cs : List Change}
    (hcs : endpointDetails d e = .ok cs) : endpoints old new = .ok cs := by
  obtain ⟨before, after, hsplit, hothers⟩ := split_replaced hold hnew hid h
  rw [endpoints, hsplit]
  dsimp only
  rw [flatMapChecked_replaced (fun z hz => endpointDetails_self (hall z (hothers z hz).1)) hcs]
  rfl

end

section
variable {old new : List Schema} {s t : Schema}
variable (hold : (old.map Schema.name).Nodup)
include hold

theorem schemas_self (hall : ∀ s ∈ old, s.Distinct) : schemas old old = [] := by
  rw [schemas, split_self hold]
  exact flatMap_diagonal fun s hs => schemaDetails_self (hall s hs)

theorem schemas_deleted (hnew : (new.map Schema.name).Nodup) (hall : ∀ s ∈ old, s.Distinct)
    (h : Deleted s old new) :
    ∃ c, schemas old new = [c] ∧
      c.finding = ⟨.removed, .schema, .dangerous, schemaPath s.name, none⟩ := by
  rw [schemas, split_deleted hold hnew h]
  dsimp only
  rw [flatMap_diagonal fun s hs => schemaDetails_self (hall s (h.mem hs))]
  exact ⟨_, rfl, rfl⟩

theorem schemas_inserted (hnew : (new.map Schema.name).Nodup) (hall : ∀ s ∈ old, s.Distinct)
    (h : Deleted s new old) :
    ∃ c, schemas old new = [c] ∧
      c.finding = ⟨.added, .schema, .info, schemaPath s.name, none⟩ := by
  rw [schemas, split_inserted hold hnew h]
  dsimp only
  rw [flatMap_diagonal fun s hs => schemaDetails_self (hall s hs)]
  exact ⟨_, rfl, rfl⟩

theorem schemas_replaced (hnew : (new.map Schema.name).Nodup) (hall : ∀ s ∈ old, s.Distinct)
    (h : Replaced s t old new) (hname : s.name = t.name) :
    schemas old new = schemaDetails s t := by
  obtain ⟨before, after, hsplit, hothers⟩ := split_replaced hold hnew hname h
  rw [schemas, hsplit]
  exact flatMap_replaced fun z hz => schemaDetails_self (hall z (hothers z hz).1)

end

section
variable {old new : List SecurityScheme} {d : SecurityScheme}
variable (hold : (old.map SecurityScheme.name).Nodup)
include hold

theorem security_self : security old old = [] := by
  rw [security, split_self hold]
  rfl

theorem security_deleted (hnew : (new.map SecurityScheme.name).Nodup) (h : Deleted d old new) :
    ∃ c, security old new = [c] ∧
      c.finding = ⟨.removed, .security, .breaking, securityPath d.name, none⟩ := by
  rw [security, split_deleted hold hnew h]
  exact ⟨_, rfl, rfl⟩

theorem security_inserted (hnew : (new.map SecurityScheme.name).Nodup) (h : Deleted d new old) :
    ∃ c, security old new = [c] ∧
      c.finding = ⟨.added, .security, .info, securityPath d.name, none⟩ := by
  rw [security, split_inserted hold hnew h]
  exact ⟨_, rfl, rfl⟩

end

theorem changes_of_parts {old new : Spec} {es ss ds cs : List Change}
    (hes : endpoints old.endpoints new.endpoints = .ok es)
    (hss : schemas old.schemas new.schemas = ss) (hds : security old.security new.security = ds)
    (hcs : es ++ ss ++ ds = cs) : old.changes new = .ok cs :=
  Spec.changes_eq_ok.mpr ⟨es, hes, by rw [hss, hds, hcs]⟩

end Compare

theorem Spec.Edit.changes {old new : Spec} {f : Finding} (h : old.Edit new f) (hold : old.Distinct)
    (hnew : new.Distinct)
    (hlines : ∀ e ∈ old.endpoints ++ new.endpoints, ∀ p ∈ e.parameters, p.HasLine) :
    ∃ c, old.changes new = .ok [c] ∧ c.finding = f := by
  have hendpoints := endpoints_self hold.endpointIds hold.endpoints
  have hschemas := schemas_self hold.schemaNames hold.schemas
  have hsecurity := security_self hold.securityNames
  cases h with
  | endpointDeleted h =>
    have hes := endpoints_deleted hold.endpointIds hnew.endpointIds hold.endpoints h
    exact ⟨_, changes_of_parts hes hschemas hsecurity rfl, rfl⟩
  | endpointInserted h =>
    have hes := endpoints_inserted hold.endpointIds hnew.endpointIds hold.endpoints h
    exact ⟨_, changes_of_parts hes hschemas hsecurity rfl, rfl⟩
  | @endpoint d e _ _ h hedit =>
    have hd : ∀ p ∈ d.parameters, p.HasLine := hlines d (List.mem_append_left _ h.old_mem)
    have he : ∀ p ∈ e.parameters, p.HasLine := hlines e (List.mem_append_right _ h.new_mem)
    obtain ⟨c, hc, hf⟩ := hedit.details (hold.endpoints _ h.old_mem) (hnew.endpoints _ h.new_mem)
      fun p hp => (List.mem_append.mp hp).elim (hd p) (he p)
    have hes := endpoints_replaced hold.endpointIds hnew.endpointIds hold.endpoints h hedit.id_eq hc
    exact ⟨c, changes_of_parts hes hschemas hsecurity rfl, hf⟩
  | schemaDeleted h =>
    obtain ⟨c, hc, hf⟩ := schemas_deleted hold.schemaNames hnew.schemaNames hold.schemas h
    exact ⟨c, changes_of_parts hendpoints hc hsecurity rfl, hf⟩
  | schemaInserted h =>
    obtain ⟨c, hc, hf⟩ := schemas_inserted hold.schemaNames hnew.schemaNames hold.schemas h
    exact ⟨c, changes_of_parts hendpoints hc hsecurity rfl, hf⟩
  | schema h hedit =>
    obtain ⟨c, hc, hf⟩ := hedit.details (hold.schemas _ h.old_mem) (hnew.schemas _ h.new_mem)
    have hds := schemas_replaced hold.schemaNames hnew.schemaNames hold.schemas h hedit.name_eq
    exact ⟨c, changes_of_parts hendpoints (hds.trans hc) hsecurity rfl, hf⟩
  | securityDeleted h =>
    obtain ⟨c, hc, hf⟩ := security_deleted hold.securityNames hnew.securityNames h
    exact ⟨c, changes_of_parts hendpoints hschemas hc rfl, hf⟩
  | securityInserted h =>
    obtain ⟨c, hc, hf⟩ := security_inserted hold.securityNames hnew.securityNames h
    exact ⟨c, changes_of_parts hendpoints hschemas hc rfl, hf⟩

/-- One edit is one change, which is found at the place of the edit. -/
theorem single_edit_found {old new : Spec} {f : Finding} (h : old.Edit new f) (hold : old.Distinct)
    (hnew : new.Distinct)
    (hlines : ∀ e ∈ old.endpoints ++ new.endpoints, ∀ p ∈ e.parameters, p.HasLine) :
    ∃ d c, old.difference new = .ok d ∧ d.changes = [c] ∧ c.finding = f := by
  obtain ⟨c, hc, hf⟩ := h.changes hold hnew hlines
  refine ⟨⟨[c], breakingOf [c], Summary.ofChanges [c]⟩, c, ?_, rfl, hf⟩
  rw [Spec.difference, hc]
  rfl

def Sample.cursor : Parameter := { name := "cursor", location := "query" }

def Sample.tenant : Parameter := { name := "tenant", location := "header", required := true }

def Sample.listOrders (parameters : List Parameter) : Endpoint :=
  { id := "GET-/orders", path := "/orders", method := "GET", parameters
    responses := [{ statusCode := "200" }] }

def Sample.postOrder : Endpoint :=
  { id := "POST-/orders", path := "/orders", method := "POST"
    requestBody := some { contentTypes := ["application/json", "text/csv"] } }

def Sample.orders (parameters : List Parameter) : Spec :=
  { name := "orders", version := "1", format := .openapi
    endpoints := [Sample.postOrder, Sample.listOrders parameters]
    schemas := [{ name := "Order", properties := [{ name := "id", type := "string" }] }] }

def Sample.tenantRemoved : Finding :=
  ⟨.removed, .parameter, .breaking, "GET /orders -> header:tenant", some "GET /orders"⟩

/-- The other parameter, the other endpoint and the schema stay as they are and are not reported. -/
theorem removed_tenant_found :
    (Sample.orders [Sample.tenant, Sample.cursor]).Edit (Sample.orders [Sample.cursor])
        Sample.tenantRemoved ∧
      (Sample.orders [Sample.tenant, Sample.cursor]).Distinct ∧
      (Sample.orders [Sample.cursor]).Distinct ∧
      ∃ d c, (Sample.orders [Sample.tenant, Sample.cursor]).difference
          (Sample.orders [Sample.cursor]) = .ok d ∧ d.changes = [c] ∧
        c.finding = Sample.tenantRemoved := by
  have hdeleted : Deleted Sample.tenant [Sample.tenant, Sample.cursor] [Sample.cursor] :=
    ⟨[], [Sample.cursor], rfl, rfl⟩
  have hparameter : (Sample.listOrders [Sample.tenant, Sample.cursor]).Edit
      (Sample.listOrders [Sample.cursor]) Sample.tenantRemoved :=
    Endpoint.Edit.parameterDeleted (e := Sample.listOrders [Sample.tenant, Sample.cursor]) hdeleted
  have hedit : (Sample.orders [Sample.tenant, Sample.cursor]).Edit (Sample.orders [Sample.cursor])
      Sample.tenantRemoved := Spec.Edit.endpoint ⟨[Sample.postOrder], [], rfl, rfl⟩ hparameter
  have hold : (Sample.orders [Sample.tenant, Sample.cursor]).Distinct := by decide +kernel
  have hnew : (Sample.orders [Sample.cursor]).Distinct := by decide +kernel
  have htenant : Sample.tenant.HasLine := ⟨_, rfl⟩
  have hcursor : Sample.cursor.HasLine := ⟨_, rfl⟩
  refine ⟨hedit, hold, hnew, single_edit_found hedit hold hnew ?_⟩
  simp [Sample.orders, Sample.postOrder, Sample.listOrders, htenant, hcursor]

end ApiDrift
