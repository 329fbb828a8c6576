import ApiDrift.Proofs.Walking

/-!
# What was read

An answer of a reader, taken apart: what of an entity comes from which part of the document. Only
that is kept here by which entities are told apart and compared, the names, the keys and the parts,
and not their descriptions.
-/
namespace ApiDrift.Reading
open Checking

section
variable {α β γ : Type} {f : α → Shaped β} {xs : List α} {ys : List β}

theorem each_eq_mapM (f : α → Shaped β) (xs : List α) : each f xs = xs.mapM f := by
  induction xs with
  | nil => rfl
  | cons x xs ih =>
    rw [each, List.mapM_cons, ih]

/-- What a step tells of a member stands in the place of the member. -/
theorem map_of_each {g : β → γ} {h : α → γ} (hys : each f xs = .ok ys)
    (hf : ∀ x ∈ xs, ∀ y, f x = .ok y → g y = h x) : ys.map g = xs.map h := by
  rw [each_eq_mapM] at hys
  exact map_of_mapM hys hf

/-- Every result of a walk is that of some member. -/
theorem exists_of_mem_each {y : β} (hys : each f xs = .ok ys) (hy : y ∈ ys) :
    ∃ x ∈ xs, f x = .ok y := by
  rw [each_eq_mapM] at hys
  exact (mem_mapM hys).mp hy

end

theorem assemble_eq_ok {α : Type} {model : String} {c : Checked α} {a : α} :
    assemble model c = .ok a ↔ c = .ok a := by
  rw [assemble, mapError_eq_ok_iff]
  unfold report
  cases c with
  | error es => exact iff_of_false nofun nofun
  | ok b =>
    constructor
    · intro h
      cases h
      rfl
    · intro h
      cases h
      rfl

theorem property_name {required : List String} {entry : Document × Document} {p : Property}
    (h : property required entry = .ok p) : shown entry.1 = .ok p.name := by
  unfold property at h
  obtain ⟨name, hname, h⟩ := bind_eq_ok.mp h
  obtain ⟨type, -, h⟩ := bind_eq_ok.mp h
  obtain ⟨g, values, hg, -, rfl⟩ := checked_seq_eq_ok (assemble_eq_ok.mp h)
  obtain ⟨k, format, hk, -, rfl⟩ := checked_seq_eq_ok hg
  obtain ⟨description, -, rfl⟩ := checked_map_eq_ok hk
  exact hname

/-- What a schema has from its definition. -/
structure SchemaRead (name : String) (es : Document.Entries) (s : Schema) : Prop where
  name : s.name = name
  properties : ∃ required, each (property required) (sub es "properties") = .ok s.properties

theorem SchemaRead.of_ok {name : String} {es : Document.Entries} {s : Schema}
    (h : schemaOf name es = .ok s) : SchemaRead name es s := by
  unfold schemaOf at h
  obtain ⟨required, -, h⟩ := bind_eq_ok.mp h
  obtain ⟨properties, hproperties, h⟩ := bind_eq_ok.mp h
  obtain ⟨type, -, h⟩ := bind_eq_ok.mp h
  obtain ⟨description, -, rfl⟩ := checked_map_eq_ok (assemble_eq_ok.mp h)
  exact ⟨rfl, required, hproperties⟩

namespace OpenApi

theorem responseOf_statusCode {entry : Document × Document} {r : Response}
    (h : responseOf entry = .ok r) : shown entry.1 = .ok r.statusCode := by
  unfold responseOf at h
  obtain ⟨statusCode, hcode, h⟩ := bind_eq_ok.mp h
  obtain ⟨description, -, h⟩ := bind_eq_ok.mp h
  obtain ⟨contentType, -, h⟩ := bind_eq_ok.mp h
  obtain ⟨schema, -, h⟩ := bind_eq_ok.mp h
  cases h
  exact hcode

/-- The content types of a body are the keys of a mapping. -/
theorem requestBody_contentTypes {es : Document.Entries} {b : RequestBody}
    (h : requestBody es = .ok (some b)) :
    each shown ((sub (Document.get es "requestBody").entries "content").map (·.1)) =
      .ok b.contentTypes := by
  unfold requestBody at h
  unfold Document.get
  split at h
  · cases h
  · rename_i v hv
    obtain ⟨contentTypes, htypes, h⟩ := bind_eq_ok.mp h
    obtain ⟨schema, -, h⟩ := bind_eq_ok.mp h
    obtain ⟨description, -, h⟩ := checked_map_eq_ok (assemble_eq_ok.mp h)
    cases h
    rw [hv]
    exact htypes

/-- What an endpoint has from its operation. -/
structure EndpointRead (key : Document) (method : String) (es : Document.Entries) (e : Endpoint) :
    Prop where
  path : shown key = .ok e.path
  id : e.id = method ++ "-" ++ e.path
  method : e.method = method
  requestBody : requestBody es = .ok e.requestBody
  responses : each responseOf (sub es "responses") = .ok e.responses

theorem EndpointRead.of_ok {key : Document} {method : String} {es : Document.Entries} {e : Endpoint}
    (h : endpoint key method es = .ok e) : EndpointRead key method es e := by
  unfold endpoint at h
  obtain ⟨path, hpath, h⟩ := bind_eq_ok.mp h
  obtain ⟨parameters, -, h⟩ := bind_eq_ok.mp h
  obtain ⟨body, hbody, h⟩ := bind_eq_ok.mp h
  obtain ⟨responses, hresponses, h⟩ := bind_eq_ok.mp h
  obtain ⟨members, -, h⟩ := bind_eq_ok.mp h
  obtain ⟨tags, -, h⟩ := bind_eq_ok.mp h
  obtain ⟨g, description, hg, -, rfl⟩ := checked_seq_eq_ok (assemble_eq_ok.mp h)
  obtain ⟨k, summary, hk, -, rfl⟩ := checked_seq_eq_ok hg
  obtain ⟨operationId, -, rfl⟩ := checked_map_eq_ok hk
  exact ⟨hpath, rfl, rfl, hbody, hresponses⟩

theorem securityScheme_name {entry : Document × Document} {s : SecurityScheme}
    (h : securityScheme entry = .ok s) : shown entry.1 = .ok s.name := by
  unfold securityScheme at h
  obtain ⟨name, hname, h⟩ := bind_eq_ok.mp h
  obtain ⟨type, -, h⟩ := bind_eq_ok.mp h
  obtain ⟨description, -, rfl⟩ := checked_map_eq_ok (assemble_eq_ok.mp h)
  exact hname

/-- What a specification has from the mapping of its document. -/
structure SpecRead (doc : Document.Entries) (spec : Spec) : Prop where
  endpoints : each (fun o => endpoint o.1 o.2.1 o.2.2) (operations (sub doc "paths")) =
    .ok spec.endpoints
  schemas : schemas (firstOf (sub (sub doc "components") "schemas") (sub doc "definitions")) =
    .ok spec.schemas
  security : each securityScheme (firstOf (sub (sub doc "components") "securitySchemes")
    (sub doc "securityDefinitions")) = .ok spec.security

theorem SpecRead.of_ok {doc : Document.Entries} {spec : Spec} (h : ofEntries doc = .ok spec) :
    SpecRead doc spec := by
  unfold ofEntries at h
  obtain ⟨endpoints, hendpoints, h⟩ := bind_eq_ok.mp h
  obtain ⟨schemas, hschemas, h⟩ := bind_eq_ok.mp h
  obtain ⟨security, hsecurity, h⟩ := bind_eq_ok.mp h
  obtain ⟨name, -, h⟩ := bind_eq_ok.mp h
  obtain ⟨version, -, h⟩ := bind_eq_ok.mp h
  cases h
  exact ⟨hendpoints, hschemas, hsecurity⟩

theorem SpecRead.exists_endpointRead {doc : Document.Entries} {spec : Spec} (h : SpecRead doc spec)
    {e : Endpoint} (he : e ∈ spec.endpoints) :
    ∃ o ∈ operations (sub doc "paths"), EndpointRead o.1 o.2.1 o.2.2 e := by
  obtain ⟨o, ho, hread⟩ := exists_of_mem_each h.endpoints he
  exact ⟨o, ho, .of_ok hread⟩

theorem exists_of_mem_operations {paths : Document.Entries}
    {o : Document × String × Document.Entries} (ho : o ∈ operations paths) :
    ∃ p ∈ paths, ∃ e ∈ p.2.entries, method? e.1 = some o.2.1 ∧ o.2.2 = e.2.entries := by
  obtain ⟨p, hp, ho⟩ := List.mem_flatMap.mp ho
  obtain ⟨e, he, ho⟩ := List.mem_filterMap.mp ho
  obtain ⟨m, hm, rfl⟩ := Option.map_eq_some_iff.mp ho
  exact ⟨p, hp, e, he, hm, rfl⟩

theorem ofDocument_eq_ok {doc : Document} {spec : Spec} :
    ofDocument doc = .ok spec ↔ ∃ es, doc = .map es ∧ ofEntries es = .ok spec := by
  cases doc with
  | map es => simp [ofDocument]
  | _ => simp [ofDocument]

theorem SpecRead.of_ofDocument {doc : Document} {spec : Spec} (h : ofDocument doc = .ok spec) :
    SpecRead doc.entries spec := by
  obtain ⟨es, rfl, hread⟩ := ofDocument_eq_ok.mp h
  exact .of_ok hread

end OpenApi

namespace AsyncApi

/-- What an endpoint has from its operation. It has nothing to be compared but a deprecation. -/
structure EndpointRead (key : Document) (mark method : String) (e : Endpoint) : Prop where
  path : shown key = .ok e.path
  id : e.id = mark ++ "-" ++ e.path
  method : e.method = method
  parameters : e.parameters = []
  requestBody : e.requestBody = none
  responses : e.responses = []

theorem EndpointRead.of_ok {key : Document} {mark method : String} {es : Document.Entries}
    {e : Endpoint} (h : endpoint key mark method es = .ok e) : EndpointRead key mark method e := by
  unfold endpoint at h
  obtain ⟨channel, hchannel, h⟩ := bind_eq_ok.mp h
  obtain ⟨members, -, h⟩ := bind_eq_ok.mp h
  obtain ⟨tags, -, h⟩ := bind_eq_ok.mp h
  obtain ⟨g, description, hg, -, rfl⟩ := checked_seq_eq_ok (assemble_eq_ok.mp h)
  obtain ⟨k, summary, hk, -, rfl⟩ := checked_seq_eq_ok hg
  obtain ⟨operationId, -, rfl⟩ := checked_map_eq_ok hk
  exact ⟨hchannel, rfl, rfl, rfl, rfl, rfl⟩

/-- What a specification has from the mapping of its document. -/
structure SpecRead (doc : Document.Entries) (spec : Spec) : Prop where
  endpoints : each (fun o => endpoint o.1 o.2.1 o.2.2.1 o.2.2.2) (operations (sub doc "channels")) =
    .ok spec.endpoints
  schemas : schemas (sub (sub doc "components") "schemas") = .ok spec.schemas
  security : spec.security = []

theorem SpecRead.of_ok {doc : Document.Entries} {spec : Spec} (h : ofEntries doc = .ok spec) :
    SpecRead doc spec := by
  unfold ofEntries at h
  obtain ⟨endpoints, hendpoints, h⟩ := bind_eq_ok.mp h
  obtain ⟨schemas, hschemas, h⟩ := bind_eq_ok.mp h
  obtain ⟨name, -, h⟩ := bind_eq_ok.mp h
  obtain ⟨version, -, h⟩ := bind_eq_ok.mp h
  cases h
  exact ⟨hendpoints, hschemas, rfl⟩

theorem SpecRead.exists_endpointRead {doc : Document.Entries} {spec : Spec} (h : SpecRead doc spec)
    {e : Endpoint} (he : e ∈ spec.endpoints) :
    ∃ o ∈ operations (sub doc "channels"), EndpointRead o.1 o.2.1 o.2.2.1 e := by
  obtain ⟨o, ho, hread⟩ := exists_of_mem_each h.endpoints he
  exact ⟨o, ho, .of_ok hread⟩

theorem exists_of_mem_operations {channels : Document.Entries}
    {o : Document × String × String × Document.Entries} (ho : o ∈ operations channels) :
    ∃ kind ∈ operationKinds, kind.2 = (o.2.1, o.2.2.1) := by
  obtain ⟨c, -, ho⟩ := List.mem_flatMap.mp ho
  obtain ⟨kind, hkind, ho⟩ := List.mem_filterMap.mp ho
  dsimp only at ho
  split at ho
  · cases ho
    exact ⟨kind, hkind, rfl⟩
  · cases ho

theorem ofDocument_eq_ok {doc : Document} {spec : Spec} :
    ofDocument doc = .ok spec ↔ ∃ es, doc = .map es ∧ ofEntries es = .ok spec := by
  cases doc with
  | map es => simp [ofDocument]
  | _ => simp [ofDocument]

theorem SpecRead.of_ofDocument {doc : Document} {spec : Spec} (h : ofDocument doc = .ok spec) :
    SpecRead doc.entries spec := by
  obtain ⟨es, rfl, hread⟩ := ofDocument_eq_ok.mp h
  exact .of_ok hread

end AsyncApi
end ApiDrift.Reading
