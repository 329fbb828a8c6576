import ApiDrift.Proofs.Edits
import ApiDrift.Proofs.Inversion
import ApiDrift.Proofs.Owners
import ApiDrift.Proofs.Words
import ApiDrift.Reading.GraphQL
import ApiDrift.Reading.Protobuf

/-!
# What each format can report

Three of the formats tell less of an endpoint than a specification can hold. A field of a root type
has no parameters and one response, a remote call has one parameter that is always required, and an
operation of a channel has neither parameters nor responses. None of them has a body or a security
scheme. So the comparison always answers, and most kinds of change cannot occur: arguments and
return types of fields, and responses of remote calls, are read but never compared.
-/
namespace ApiDrift
open Compare Text

/-- An endpoint or schema that comes or goes, or a change of the properties of a schema. -/
def Change.IsOutline (c : Change) : Prop :=
  (c.type = .added ∨ c.type = .removed) ∧ (c.category = .endpoint ∨ c.category = .schema) ∨
    c.category = .schemaProperty

/-- The request of the remote call with a label is of another type. -/
structure Change.RetypesRequest (label : String) (c : Change) : Prop where
  type : c.type = .modified
  category : c.category = .parameter
  severity : c.severity = .breaking
  path : c.path = within label "body:request"

/-- The changes of two specifications without security schemes. -/
inductive Spec.Gives (old new : Spec) : Change → Prop
  | endpointRemoved {e : Endpoint} : Alone Endpoint.id old.endpoints new.endpoints e →
      Gives old new (endpointRemoved e.id e)
  | endpointAdded {e : Endpoint} : Alone Endpoint.id new.endpoints old.endpoints e →
      Gives old new (endpointAdded e.id e)
  | detail {d e : Endpoint} {cs : List Change} {c : Change} :
      Paired Endpoint.id old.endpoints new.endpoints d e → endpointDetails d e = .ok cs → c ∈ cs →
      Gives old new c
  | schema {c : Change} : c ∈ Compare.schemas old.schemas new.schemas → Gives old new c

namespace Spec

variable {old new : Spec} {cs : List Change} {c : Change}

theorem mem_changes_iff (hold : old.security = []) (hnew : new.security = [])
    (h : old.changes new = .ok cs) : c ∈ cs ↔ old.Gives new c := by
  obtain ⟨es, hes, rfl⟩ := changes_eq_ok.mp h
  obtain ⟨details, hdetails, rfl⟩ := endpoints_eq_ok.mp hes
  have hsecurity : Compare.security old.security new.security = [] := by
    rw [hold, hnew]
    rfl
  simp only [hsecurity, List.append_nil, List.mem_append, List.mem_map, Prod.exists, mem_removed,
    mem_added, mem_flatMapChecked hdetails, mem_common]
  constructor
  · intro hc
    rcases hc with
      ((⟨k, e, ⟨he, rfl⟩, rfl⟩ | ⟨k, e, ⟨he, rfl⟩, rfl⟩) | ⟨d, e, hpair, zs, hzs, hc⟩) | hc
    · exact .endpointRemoved he
    · exact .endpointAdded he
    · exact .detail hpair hzs hc
    · exact .schema hc
  · intro hc
    cases hc with
    | endpointRemoved he => exact .inl (.inl (.inl ⟨_, _, ⟨he, rfl⟩, rfl⟩))
    | endpointAdded he => exact .inl (.inl (.inr ⟨_, _, ⟨he, rfl⟩, rfl⟩))
    | detail hpair hzs hc => exact .inl (.inr ⟨_, _, hpair, _, hzs, hc⟩)
    | schema hc => exact .inr hc

/-- There is an answer where common endpoints have one. -/
theorem exists_difference (hold : old.security = []) (hnew : new.security = [])
    (hdetails : ∀ d e, Paired Endpoint.id old.endpoints new.endpoints d e →
      ∃ cs, endpointDetails d e = .ok cs) :
    ∃ d, old.difference new = .ok d ∧ ∀ c, c ∈ d.changes ↔ old.Gives new c := by
  obtain ⟨es, hes⟩ := exists_endpoints_iff.mpr hdetails
  have hchanges := changes_eq_ok.mpr ⟨es, hes, rfl⟩
  exact ⟨_, difference_eq_ok.mpr ⟨_, hchanges, rfl⟩, fun c => mem_changes_iff hold hnew hchanges⟩

theorem category_of_schemas {ss ts : List Schema} (hc : c ∈ Compare.schemas ss ts) :
    (c.type = .added ∨ c.type = .removed) ∧ c.category = .schema ∨
      c.category = .schemaProperty := by
  have hkind : (c.type, c.category, c.severity) ∈ (Compare.schemas ss ts).map Change.kind :=
    List.mem_map_of_mem hc
  rcases kind_mem_schemas.mp hkind with ⟨_, -, hk⟩ | ⟨_, -, hk⟩ | ⟨_, _, -, hk, -⟩
  · simp only [Prod.mk.injEq] at hk
    exact .inl ⟨.inr hk.1.symm, hk.2.1.symm⟩
  · simp only [Prod.mk.injEq] at hk
    exact .inl ⟨.inl hk.1.symm, hk.2.1.symm⟩
  · exact .inr hk

/-- Apart from what changes inside of common endpoints, a change is one of the outline. -/
theorem Gives.isOutline_or (h : old.Gives new c) :
    c.IsOutline ∨ ∃ d e cs, Paired Endpoint.id old.endpoints new.endpoints d e ∧
      endpointDetails d e = .ok cs ∧ c ∈ cs := by
  cases h with
  | endpointRemoved he => exact .inl (.inl ⟨.inr rfl, .inl rfl⟩)
  | endpointAdded he => exact .inl (.inl ⟨.inl rfl, .inl rfl⟩)
  | detail hpair hcs hc => exact .inr ⟨_, _, _, hpair, hcs, hc⟩
  | schema hc => exact .inl ((category_of_schemas hc).imp_left fun h => ⟨h.1, .inr h.2⟩)

end Spec

theorem Compare.within_left_inj {base base' detail : String}
    (h : within base detail = within base' detail) : base = base' := by
  have hfront : base ++ " -> " = base' ++ " -> " := (String.append_left_inj detail).mp h
  exact (String.append_left_inj " -> ").mp hfront

/-! ### Fields of root types -/

namespace GraphQL

theorem eq_endpoint_of_mem {text : List Char} {e : Endpoint} (he : e ∈ (readSpec text).endpoints) :
    ∃ type method f, e = Field.endpoint type method f := by
  obtain ⟨d, -, he⟩ := List.mem_flatMap.mp he
  unfold Declaration.endpoints at he
  split at he
  · obtain ⟨f, -, rfl⟩ := List.mem_map.mp he
    exact ⟨_, _, f, rfl⟩
  · cases he

/-- Whatever the arguments and the type of a field, there is nothing in it to compare. -/
theorem endpointDetails_field {old new : List Char} {d e : Endpoint}
    (hd : d ∈ (readSpec old).endpoints) (he : e ∈ (readSpec new).endpoints) :
    endpointDetails d e = .ok [] := by
  obtain ⟨type, method, f, rfl⟩ := eq_endpoint_of_mem hd
  obtain ⟨type', method', g, rfl⟩ := eq_endpoint_of_mem he
  rfl

/-- What two texts can differ in. Of operations only those are reported whose id the other text
lacks. -/
structure DiffersBy (old new : List Char) (diff : Difference) : Prop where
  outline : ∀ c ∈ diff.changes, c.IsOutline
  operations : ∀ c ∈ diff.changes, c.category = .endpoint → ∃ e,
    (Alone Endpoint.id (readSpec old).endpoints (readSpec new).endpoints e ∧
        c = endpointRemoved e.id e) ∨
      Alone Endpoint.id (readSpec new).endpoints (readSpec old).endpoints e ∧
        c = endpointAdded e.id e

theorem exists_differsBy (old new : List Char) :
    ∃ diff, (readSpec old).difference (readSpec new) = .ok diff ∧ DiffersBy old new diff := by
  have hdetails {d e : Endpoint}
      (hpair : Paired Endpoint.id (readSpec old).endpoints (readSpec new).endpoints d e) :
      endpointDetails d e = .ok [] := endpointDetails_field hpair.1.mem hpair.2.1.mem
  have hanswers (d e : Endpoint)
      (hpair : Paired Endpoint.id (readSpec old).endpoints (readSpec new).endpoints d e) :
      ∃ cs, endpointDetails d e = .ok cs := ⟨[], hdetails hpair⟩
  obtain ⟨diff, hdiff, hchanges⟩ := Spec.exists_difference rfl rfl hanswers
  refine ⟨diff, hdiff, ⟨?_, ?_⟩⟩
  · intro c hc
    rcases ((hchanges c).mp hc).isOutline_or with houtline | ⟨d, e, cs, hpair, hcs, hc⟩
    · exact houtline
    · cases (hdetails hpair).symm.trans hcs
      cases hc
  · intro c hc hcategory
    cases (hchanges c).mp hc with
    | endpointRemoved he => exact ⟨_, .inl ⟨he, rfl⟩⟩
    | endpointAdded he => exact ⟨_, .inr ⟨he, rfl⟩⟩
    | detail hpair hcs hc =>
      cases (hdetails hpair).symm.trans hcs
      cases hc
    | schema hc =>
      rcases Spec.category_of_schemas hc with ⟨-, hschema⟩ | hschema
      · cases hcategory.symm.trans hschema
      · cases hcategory.symm.trans hschema

end GraphQL

/-! ### Remote calls -/

namespace Protobuf

/-- The remote calls of a text with the names of their services, as they stand in the text. -/
def remoteCalls (text : List Char) : List (String × Call) :=
  (findAll (block? "service") text).flatMap fun b =>
    (findAll call? b.body).map fun c => (String.ofList b.name, c)

/-- The endpoint of a remote call of a service. -/
def endpointOf (x : String × Call) : Endpoint := x.2.endpoint x.1

def requestOf (c : Call) : Parameter :=
  { name := "request", location := "body", type := String.ofList c.request, required := true }

theorem endpoints_eq (text : List Char) :
    (readSpec text).endpoints = (remoteCalls text).map endpointOf := by
  have hblock (b : Block) : b.endpoints =
      ((findAll call? b.body).map fun c => (String.ofList b.name, c)).map endpointOf := by
    rw [Block.endpoints, List.map_map]
    rfl
  rw [remoteCalls, List.map_flatMap]
  simp only [readSpec, funext hblock]

/-- The request is the only part of a remote call that is compared, and it is always required. -/
theorem endpointDetails_endpointOf (x y : String × Call) :
    endpointDetails (endpointOf x) (endpointOf y) =
      .ok (parameterDetails (endpointOf y).label (requestOf x.2) (requestOf y.2)) := by
  let details := parameterDetails (endpointOf y).label (requestOf x.2) (requestOf y.2)
  have hparameters : parameters (endpointOf y).label [requestOf x.2] [requestOf y.2] =
      .ok ([] ++ [] ++ (details ++ [])) := rfl
  have hdetails : endpointDetails (endpointOf x) (endpointOf y) =
      .ok ([] ++ ([] ++ [] ++ (details ++ [])) ++ [] ++ []) :=
    endpointDetails_eq_ok _ _ rfl hparameters rfl rfl
  simpa only [List.nil_append, List.append_nil] using hdetails

theorem mem_requestDetails {label : String} {c d : Call} {change : Change}
    (h : change ∈ parameterDetails label (requestOf c) (requestOf d)) :
    change.RetypesRequest label ∧ c.request ≠ d.request := by
  simp only [parameterDetails, List.mem_append, List.mem_ite_nil_right, List.mem_singleton] at h
  rcases h with ⟨hdemand, -⟩ | ⟨htype, rfl⟩
  · cases hdemand
  · exact ⟨⟨rfl, rfl, rfl, rfl⟩, fun heq => htype (congrArg String.ofList heq)⟩

theorem exists_requestDetails (label : String) {c d : Call} (h : c.request ≠ d.request) :
    ∃ change ∈ parameterDetails label (requestOf c) (requestOf d), change.RetypesRequest label := by
  have htype : (requestOf c).type ≠ (requestOf d).type := fun heq => h (String.ofList_inj.mp heq)
  rw [parameterDetails, if_pos htype]
  exact ⟨_, List.mem_append_right _ (List.mem_singleton_self _), ⟨rfl, rfl, rfl, rfl⟩⟩

/-- A service is named by a word. -/
theorem slash_notMem_service {text : List Char} {x : String × Call} (hx : x ∈ remoteCalls text) :
    '/' ∉ x.1.toList := by
  obtain ⟨b, hb, hx⟩ := List.mem_flatMap.mp hx
  obtain ⟨c, -, rfl⟩ := List.mem_map.mp hx
  obtain ⟨front, rest, hb⟩ := exists_of_mem_findAll hb
  obtain ⟨after, -, hb⟩ := Option.bind_eq_some_iff.mp hb
  obtain ⟨⟨name, after⟩, hname, hb⟩ := Option.bind_eq_some_iff.mp hb
  obtain ⟨⟨body, after⟩, -, hb⟩ := Option.bind_eq_some_iff.mp hb
  cases hb
  intro hslash
  rw [String.toList_ofList] at hslash
  have hword := all_of_blankWord? hname '/' hslash
  revert hword
  decide

/-- The label of a remote call has its service up to the second slash, and so tells its id. -/
theorem id_eq_of_label {texts texts' : List Char} {x y : String × Call} (hx : x ∈ remoteCalls texts)
    (hy : y ∈ remoteCalls texts') (h : (endpointOf x).label = (endpointOf y).label) :
    (endpointOf x).id = (endpointOf y).id := by
  have hchars : x.1.toList ++ '/' :: x.2.name = y.1.toList ++ '/' :: y.2.name := by
    simpa [endpointOf, Call.endpoint, Endpoint.label] using congrArg String.toList h
  obtain ⟨hservice, hname⟩ := append_cons_inj (slash_notMem_service hx) (slash_notMem_service hy)
    hchars
  simp only [endpointOf, Call.endpoint, String.toList_inj.mp hservice, hname]

theorem paired_iff {old new : List Char} {d e : Endpoint} :
    Paired Endpoint.id (readSpec old).endpoints (readSpec new).endpoints d e ↔
      ∃ x y, Paired (fun x => (endpointOf x).id) (remoteCalls old) (remoteCalls new) x y ∧
        endpointOf x = d ∧ endpointOf y = e := by
  unfold Paired
  rw [endpoints_eq, endpoints_eq, stands_map_iff, stands_map_iff]
  constructor
  · intro h
    obtain ⟨⟨x, hx, rfl⟩, ⟨y, hy, rfl⟩, hid⟩ := h
    exact ⟨x, y, ⟨hx, hy, hid⟩, rfl, rfl⟩
  · intro h
    obtain ⟨x, y, ⟨hx, hy, hid⟩, rfl, rfl⟩ := h
    exact ⟨⟨x, hx, rfl⟩, ⟨y, hy, rfl⟩, hid⟩

/-- Of the calls that stand for their ids only one has a given label. -/
theorem eq_of_label {old new : List Char} {x y x' y' : String × Call}
    (h : Paired (fun x => (endpointOf x).id) (remoteCalls old) (remoteCalls new) x y)
    (h' : Paired (fun x => (endpointOf x).id) (remoteCalls old) (remoteCalls new) x' y')
    (hlabel : (endpointOf y').label = (endpointOf y).label) : x' = x ∧ y' = y := by
  have hid := id_eq_of_label h'.2.1.mem h.2.1.mem hlabel
  exact ⟨h'.1.unique h.1 ((h'.2.2.trans hid).trans h.2.2.symm), h'.2.1.unique h.2.1 hid⟩

/-- What two texts can differ in. A remote call of both is reported exactly where its request has
another type; a call that is repeated counts as it stands last. -/
structure DiffersBy (old new : List Char) (diff : Difference) : Prop where
  outline : ∀ c ∈ diff.changes,
    c.IsOutline ∨ ∃ e ∈ (readSpec new).endpoints, c.RetypesRequest e.label
  requests : ∀ x y, Paired (fun x => (endpointOf x).id) (remoteCalls old) (remoteCalls new) x y →
    ((∃ c ∈ diff.changes, c.RetypesRequest (endpointOf y).label) ↔ x.2.request ≠ y.2.request)

theorem exists_differsBy (old new : List Char) :
    ∃ diff, (readSpec old).difference (readSpec new) = .ok diff ∧ DiffersBy old new diff := by
  have hdetails : ∀ d e,
      Paired Endpoint.id (readSpec old).endpoints (readSpec new).endpoints d e →
        ∃ cs, endpointDetails d e = .ok cs := by
    intro d e hpair
    obtain ⟨x, y, -, rfl, rfl⟩ := paired_iff.mp hpair
    exact ⟨_, endpointDetails_endpointOf x y⟩
  obtain ⟨diff, hdiff, hchanges⟩ := Spec.exists_difference rfl rfl hdetails
  refine ⟨diff, hdiff, ⟨?_, ?_⟩⟩
  · intro c hc
    rcases ((hchanges c).mp hc).isOutline_or with houtline | ⟨d, e, cs, hpair, hcs, hc⟩
    · exact .inl houtline
    · obtain ⟨x, y, -, rfl, rfl⟩ := paired_iff.mp hpair
      cases (endpointDetails_endpointOf x y).symm.trans hcs
      exact .inr ⟨_, hpair.2.1.mem, (mem_requestDetails hc).1⟩
  · intro x y hxy
    constructor
    · intro h
      obtain ⟨c, hc, hretypes⟩ := h
      cases (hchanges c).mp hc with
      | endpointRemoved he => cases hretypes.category
      | endpointAdded he => cases hretypes.category
      | detail hpair hcs hc =>
        obtain ⟨x', y', hxy', rfl, rfl⟩ := paired_iff.mp hpair
        cases (endpointDetails_endpointOf x' y').symm.trans hcs
        obtain ⟨hretypes', hne⟩ := mem_requestDetails hc
        have hlabel := within_left_inj (hretypes'.path.symm.trans hretypes.path)
        obtain ⟨rfl, rfl⟩ := eq_of_label hxy hxy' hlabel
        exact hne
      | schema hc =>
        rcases Spec.category_of_schemas hc with ⟨-, hschema⟩ | hschema
        · cases hretypes.category.symm.trans hschema
        · cases hretypes.category.symm.trans hschema
    · intro hne
      have hpair := paired_iff.mpr ⟨x, y, hxy, rfl, rfl⟩
      obtain ⟨c, hc, hretypes⟩ := exists_requestDetails (endpointOf y).label hne
      exact ⟨c, (hchanges c).mpr (.detail hpair (endpointDetails_endpointOf x y) hc), hretypes⟩

end Protobuf

/-! ### Operations of channels -/

namespace Reading.AsyncApi

/-- Endpoints without parameters, bodies and responses differ in a deprecation at most. -/
theorem endpointDetails_read {key key' : Document} {mark mark' method method' : String}
    {d e : Endpoint} (hd : EndpointRead key mark method d)
    (he : EndpointRead key' mark' method' e) :
    endpointDetails d e = .ok (deprecation d e) := by
  have hdetails : endpointDetails d e = .ok (deprecation d e ++ [] ++ [] ++ []) := by
    apply endpointDetails_eq_ok d e rfl
    · rw [hd.parameters, he.parameters]
      rfl
    · rw [hd.requestBody, he.requestBody]
      rfl
    · rw [hd.responses, he.responses]
      rfl
  simpa only [List.append_nil] using hdetails

/-- What two documents can differ in. -/
structure DiffersBy (diff : Difference) : Prop where
  categories : ∀ c ∈ diff.changes,
    c.category = .endpoint ∨ c.category = .schema ∨ c.category = .schemaProperty

theorem exists_differsBy {docs docs' : Document} {old new : Spec} (hold : ofDocument docs = .ok old)
    (hnew : ofDocument docs' = .ok new) :
    ∃ diff, old.difference new = .ok diff ∧ DiffersBy diff := by
  have hspec := SpecRead.of_ofDocument hold
  have hspec' := SpecRead.of_ofDocument hnew
  have hdetails {d e : Endpoint} (hpair : Paired Endpoint.id old.endpoints new.endpoints d e) :
      endpointDetails d e = .ok (deprecation d e) := by
    obtain ⟨o, -, hd⟩ := hspec.exists_endpointRead hpair.1.mem
    obtain ⟨o', -, he⟩ := hspec'.exists_endpointRead hpair.2.1.mem
    exact endpointDetails_read hd he
  obtain ⟨diff, hdiff, hchanges⟩ := Spec.exists_difference hspec.security hspec'.security
    fun d e hpair => ⟨_, hdetails hpair⟩
  refine ⟨diff, hdiff, ⟨?_⟩⟩
  intro c hc
  rcases ((hchanges c).mp hc).isOutline_or with houtline | ⟨d, e, cs, hpair, hcs, hc⟩
  · rcases houtline with ⟨-, hcategory | hcategory⟩ | hcategory
    · exact .inl hcategory
    · exact .inr (.inl hcategory)
    · exact .inr (.inr hcategory)
  · cases (hdetails hpair).symm.trans hcs
    exact .inl (deprecation_detailsOf d e c hc).2

end Reading.AsyncApi

/-! ### All three -/

/-- Two schema texts differ in whole operations and schemas and in properties only, two texts of
services in the types of requests besides, and two descriptions of channels in no other categories
than these. There is an answer for all of them. -/
theorem changes_by_format :
    (∀ old new : List Char, ∃ diff,
        (GraphQL.readSpec old).difference (GraphQL.readSpec new) = .ok diff ∧
          GraphQL.DiffersBy old new diff) ∧
      (∀ old new : List Char, ∃ diff,
        (Protobuf.readSpec old).difference (Protobuf.readSpec new) = .ok diff ∧
          Protobuf.DiffersBy old new diff) ∧
      ∀ (docs docs' : Document) (old new : Spec), Reading.AsyncApi.ofDocument docs = .ok old →
        Reading.AsyncApi.ofDocument docs' = .ok new →
          ∃ diff, old.difference new = .ok diff ∧ Reading.AsyncApi.DiffersBy diff := by
  refine ⟨GraphQL.exists_differsBy, Protobuf.exists_differsBy, ?_⟩
  intro docs docs' old new hold hnew
  exact Reading.AsyncApi.exists_differsBy hold hnew

/-- A service that declares a call twice. -/
def Sample.mail : List Char :=
  ("service Mail \x7b rpc Send(Note) returns (Receipt); " ++
    "rpc Send(Draft) returns (Receipt); \x7d").toList

/-- The call with another request and another response. -/
def Sample.mailOfLetters : List Char :=
  "service Mail \x7b rpc Send(Letter) returns (Stamp); \x7d".toList

/-- A channel that is deprecated or not. -/
def Sample.channel (deprecated : Bool) : Document :=
  let subscribe : Document := .map [(.text "deprecated", .bool deprecated)]
  .map [(.text "channels", .map [(.text "orders", .map [(.text "subscribe", subscribe)])])]

/-- The last declaration of the call is compared with the new one; of the channel nothing but its
deprecation can be found. -/
theorem mail_requests_compared :
    (∃ diff, (Protobuf.readSpec Sample.mail).difference (Protobuf.readSpec Sample.mailOfLetters) =
        .ok diff ∧ ∃ c ∈ diff.changes, c.RetypesRequest "RPC /Mail/Send") ∧
      ∃ old new diff, Reading.AsyncApi.ofDocument (Sample.channel false) = .ok old ∧
        Reading.AsyncApi.ofDocument (Sample.channel true) = .ok new ∧
        old.difference new = .ok diff ∧ Reading.AsyncApi.DiffersBy diff := by
  constructor
  · obtain ⟨diff, hdiff, hfits⟩ := changes_by_format.2.1 Sample.mail Sample.mailOfLetters
    have hpair : Paired (fun x => (Protobuf.endpointOf x).id) (Protobuf.remoteCalls Sample.mail)
        (Protobuf.remoteCalls Sample.mailOfLetters)
        ("Mail", ⟨"Send".toList, "Draft".toList, "Receipt".toList⟩)
        ("Mail", ⟨"Send".toList, "Letter".toList, "Stamp".toList⟩) :=
      ⟨⟨[("Mail", ⟨"Send".toList, "Note".toList, "Receipt".toList⟩)], [], rfl, nofun⟩,
        ⟨[], [], rfl, nofun⟩, rfl⟩
    exact ⟨diff, hdiff, (hfits.requests _ _ hpair).mpr (by decide)⟩
  · have hread : ∃ old new, Reading.AsyncApi.ofDocument (Sample.channel false) = .ok old ∧
        Reading.AsyncApi.ofDocument (Sample.channel true) = .ok new := ⟨_, _, rfl, rfl⟩
    obtain ⟨old, new, hold, hnew⟩ := hread
    obtain ⟨diff, hdiff, hfits⟩ := changes_by_format.2.2 _ _ old new hold hnew
    exact ⟨old, new, diff, hold, hnew, hdiff, hfits⟩

end ApiDrift
