import ApiDrift.Proofs.Layouts

/-!
# Keys that nobody reads

At each level of a document certain keys are looked up, and nothing else is asked of a mapping: any
other entry can be added anywhere, under any key and with any value. An edit is described here by
the way to the mapping that has one more entry, and by the keys that are read at that level. The
document is then read as it was, and is refused as it was.

Mappings of paths, responses, content types and definitions are left out, as all of their keys are
read, and so is an operation of a channel that is empty, since it counts as absent.
-/
namespace ApiDrift

namespace Document

variable {β : Type} {es es' : Entries} {k : String}

/-- One more entry, under a key that is none of some texts. -/
inductive Widened (names : List String) : Entries → Entries → Prop
  | intro (before after : Entries) {key : Document} (value : Document) :
      isAmong names key = false →
      Widened names (before ++ after) (before ++ (key, value) :: after)

/-- Two mappings whose entries are related. -/
inductive Enclosed (R : Entries → Entries → Prop) : Document → Document → Prop
  | intro {es es' : Entries} : R es es' → Enclosed R (.map es) (.map es')

/-- Another value of one key, and the same entries otherwise. -/
inductive AtKey (name : String) (R : Document → Document → Prop) : Entries → Entries → Prop
  | intro (before after : Entries) {v v' : Document} : R v v' →
      AtKey name R (before ++ (.text name, v) :: after) (before ++ (.text name, v') :: after)

/-- Another value of some key, and the same entries otherwise. -/
inductive AtSome (R : Document → Document → Prop) : Entries → Entries → Prop
  | intro (before after : Entries) (key : Document) {v v' : Document} : R v v' →
      AtSome R (before ++ (key, v) :: after) (before ++ (key, v') :: after)

/-- Another item in a sequence, and the same items otherwise. -/
inductive AtItem (R : Document → Document → Prop) : Document → Document → Prop
  | seq (before after : List Document) {v v' : Document} : R v v' →
      AtItem R (.seq (before ++ v :: after)) (.seq (before ++ v' :: after))
  | tuple (before after : List Document) {v v' : Document} : R v v' →
      AtItem R (.tuple (before ++ v :: after)) (.tuple (before ++ v' :: after))

/-- The mapping under one key is changed. -/
abbrev Under (name : String) (R : Entries → Entries → Prop) : Entries → Entries → Prop :=
  AtKey name (Enclosed R)

/-- One of the mappings in the mapping under one key is changed. -/
abbrev Among (name : String) (R : Entries → Entries → Prop) : Entries → Entries → Prop :=
  Under name (AtSome (Enclosed R))

theorem Widened.get?_eq {names : List String} (h : Widened names es es') (hk : k ∈ names) :
    get? es' k = get? es k := by
  obtain ⟨before, after, value, hkey⟩ := h
  rename_i key
  have hnew : key.same (.text k) = false := by
    rw [isAmong, List.any_eq_false] at hkey
    simpa using hkey k hk
  rw [get?_append, get?_append, get?_cons, hnew, if_neg Bool.false_ne_true]

theorem Widened.get_eq {names : List String} (h : Widened names es es') (hk : k ∈ names) :
    Document.get es' k = Document.get es k := by
  rw [Document.get, Document.get, h.get?_eq hk]

section
variable {name : String} {R : Document → Document → Prop}

theorem AtKey.get?_of_ne (h : AtKey name R es es') (hk : k ≠ name) : get? es' k = get? es k := by
  obtain ⟨before, after, -⟩ := h
  simp [Ne.symm hk]

theorem AtKey.get_eq_of_ne (h : AtKey name R es es') (hk : k ≠ name) :
    Document.get es' k = Document.get es k := by
  rw [Document.get, Document.get, h.get?_of_ne hk]

/-- What the related values agree on is the same of the values of the key. -/
theorem AtKey.map_get? {f : Document → β} (h : AtKey name R es es')
    (hf : ∀ v v', R v v' → f v' = f v) : (get? es' name).map f = (get? es name).map f := by
  obtain ⟨before, after, hR⟩ := h
  simp only [get?_append, get?_text_cons, if_true]
  cases get? before name with
  | none => simp [hf _ _ hR]
  | some v => rfl

theorem AtKey.apply_get {f : Document → β} (h : AtKey name R es es')
    (hf : ∀ v v', R v v' → f v' = f v) : f (Document.get es' name) = f (Document.get es name) := by
  have hmap := h.map_get? hf
  unfold Document.get
  cases hnew : get? es' name <;> cases hold : get? es name <;> simp_all

theorem AtKey.sub_eq_of_ne (h : AtKey name R es es') (hk : k ≠ name) :
    Reading.sub es' k = Reading.sub es k := by
  rw [Reading.sub, Reading.sub, h.get_eq_of_ne hk]

end

theorem Under.apply_sub {name : String} {R : Entries → Entries → Prop} {f : Entries → β}
    (h : Under name R es es') (hf : ∀ fs fs', R fs fs' → f fs' = f fs) :
    f (Reading.sub es' name) = f (Reading.sub es name) := by
  refine AtKey.apply_get (f := fun v => f v.entries) h ?_
  rintro _ _ ⟨hR⟩
  exact hf _ _ hR

namespace AtSome

variable {R : Document → Document → Prop}

theorem isEmpty_eq (h : AtSome R es es') : es'.isEmpty = es.isEmpty := by
  obtain ⟨before, after, key, -⟩ := h
  cases before <;> rfl

theorem map_eq {f : Document × Document → β} (h : AtSome R es es')
    (hf : ∀ k v v', R v v' → f (k, v') = f (k, v)) : es'.map f = es.map f := by
  obtain ⟨before, after, key, hR⟩ := h
  simp only [List.map_append, List.map_cons, hf key _ _ hR]

theorem filterMap_eq {f : Document × Document → Option β} (h : AtSome R es es')
    (hf : ∀ k v v', R v v' → f (k, v') = f (k, v)) : es'.filterMap f = es.filterMap f := by
  obtain ⟨before, after, key, hR⟩ := h
  simp only [List.filterMap_append, List.filterMap_cons, hf key _ _ hR]

theorem flatMap_eq {f : Document × Document → List β} (h : AtSome R es es')
    (hf : ∀ k v v', R v v' → f (k, v') = f (k, v)) : es'.flatMap f = es.flatMap f := by
  rw [List.flatMap_def, List.flatMap_def, h.map_eq hf]

end AtSome

end Document

namespace Reading
open Document

variable {α β : Type} {es es' : Entries} {v v' : Document}

theorem each_eq_each_id (f : α → Shaped β) (xs : List α) : each f xs = each id (xs.map f) :=
  (each_map id f xs).symm

/-- Steps that are the same one by one are the same for all members. -/
theorem each_eq_of_map {f : α → Shaped β} {xs ys : List α} (h : ys.map f = xs.map f) :
    each f ys = each f xs := by
  rw [each_eq_each_id f ys, each_eq_each_id f xs, h]

theorem firstOf_eq {f : Entries → β} {a a' b b' : Entries} (hempty : a'.isEmpty = a.isEmpty)
    (ha : f a' = f a) (hb : f b' = f b) : f (firstOf a' b') = f (firstOf a b) := by
  unfold firstOf
  rw [hempty]
  split_ifs
  · exact hb
  · exact ha

/-! ### Schemas -/

/-- One more entry in a property. -/
abbrev PropertyWidened : Entries → Entries → Prop :=
  Widened ["type", "description", "format", "enum"]

/-- One more entry in the definition of a schema or in one of its properties. -/
inductive SchemaWidened (es es' : Entries) : Prop
  | itself : Widened ["required", "properties", "type", "description"] es es' →
      SchemaWidened es es'
  | property : Among "properties" PropertyWidened es es' → SchemaWidened es es'

theorem property_widened {required : List String} {key : Document}
    (h : Enclosed PropertyWidened v v') :
    property required (key, v') = property required (key, v) := by
  obtain ⟨h⟩ := h
  unfold property
  simp (disch := decide) only [entries, h.get_eq]

theorem schemaOf_widened {name : String} (h : SchemaWidened es es') :
    schemaOf name es' = schemaOf name es := by
  cases h with
  | itself h =>
    unfold schemaOf requiredNames
    simp (disch := decide) only [sub, h.get_eq]
  | property h =>
    have hproperties (required : List String) :
        each (property required) (sub es' "properties") =
          each (property required) (sub es "properties") := by
      refine Under.apply_sub (f := each (property required)) h fun fs fs' hfs => ?_
      exact each_eq_of_map (hfs.map_eq fun _ _ _ hv => property_widened hv)
    unfold schemaOf requiredNames
    simp (disch := decide) only [hproperties, h.get_eq_of_ne]

theorem schemas_widened (h : AtSome (Enclosed SchemaWidened) es es') :
    schemas es' = schemas es := by
  refine each_eq_of_map (h.map_eq fun key _ _ hv => ?_)
  obtain ⟨hv⟩ := hv
  simp only [entries, schemaOf_widened hv]

/-! ### Web services -/

namespace OpenApi

/-- One more entry in a content type or in its schema. -/
inductive MediaWidened (es es' : Entries) : Prop
  | itself : Widened ["schema"] es es' → MediaWidened es es'
  | schema : Under "schema" (Widened ["$ref"]) es es' → MediaWidened es es'

/-- One more entry in a parameter or in its schema. -/
inductive ParameterWidened (es es' : Entries) : Prop
  | itself :
      Widened ["name", "in", "schema", "type", "default", "required", "description"] es es' →
      ParameterWidened es es'
  | schema : Under "schema" (Widened ["type", "default", "$ref"]) es es' → ParameterWidened es es'

/-- One more entry in a body or in what it holds. -/
inductive BodyWidened (es es' : Entries) : Prop
  | itself : Widened ["content", "required", "description"] es es' → BodyWidened es es'
  | media : Among "content" MediaWidened es es' → BodyWidened es es'

/-- One more entry in a response or in what it holds. -/
inductive ResponseWidened (es es' : Entries) : Prop
  | itself : Widened ["content", "description"] es es' → ResponseWidened es es'
  | media : Among "content" MediaWidened es es' → ResponseWidened es es'

/-- One more entry in an operation or in what it holds. -/
inductive OperationWidened (es es' : Entries) : Prop
  | itself :
      Widened ["operationId", "summary", "description", "parameters", "requestBody", "responses",
        "deprecated", "tags"] es es' → OperationWidened es es'
  | parameter : AtKey "parameters" (AtItem (Enclosed ParameterWidened)) es es' →
      OperationWidened es es'
  | body : Under "requestBody" BodyWidened es es' → OperationWidened es es'
  | response : Among "responses" ResponseWidened es es' → OperationWidened es es'

/-- One more entry in a path, under anything but a method, or in one of its operations. -/
inductive PathWidened (es es' : Entries) : Prop
  | itself : Widened (methods.map Prod.fst) es es' → PathWidened es es'
  | operation : AtSome (Enclosed OperationWidened) es es' → PathWidened es es'

/-- One more entry in a security scheme. -/
abbrev SchemeWidened : Entries → Entries → Prop := Widened ["type", "description"]

/-- One more entry in the components or in a definition among them. -/
inductive ComponentsWidened (es es' : Entries) : Prop
  | itself : Widened ["schemas", "securitySchemes"] es es' → ComponentsWidened es es'
  | schema : Among "schemas" SchemaWidened es es' → ComponentsWidened es es'
  | scheme : Among "securitySchemes" SchemeWidened es es' → ComponentsWidened es es'

/-- One more entry in a description of a web service, somewhere where it is not read. -/
inductive DocumentWidened (es es' : Entries) : Prop
  | itself :
      Widened ["info", "components", "paths", "definitions", "securityDefinitions"] es es' →
      DocumentWidened es es'
  | info : Under "info" (Widened ["title", "version"]) es es' → DocumentWidened es es'
  | components : Under "components" ComponentsWidened es es' → DocumentWidened es es'
  | path : Among "paths" PathWidened es es' → DocumentWidened es es'
  | schema : Among "definitions" SchemaWidened es es' → DocumentWidened es es'
  | scheme : Among "securityDefinitions" SchemeWidened es es' → DocumentWidened es es'

theorem parameterOf_widened (h : ParameterWidened es es') : parameterOf es' = parameterOf es := by
  cases h with
  | itself h =>
    unfold parameterOf
    simp (disch := decide) only [sub, h.get_eq]
  | schema h =>
    have hschema {k : String} (hk : k ∈ ["type", "default", "$ref"]) :
        Document.get (sub es' "schema") k = Document.get (sub es "schema") k :=
      Under.apply_sub (f := fun fs => Document.get fs k) h fun _ _ hfs => hfs.get_eq hk
    unfold parameterOf
    simp (disch := decide) only [hschema, h.get_eq_of_ne]

theorem membersOrNone_tuple (items : List Document) : membersOrNone (.tuple items) = .ok items := by
  cases items <;> rfl

/-- The parameters of a sequence, of which one has one more entry. -/
theorem mappings_widened {before after : List Document} {fs fs' : Entries}
    (h : ParameterWidened fs fs') :
    each parameterOf ((before ++ .map fs' :: after).filterMap fun p => match p with
      | .map es => some es
      | _ => none) =
    each parameterOf ((before ++ .map fs :: after).filterMap fun p => match p with
      | .map es => some es
      | _ => none) := by
  apply each_eq_of_map
  simp only [List.filterMap_append, List.filterMap_cons, List.map_append, List.map_cons,
    parameterOf_widened h]

theorem parameters_widened (h : AtItem (Enclosed ParameterWidened) v v') :
    parameters v' = parameters v := by
  cases h with
  | seq before after hv =>
    obtain ⟨hv⟩ := hv
    simp only [parameters, membersOrNone_seq]
    exact mappings_widened hv
  | tuple before after hv =>
    obtain ⟨hv⟩ := hv
    simp only [parameters, membersOrNone_tuple]
    exact mappings_widened hv

section
variable (h : AtSome (Enclosed MediaWidened) es es')
include h

theorem reference_widened : reference? es' = reference? es := by
  have hreferences : (es'.map fun e => Document.get (sub e.2.entries "schema") "$ref") =
      es.map fun e => Document.get (sub e.2.entries "schema") "$ref" := by
    refine h.map_eq fun key _ _ hv => ?_
    obtain ⟨hv⟩ := hv
    cases hv with
    | itself hv => simp (disch := decide) only [entries, sub, hv.get_eq]
    | schema hv =>
      exact Under.apply_sub (f := fun fs => Document.get fs "$ref") hv fun _ _ hfs =>
        hfs.get_eq (by decide)
  unfold reference?
  rw [hreferences]

theorem contentTypes_widened : es'.map Prod.fst = es.map Prod.fst :=
  h.map_eq fun _ _ _ _ => rfl

theorem firstKey_widened : firstKey? es' = firstKey? es := by
  have hkeys := contentTypes_widened h
  cases es' <;> cases es <;> simp_all [firstKey?]

end

/-- The body of an operation depends on the value of its key alone. -/
theorem requestBody_eq (es : Entries) :
    requestBody es = ((Document.get? es "requestBody").map fun v =>
      requestBody [(.text "requestBody", v)]).getD (.ok none) := by
  unfold requestBody
  cases Document.get? es "requestBody" with
  | none => rfl
  | some v => simp

theorem requestBody_widened (h : Under "requestBody" BodyWidened es es') :
    requestBody es' = requestBody es := by
  rw [requestBody_eq es', requestBody_eq es, h.map_get?]
  rintro _ _ ⟨hbody⟩
  simp only [requestBody, get?_text_cons, if_true, entries]
  cases hbody with
  | itself hbody => simp (disch := decide) only [sub, hbody.get_eq]
  | media hbody =>
    have htypes := Under.apply_sub hbody fun _ _ => contentTypes_widened
    have hreference := Under.apply_sub hbody fun _ _ => reference_widened
    simp (disch := decide) only [htypes, hreference, hbody.get_eq_of_ne]

theorem responseOf_widened {key : Document} (h : Enclosed ResponseWidened v v') :
    responseOf (key, v') = responseOf (key, v) := by
  obtain ⟨h⟩ := h
  cases h with
  | itself h =>
    unfold responseOf
    simp (disch := decide) only [entries, sub, h.get_eq]
  | media h =>
    have hreference := Under.apply_sub h fun _ _ => reference_widened
    have hkey := Under.apply_sub h fun _ _ => firstKey_widened
    unfold responseOf
    simp (disch := decide) only [entries, hreference, hkey, h.get_eq_of_ne]

theorem endpoint_widened {key : Document} {method : String} (h : OperationWidened es es') :
    endpoint key method es' = endpoint key method es := by
  cases h with
  | itself h =>
    unfold endpoint requestBody
    simp (disch := decide) only [sub, h.get_eq, h.get?_eq]
  | parameter h =>
    have hparameters := AtKey.apply_get h fun _ _ => parameters_widened
    unfold endpoint requestBody
    simp (disch := decide) only [hparameters, h.sub_eq_of_ne, h.get_eq_of_ne, h.get?_of_ne]
  | body h =>
    have hbody := requestBody_widened h
    unfold endpoint
    simp (disch := decide) only [hbody, h.sub_eq_of_ne, h.get_eq_of_ne]
  | response h =>
    have hresponses :
        each responseOf (sub es' "responses") = each responseOf (sub es "responses") :=
      Under.apply_sub h fun _ _ hfs =>
        each_eq_of_map (hfs.map_eq fun _ _ _ hv => responseOf_widened hv)
    unfold endpoint requestBody
    simp (disch := decide) only [hresponses, h.get_eq_of_ne, h.get?_of_ne]

/-- The endpoint of an entry of a path, where its key is a method. -/
def endpointOf? (key : Document) (e : Document × Document) : Option (Shaped Endpoint) :=
  (method? e.1).map fun method => endpoint key method e.2.entries

theorem each_operations (paths : Entries) :
    each (fun o => endpoint o.1 o.2.1 o.2.2) (operations paths) =
      each id (paths.flatMap fun p => p.2.entries.filterMap (endpointOf? p.1)) := by
  rw [each_eq_each_id, operations, List.map_flatMap]
  simp only [List.map_filterMap, Option.map_map]
  rfl

theorem method?_eq_none {name : Document} (h : isAmong (methods.map Prod.fst) name = false) :
    method? name = none := by
  cases name with
  | text s =>
    rw [isAmong_text, decide_eq_false_iff_not, List.mem_map] at h
    rw [method?, List.lookup_eq_none_iff]
    intro m hm
    have hne : m.1 ≠ s := fun heq => h ⟨m, hm, heq⟩
    simpa using Ne.symm hne
  | _ => rfl

theorem endpointsOf_widened {key : Document} (h : PathWidened es es') :
    es'.filterMap (endpointOf? key) = es.filterMap (endpointOf? key) := by
  cases h with
  | itself h =>
    obtain ⟨before, after, value, hkey⟩ := h
    rename_i name
    have hnone : endpointOf? key (name, value) = none := by
      rw [endpointOf?, method?_eq_none hkey, Option.map_none]
    rw [List.filterMap_append, List.filterMap_append, List.filterMap_cons_none hnone]
  | operation h =>
    refine h.filterMap_eq fun name _ _ hv => ?_
    obtain ⟨hv⟩ := hv
    simp only [endpointOf?, entries, endpoint_widened hv]

theorem endpoints_widened {paths paths' : Entries}
    (h : AtSome (Enclosed PathWidened) paths paths') :
    each (fun o => endpoint o.1 o.2.1 o.2.2) (operations paths') =
      each (fun o => endpoint o.1 o.2.1 o.2.2) (operations paths) := by
  rw [each_operations, each_operations, h.flatMap_eq]
  rintro key _ _ ⟨hv⟩
  exact endpointsOf_widened hv

/-! ### Descriptions of web services -/

theorem schemes_widened (h : AtSome (Enclosed SchemeWidened) es es') :
    each securityScheme es' = each securityScheme es := by
  refine each_eq_of_map (h.map_eq fun key _ _ hv => ?_)
  obtain ⟨hv⟩ := hv
  unfold securityScheme
  simp (disch := decide) only [entries, hv.get_eq]

/-- Definitions that are widened are found where the others are. -/
theorem firstOf_widened {f : Entries → β} {R : Document → Document → Prop} {fs fs' : Entries}
    (h : AtSome R fs fs') (hf : f fs' = f fs) (others : Entries) :
    f (firstOf fs' others) = f (firstOf fs others) ∧
      f (firstOf others fs') = f (firstOf others fs) :=
  ⟨firstOf_eq h.isEmpty_eq hf rfl, firstOf_eq rfl rfl hf⟩

/-- The definitions among components are read alike, whatever definitions stand elsewhere. -/
theorem components_widened (h : ComponentsWidened es es') (others : Entries) :
    schemas (firstOf (sub es' "schemas") others) = schemas (firstOf (sub es "schemas") others) ∧
      each securityScheme (firstOf (sub es' "securitySchemes") others) =
        each securityScheme (firstOf (sub es "securitySchemes") others) := by
  cases h with
  | itself h => simp (disch := decide) only [sub, h.get_eq, and_self]
  | schema h =>
    refine ⟨?_, by rw [h.sub_eq_of_ne (by decide)]⟩
    exact Under.apply_sub (f := fun fs => schemas (firstOf fs others)) h fun _ _ hfs =>
      (firstOf_widened hfs (schemas_widened hfs) others).1
  | scheme h =>
    refine ⟨by rw [h.sub_eq_of_ne (by decide)], ?_⟩
    exact Under.apply_sub (f := fun fs => each securityScheme (firstOf fs others)) h
      fun _ _ hfs => (firstOf_widened hfs (schemes_widened hfs) others).1

theorem ofEntries_widened (h : DocumentWidened es es') : ofEntries es' = ofEntries es := by
  cases h with
  | itself h =>
    unfold ofEntries
    simp (disch := decide) only [sub, h.get_eq]
  | info h =>
    have hinfo {k : String} (hk : k ∈ ["title", "version"]) :
        Document.get (sub es' "info") k = Document.get (sub es "info") k :=
      Under.apply_sub (f := fun fs => Document.get fs k) h fun _ _ hfs => hfs.get_eq hk
    unfold ofEntries
    simp (disch := decide) only [hinfo, h.sub_eq_of_ne]
  | components h =>
    have hschemas (others : Entries) := Under.apply_sub h
      (f := fun fs => schemas (firstOf (sub fs "schemas") others)) fun _ _ hfs =>
      (components_widened hfs others).1
    have hschemes (others : Entries) := Under.apply_sub h
      (f := fun fs => each securityScheme (firstOf (sub fs "securitySchemes") others))
      fun _ _ hfs => (components_widened hfs others).2
    unfold ofEntries
    simp (disch := decide) only [hschemas, hschemes, h.sub_eq_of_ne]
  | path h =>
    have hendpoints := Under.apply_sub h fun _ _ => endpoints_widened
    unfold ofEntries
    simp (disch := decide) only [hendpoints, h.sub_eq_of_ne]
  | schema h =>
    have hschemas (others : Entries) := Under.apply_sub h
      (f := fun fs => schemas (firstOf others fs)) fun _ _ hfs =>
      (firstOf_widened hfs (schemas_widened hfs) others).2
    unfold ofEntries
    simp (disch := decide) only [hschemas, h.sub_eq_of_ne]
  | scheme h =>
    have hschemes (others : Entries) := Under.apply_sub h
      (f := fun fs => each securityScheme (firstOf others fs)) fun _ _ hfs =>
      (firstOf_widened hfs (schemes_widened hfs) others).2
    unfold ofEntries
    simp (disch := decide) only [hschemes, h.sub_eq_of_ne]

end OpenApi

/-! ### Message channels -/

namespace AsyncApi

/-- One more entry in an operation that has some. -/
structure OperationWidened (es es' : Entries) : Prop where
  counts : es ≠ []
  widened : Widened ["operationId", "summary", "description", "deprecated", "tags"] es es'

/-- One more entry in a channel, under anything but the names of operations, or in one of these. -/
inductive ChannelWidened (es es' : Entries) : Prop
  | itself : Widened (operationKinds.map Prod.fst) es es' → ChannelWidened es es'
  | operation {name : String} : name ∈ operationKinds.map Prod.fst →
      Under name OperationWidened es es' → ChannelWidened es es'

/-- One more entry in a description of message channels, somewhere where it is not read. -/
inductive DocumentWidened (es es' : Entries) : Prop
  | itself : Widened ["info", "channels", "components"] es es' → DocumentWidened es es'
  | info : Under "info" (Widened ["title", "version"]) es es' → DocumentWidened es es'
  | channel : Among "channels" ChannelWidened es es' → DocumentWidened es es'
  | components : Under "components" (Widened ["schemas"]) es es' → DocumentWidened es es'
  | schema : Under "components" (Among "schemas" SchemaWidened) es es' → DocumentWidened es es'

/-- The endpoint of an operation of a channel, where it counts as something. -/
def endpointOf? (key : Document) (v : Document) (kind : String × String × String) :
    Option (Shaped Endpoint) :=
  if v.isTruthy then some (endpoint key kind.2.1 kind.2.2 v.entries) else none

theorem each_operations (channels : Entries) :
    each (fun o => endpoint o.1 o.2.1 o.2.2.1 o.2.2.2) (operations channels) =
      each id (channels.flatMap fun c => operationKinds.filterMap fun kind =>
        endpointOf? c.1 (Document.get c.2.entries kind.1) kind) := by
  rw [each_eq_each_id, operations, List.map_flatMap]
  simp only [List.map_filterMap, endpointOf?, apply_ite (Option.map _), Option.map_some,
    Option.map_none]

theorem isTruthy_map (h : es ≠ []) : (Document.map es).isTruthy = true := by
  cases es with
  | nil => exact absurd rfl h
  | cons e es => rfl

theorem endpointOf?_widened {key : Document} {kind : String × String × String}
    (h : Enclosed OperationWidened v v') : endpointOf? key v' kind = endpointOf? key v kind := by
  cases h with
  | @intro fs fs' h =>
    obtain ⟨hcounts, h⟩ := h
    have hcounts' : fs' ≠ [] := by
      cases h
      simp
    have hendpoint : endpoint key kind.2.1 kind.2.2 fs' = endpoint key kind.2.1 kind.2.2 fs := by
      unfold endpoint
      simp (disch := decide) only [h.get_eq]
    rw [endpointOf?, endpointOf?, if_pos (isTruthy_map hcounts), if_pos (isTruthy_map hcounts')]
    exact congrArg some hendpoint

theorem endpointsOf_widened {key : Document} (h : ChannelWidened es es') :
    (operationKinds.filterMap fun kind => endpointOf? key (Document.get es' kind.1) kind) =
      operationKinds.filterMap fun kind => endpointOf? key (Document.get es kind.1) kind := by
  refine List.filterMap_congr fun kind hkind => ?_
  have hname : kind.1 ∈ operationKinds.map Prod.fst := List.mem_map_of_mem hkind
  cases h with
  | itself h => rw [h.get_eq hname]
  | @operation name _ h =>
    by_cases heq : kind.1 = name
    · rw [heq]
      exact AtKey.apply_get (f := fun v => endpointOf? key v kind) h fun _ _ =>
        endpointOf?_widened
    · rw [h.get_eq_of_ne heq]

theorem endpoints_widened (h : AtSome (Enclosed ChannelWidened) es es') :
    each (fun o => endpoint o.1 o.2.1 o.2.2.1 o.2.2.2) (operations es') =
      each (fun o => endpoint o.1 o.2.1 o.2.2.1 o.2.2.2) (operations es) := by
  rw [each_operations, each_operations, h.flatMap_eq]
  rintro key _ _ ⟨hv⟩
  exact endpointsOf_widened hv

theorem ofEntries_widened (h : DocumentWidened es es') : ofEntries es' = ofEntries es := by
  cases h with
  | itself h =>
    unfold ofEntries
    simp (disch := decide) only [sub, h.get_eq]
  | info h =>
    have hinfo {k : String} (hk : k ∈ ["title", "version"]) :
        Document.get (sub es' "info") k = Document.get (sub es "info") k :=
      Under.apply_sub (f := fun fs => Document.get fs k) h fun _ _ hfs => hfs.get_eq hk
    unfold ofEntries
    simp (disch := decide) only [hinfo, h.sub_eq_of_ne]
  | channel h =>
    have hendpoints := Under.apply_sub h fun _ _ => endpoints_widened
    unfold ofEntries
    simp (disch := decide) only [hendpoints, h.sub_eq_of_ne]
  | components h =>
    have hschemas : sub (sub es' "components") "schemas" = sub (sub es "components") "schemas" :=
      Under.apply_sub (f := fun fs => sub fs "schemas") h fun _ _ hfs => by
        rw [sub, sub, hfs.get_eq (by decide)]
    unfold ofEntries
    simp (disch := decide) only [hschemas, h.sub_eq_of_ne]
  | schema h =>
    have hschemas := Under.apply_sub h (f := fun fs => schemas (sub fs "schemas"))
      fun _ _ hfs => Under.apply_sub hfs fun _ _ => schemas_widened
    unfold ofEntries
    simp (disch := decide) only [hschemas, h.sub_eq_of_ne]

end AsyncApi

/-- Two documents are read as the same specification, so that comparing them finds nothing, or they
are refused for the same reason. -/
structure ReadAlike (read : Document → Shaped Spec) (doc doc' : Document) : Prop where
  same : read doc' = read doc
  unchanged : ∀ old new, read doc = .ok old → read doc' = .ok new →
    old = new ∧ Comparison.ofSpecs old new = .ok (.unchanged new.name old.version new.version)

theorem ReadAlike.of_same {read : Document → Shaped Spec} {doc doc' : Document}
    (h : read doc' = read doc) : ReadAlike read doc doc' := by
  refine ⟨h, fun old new hold hnew => ?_⟩
  have heq : old = new := Except.ok.inj (hold.symm.trans (h.symm.trans hnew))
  refine ⟨heq, ?_⟩
  rw [Comparison.ofSpecs_eq_unchanged_iff, Spec.changes_eq_nil_iff, heq]
  exact .refl new

/-- An entry that is added to a document under a key that is not read at its place, whatever the key
and the value, and wherever it stands among the others, changes nothing. -/
theorem unread_keys_do_not_matter (es es' : Entries) :
    (OpenApi.DocumentWidened es es' → ReadAlike OpenApi.ofDocument (.map es) (.map es')) ∧
      (AsyncApi.DocumentWidened es es' →
        ReadAlike AsyncApi.ofDocument (.map es) (.map es')) :=
  ⟨fun h => .of_same (OpenApi.ofEntries_widened h),
    fun h => .of_same (AsyncApi.ofEntries_widened h)⟩

/-- A service that lists pets, with some entries in front of the type of its parameter. -/
def Sample.pets (notes : Entries) : Entries :=
  let limit : Document := .map [(.text "name", .text "limit"),
    (.text "schema", .map (notes ++ [(.text "type", .text "integer")]))]
  let get : Document := .map [(.text "parameters", .seq [limit])]
  [(.text "openapi", .text "3.0.0"),
    (.text "paths", .map [(.text "/pets", .map [(.text "get", get)])])]

/-- A channel for news, with some entries behind those of its only operation. -/
def Sample.news (summary notes : Entries) : Entries :=
  [(.text "asyncapi", .text "2.0.0"),
    (.text "channels", .map [(.text "news", .map [(.text "publish", .map (summary ++ notes))])])]

theorem notes_are_not_read :
    let note : Entries := [(.text "x-note", .seq [.null, .int 3])]
    let summary : Entries := [(.text "summary", .text "News")]
    (OpenApi.DocumentWidened (Sample.pets []) (Sample.pets note) ∧
      AsyncApi.DocumentWidened (Sample.news summary []) (Sample.news summary note)) ∧
    ReadAlike OpenApi.ofDocument (.map (Sample.pets [])) (.map (Sample.pets note)) ∧
    ReadAlike AsyncApi.ofDocument (.map (Sample.news summary []))
      (.map (Sample.news summary note)) ∧
    (OpenApi.ofDocument (.map (Sample.pets note))).map
      (·.endpoints.flatMap fun e => e.parameters.map fun p => (p.name, p.type)) =
        .ok [("limit", "integer")] ∧
    (AsyncApi.ofDocument (.map (Sample.news summary note))).map
      (·.endpoints.map fun e => (e.id, e.summary)) = .ok [("PUB-news", some "News")] := by
  intro note summary
  have hpets : OpenApi.DocumentWidened (Sample.pets []) (Sample.pets note) := by
    have hschema : Widened ["type", "default", "$ref"] [(.text "type", .text "integer")]
        (note ++ [(.text "type", .text "integer")]) := .intro [] _ _ rfl
    have hlimit := OpenApi.ParameterWidened.schema
      (.intro [(.text "name", .text "limit")] [] (.intro hschema))
    have hget := OpenApi.OperationWidened.parameter (.intro [] [] (.seq [] [] (.intro hlimit)))
    have hpath := OpenApi.PathWidened.operation (.intro [] [] (.text "get") (.intro hget))
    exact .path (.intro [(.text "openapi", .text "3.0.0")] []
      (.intro (.intro [] [] (.text "/pets") (.intro hpath))))
  have hnews : AsyncApi.DocumentWidened (Sample.news summary []) (Sample.news summary note) := by
    have hpublish : AsyncApi.OperationWidened (summary ++ []) (summary ++ note) :=
      ⟨by decide, .intro summary [] _ rfl⟩
    have hchannel := @AsyncApi.ChannelWidened.operation _ _ "publish" (by decide)
      (.intro [] [] (.intro hpublish))
    exact .channel (.intro [(.text "asyncapi", .text "2.0.0")] []
      (.intro (.intro [] [] (.text "news") (.intro hchannel))))
  exact ⟨⟨hpets, hnews⟩, (unread_keys_do_not_matter _ _).1 hpets,
    (unread_keys_do_not_matter _ _).2 hnews, rfl, rfl⟩

/-- An operation that is empty is none, and one more entry makes it one. -/
example :
    ([[], [(.text "x-note", .null)]] : List Entries).map (fun notes =>
      (AsyncApi.ofEntries (Sample.news [] notes)).map (·.endpoints.map (·.id))) =
      [.ok [], .ok ["PUB-news"]] := by
  rfl

end Reading
end ApiDrift
