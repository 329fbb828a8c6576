import ApiDrift.Proofs.Inversion
import ApiDrift.Proofs.Mappings
import ApiDrift.Proofs.Scan

/-!
# How entities are told apart

The comparison knows entities by keys. Those of a document come from the keys of its mappings: names
and codes are such keys, and the id of an endpoint has a mark and a path, the label a method and the
path. Neither marks nor methods have the character that ends them, so that both texts can be taken
apart again, whatever stands in the path. Where keys are texts, each once in its mapping, no two
entities have one key then, and none is lost when they are looked up by their keys.

Parameters stand in lists and not in mappings, and may repeat their keys.
-/
namespace ApiDrift
open Compare Document

/-- No two entities of a kind are known by the same key. -/
structure Spec.Identified (spec : Spec) : Prop where
  ids : (spec.endpoints.map Endpoint.id).Nodup
  labels : (spec.endpoints.map Endpoint.label).Nodup
  schemas : (spec.schemas.map Schema.name).Nodup
  security : (spec.security.map SecurityScheme.name).Nodup
  properties : ∀ s ∈ spec.schemas, (s.properties.map Property.name).Nodup
  responses : ∀ e ∈ spec.endpoints, (e.responses.map Response.statusCode).Nodup
  contentTypes : ∀ e ∈ spec.endpoints, ∀ b ∈ e.requestBody, b.contentTypes.Nodup

/-- Looked up by its key, every item of a list is there in its place. -/
def Compare.Keeps {α : Type} (key : α → String) (items : List α) : Prop :=
  (Keyed.ofList key items).map Prod.snd = items

/-- The comparison looks at every entity. -/
structure Spec.Kept (spec : Spec) : Prop where
  endpoints : Keeps Endpoint.id spec.endpoints
  schemas : Keeps Schema.name spec.schemas
  security : Keeps SecurityScheme.name spec.security
  properties : ∀ s ∈ spec.schemas, Keeps Property.name s.properties
  responses : ∀ e ∈ spec.endpoints, Keeps Response.statusCode e.responses

/-- Endpoints of one id have one method and one path. -/
def Spec.IdsTell (old new : Spec) : Prop :=
  ∀ d ∈ old.endpoints, ∀ e ∈ new.endpoints, d.id = e.id → d.method = e.method ∧ d.path = e.path

theorem Compare.keeps_of_nodup {α : Type} {key : α → String} {items : List α}
    (h : (items.map key).Nodup) : Keeps key items := by
  rw [Keeps, Keyed.ofList_of_nodup h, List.map_map]
  exact List.map_id items

theorem Spec.Identified.kept {spec : Spec} (h : spec.Identified) : spec.Kept where
  endpoints := keeps_of_nodup h.ids
  schemas := keeps_of_nodup h.schemas
  security := keeps_of_nodup h.security
  properties s hs := keeps_of_nodup (h.properties s hs)
  responses e he := keeps_of_nodup (h.responses e he)

/-! ### Ids and labels -/

/-- Known by its path behind one of some marks, with the method of the mark. -/
def Endpoint.MarkedAs (kinds : List (String × String)) (e : Endpoint) : Prop :=
  ∃ kind ∈ kinds, e.id = kind.1 ++ "-" ++ e.path ∧ e.method = kind.2

/-- Marks and methods end where the path begins, and a mark tells its method. -/
def Clear (kinds : List (String × String)) : Prop :=
  (∀ kind ∈ kinds, '-' ∉ kind.1.toList ∧ ' ' ∉ kind.2.toList) ∧
    ∀ kind ∈ kinds, ∀ kind' ∈ kinds, kind.1 = kind'.1 → kind.2 = kind'.2

theorem joined_inj {c : Char} {sep front front' rest rest' : String} (hsep : sep.toList = [c])
    (hfront : c ∉ front.toList) (hfront' : c ∉ front'.toList)
    (h : front ++ sep ++ rest = front' ++ sep ++ rest') : front = front' ∧ rest = rest' := by
  have hchars : front.toList ++ c :: rest.toList = front'.toList ++ c :: rest'.toList := by
    simpa [hsep] using congrArg String.toList h
  obtain ⟨hleft, hright⟩ := Text.append_cons_inj hfront hfront' hchars
  exact ⟨String.toList_inj.mp hleft, String.toList_inj.mp hright⟩

section
variable {kinds : List (String × String)} (hclear : Clear kinds) {d e : Endpoint}
include hclear

theorem Endpoint.MarkedAs.eq_of_id (hd : d.MarkedAs kinds) (he : e.MarkedAs kinds)
    (h : d.id = e.id) : d.method = e.method ∧ d.path = e.path := by
  obtain ⟨kind, hkind, hid, hmethod⟩ := hd
  obtain ⟨kind', hkind', hid', hmethod'⟩ := he
  rw [hid, hid'] at h
  obtain ⟨hmark, hpath⟩ := joined_inj rfl (hclear.1 kind hkind).1 (hclear.1 kind' hkind').1 h
  rw [hmethod, hmethod']
  exact ⟨hclear.2 kind hkind kind' hkind' hmark, hpath⟩

theorem Endpoint.MarkedAs.eq_of_label (hd : d.MarkedAs kinds) (he : e.MarkedAs kinds)
    (h : d.label = e.label) : d.method = e.method ∧ d.path = e.path := by
  obtain ⟨kind, hkind, -, hmethod⟩ := hd
  obtain ⟨kind', hkind', -, hmethod'⟩ := he
  apply joined_inj rfl _ _ h
  · rw [hmethod]
    exact (hclear.1 kind hkind).2
  · rw [hmethod']
    exact (hclear.1 kind' hkind').2

end

/-- Keys that tell what does not repeat do not repeat. -/
theorem nodup_map_of_tells {α β γ : Type} {f : α → β} {g : α → γ} {xs : List α}
    (h : (xs.map f).Nodup) (htells : ∀ x ∈ xs, ∀ y ∈ xs, g x = g y → f x = f y) :
    (xs.map g).Nodup := by
  unfold List.Nodup at h ⊢
  rw [List.pairwise_map] at h ⊢
  apply h.imp_of_mem
  intro x y hx hy hne heq
  exact hne (htells x hx y hy heq)

/-- What an endpoint is about: its path and method. -/
def Endpoint.site (e : Endpoint) : String × String := (e.path, e.method)

section
variable {kinds : List (String × String)} (hclear : Clear kinds) {es : List Endpoint}
  (hmarked : ∀ e ∈ es, e.MarkedAs kinds) (hsites : (es.map Endpoint.site).Nodup)
include hclear hmarked hsites

theorem nodup_ids : (es.map Endpoint.id).Nodup := by
  apply nodup_map_of_tells hsites
  intro d hd e he hid
  obtain ⟨hmethod, hpath⟩ := (hmarked d hd).eq_of_id hclear (hmarked e he) hid
  exact Prod.ext hpath hmethod

theorem nodup_labels : (es.map Endpoint.label).Nodup := by
  apply nodup_map_of_tells hsites
  intro d hd e he hlabel
  obtain ⟨hmethod, hpath⟩ := (hmarked d hd).eq_of_label hclear (hmarked e he) hlabel
  exact Prod.ext hpath hmethod

end

/-! ### Keys of mappings -/

namespace Document.NamedKeys

variable {es fs : Entries}

theorem nil : NamedKeys (.map []) := EachMapping.map ⟨nofun, .nil⟩ nofun

theorem entries {v : Document} (h : v.NamedKeys) : NamedKeys (.map v.entries) := by
  cases v with
  | map es => exact h
  | _ => exact nil

theorem value (h : NamedKeys (.map es)) {e : Document × Document} (he : e ∈ es) : e.2.NamedKeys :=
  (hereditary_eachMapping.entry es h e he).2

theorem get (h : NamedKeys (.map es)) (key : String) : (Document.get es key).NamedKeys :=
  hereditary_eachMapping.get (hereditary_eachMapping.entry es h) key

theorem sub (h : NamedKeys (.map es)) (key : String) : NamedKeys (.map (Reading.sub es key)) :=
  (h.get key).entries

theorem firstOf (h : NamedKeys (.map es)) (h' : NamedKeys (.map fs)) :
    NamedKeys (.map (Reading.firstOf es fs)) := by
  unfold Reading.firstOf
  split
  · exact h'
  · exact h

theorem key_eq (h : NamedKeys (.map es)) {e : Document × Document} (he : e ∈ es) :
    e.1 = .text (entryKey e) :=
  (h es .self).1 e he

theorem nodup (h : NamedKeys (.map es)) : (es.map entryKey).Nodup := by
  unfold List.Nodup
  rw [List.pairwise_map]
  apply (h es .self).2.imp_of_mem
  intro d e hd he hsame heq
  rw [h.key_eq hd, h.key_eq he, heq] at hsame
  simp [same] at hsame

end Document.NamedKeys

namespace Reading

section
variable {β : Type} {es : Entries} (h : NamedKeys (.map es)) {f : Document × Document → Shaped β}
  {ys : List β} {key : β → String}
include h

/-- Where every entry gives an item that is known by the key of the entry, items have the keys of
the mapping. -/
theorem map_key_of_each (hys : each f es = .ok ys)
    (hf : ∀ e y, f e = .ok y → shown e.1 = .ok (key y)) : ys.map key = es.map entryKey := by
  apply map_of_each hys
  intro e he y hy
  have hkey := hf e y hy
  rw [h.key_eq he] at hkey
  exact (Except.ok.inj hkey).symm

theorem nodup_of_each (hys : each f es = .ok ys)
    (hf : ∀ e y, f e = .ok y → shown e.1 = .ok (key y)) : (ys.map key).Nodup := by
  rw [map_key_of_each h hys hf]
  exact h.nodup

end

/-! ### Schemas -/

section
variable {es : Entries} (h : NamedKeys (.map es)) {ss : List Schema} (hss : schemas es = .ok ss)
include h hss

theorem nodup_schemas : (ss.map Schema.name).Nodup := by
  apply nodup_of_each h hss
  intro e s hs
  obtain ⟨name, hname, hs⟩ := bind_eq_ok.mp hs
  rw [(SchemaRead.of_ok hs).name]
  exact hname

theorem nodup_properties : ∀ s ∈ ss, (s.properties.map Property.name).Nodup := by
  intro s hs
  obtain ⟨e, he, hs⟩ := exists_of_mem_each hss hs
  obtain ⟨name, -, hs⟩ := bind_eq_ok.mp hs
  obtain ⟨required, hproperties⟩ := (SchemaRead.of_ok hs).properties
  exact nodup_of_each ((h.value he).entries.sub "properties") hproperties fun _ _ => property_name

end

/-! ### Endpoints -/

theorem toText_of_shown {v : Document} {s : String} (h : shown v = .ok s) : v.toText = s := by
  unfold shown at h
  split at h
  · exact Except.ok.inj h
  · cases h

/-- Keys of a mapping with what is listed for each do not repeat, where no list repeats anything. -/
theorem nodup_sites {es : Entries} (h : NamedKeys (.map es))
    {methods : Document × Document → List String} (hmethods : ∀ e ∈ es, (methods e).Nodup) :
    (es.flatMap fun e => (methods e).map fun m => (e.1.toText, m)).Nodup := by
  have hkeys := h.nodup
  unfold List.Nodup at hkeys
  rw [List.pairwise_map] at hkeys
  rw [List.nodup_flatMap]
  constructor
  · intro e he
    exact (hmethods e he).map fun _ _ heq => (Prod.mk.inj heq).2
  · apply hkeys.imp_of_mem
    intro d e hd he hne site hsite hsite'
    obtain ⟨m, -, rfl⟩ := List.mem_map.mp hsite
    obtain ⟨m', -, heq⟩ := List.mem_map.mp hsite'
    have htext : e.1.toText = d.1.toText := congrArg Prod.fst heq
    rw [h.key_eq hd, h.key_eq he] at htext
    exact hne htext.symm

namespace OpenApi

/-- The methods that the keys of a path name. -/
def methodsOf (path : Entries) : List String := path.filterMap fun e => method? e.1

/-- The paths of a document with their methods, as they stand in the document. -/
def sites (doc : Entries) : List (String × String) :=
  (sub doc "paths").flatMap fun p => (methodsOf p.2.entries).map fun m => (p.1.toText, m)

/-- The marks of endpoints are their methods. -/
def kinds : List (String × String) := methods.map fun m => (m.2, m.2)

theorem clear_kinds : Clear kinds := by
  unfold Clear
  decide

theorem method?_inj {key key' : Document} {m : String} (h : method? key = some m)
    (h' : method? key' = some m) : key = key' := by
  obtain ⟨s, rfl, hs⟩ := exists_of_method? h
  obtain ⟨s', rfl, hs'⟩ := exists_of_method? h'
  have hnames : ∀ x ∈ methods, ∀ y ∈ methods, x.2 = y.2 → x.1 = y.1 := by decide
  exact congrArg Document.text (hnames _ hs _ hs' rfl)

theorem nodup_methodsOf {path : Entries} (h : NamedKeys (.map path)) : (methodsOf path).Nodup := by
  have hkeys : (path.map Prod.fst).Nodup :=
    nodup_map_of_tells h.nodup fun _ _ _ _ heq => congrArg (fun k => k.keyText.toOption.getD "") heq
  have heq : methodsOf path = (path.map Prod.fst).filterMap method? := by
    rw [List.filterMap_map]
    rfl
  rw [heq]
  exact hkeys.filterMap fun _ _ _ => method?_inj

theorem sites_eq (doc : Entries) :
    sites doc = (operations (sub doc "paths")).map fun o => (o.1.toText, o.2.1) := by
  have hpath (p : Document × Document) : ((methodsOf p.2.entries).map fun m => (p.1.toText, m)) =
      (p.2.entries.filterMap fun e => (method? e.1).map fun m => (p.1, m, e.2.entries)).map
        fun o => (o.1.toText, o.2.1) := by
    rw [methodsOf, List.map_filterMap, List.map_filterMap]
    congr 1
    funext e
    cases method? e.1 <;> rfl
  rw [operations, List.map_flatMap, sites]
  simp only [hpath]

section
variable {doc : Entries} {spec : Spec} (h : SpecRead doc spec)
include h

theorem site_endpoints : spec.endpoints.map Endpoint.site = sites doc := by
  rw [sites_eq]
  apply map_of_each h.endpoints
  intro o _ e he
  have hread := EndpointRead.of_ok he
  rw [Endpoint.site, toText_of_shown hread.path, hread.method]

theorem markedAs_kinds : ∀ e ∈ spec.endpoints, e.MarkedAs kinds := by
  intro e he
  obtain ⟨o, ho, hread⟩ := h.exists_endpointRead he
  obtain ⟨_, _, _, _, hmethod, -⟩ := exists_of_mem_operations ho
  obtain ⟨s, -, hs⟩ := exists_of_method? hmethod
  exact ⟨_, List.mem_map_of_mem hs, hread.id, hread.method⟩

theorem identified (hdoc : NamedKeys (.map doc)) : spec.Identified := by
  have hcomponents := hdoc.sub "components"
  have hschemas := (hcomponents.sub "schemas").firstOf (hdoc.sub "definitions")
  have hsecurity := (hcomponents.sub "securitySchemes").firstOf (hdoc.sub "securityDefinitions")
  have hpaths := hdoc.sub "paths"
  have hoperation : ∀ o ∈ operations (sub doc "paths"), NamedKeys (.map o.2.2) := by
    intro o ho
    obtain ⟨p, hp, e, he, -, heq⟩ := exists_of_mem_operations ho
    rw [heq]
    exact ((hpaths.value hp).entries.value he).entries
  have hsites : (spec.endpoints.map Endpoint.site).Nodup := by
    rw [site_endpoints h]
    exact nodup_sites hpaths fun p hp => nodup_methodsOf (hpaths.value hp).entries
  refine ⟨nodup_ids clear_kinds (markedAs_kinds h) hsites,
    nodup_labels clear_kinds (markedAs_kinds h) hsites, nodup_schemas hschemas h.schemas,
    nodup_of_each hsecurity h.security fun _ _ => securityScheme_name,
    nodup_properties hschemas h.schemas, ?_, ?_⟩
  · intro e he
    obtain ⟨o, ho, hread⟩ := h.exists_endpointRead he
    exact nodup_of_each ((hoperation o ho).sub "responses") hread.responses
      fun _ _ => responseOf_statusCode
  · intro e he b hb
    obtain ⟨o, ho, hread⟩ := h.exists_endpointRead he
    have hcontent := ((hoperation o ho).get "requestBody").entries.sub "content"
    have hbody := hread.requestBody
    rw [Option.mem_def.mp hb] at hbody
    have htypes := requestBody_contentTypes hbody
    rw [each_map] at htypes
    have hnodup : (b.contentTypes.map id).Nodup := nodup_of_each hcontent htypes fun _ _ => id
    rwa [List.map_id] at hnodup

end

end OpenApi

namespace AsyncApi

/-- The methods of the operations of a channel that count as something, those to subscribe first. -/
def methodsOf (channel : Entries) : List String :=
  operationKinds.filterMap fun kind =>
    if (Document.get channel kind.1).isTruthy then some kind.2.2 else none

/-- The channels of a document with their methods, as they stand in the document. -/
def sites (doc : Entries) : List (String × String) :=
  (sub doc "channels").flatMap fun c => (methodsOf c.2.entries).map fun m => (c.1.toText, m)

def kinds : List (String × String) := operationKinds.map (·.2)

theorem clear_kinds : Clear kinds := by
  unfold Clear
  decide

theorem nodup_methodsOf (channel : Entries) : (methodsOf channel).Nodup := by
  simp only [methodsOf, operationKinds, List.filterMap_cons, List.filterMap_nil]
  cases (Document.get channel "subscribe").isTruthy <;>
    cases (Document.get channel "publish").isTruthy <;> decide

theorem sites_eq (doc : Entries) :
    sites doc = (operations (sub doc "channels")).map fun o => (o.1.toText, o.2.2.1) := by
  have hchannel (c : Document × Document) :
      ((methodsOf c.2.entries).map fun m => (c.1.toText, m)) =
        (operationKinds.filterMap fun kind =>
          let v := Document.get c.2.entries kind.1
          if v.isTruthy then some (c.1, kind.2.1, kind.2.2, v.entries) else none).map
            fun o => (o.1.toText, o.2.2.1) := by
    rw [methodsOf, List.map_filterMap, List.map_filterMap]
    congr 1
    funext kind
    dsimp only
    split <;> rfl
  rw [operations, List.map_flatMap, sites]
  simp only [hchannel]

section
variable {doc : Entries} {spec : Spec} (h : SpecRead doc spec)
include h

theorem site_endpoints : spec.endpoints.map Endpoint.site = sites doc := by
  rw [sites_eq]
  apply map_of_each h.endpoints
  intro o _ e he
  have hread := EndpointRead.of_ok he
  rw [Endpoint.site, toText_of_shown hread.path, hread.method]

theorem markedAs_kinds : ∀ e ∈ spec.endpoints, e.MarkedAs kinds := by
  intro e he
  obtain ⟨o, ho, hread⟩ := h.exists_endpointRead he
  obtain ⟨kind, hkind, heq⟩ := exists_of_mem_operations ho
  refine ⟨_, List.mem_map_of_mem hkind, ?_, ?_⟩
  · rw [hread.id, heq]
  · rw [hread.method, heq]

theorem identified (hdoc : NamedKeys (.map doc)) : spec.Identified := by
  have hschemas := (hdoc.sub "components").sub "schemas"
  have hsites : (spec.endpoints.map Endpoint.site).Nodup := by
    rw [site_endpoints h]
    exact nodup_sites (hdoc.sub "channels") fun c _ => nodup_methodsOf c.2.entries
  refine ⟨nodup_ids clear_kinds (markedAs_kinds h) hsites,
    nodup_labels clear_kinds (markedAs_kinds h) hsites, nodup_schemas hschemas h.schemas, ?_,
    nodup_properties hschemas h.schemas, ?_, ?_⟩
  · rw [h.security]
    exact List.nodup_nil
  · intro e he
    obtain ⟨o, -, hread⟩ := h.exists_endpointRead he
    rw [hread.responses]
    exact List.nodup_nil
  · intro e he b hb
    obtain ⟨o, -, hread⟩ := h.exists_endpointRead he
    rw [hread.requestBody] at hb
    cases hb

end

end AsyncApi

/-! ### Both formats -/

/-- A reader of documents gives one endpoint for each of the places where one stands, and entities
that are told apart by their keys. -/
structure TellsApart (read : Document → Shaped Spec) (sites : Entries → List (String × String)) :
    Prop where
  sites : ∀ doc spec, read doc = .ok spec → spec.endpoints.map Endpoint.site = sites doc.entries
  ids : ∀ doc doc' spec spec', read doc = .ok spec → read doc' = .ok spec' → spec.IdsTell spec'
  identified : ∀ doc spec, doc.NamedKeys → read doc = .ok spec → spec.Identified
  kept : ∀ doc spec, doc.NamedKeys → read doc = .ok spec → spec.Kept

/-- A reader whose marks and methods are clear tells endpoints apart wherever a mapping is read. -/
theorem TellsApart.of_clear {read : Document → Shaped Spec}
    {sites : Entries → List (String × String)} {kinds : List (String × String)}
    {Read : Entries → Spec → Prop} (hclear : Clear kinds)
    (hread : ∀ {doc spec}, read doc = .ok spec → Read doc.entries spec)
    (hsites : ∀ {es spec}, Read es spec → spec.endpoints.map Endpoint.site = sites es)
    (hmarked : ∀ {es spec}, Read es spec → ∀ e ∈ spec.endpoints, e.MarkedAs kinds)
    (hidentified : ∀ {es spec}, Read es spec → NamedKeys (.map es) → spec.Identified) :
    TellsApart read sites where
  sites _ _ h := hsites (hread h)
  ids _ _ _ _ h h' d hd e he :=
    (hmarked (hread h) d hd).eq_of_id hclear (hmarked (hread h') e he)
  identified _ _ hdoc h := hidentified (hread h) hdoc.entries
  kept _ _ hdoc h := (hidentified (hread h) hdoc.entries).kept

theorem OpenApi.tellsApart : TellsApart OpenApi.ofDocument OpenApi.sites :=
  .of_clear clear_kinds .of_ofDocument site_endpoints markedAs_kinds identified

theorem AsyncApi.tellsApart : TellsApart AsyncApi.ofDocument AsyncApi.sites :=
  .of_clear clear_kinds .of_ofDocument site_endpoints markedAs_kinds identified

/-- Entities of a document whose keys are texts are told apart by their keys, and so those of every
document in data notation. That no key is there twice holds of all documents that are decoded. -/
theorem entities_told_apart :
    TellsApart OpenApi.ofDocument OpenApi.sites ∧ TellsApart AsyncApi.ofDocument AsyncApi.sites ∧
      (∀ content doc, Json.read content = .ok doc → doc.NamedKeys) ∧
      ∀ content ext doc, loadDocument content ext = .ok doc → doc.EachMapping Apart := by
  refine ⟨OpenApi.tellsApart, AsyncApi.tellsApart, ?_, ?_⟩
  · intro content doc h
    exact namedKeys_of_read h
  · intro content ext doc h
    exact apart_of_loadDocument h

/-- Paths and channels with marks and methods in their names. -/
def Sample.markedNames : String :=
  "\x7b\"paths\": \x7b\"/GET-a\": \x7b\"get\": \x7b\x7d, \"post\": \x7b\x7d\x7d\x7d, " ++
    "\"channels\": \x7b\"SUB-b\": \x7b\"publish\": \x7b\"tags\": 0\x7d, " ++
    "\"subscribe\": \x7b\"tags\": 0\x7d\x7d\x7d\x7d"

/-- Read as either format, the document gives one endpoint for each of its operations. -/
theorem marked_names_told_apart :
    ∃ doc service events, Json.read Sample.markedNames = .ok doc ∧
      OpenApi.ofDocument doc = .ok service ∧ AsyncApi.ofDocument doc = .ok events ∧
      service.endpoints.map Endpoint.id = ["GET-/GET-a", "POST-/GET-a"] ∧
      events.endpoints.map Endpoint.id = ["SUB-SUB-b", "PUB-SUB-b"] ∧
      doc.EachMapping Apart ∧ service.Identified ∧ service.Kept ∧ events.Identified ∧
      events.Kept := by
  have hread : ((Json.read Sample.markedNames).toOption.bind fun doc =>
      (OpenApi.ofDocument doc).toOption.bind fun service =>
        (AsyncApi.ofDocument doc).toOption.map fun events =>
          (service.endpoints.map Endpoint.id, events.endpoints.map Endpoint.id)) =
      some (["GET-/GET-a", "POST-/GET-a"], ["SUB-SUB-b", "PUB-SUB-b"]) := by
    decide +kernel
  obtain ⟨doc, hdoc, hread⟩ := Option.bind_eq_some_iff.mp hread
  obtain ⟨service, hservice, hread⟩ := Option.bind_eq_some_iff.mp hread
  obtain ⟨events, hevents, hids⟩ := Option.map_eq_some_iff.mp hread
  rw [toOption_eq_some_iff] at hdoc hservice hevents
  obtain ⟨hservices, hchannels, hnamed, hapart⟩ := entities_told_apart
  have hkeys := hnamed _ _ hdoc
  have hload : loadDocument Sample.markedNames "json" = .ok doc := by
    rw [loadDocument, if_pos rfl]
    exact mapError_eq_ok_iff.mpr hdoc
  exact ⟨doc, service, events, hdoc, hservice, hevents, congrArg Prod.fst hids,
    congrArg Prod.snd hids, hapart _ _ _ hload, hservices.identified _ _ hkeys hservice,
    hservices.kept _ _ hkeys hservice, hchannels.identified _ _ hkeys hevents,
    hchannels.kept _ _ hkeys hevents⟩

end Reading
end ApiDrift
