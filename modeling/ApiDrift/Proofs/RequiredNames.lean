import ApiDrift.Proofs.Inversion
import ApiDrift.Reading.GraphQL
import ApiDrift.Reading.Protobuf
import Mathlib.Data.List.Nodup

/-!
# Required names and required flags

A schema says twice which of its properties are required: in a list of names, and in a flag of each
property. In documents the list is read and the flags follow from it, so the two always agree. In
the text formats it is the other way round: each declaration of a field has a flag of its own, and
the list has the names of those that are flagged. A name that is declared twice, or that is found in
an argument or a comment as well, can then be listed for the sake of one declaration and unflagged
in the other. That is the only way in which flag and list can differ.
-/
namespace ApiDrift

/-- Each property is flagged exactly where its name is listed. -/
def Schema.FlagsAgree (s : Schema) : Prop :=
  ∀ p ∈ s.properties, p.required = true ↔ p.name ∈ s.required

/-- The names that are listed are those of flagged properties. -/
def Schema.ListsFlagged (s : Schema) : Prop :=
  ∀ name, name ∈ s.required ↔ ∃ p ∈ s.properties, p.name = name ∧ p.required = true

/-- Properties of one name are flagged alike. -/
def Schema.FlagsByName (s : Schema) : Prop :=
  ∀ p ∈ s.properties, ∀ q ∈ s.properties, p.name = q.name → p.required = q.required

namespace Schema

variable {s : Schema}

theorem listsFlagged_of_filter
    (h : s.required = (s.properties.filter (·.required)).map (·.name)) : s.ListsFlagged := by
  intro name
  simp only [h, List.mem_map, List.mem_filter]
  constructor
  · intro hm
    obtain ⟨p, ⟨hp, hflag⟩, hname⟩ := hm
    exact ⟨p, hp, hname, hflag⟩
  · intro hm
    obtain ⟨p, hp, hname, hflag⟩ := hm
    exact ⟨p, ⟨hp, hflag⟩, hname⟩

/-- A name in the list that is not the property's own doing is that of a flagged namesake. -/
theorem ListsFlagged.flagsAgree_iff (h : s.ListsFlagged) : s.FlagsAgree ↔ s.FlagsByName := by
  constructor
  · intro hagree p hp q hq hname
    have hflags : p.required = true ↔ q.required = true := by
      rw [hagree p hp, hagree q hq, hname]
    exact Bool.eq_iff_iff.mpr hflags
  · intro hname p hp
    rw [h p.name]
    constructor
    · intro hflag
      exact ⟨p, hp, rfl, hflag⟩
    · intro hm
      obtain ⟨q, hq, heq, hflag⟩ := hm
      rw [hname p hp q hq heq.symm]
      exact hflag

theorem FlagsByName.of_nodup (h : (s.properties.map Property.name).Nodup) : s.FlagsByName := by
  intro p hp q hq hname
  have heq : p = q := List.inj_on_of_nodup_map h hp hq hname
  rw [heq]

end Schema

/-! ### Documents -/

namespace Reading
open Checking

theorem yields_property (required : List String) (entry : Document × Document) :
    Yields (fun p => p.required = required.contains p.name) (property required entry) := by
  unfold property
  apply (reported_shown _).bind
  intro name _
  apply (reported_shownOr _ _).bind
  intro type _
  apply yields_assemble
  intro p hp
  obtain ⟨g, values, hg, -, rfl⟩ := checked_seq_eq_ok hp
  obtain ⟨f, format, hf, -, rfl⟩ := checked_seq_eq_ok hg
  obtain ⟨description, -, rfl⟩ := checked_map_eq_ok hf
  rfl

theorem yields_schemaOf (name : String) (es : Document.Entries) :
    Yields Schema.FlagsAgree (schemaOf name es) := by
  unfold schemaOf
  apply (reported_requiredNames es).bind
  intro required _
  apply (yields_each fun entry _ => yields_property required entry).bind
  intro properties hproperties
  apply (reported_shownOr _ _).bind
  intro type _
  apply yields_assemble
  intro s hs
  obtain ⟨description, -, rfl⟩ := checked_map_eq_ok hs
  intro p hp
  simp [hproperties p hp]

theorem yields_schemas (es : Document.Entries) :
    Yields (fun ss => ∀ s ∈ ss, s.FlagsAgree) (schemas es) := by
  unfold schemas
  apply yields_each
  intro entry _
  exact (reported_shown entry.1).bind fun name _ => yields_schemaOf name entry.2.entries

theorem OpenApi.flagsAgree {doc : Document} {spec : Spec} (h : OpenApi.ofDocument doc = .ok spec) :
    ∀ s ∈ spec.schemas, s.FlagsAgree := by
  obtain ⟨es, rfl, hread⟩ := OpenApi.ofDocument_eq_ok.mp h
  exact (yields_schemas _).of_ok (OpenApi.SpecRead.of_ok hread).schemas

theorem AsyncApi.flagsAgree {doc : Document} {spec : Spec}
    (h : AsyncApi.ofDocument doc = .ok spec) : ∀ s ∈ spec.schemas, s.FlagsAgree := by
  obtain ⟨es, rfl, hread⟩ := AsyncApi.ofDocument_eq_ok.mp h
  exact (yields_schemas _).of_ok (AsyncApi.SpecRead.of_ok hread).schemas

end Reading

/-! ### Texts -/

theorem GraphQL.listsFlagged (text : List Char) :
    ∀ s ∈ (GraphQL.readSpec text).schemas, s.ListsFlagged := by
  intro s hs
  obtain ⟨d, -, hs⟩ := List.mem_flatMap.mp hs
  unfold GraphQL.Declaration.schemas at hs
  split at hs
  · simp at hs
  · obtain rfl := List.mem_singleton.mp hs
    exact Schema.listsFlagged_of_filter rfl

theorem Protobuf.listsFlagged (text : List Char) :
    ∀ s ∈ (Protobuf.readSpec text).schemas, s.ListsFlagged := by
  intro s hs
  obtain ⟨b, -, rfl⟩ := List.mem_map.mp hs
  exact Schema.listsFlagged_of_filter rfl

/-! ### All formats -/

namespace Reading

/-- What the reader of a document format gives for some document. -/
inductive FromDocument : Spec → Prop
  | openapi {doc : Document} {spec : Spec} : OpenApi.ofDocument doc = .ok spec → FromDocument spec
  | asyncapi {doc : Document} {spec : Spec} : AsyncApi.ofDocument doc = .ok spec → FromDocument spec

/-- What the reader of a text format gives for some text. -/
inductive FromText : Spec → Prop
  | graphql (text : List Char) : FromText (GraphQL.readSpec text)
  | protobuf (text : List Char) : FromText (Protobuf.readSpec text)

/-- Flags and list agree in every schema of a document. In a schema of a text the list has the names
of the flagged properties, so that every flagged property is listed; the two agree exactly where
properties of one name are flagged alike, and so wherever no name is repeated. -/
theorem required_names_fit_flags (spec : Spec) :
    (FromDocument spec → ∀ s ∈ spec.schemas, s.FlagsAgree) ∧
      (FromText spec → ∀ s ∈ spec.schemas,
        s.ListsFlagged ∧ (s.FlagsAgree ↔ s.FlagsByName) ∧
          ((s.properties.map Property.name).Nodup → s.FlagsAgree)) := by
  constructor
  · intro h
    cases h with
    | openapi hdoc => exact OpenApi.flagsAgree hdoc
    | asyncapi hdoc => exact AsyncApi.flagsAgree hdoc
  · intro h s hs
    have hlists : s.ListsFlagged := by
      cases h with
      | graphql text => exact GraphQL.listsFlagged text s hs
      | protobuf text => exact Protobuf.listsFlagged text s hs
    refine ⟨hlists, hlists.flagsAgree_iff, ?_⟩
    intro hnames
    exact hlists.flagsAgree_iff.mpr (.of_nodup hnames)

/-- A type without repeated names. -/
def Sample.pet : List Char := "type Pet \x7b name: String! age: Int \x7d".toList

/-- The same type as a document. -/
def Sample.petDocument : Document :=
  let field (type : String) : Document := .map [(.text "type", .text type)]
  let pet : Document := .map
    [(.text "required", .seq [.text "name"]),
     (.text "properties", .map [(.text "name", field "string"), (.text "age", field "integer")])]
  .map [(.text "openapi", .text "3.0.0"),
    (.text "components", .map [(.text "schemas", .map [(.text "Pet", pet)])])]

/-- Text and document list the same name, and flag the property of that name only. -/
theorem pet_flags_agree :
    (∃ s, (GraphQL.readSpec Sample.pet).schemas = [s] ∧ s.required = ["name"] ∧ s.FlagsAgree) ∧
      ∃ spec s, OpenApi.ofDocument Sample.petDocument = .ok spec ∧ spec.schemas = [s] ∧
        s.required = ["name"] ∧ s.FlagsAgree := by
  constructor
  · have htext := (required_names_fit_flags _).2 (.graphql Sample.pet)
    refine ⟨_, rfl, rfl, (htext _ (List.mem_singleton_self _)).2.2 ?_⟩
    decide
  · have hread : ∃ spec s, OpenApi.ofDocument Sample.petDocument = .ok spec ∧ spec.schemas = [s] ∧
        s.required = ["name"] := ⟨_, _, rfl, rfl, rfl⟩
    obtain ⟨spec, s, hread, hschemas, hnames⟩ := hread
    have hagree := (required_names_fit_flags spec).1 (.openapi hread) s (by simp [hschemas])
    exact ⟨spec, s, hread, hschemas, hnames, hagree⟩

/-- A type with a field of the same name as an argument of another field. -/
def Sample.user : List Char :=
  "type User \x7b posts(first: Int!): [Post] first: Int \x7d".toList

/-- The argument is taken for a field, so its name is listed for it and the field is not flagged. -/
theorem argument_listed_for_field :
    ¬ ∀ spec, FromDocument spec ∨ FromText spec → ∀ s ∈ spec.schemas, s.FlagsAgree := by
  intro hagree
  have hread : (GraphQL.readSpec Sample.user).schemas = [⟨"User", "object",
      [⟨"first", "Int!", true, none, none, none⟩, ⟨"first", "Int", false, none, none, none⟩],
      ["first"], none⟩] := rfl
  have huser := hagree _ (.inr (.graphql Sample.user)) _ (hread ▸ List.mem_cons_self)
  have hfirst := huser ⟨"first", "Int", false, none, none, none⟩ (by simp)
  simp at hfirst

end Reading
end ApiDrift
