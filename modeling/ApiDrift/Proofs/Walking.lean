import ApiDrift.Proofs.Outcomes
import ApiDrift.Reading.AsyncApi
import ApiDrift.Reading.OpenApi

/-!
# What walks over documents give

Every reader of a document format is a walk over its tree. A walk gives a result or ends with a
fault of shape, and the only fault that is not reported is the one of a document that is no mapping:
inside a mapping every value is looked at as a mapping, a text or a collection only where it is one,
or is refused as a value or for its type.

The values that a walk hands on as they are, the defaults of parameters, are nothing or parts of the
document. They have every property that the document passes on to its parts.
-/
namespace ApiDrift

/-- Known by its path behind one of some marks. -/
def Endpoint.MarkedBy (marks : List String) (e : Endpoint) : Prop :=
  ∃ mark ∈ marks, e.id = mark ++ "-" ++ e.path

/-- A property of values that passes on to their parts. -/
structure Document.Hereditary (P : Document → Prop) : Prop where
  null : P .null
  entry : ∀ es, P (.map es) → ∀ e ∈ es, P e.1 ∧ P e.2
  item : ∀ items, P (.seq items) ∨ P (.tuple items) ∨ P (.set items) → ∀ v ∈ items, P v

namespace Document

variable {P : Document → Prop} {es : Entries}

theorem hereditary_true : Hereditary fun _ => True where
  null := trivial
  entry _ _ _ _ := ⟨trivial, trivial⟩
  item _ _ _ _ := trivial

theorem Hereditary.entries (hP : Hereditary P) {v : Document} (hv : P v) :
    ∀ e ∈ v.entries, P e.1 ∧ P e.2 := by
  cases v with
  | map es => exact hP.entry es hv
  | _ => exact fun _ he => absurd he List.not_mem_nil

theorem lookup_mem {key v : Document} (h : lookup es key = some v) : ∃ e ∈ es, e.2 = v := by
  unfold lookup at h
  obtain ⟨e, he, rfl⟩ := Option.map_eq_some_iff.mp h
  exact ⟨e, List.mem_of_find?_eq_some he, rfl⟩

theorem Hereditary.get (hP : Hereditary P) (hes : ∀ e ∈ es, P e.1 ∧ P e.2) (key : String) :
    P (Document.get es key) := by
  unfold Document.get Document.get?
  cases hv : lookup es (.text key) with
  | none => exact hP.null
  | some v =>
    obtain ⟨e, he, rfl⟩ := lookup_mem hv
    exact (hes e he).2

theorem Hereditary.sub (hP : Hereditary P) (hes : ∀ e ∈ es, P e.1 ∧ P e.2) (key : String) :
    ∀ e ∈ Reading.sub es key, P e.1 ∧ P e.2 :=
  hP.entries (hP.get hes key)

end Document

namespace Reading
open Checking

variable {α β : Type} {P : α → Prop} {Q : β → Prop}

/-- A walk that gives a result with a property, or ends with a fault that is reported. -/
def Yields (P : α → Prop) : Shaped α → Prop
  | .ok a => P a
  | .error f => f.family.isReported = true

/-- A walk that ends with no other faults than those that are reported. -/
abbrev Reported (x : Shaped α) : Prop := Yields (fun _ => True) x

theorem Yields.pure {a : α} (h : P a) : Yields P (Pure.pure a) := h

theorem Yields.bind {x : Shaped α} {f : α → Shaped β} (hx : Yields P x)
    (hf : ∀ a, P a → Yields Q (f a)) : Yields Q (x >>= f) := by
  cases x with
  | error e => exact hx
  | ok a => exact hf a hx

theorem Yields.map {x : Shaped α} {g : α → β} (hx : Yields P x) (hg : ∀ a, P a → Q (g a)) :
    Yields Q (g <$> x) := by
  cases x with
  | error e => exact hx
  | ok a => exact hg a hx

theorem Yields.mono {P' : α → Prop} {x : Shaped α} (hx : Yields P x) (h : ∀ a, P a → P' a) :
    Yields P' x := by
  cases x with
  | error e => exact hx
  | ok a => exact h a hx

theorem Yields.of_ok {x : Shaped α} {a : α} (hx : Yields P x) (h : x = .ok a) : P a := by
  subst h
  exact hx

theorem Yields.reported {x : Shaped α} (hx : Yields P x) : Reported x :=
  hx.mono fun _ _ => True.intro

theorem yields_each {f : α → Shaped β} {xs : List α} (h : ∀ x ∈ xs, Yields Q (f x)) :
    Yields (fun ys => ∀ y ∈ ys, Q y) (each f xs) := by
  induction xs with
  | nil => exact fun _ hy => absurd hy List.not_mem_nil
  | cons x xs ih =>
    rw [List.forall_mem_cons] at h
    unfold each
    refine h.1.bind fun y hy => (ih h.2).bind fun ys hys => ?_
    exact Yields.pure (List.forall_mem_cons.mpr ⟨hy, hys⟩)

theorem reported_each {f : α → Shaped β} (h : ∀ x, Reported (f x)) (xs : List α) :
    Reported (each f xs) :=
  (yields_each fun x _ => h x).reported

theorem each_map {γ : Type} (f : β → Shaped γ) (g : α → β) (xs : List α) :
    each f (xs.map g) = each (fun x => f (g x)) xs := by
  induction xs with
  | nil => rfl
  | cons x xs ih => simp only [List.map_cons, each, ih]

theorem each_congr {f g : α → Shaped β} {xs : List α} (h : ∀ x ∈ xs, f x = g x) :
    each f xs = each g xs := by
  induction xs with
  | nil => rfl
  | cons x xs ih =>
    rw [List.forall_mem_cons] at h
    simp only [each, h.1, ih h.2]

theorem reported_shown (v : Document) : Reported (shown v) := by
  unfold shown
  split
  · exact True.intro
  · rfl

theorem reported_shownOr (default : String) (v : Document) :
    Reported (shownOr default v) := by
  unfold shownOr
  split
  · exact reported_shown v
  · exact True.intro

/-- The mappings among the members of a value are its parts. -/
theorem yields_members {P : Document → Prop} (hP : Document.Hereditary P) {v : Document}
    (hv : P v) : Yields (fun items => ∀ es, .map es ∈ items → P (.map es)) (members v) := by
  unfold members
  split
  · exact fun es hes => hP.item _ (.inl hv) _ hes
  · exact fun es hes => hP.item _ (.inr (.inl hv)) _ hes
  · exact fun es hes => hP.item _ (.inr (.inr hv)) _ hes
  · intro es hes
    obtain ⟨e, he, heq⟩ := List.mem_map.mp hes
    exact heq ▸ (hP.entry _ hv e he).1
  · intro es hes
    simp at hes
  · intro es hes
    simp at hes
  · intro es hes
    simp at hes
  · rfl

theorem yields_membersOrNone {P : Document → Prop} (hP : Document.Hereditary P) {v : Document}
    (hv : P v) : Yields (fun items => ∀ es, .map es ∈ items → P (.map es)) (membersOrNone v) := by
  unfold membersOrNone
  split
  · exact yields_members hP hv
  · intro es hes
    simp at hes

theorem reported_membersOrNone (v : Document) :
    Reported (membersOrNone v) :=
  (yields_membersOrNone Document.hereditary_true True.intro).reported

theorem yields_assemble {model : String} {c : Checked α} (h : ∀ a, c = .ok a → P a) :
    Yields P (assemble model c) := by
  unfold assemble report
  cases c with
  | error es => rfl
  | ok a => exact h a rfl

theorem checked_map_eq_ok {g : α → β} {c : Checked α} {b : β} (h : g <$> c = .ok b) :
    ∃ a, c = .ok a ∧ g a = b := by
  cases c with
  | error es => cases h
  | ok a => exact ⟨a, rfl, Except.ok.inj h⟩

theorem checked_seq_eq_ok {g : Checked (α → β)} {c : Checked α} {b : β}
    (h : g <*> c = .ok b) : ∃ f a, g = .ok f ∧ c = .ok a ∧ f a = b := by
  cases g with
  | error es => cases c <;> cases h
  | ok f =>
    cases c with
    | error es => cases h
    | ok a => exact ⟨f, a, rfl, rfl, Except.ok.inj h⟩

section
variable (es : Document.Entries)

theorem reported_requiredNames : Reported (requiredNames es) := by
  unfold requiredNames
  exact (reported_membersOrNone _).bind fun _ _ => Yields.pure True.intro

theorem reported_property (required : List String) (entry : Document × Document) :
    Reported (property required entry) := by
  unfold property
  refine (reported_shown _).bind fun _ _ => (reported_shownOr _ _).bind fun _ _ => ?_
  exact yields_assemble fun _ _ => True.intro

theorem reported_schemaOf (name : String) : Reported (schemaOf name es) := by
  unfold schemaOf
  refine (reported_requiredNames es).bind fun required _ => ?_
  refine (reported_each (reported_property required) _).bind fun _ _ =>
    (reported_shownOr _ _).bind fun _ _ => ?_
  exact yields_assemble fun _ _ => True.intro

theorem reported_schemas : Reported (schemas es) := by
  unfold schemas
  refine reported_each (fun e => ?_) es
  exact (reported_shown e.1).bind fun name _ => reported_schemaOf e.2.entries name

end

namespace OpenApi

variable {P : Document → Prop} {es : Document.Entries}

/-- The default of a parameter is nothing or a part of the document. -/
theorem yields_parameterOf (hP : Document.Hereditary P) (hes : ∀ e ∈ es, P e.1 ∧ P e.2) :
    Yields (fun p => P p.default) (parameterOf es) := by
  unfold parameterOf
  have hdefault : P (orElse (Document.get (sub es "schema") "default")
      (Document.get es "default")) := by
    unfold orElse
    split
    · exact hP.get hes "default"
    · exact hP.get (hP.sub hes "schema") "default"
  refine (reported_shownOr _ _).bind fun _ _ => (reported_shownOr _ _).bind fun _ _ =>
    (reported_shownOr _ _).bind fun _ _ => yields_assemble fun p hp => ?_
  obtain ⟨g, reference, hg, -, rfl⟩ := checked_seq_eq_ok hp
  obtain ⟨description, -, rfl⟩ := checked_map_eq_ok hg
  exact hdefault

theorem yields_parameters (hP : Document.Hereditary P) {v : Document} (hv : P v) :
    Yields (fun ps => ∀ p ∈ ps, P p.default) (parameters v) := by
  unfold parameters
  refine (yields_membersOrNone hP hv).bind fun items hitems => yields_each fun es hes => ?_
  obtain ⟨item, hitem, heq⟩ := List.mem_filterMap.mp hes
  cases item with
  | map es' =>
    obtain rfl := Option.some.inj heq
    exact yields_parameterOf hP (hP.entry es' (hitems es' hitem))
  | _ => cases heq

theorem reported_reference (content : Document.Entries) :
    Reported (reference? content) := by
  unfold reference?
  dsimp only
  split
  · exact (reported_shown _).map fun _ _ => True.intro
  · exact True.intro

theorem reported_requestBody (es : Document.Entries) : Reported (requestBody es) := by
  unfold requestBody
  split
  · exact True.intro
  · refine (reported_each reported_shown _).bind fun _ _ => ?_
    exact (reported_reference _).bind fun _ _ => yields_assemble fun _ _ => True.intro

theorem reported_firstKey (es : Document.Entries) : Reported (firstKey? es) := by
  unfold firstKey?
  split
  · exact (reported_shown _).map fun _ _ => True.intro
  · exact True.intro

theorem reported_responseOf (entry : Document × Document) :
    Reported (responseOf entry) := by
  unfold responseOf
  refine (reported_shown _).bind fun _ _ => (reported_shownOr _ _).bind fun _ _ =>
    (reported_firstKey _).bind fun _ _ => (reported_reference _).bind fun _ _ => ?_
  exact Yields.pure True.intro

theorem yields_endpoint (hP : Document.Hereditary P) (hes : ∀ e ∈ es, P e.1 ∧ P e.2)
    (key : Document) (method : String) :
    Yields (fun e => e.id = method ++ "-" ++ e.path ∧ ∀ p ∈ e.parameters, P p.default)
      (endpoint key method es) := by
  unfold endpoint
  refine (reported_shown key).bind fun path _ => ?_
  refine (yields_parameters hP (hP.get hes "parameters")).bind fun parameters hparameters => ?_
  refine (reported_requestBody es).bind fun body _ => ?_
  refine (reported_each reported_responseOf _).bind fun responses _ => ?_
  refine (reported_membersOrNone _).bind fun members _ => ?_
  refine (reported_each reported_shown members).bind fun tags _ => yields_assemble fun e he => ?_
  obtain ⟨g, description, hg, -, rfl⟩ := checked_seq_eq_ok he
  obtain ⟨h, summary, hh, -, rfl⟩ := checked_seq_eq_ok hg
  obtain ⟨operationId, -, rfl⟩ := checked_map_eq_ok hh
  exact ⟨rfl, hparameters⟩

theorem exists_of_method? {key : Document} {m : String} (h : method? key = some m) :
    ∃ s, key = .text s ∧ (s, m) ∈ methods := by
  cases key with
  | text s =>
    obtain ⟨before, after, heq, -⟩ := List.lookup_eq_some_iff.mp h
    exact ⟨s, rfl, heq ▸ List.mem_append_right _ List.mem_cons_self⟩
  | _ => cases h

theorem method_of_operation {key : Document} {method : String} (h : method? key = some method) :
    method ∈ methods.map (·.2) := by
  obtain ⟨name, -, hname⟩ := exists_of_method? h
  exact List.mem_map_of_mem hname

theorem operations_hereditary (hP : Document.Hereditary P) {paths : Document.Entries}
    (hpaths : ∀ e ∈ paths, P e.1 ∧ P e.2) :
    ∀ o ∈ operations paths, o.2.1 ∈ methods.map (·.2) ∧ ∀ e ∈ o.2.2, P e.1 ∧ P e.2 := by
  intro o ho
  unfold operations at ho
  obtain ⟨p, hp, ho⟩ := List.mem_flatMap.mp ho
  obtain ⟨e, he, heq⟩ := List.mem_filterMap.mp ho
  obtain ⟨m, hm, rfl⟩ := Option.map_eq_some_iff.mp heq
  exact ⟨method_of_operation hm, hP.entries (hP.entries (hpaths p hp).2 e he).2⟩

theorem reported_securityScheme (entry : Document × Document) :
    Reported (securityScheme entry) := by
  unfold securityScheme
  refine (reported_shown _).bind fun _ _ => (reported_shownOr _ _).bind fun _ _ => ?_
  exact yields_assemble fun _ _ => True.intro

/-- A mapping that describes a web service gives a specification of that format, or a fault that is
reported. -/
theorem yields_ofEntries (hP : Document.Hereditary P) (hes : ∀ e ∈ es, P e.1 ∧ P e.2) :
    Yields (fun s => s.format = .openapi ∧ ∀ e ∈ s.endpoints,
      e.MarkedBy (methods.map (·.2)) ∧ ∀ p ∈ e.parameters, P p.default) (ofEntries es) := by
  unfold ofEntries
  have hoperations := operations_hereditary hP (hP.sub hes "paths")
  have hendpoints := yields_each fun o (ho : o ∈ operations (sub es "paths")) =>
    (yields_endpoint hP (hoperations o ho).2 o.1 o.2.1).mono fun e he =>
      show e.MarkedBy (methods.map (·.2)) ∧ ∀ p ∈ e.parameters, P p.default from
        ⟨⟨o.2.1, (hoperations o ho).1, he.1⟩, he.2⟩
  refine hendpoints.bind fun endpoints hparameters => (reported_schemas _).bind fun schemas _ => ?_
  refine (reported_each reported_securityScheme _).bind fun _ _ =>
    (reported_shownOr _ _).bind fun _ _ => (reported_shownOr _ _).bind fun _ _ => ?_
  exact Yields.pure ⟨rfl, hparameters⟩

theorem yields_format (es : Document.Entries) :
    Yields (fun s => s.format = .openapi) (ofEntries es) := by
  have hes : ∀ e ∈ es, True ∧ True := fun _ _ => ⟨trivial, trivial⟩
  exact (yields_ofEntries Document.hereditary_true hes).mono fun _ h => h.1

end OpenApi

namespace AsyncApi

variable (es : Document.Entries)

theorem yields_endpoint (key : Document) (mark method : String) :
    Yields (fun e => e.id = mark ++ "-" ++ e.path ∧ e.parameters = [])
      (endpoint key mark method es) := by
  unfold endpoint
  refine (reported_shown key).bind fun channel _ => ?_
  refine (reported_membersOrNone _).bind fun members _ => ?_
  have htags : Reported (tagNames members) := reported_each reported_shown _
  refine htags.bind fun tags _ => yields_assemble fun e he => ?_
  obtain ⟨g, description, hg, -, rfl⟩ := checked_seq_eq_ok he
  obtain ⟨h, summary, hh, -, rfl⟩ := checked_seq_eq_ok hg
  obtain ⟨operationId, -, rfl⟩ := checked_map_eq_ok hh
  exact ⟨rfl, rfl⟩

theorem mark_of_operation {channels : Document.Entries} :
    ∀ o ∈ operations channels, o.2.1 ∈ operationKinds.map (·.2.1) := by
  intro o ho
  unfold operations at ho
  obtain ⟨c, -, ho⟩ := List.mem_flatMap.mp ho
  obtain ⟨kind, hkind, heq⟩ := List.mem_filterMap.mp ho
  dsimp only at heq
  split at heq
  · obtain rfl := Option.some.inj heq
    exact List.mem_map.mpr ⟨kind, hkind, rfl⟩
  · cases heq

/-- A mapping that describes message channels gives a specification of that format whose endpoints
have no parameters, or a fault that is reported. -/
theorem yields_ofEntries :
    Yields (fun s => s.format = .asyncapi ∧ ∀ e ∈ s.endpoints,
      e.MarkedBy (operationKinds.map (·.2.1)) ∧ e.parameters = []) (ofEntries es) := by
  unfold ofEntries
  have hendpoints := yields_each fun o (ho : o ∈ operations (sub es "channels")) =>
    (yields_endpoint o.2.2.2 o.1 o.2.1 o.2.2.1).mono fun e he =>
      show e.MarkedBy (operationKinds.map (·.2.1)) ∧ e.parameters = [] from
        ⟨⟨o.2.1, mark_of_operation o ho, he.1⟩, he.2⟩
  refine hendpoints.bind fun endpoints hparameters => (reported_schemas _).bind fun schemas _ => ?_
  refine (reported_shownOr _ _).bind fun _ _ => (reported_shownOr _ _).bind fun _ _ => ?_
  exact Yields.pure ⟨rfl, hparameters⟩

theorem yields_format : Yields (fun s => s.format = .asyncapi) (ofEntries es) :=
  (yields_ofEntries es).mono fun _ h => h.1

end AsyncApi

end Reading
end ApiDrift
