import ApiDrift.Proofs.Owners
import ApiDrift.Proofs.Reachable

/-!
# The kinds of changes

Advice and impact are looked up by category and type, apart from where changes are reported, so
every change that can be reported has to have a row there. The table below lists the severities that
changes of a category and type can have, and no other change is reported. A change of a whole entity
has no owner, and all others are owned by an entity that both versions have, under its name in the
new one. The breaking changes are those of the list, and none is left with the general advice.
-/
namespace ApiDrift
open Compare

/-- The severities that changes of a category and type have; none where there is no such change. -/
def severities : Category → ChangeType → List Severity
  | .endpoint, .removed => [.breaking]
  | .endpoint, .added => [.info]
  | .endpoint, .deprecated => [.warning]
  | .parameter, .removed => [.breaking, .warning]
  | .parameter, .added => [.breaking, .info]
  | .parameter, .modified => [.breaking]
  | .requestBody, .added => [.breaking, .info]
  | .requestBody, .removed => [.breaking, .info]
  | .requestBody, .modified => [.breaking]
  | .response, .removed => [.warning]
  | .response, .added => [.info]
  | .schema, .removed => [.dangerous]
  | .schema, .added => [.info]
  | .schemaProperty, .removed => [.dangerous]
  | .schemaProperty, .added => [.warning, .info]
  | .schemaProperty, .modified => [.breaking]
  | .security, .removed => [.breaking]
  | .security, .added => [.info]
  | _, _ => []

/-- An endpoint, schema or security scheme comes or goes. -/
def Change.IsWhole (c : Change) : Prop :=
  c.category = .schema ∨ c.category = .security ∨
    c.category = .endpoint ∧ (c.type = .added ∨ c.type = .removed)

/-- The names by which the common entities of a collection own their changes. -/
inductive Spec.Owns (old new : Spec) : Category → String → Prop
  | endpoint {d e : Endpoint} : Paired Endpoint.id old.endpoints new.endpoints d e →
      Owns old new .endpoint e.label
  | schema {s t : Schema} : Paired Schema.name old.schemas new.schemas s t →
      Owns old new .schema t.name

/-- A change is of a whole entity, or of a detail that a common entity owns. -/
inductive Change.Belongs (old new : Spec) (c : Change) : Prop
  | whole : c.IsWhole → c.owner = none → Belongs old new c
  | detail {name : String} : ¬ c.IsWhole → c.owner = some name →
      old.Owns new c.category.home name → Belongs old new c

/-- A change has a row in the table, and the owner that its kind has. -/
structure Change.Placed (old new : Spec) (c : Change) : Prop where
  severity : c.severity ∈ severities c.category c.type
  whole : c.owner = none ↔ c.IsWhole
  owner : ∀ name, c.owner = some name → old.Owns new c.category.home name

namespace Compare

/-! ### The table -/

theorem ite_mem_pair {p : Prop} [Decidable p] {s t : Severity} : (if p then s else t) ∈ [s, t] := by
  split_ifs
  · exact List.mem_cons_self
  · exact List.mem_cons_of_mem s List.mem_cons_self

section
variable {t : ChangeType} {g : Category} {s : Severity}

theorem ParameterRule.severity_mem {ps qs : List Parameter} (h : ParameterRule ps qs t s) :
    s ∈ severities .parameter t := by
  cases h with
  | removed => exact ite_mem_pair
  | added => exact ite_mem_pair
  | demanded => exact List.mem_cons_self
  | retyped => exact List.mem_cons_self

theorem BodyRule.severity_mem {a b : Option RequestBody} (h : BodyRule a b t s) :
    s ∈ severities .requestBody t := by
  cases h with
  | added => exact ite_mem_pair
  | removed => exact List.mem_cons_of_mem _ List.mem_cons_self
  | demanded => exact List.mem_cons_self
  | narrowed => exact List.mem_cons_self

theorem EndpointRule.severity_mem {d e : Endpoint} (h : EndpointRule d e t g s) :
    s ∈ severities g t := by
  cases h with
  | deprecated => exact List.mem_cons_self
  | parameter hrule => exact hrule.severity_mem
  | body hrule => exact hrule.severity_mem
  | responseRemoved => exact List.mem_cons_self
  | responseAdded => exact List.mem_cons_self

theorem SchemaRule.severity_mem {d e : Schema} (h : SchemaRule d e t s) :
    s ∈ severities .schemaProperty t := by
  cases h with
  | removed => exact List.mem_cons_self
  | added => exact ite_mem_pair
  | retyped => exact List.mem_cons_self
  | demanded => exact List.mem_cons_self

theorem SpecRule.severity_mem {old new : Spec} (h : SpecRule old new t g s) :
    s ∈ severities g t := by
  cases h with
  | endpointRemoved => exact List.mem_cons_self
  | endpointAdded => exact List.mem_cons_self
  | endpoint _ hrule => exact hrule.severity_mem
  | schemaRemoved => exact List.mem_cons_self
  | schemaAdded => exact List.mem_cons_self
  | schema _ hrule => exact hrule.severity_mem
  | securityRemoved => exact List.mem_cons_self
  | securityAdded => exact List.mem_cons_self

end

/-! ### The owners -/

section
variable {old new : Spec} {c : Change}

theorem belongs_of_endpoints {cs : List Change}
    (h : endpoints old.endpoints new.endpoints = .ok cs) (hc : c ∈ cs) : c.Belongs old new := by
  have hhome : c.category.home = .endpoint := endpoints_allOf h c hc
  obtain ⟨details, hdetails, rfl⟩ := endpoints_eq_ok.mp h
  rcases List.mem_append.mp hc with hc | hc
  · rcases List.mem_append.mp hc with hc | hc
    · obtain ⟨e, -, rfl⟩ := List.mem_map.mp hc
      exact .whole (.inr (.inr ⟨rfl, .inr rfl⟩)) rfl
    · obtain ⟨e, -, rfl⟩ := List.mem_map.mp hc
      exact .whole (.inr (.inr ⟨rfl, .inl rfl⟩)) rfl
  · have hstill := commonEndpoints_still (g := .endpoint) (.inl rfl) hdetails c hc
    obtain ⟨⟨d, e⟩, hpair, zs, hzs, hc⟩ := (mem_flatMapChecked hdetails).mp hc
    refine .detail ?_ (owner_of_endpointDetails hzs hc) ?_
    · intro hwhole
      rcases hwhole with hg | hg | ⟨hg, ht⟩
      · simp [hg, Category.home] at hhome
      · simp [hg, Category.home] at hhome
      · exact ht.elim (hstill hg).1 (hstill hg).2
    · rw [hhome]
      exact .endpoint (mem_common.mp hpair)

theorem belongs_of_schemas (hc : c ∈ schemas old.schemas new.schemas) : c.Belongs old new := by
  rcases List.mem_append.mp hc with hc | hc
  · rcases List.mem_append.mp hc with hc | hc
    · obtain ⟨e, -, rfl⟩ := List.mem_map.mp hc
      exact .whole (.inl rfl) rfl
    · obtain ⟨e, -, rfl⟩ := List.mem_map.mp hc
      exact .whole (.inl rfl) rfl
  · obtain ⟨⟨s, t⟩, hpair, hc⟩ := List.mem_flatMap.mp hc
    obtain ⟨howner, hg⟩ := schemaDetails_detailsOf s t c hc
    refine .detail ?_ howner ?_
    · simp [Change.IsWhole, hg]
    · rw [hg]
      exact .schema (mem_common.mp hpair)

theorem belongs_of_security (hc : c ∈ security old.security new.security) :
    c.Belongs old new := by
  rcases List.mem_append.mp hc with hc | hc
  · obtain ⟨e, -, rfl⟩ := List.mem_map.mp hc
    exact .whole (.inr (.inl rfl)) rfl
  · obtain ⟨e, -, rfl⟩ := List.mem_map.mp hc
    exact .whole (.inr (.inl rfl)) rfl

theorem belongs_of_changes {cs : List Change} (h : old.changes new = .ok cs) (hc : c ∈ cs) :
    c.Belongs old new := by
  obtain ⟨es, hes, rfl⟩ := Spec.changes_eq_ok.mp h
  rcases List.mem_append.mp hc with hc | hc
  · rcases List.mem_append.mp hc with hc | hc
    · exact belongs_of_endpoints hes hc
    · exact belongs_of_schemas hc
  · exact belongs_of_security hc

theorem placed_of_changes {cs : List Change} (h : old.changes new = .ok cs) (hc : c ∈ cs) :
    c.Placed old new := by
  have hrule : SpecRule old new c.type c.category c.severity :=
    (Spec.kind_mem_changes h).mp (List.mem_map_of_mem hc)
  refine ⟨hrule.severity_mem, ?_, ?_⟩
  · cases belongs_of_changes h hc with
    | whole hwhole hnone => exact iff_of_true hnone hwhole
    | detail hwhole hname => exact iff_of_false (by simp [hname]) hwhole
  · intro name hname
    cases belongs_of_changes h hc with
    | whole _ hnone => cases hnone.symm.trans hname
    | detail _ hname' howns =>
      cases hname'.symm.trans hname
      exact howns

end
end Compare

/-! ### Advice and impact -/

/-- The advice for whatever can break clients, by category and type. -/
def breakingAdvice : List (Category × ChangeType × String) :=
  [(.endpoint, .removed, "Remove all references to this endpoint from client code"),
   (.parameter, .removed, "Remove this parameter from API calls"),
   (.parameter, .added, "Add this required parameter to all API calls"),
   (.parameter, .modified, "Update API calls to handle the new parameter type/requirement"),
   (.requestBody, .added, "Send a request body with every call to this endpoint"),
   (.requestBody, .removed, "Switch requests to one of the remaining content types"),
   (.requestBody, .modified, "Always send a request body to this endpoint"),
   (.schemaProperty, .modified, "Update client code to handle the new type/requirement"),
   (.security, .removed, "Update authentication configuration")]

/-- A breaking change comes with the advice for its category and type, which is not the general one,
and with one of four weights. -/
structure BreakingChange.Advised (b : BreakingChange) : Prop where
  row : (b.category, b.type, b.suggestion) ∈ breakingAdvice
  special : b.suggestion ≠ generalAdvice
  impact : b.impact ∈ [50, 70, 95, 100]

/-- Whatever breaks clients by the table is advised on. -/
theorem Change.advised_of_severity_mem {c : Change}
    (h : .breaking ∈ severities c.category c.type) : c.toBreaking.Advised := by
  have hadvice : (c.category, c.type, c.advice) ∈ breakingAdvice ∧ c.advice ≠ generalAdvice ∧
      c.impact ∈ [50, 70, 95, 100] := by
    obtain ⟨t, g, s, path, description, oldValue, newValue, owner⟩ := c
    revert h
    cases g <;> cases t <;>
      simp [severities, breakingAdvice, Change.advice, Change.impact, generalAdvice]
  exact ⟨hadvice.1, hadvice.2.1, hadvice.2.2⟩

/-- Every change has its place: a row in the table of severities, and an owner unless a whole entity
comes or goes. The breaking changes are those of the list in its order, with nothing changed, and
each comes with the advice for its category and type and one of four weights. -/
theorem changes_have_places {old new : Spec} {d : Difference} (h : old.difference new = .ok d) :
    (∀ c ∈ d.changes, c.Placed old new) ∧
      d.breaking.map BreakingChange.toChange = Comparison.breakingAmong d.changes ∧
      ∀ b ∈ d.breaking, b.Advised := by
  obtain ⟨changes, hchanges, rfl⟩ := Spec.difference_eq_ok.mp h
  refine ⟨fun c hc => placed_of_changes hchanges hc, Comparison.breakingOf_toChange changes, ?_⟩
  intro b hb
  obtain ⟨c, hc, rfl⟩ := List.mem_map.mp hb
  obtain ⟨hc, hbreaking⟩ := List.mem_filter.mp hc
  have hrow := (placed_of_changes hchanges hc).severity
  rw [of_decide_eq_true hbreaking] at hrow
  exact c.advised_of_severity_mem hrow

def Sample.bookshop : Spec :=
  { name := "bookshop", version := "1", format := .openapi
    endpoints :=
      [{ id := "GET-/books", path := "/books", method := "GET"
         parameters :=
          [{ name := "shelf", location := "query", required := true },
           { name := "page", location := "query" }, { name := "limit", location := "query" }]
         responses := [{ statusCode := "200" }] },
       { id := "POST-/books", path := "/books", method := "POST" },
       { id := "PUT-/books", path := "/books", method := "PUT"
         requestBody := some { contentTypes := ["text/csv"] } },
       { id := "DELETE-/books", path := "/books", method := "DELETE", requestBody := some {} },
       { id := "GET-/letters", path := "/letters", method := "GET" }]
    schemas :=
      [{ name := "Letter" },
       { name := "Book"
         properties :=
          [{ name := "title", type := "string" }, { name := "weight", type := "number" }] }]
    security := [{ name := "basic", type := "http" }] }

/-- The bookshop with every part of it changed. -/
def Sample.bookshopRebuilt : Spec :=
  { name := "bookshop", version := "2", format := .openapi
    endpoints :=
      [{ id := "GET-/books", path := "/books", method := "GET", deprecated := true
         parameters :=
          [{ name := "limit", location := "query", required := true },
           { name := "shop", location := "query", required := true },
           { name := "sort", location := "query" }]
         requestBody := some {}, responses := [{ statusCode := "206" }] },
       { id := "POST-/books", path := "/books", method := "POST"
         requestBody := some { required := true } },
       { id := "PUT-/books", path := "/books", method := "PUT"
         requestBody := some { required := true } },
       { id := "DELETE-/books", path := "/books", method := "DELETE" },
       { id := "GET-/mail", path := "/mail", method := "GET" }]
    schemas :=
      [{ name := "Mail" },
       { name := "Book", required := ["title", "price"]
         properties :=
          [{ name := "title", type := "object" }, { name := "price", type := "number" },
           { name := "cover", type := "string" }] }]
    security := [{ name := "oauth", type := "oauth2" }] }

/-- Rebuilding the bookshop gives every row of the table. -/
theorem rebuilt_bookshop_has_places :
    ∃ d, Sample.bookshop.difference Sample.bookshopRebuilt = .ok d ∧
      (∀ g ∈ Category.all, ∀ t ∈ ChangeType.all, ∀ s ∈ severities g t,
        (t, g, s) ∈ d.changes.map Change.kind) ∧
      (∀ c ∈ d.changes, c.Placed Sample.bookshop Sample.bookshopRebuilt) ∧
      d.breaking.length = 10 ∧
      d.breaking.map BreakingChange.toChange = Comparison.breakingAmong d.changes ∧
      ∀ b ∈ d.breaking, b.Advised := by
  have hd : ∃ d, Sample.bookshop.difference Sample.bookshopRebuilt = .ok d ∧
      (∀ g ∈ Category.all, ∀ t ∈ ChangeType.all, ∀ s ∈ severities g t,
        (t, g, s) ∈ d.changes.map Change.kind) ∧ d.breaking.length = 10 :=
    ⟨_, rfl, by decide +kernel, by decide +kernel⟩
  obtain ⟨d, hd, hrows, hlength⟩ := hd
  obtain ⟨hplaced, hbreaking, hadvice⟩ := changes_have_places hd
  exact ⟨d, hd, hrows, hplaced, hlength, hbreaking, hadvice⟩

end ApiDrift
