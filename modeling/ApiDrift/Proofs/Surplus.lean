import ApiDrift.Exchange.SpecData
import ApiDrift.Proofs.Acceptance
import ApiDrift.Proofs.Unread
import ApiDrift.Verdict.Detection
import Mathlib.Logic.Relation

/-!
# Specifications that went through their data

A specification is written as a tree of models, under exchange names or under plain names, and is
read off either tree as it was. At each model of a tree only the names of its fields are looked up,
so that other keys can be added to any model, one after another.
-/
namespace ApiDrift
open Document Checking Exchange

variable {n : Naming}

/-! ### Models that are written and checked -/

@[simp]
theorem Format.accepted?_choice (f : Format) :
    (choice name all (.text f.name)).accepted? = some f :=
  Checking.accepted?_choice (by cases f <;> rfl)

theorem Parameter.accepted?_check (n : Naming) (p : Parameter) :
    (check (p.toDocument n)).accepted? = some p := by
  cases n <;> simp +decide [check, toDocument, ofEntries, value?]

theorem RequestBody.accepted?_check (n : Naming) (b : RequestBody) :
    (check (b.toDocument n)).accepted? = some b := by
  cases n <;> simp +decide [check, toDocument, ofEntries, value?]

theorem Response.accepted?_check (n : Naming) (r : Response) :
    (check (r.toDocument n)).accepted? = some r := by
  cases n <;> simp +decide [check, toDocument, ofEntries, value?]

theorem Endpoint.accepted?_check (n : Naming) (e : Endpoint) :
    (check (e.toDocument n)).accepted? = some e := by
  have hparameters := accepted?_list (Parameter.accepted?_check n)
  have hbody := accepted?_nullable (RequestBody.accepted?_check n) fun _ => nofun
  have hresponses := accepted?_list (Response.accepted?_check n)
  cases n <;>
    simp +decide [check, toDocument, ofEntries, value?, hparameters, hbody, hresponses]

theorem Property.accepted?_check (n : Naming) (p : Property) :
    (check (p.toDocument n)).accepted? = some p := by
  have hlist (vs : List Document) : (list anything (.seq vs)).accepted? = some vs := by
    simpa using accepted?_list accepted?_anything vs
  have hvalues := accepted?_nullable hlist fun _ => nofun
  cases n <;> simp +decide [check, toDocument, ofEntries, value?, hvalues]

theorem Schema.accepted?_check (n : Naming) (s : Schema) :
    (check (s.toDocument n)).accepted? = some s := by
  have hproperties := accepted?_list (Property.accepted?_check n)
  cases n <;> simp +decide [check, toDocument, ofEntries, value?, hproperties]

theorem SecurityScheme.accepted?_check (n : Naming) (s : SecurityScheme) :
    (check (s.toDocument n)).accepted? = some s := by
  cases n <;> simp +decide [check, toDocument, ofEntries, value?]

theorem Spec.accepted?_check (n : Naming) (s : Spec) :
    (check (s.toDocument n)).accepted? = some s := by
  have hendpoints := accepted?_list (Endpoint.accepted?_check n)
  have hschemas := accepted?_list (Schema.accepted?_check n)
  have hsecurity := accepted?_list (SecurityScheme.accepted?_check n)
  cases n <;>
    simp +decide [check, toDocument, ofEntries, value?, hendpoints, hschemas, hsecurity]

/-! ### Other keys -/

namespace Checking

variable {α β : Type} {es es' : Entries} {v v' : Document} {f g : FieldName}
  {R : Document → Document → Prop} {check : Document → Checked α}

/-- The names under which some fields are looked up. -/
def namesOf (fs : List FieldName) : List String := fs.flatMap fun f => [f.camel, f.plain]

/-- One more entry, under a key that is no name of a field. -/
abbrev Padded (fs : List FieldName) : Entries → Entries → Prop := Widened (namesOf fs)

/-- Another value of one field, under either of its names. -/
inductive AtField (f : FieldName) (R : Document → Document → Prop) (es es' : Entries) : Prop
  | camel : AtKey f.camel R es es' → AtField f R es es'
  | plain : AtKey f.plain R es es' → AtField f R es es'

theorem Padded.value?_eq {fs : List FieldName} (h : Padded fs es es') (hf : f ∈ fs) :
    value? es' f = value? es f := by
  have hname : ∀ k ∈ [f.camel, f.plain], get? es' k = get? es k := fun k hk =>
    h.get?_eq (List.mem_flatMap.mpr ⟨f, hf, hk⟩)
  rw [value?, value?, hname f.camel (by simp), hname f.plain (by simp)]

theorem AtField.value?_of_ne (h : AtField f R es es')
    (hg : ∀ k ∈ [g.camel, g.plain], k ≠ f.camel ∧ k ≠ f.plain) : value? es' g = value? es g := by
  have hname : ∀ k ∈ [g.camel, g.plain], get? es' k = get? es k := by
    intro k hk
    cases h with
    | camel h => exact h.get?_of_ne (hg k hk).1
    | plain h => exact h.get?_of_ne (hg k hk).2
  rw [value?, value?, hname g.camel (by simp), hname g.plain (by simp)]

/-- What the related values agree on is the same of the value of any field. -/
theorem AtField.map_value? {F : Document → β} (h : AtField f R es es')
    (hF : ∀ v v', R v v' → F v' = F v) (g : FieldName) :
    (value? es' g).map F = (value? es g).map F := by
  have hkey {name k : String} (hat : AtKey name R es es') :
      (get? es' k).map F = (get? es k).map F := by
    by_cases hk : k = name
    · rw [hk, hat.map_get? hF]
    · rw [hat.get?_of_ne hk]
  rw [value?, value?, Option.map_or, Option.map_or]
  cases h with
  | camel hat => rw [hkey hat, hkey hat]
  | plain hat => rw [hkey hat, hkey hat]

/-- Two values of which a check accepts the same. -/
def AcceptedAlike (check : Document → Checked α) (v v' : Document) : Prop :=
  (check v').accepted? = (check v).accepted?

theorem acceptedAlike_list (h : AtItem R v v') (hR : ∀ v v', R v v' → AcceptedAlike check v v') :
    AcceptedAlike (list check) v v' := by
  unfold AcceptedAlike at *
  cases h with
  | seq before after hv =>
    simp only [list, accepted?_itemsFrom, List.mapM_append, List.mapM_cons, hR _ _ hv]
  | tuple before after hv =>
    simp only [list, accepted?_itemsFrom, List.mapM_append, List.mapM_cons, hR _ _ hv]

theorem acceptedAlike_nullable {R : Entries → Entries → Prop} (h : Enclosed R v v')
    (hR : ∀ v v', Enclosed R v v' → AcceptedAlike check v v') :
    AcceptedAlike (nullable check) v v' := by
  have halike : (check v').accepted? = (check v).accepted? := hR v v' h
  have hmap (es : Entries) : nullable check (.map es) = some <$> check (.map es) := rfl
  obtain ⟨h⟩ := h
  rw [AcceptedAlike, hmap, hmap, accepted?_map, accepted?_map, halike]

end Checking

/-! A key is added to a model, or to one of the models in it. -/

/-- One more entry in a parameter. -/
abbrev Parameter.Padded : Entries → Entries → Prop :=
  Checking.Padded [.name, .location, .type, .required, .description, .default, .schema]

/-- One more entry in a body. -/
abbrev RequestBody.Padded : Entries → Entries → Prop :=
  Checking.Padded [.contentTypes, .required, .schema, .description]

/-- One more entry in a response. -/
abbrev Response.Padded : Entries → Entries → Prop :=
  Checking.Padded [.statusCode, .description, .contentType, .schema]

/-- One more entry in an endpoint or in what it holds. -/
inductive Endpoint.Padded (es es' : Entries) : Prop
  | itself :
      Checking.Padded [.id, .path, .method, .operationId, .summary, .description, .parameters,
        .requestBody, .responses, .deprecated, .tags] es es' → Padded es es'
  | parameter : AtField .parameters (AtItem (Enclosed Parameter.Padded)) es es' → Padded es es'
  | body : AtField .requestBody (Enclosed RequestBody.Padded) es es' → Padded es es'
  | response : AtField .responses (AtItem (Enclosed Response.Padded)) es es' → Padded es es'

/-- One more entry in a property. -/
abbrev Property.Padded : Entries → Entries → Prop :=
  Checking.Padded [.name, .type, .required, .description, .format, .enum]

/-- One more entry in a schema or in one of its properties. -/
inductive Schema.Padded (es es' : Entries) : Prop
  | itself : Checking.Padded [.name, .type, .properties, .required, .description] es es' →
      Padded es es'
  | property : AtField .properties (AtItem (Enclosed Property.Padded)) es es' → Padded es es'

/-- One more entry in a security scheme. -/
abbrev SecurityScheme.Padded : Entries → Entries → Prop :=
  Checking.Padded [.name, .type, .description]

/-- One more entry in a specification or in what it holds. -/
inductive Spec.Padded (es es' : Entries) : Prop
  | itself :
      Checking.Padded [.name, .version, .type, .endpoints, .schemas, .security] es es' →
      Padded es es'
  | endpoint : AtField .endpoints (AtItem (Enclosed Endpoint.Padded)) es es' → Padded es es'
  | schema : AtField .schemas (AtItem (Enclosed Schema.Padded)) es es' → Padded es es'
  | scheme : AtField .security (AtItem (Enclosed SecurityScheme.Padded)) es es' → Padded es es'

section
variable {v v' : Document}

theorem Parameter.acceptedAlike (h : Enclosed Padded v v') : AcceptedAlike check v v' := by
  obtain ⟨h⟩ := h
  simp (disch := decide) [AcceptedAlike, check, ofEntries, h.value?_eq]

theorem RequestBody.acceptedAlike (h : Enclosed Padded v v') : AcceptedAlike check v v' := by
  obtain ⟨h⟩ := h
  simp (disch := decide) [AcceptedAlike, check, ofEntries, h.value?_eq]

theorem Response.acceptedAlike (h : Enclosed Padded v v') : AcceptedAlike check v v' := by
  obtain ⟨h⟩ := h
  simp (disch := decide) [AcceptedAlike, check, ofEntries, h.value?_eq]

theorem Endpoint.acceptedAlike (h : Enclosed Padded v v') : AcceptedAlike check v v' := by
  obtain ⟨h⟩ := h
  cases h with
  | itself h =>
    simp (disch := decide) [AcceptedAlike, check, ofEntries, h.value?_eq]
  | parameter h =>
    have hparameters := h.map_value? fun _ _ hv =>
      acceptedAlike_list hv fun _ _ => Parameter.acceptedAlike
    simp (disch := decide) [AcceptedAlike, check, ofEntries, hparameters, h.value?_of_ne]
  | body h =>
    have hbody := h.map_value? fun _ _ hv =>
      acceptedAlike_nullable hv fun _ _ => RequestBody.acceptedAlike
    simp (disch := decide) [AcceptedAlike, check, ofEntries, hbody, h.value?_of_ne]
  | response h =>
    have hresponses := h.map_value? fun _ _ hv =>
      acceptedAlike_list hv fun _ _ => Response.acceptedAlike
    simp (disch := decide) [AcceptedAlike, check, ofEntries, hresponses, h.value?_of_ne]

theorem SecurityScheme.acceptedAlike (h : Enclosed Padded v v') : AcceptedAlike check v v' := by
  obtain ⟨h⟩ := h
  simp (disch := decide) [AcceptedAlike, check, ofEntries, h.value?_eq]

theorem Property.acceptedAlike (h : Enclosed Padded v v') : AcceptedAlike check v v' := by
  obtain ⟨h⟩ := h
  simp (disch := decide) [AcceptedAlike, check, ofEntries, h.value?_eq]

theorem Schema.acceptedAlike (h : Enclosed Padded v v') : AcceptedAlike check v v' := by
  obtain ⟨h⟩ := h
  cases h with
  | itself h => simp (disch := decide) [AcceptedAlike, check, ofEntries, h.value?_eq]
  | property h =>
    have hproperties := h.map_value? fun _ _ hv =>
      acceptedAlike_list hv fun _ _ => Property.acceptedAlike
    simp (disch := decide) [AcceptedAlike, check, ofEntries, hproperties, h.value?_of_ne]

theorem Spec.acceptedAlike (h : Enclosed Padded v v') : AcceptedAlike check v v' := by
  obtain ⟨h⟩ := h
  cases h with
  | itself h => simp (disch := decide) [AcceptedAlike, check, ofEntries, h.value?_eq]
  | endpoint h =>
    have hendpoints := h.map_value? fun _ _ hv =>
      acceptedAlike_list hv fun _ _ => Endpoint.acceptedAlike
    simp (disch := decide) [AcceptedAlike, check, ofEntries, hendpoints, h.value?_of_ne]
  | schema h =>
    have hschemas := h.map_value? fun _ _ hv =>
      acceptedAlike_list hv fun _ _ => Schema.acceptedAlike
    simp (disch := decide) [AcceptedAlike, check, ofEntries, hschemas, h.value?_of_ne]
  | scheme h =>
    have hsecurity := h.map_value? fun _ _ hv =>
      acceptedAlike_list hv fun _ _ => SecurityScheme.acceptedAlike
    simp (disch := decide) [AcceptedAlike, check, ofEntries, hsecurity, h.value?_of_ne]

end

namespace Spec

/-- A tree of a specification: the one that is written, or one with other keys in its models. -/
def HasData (n : Naming) (s : Spec) (d : Document) : Prop :=
  Relation.ReflTransGen (Enclosed Padded) (s.toDocument n) d

theorem HasData.check_eq {s : Spec} {d : Document} (h : s.HasData n d) : check d = .ok s := by
  rw [← Checked.accepted?_eq_some_iff]
  -- Each key that is added leaves what is accepted as it was.
  induction h with
  | refl => exact s.accepted?_check n
  | tail _ hstep ih => exact (acceptedAlike hstep).trans ih

/-- A specification is read off each of its trees as it was, under either naming and with any other
keys. What is read off a tree compares with every specification as the one that was written. -/
theorem comes_back_from_data (s : Spec) (n : Naming) :
    check (s.toDocument n) = .ok s ∧
    ∀ d, s.HasData n d → check d = .ok s ∧
      ∀ t, check d = .ok t → ∀ (k : Narrowing) (other : Spec),
        t.compare k other = s.compare k other ∧ other.compare k t = other.compare k s := by
  refine ⟨HasData.check_eq .refl, fun d hd => ⟨hd.check_eq, ?_⟩⟩
  intro t ht k other
  obtain rfl : s = t := Except.ok.inj (hd.check_eq.symm.trans ht)
  exact ⟨rfl, rfl⟩

/-- A service whose invoices are in one of two currencies, or in none. -/
def Sample.invoices : Spec :=
  { name := "invoices", version := "3", format := .openapi
    schemas :=
      [{ name := "Invoice"
         properties :=
           [{ name := "currency", type := "string"
              values := some [.text "EUR", .text "CHF", .null] }] }] }

/-- The invoices under plain names, with a tree for their schema. -/
def Sample.invoicesWith (schema : Document) : Document :=
  .map
    [(.text "name", .text "invoices"), (.text "version", .text "3"),
     (.text "type", .text "openapi"), (.text "endpoints", .seq []),
     (.text "schemas", .seq [schema]), (.text "security", .seq [])]

/-- The schema with a key more at its end, and one more in front of its property. -/
def Sample.annotatedInvoices : Document :=
  Sample.invoicesWith <| .map
    [(.text "name", .text "Invoice"), (.text "type", .text "object"),
     (.text "properties", .seq
       [.map
         [(.text "note", .text "ISO 4217"), (.text "name", .text "currency"),
          (.text "type", .text "string"), (.text "required", .bool false),
          (.text "description", .null), (.text "format", .null),
          (.text "enum_values", .seq [.text "EUR", .text "CHF", .null])]]),
     (.text "required", .seq []), (.text "description", .null), (.int 1, .text "schema")]

theorem Sample.hasData_annotatedInvoices :
    Sample.invoices.HasData .plain Sample.annotatedInvoices := by
  have hschema {v v' : Document} (h : Enclosed Schema.Padded v v') :
      Enclosed Padded (Sample.invoicesWith v) (Sample.invoicesWith v') :=
    .intro (.schema (.plain (.intro [_, _, _, _] [_] (.seq [] [] h))))
  have hproperty (es : Entries) : Property.Padded es ((.text "note", .text "ISO 4217") :: es) :=
    .intro [] es _ rfl
  exact .tail
    (.single (hschema (.intro (.property (.plain (.intro [_, _] [_, _] (.seq [] []
      (.intro (hproperty _)))))))))
    (hschema (.intro (.itself (.intro [_, _, _, _, _] [] _ rfl))))

theorem annotated_invoices_come_back :
    Sample.invoices.HasData .plain Sample.annotatedInvoices ∧
      check Sample.annotatedInvoices = .ok Sample.invoices ∧
      ∃ t, check Sample.annotatedInvoices = .ok t ∧
        t.compare {} { Sample.invoices with schemas := [] } =
          Sample.invoices.compare {} { Sample.invoices with schemas := [] } := by
  have hdata := Sample.hasData_annotatedInvoices
  obtain ⟨hcheck, hcompare⟩ := (comes_back_from_data Sample.invoices .plain).2 _ hdata
  exact ⟨hdata, hcheck, _, hcheck, (hcompare _ hcheck {} _).1⟩

end Spec
end ApiDrift
