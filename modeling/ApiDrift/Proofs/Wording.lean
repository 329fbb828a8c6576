import ApiDrift.Proofs.Findings
import ApiDrift.Proofs.Related

/-!
# Documentation and the verdict

Texts and hints that are written for the reader of a specification may be replaced on either side.
They reach the wording and the values of a change, and decide whether a parameter can be shown at
all, but neither which changes there are nor how grave they are: the findings are the same in the
same order, and so is the verdict.

What a specification was read from is no part of it here, as no comparison reads it.
-/
namespace ApiDrift
open Compare

/-- A parameter with another description, default and schema, which can be shown if it could be. -/
inductive Parameter.Reworded (p : Parameter) : Parameter → Prop
  | intro {description : Option String} {default : Document} {schema : Option String} :
      (p.HasLine → { p with description, default, schema }.HasLine) →
      Reworded p { p with description, default, schema }

inductive RequestBody.Reworded (b : RequestBody) : RequestBody → Prop
  | intro {schema description : Option String} : Reworded b { b with schema, description }

inductive Response.Reworded (r : Response) : Response → Prop
  | intro {description : String} {contentType schema : Option String} :
      Reworded r { r with description, contentType, schema }

inductive Endpoint.Reworded (e : Endpoint) : Endpoint → Prop
  | intro {operationId summary description : Option String} {tags : List String}
      {ps : List Parameter} {body : Option RequestBody} {rs : List Response} :
      List.Forall₂ Parameter.Reworded e.parameters ps →
      Option.Rel RequestBody.Reworded e.requestBody body →
      List.Forall₂ Response.Reworded e.responses rs →
      Reworded e { e with
        operationId, summary, description, tags, parameters := ps, requestBody := body
        responses := rs }

/-- A property with another description, format and values. Its own flag is a hint too: a schema
lists the properties that it requires. -/
inductive Property.Reworded (p : Property) : Property → Prop
  | intro {required : Bool} {description format : Option String} {values : Option (List Document)} :
      Reworded p { p with required, description, format, values }

inductive Schema.Reworded (s : Schema) : Schema → Prop
  | intro {type : String} {description : Option String} {ps : List Property} :
      List.Forall₂ Property.Reworded s.properties ps →
      Reworded s { s with type, description, properties := ps }

inductive SecurityScheme.Reworded (d : SecurityScheme) : SecurityScheme → Prop
  | intro {type : String} {description : Option String} : Reworded d { d with type, description }

/-- The same specification with other documentation, at every level. -/
inductive Spec.Reworded (s : Spec) : Spec → Prop
  | intro {name version : String} {format : Format} {es : List Endpoint} {ss : List Schema}
      {ds : List SecurityScheme} : List.Forall₂ Endpoint.Reworded s.endpoints es →
      List.Forall₂ Schema.Reworded s.schemas ss →
      List.Forall₂ SecurityScheme.Reworded s.security ds →
      Reworded s ⟨name, version, format, es, ss, ds⟩

theorem Parameter.Reworded.key_eq {p q : Parameter} (h : p.Reworded q) : p.key = q.key := by
  cases h
  rfl

theorem Response.Reworded.statusCode_eq {r s : Response} (h : r.Reworded s) :
    r.statusCode = s.statusCode := by
  cases h
  rfl

theorem Endpoint.Reworded.id_eq {d e : Endpoint} (h : d.Reworded e) : d.id = e.id := by
  cases h
  rfl

theorem Endpoint.Reworded.label_eq {d e : Endpoint} (h : d.Reworded e) : d.label = e.label := by
  cases h
  rfl

theorem Property.Reworded.name_eq {p q : Property} (h : p.Reworded q) : p.name = q.name := by
  cases h
  rfl

theorem Schema.Reworded.name_eq {s t : Schema} (h : s.Reworded t) : s.name = t.name := by
  cases h
  rfl

theorem SecurityScheme.Reworded.name_eq {d e : SecurityScheme} (h : d.Reworded e) :
    d.name = e.name := by
  cases h
  rfl

/-- Two changes that differ in wording and values only. -/
def Change.SameFinding (c d : Change) : Prop := c.finding = d.finding

namespace Compare

/-- The same findings in the same order. -/
def SameFindings (cs ds : List Change) : Prop := cs.map Change.finding = ds.map Change.finding

theorem concatenates_sameFindings : Concatenates SameFindings where
  refl _ := rfl
  append h h' := by rw [SameFindings, List.map_append, List.map_append, h, h']

theorem sameFindings_iff_forall₂ {cs ds : List Change} :
    SameFindings cs ds ↔ List.Forall₂ Change.SameFinding cs ds := by
  rw [SameFindings, ← List.forall₂_eq_eq_eq, List.forall₂_map_left_iff, List.forall₂_map_right_iff]
  rfl

variable {base : String}

/-- Parameters that are shown one by one give the same findings, if what is found of each of them is
the same. -/
theorem shown_reworded {f : String → Parameter → Except PlainFault Change}
    {finding : String → Parameter → Finding} (hline : ∀ k p, (∃ c, f k p = .ok c) ↔ p.HasLine)
    (hfinding : ∀ k p c, f k p = .ok c → c.finding = finding k p)
    (hsame : ∀ k p q, p.Reworded q → finding k p = finding k q)
    {entries entries' : Keyed Parameter} (h : entries.Related Parameter.Reworded entries') :
    Follows SameFindings (entries.mapM fun e => f e.1 e.2) (entries'.mapM fun e => f e.1 e.2) := by
  have hone : ∀ k p q, p.Reworded q → Follows Change.SameFinding (f k p) (f k q) := by
    intro k p q hpq c hc
    -- The text of a parameter holds all of its fields, so it is only known that there still is one.
    obtain ⟨d, hd⟩ : ∃ d, f k q = .ok d := by
      cases hpq with
      | intro hkept => exact (hline k _).mpr (hkept ((hline k p).mp ⟨c, hc⟩))
    exact ⟨d, hd, (hfinding k p c hc).trans ((hsame k p q hpq).trans (hfinding k q d hd).symm)⟩
  have hshown : Follows (List.Forall₂ Change.SameFinding) (entries.mapM fun e => f e.1 e.2)
      (entries'.mapM fun e => f e.1 e.2) := by
    refine Follows.mapM (h.imp fun e e' he => ?_)
    rw [he.1]
    exact hone e'.1 e.2 e'.2 he.2
  intro cs hcs
  obtain ⟨ds, hds, hrel⟩ := hshown cs hcs
  exact ⟨ds, hds, sameFindings_iff_forall₂.mpr hrel⟩

theorem parameters_reworded {ps ps' qs qs' : List Parameter}
    (hps : List.Forall₂ Parameter.Reworded ps ps') (hqs : List.Forall₂ Parameter.Reworded qs qs') :
    Follows SameFindings (parameters base ps qs) (parameters base ps' qs') := by
  have hsplit := split_related (fun _ _ h => Parameter.Reworded.key_eq h) hps hqs
  have hcommon : SameFindings
      ((split Parameter.key ps qs).common.flatMap fun pair => parameterDetails base pair.1 pair.2)
      ((split Parameter.key ps' qs').common.flatMap fun pair =>
        parameterDetails base pair.1 pair.2) := by
    refine concatenates_sameFindings.flatMap hsplit.common fun pair pair' h => ?_
    obtain ⟨p, q⟩ := pair
    obtain ⟨p', q'⟩ := pair'
    cases h.1
    cases h.2
    rfl
  unfold parameters
  have hremoved := shown_reworded (f := parameterRemoved base) (fun _ _ => exists_bind_pure_iff)
    (fun _ _ _ => finding_parameterRemoved) (fun k p q hpq => by cases hpq; rfl) hsplit.removed
  have hadded := shown_reworded (f := parameterAdded base) (fun _ _ => exists_bind_pure_iff)
    (fun _ _ _ => finding_parameterAdded) (fun k p q hpq => by cases hpq; rfl) hsplit.added
  refine hremoved.bind fun _ _ hremoved => hadded.bind fun _ _ hadded => .ok ?_
  exact concatenates_sameFindings.append (concatenates_sameFindings.append hremoved hadded) hcommon

theorem requestBody_reworded {a a' b b' : Option RequestBody}
    (ha : Option.Rel RequestBody.Reworded a a') (hb : Option.Rel RequestBody.Reworded b b') :
    SameFindings (requestBody base a b) (requestBody base a' b') := by
  cases ha with
  | none =>
    cases hb with
    | none => rfl
    | some hb =>
      cases hb
      rfl
  | some ha =>
    cases hb with
    | none => rfl
    | some hb =>
      cases ha
      cases hb
      rfl

theorem responses_reworded {rs rs' ss ss' : List Response}
    (hrs : List.Forall₂ Response.Reworded rs rs') (hss : List.Forall₂ Response.Reworded ss ss') :
    SameFindings (responses base rs ss) (responses base rs' ss') := by
  have hsplit := split_related (fun _ _ h => Response.Reworded.statusCode_eq h) hrs hss
  refine concatenates_sameFindings.append ?_ ?_
  · exact hsplit.removed.map concatenates_sameFindings fun k r r' _ => rfl
  · exact hsplit.added.map concatenates_sameFindings fun k r r' _ => rfl

theorem endpointDetails_reworded {d d' e e' : Endpoint} (h : d.Reworded d') (h' : e.Reworded e') :
    Follows SameFindings (endpointDetails d e) (endpointDetails d' e') := by
  cases h with
  | intro hps hbody hrs =>
    cases h' with
    | intro hps' hbody' hrs' =>
      refine (parameters_reworded hps hps').bind fun params params' hparams => .ok ?_
      have happend := @concatenates_sameFindings.append
      exact happend (happend (happend rfl hparams) (requestBody_reworded hbody hbody'))
        (responses_reworded hrs hrs')

theorem schemaDetails_reworded {s s' t t' : Schema} (h : s.Reworded s') (h' : t.Reworded t') :
    SameFindings (schemaDetails s t) (schemaDetails s' t') := by
  cases h with
  | intro hps =>
    cases h' with
    | intro hps' =>
      have hsplit := split_related (fun _ _ h => Property.Reworded.name_eq h) hps hps'
      refine concatenates_sameFindings.append (concatenates_sameFindings.append ?_ ?_) ?_
      · exact hsplit.removed.map concatenates_sameFindings fun k p p' _ => rfl
      · exact hsplit.added.map concatenates_sameFindings fun k p p' _ => rfl
      · refine concatenates_sameFindings.flatMap hsplit.common fun pair pair' h => ?_
        obtain ⟨p, q⟩ := pair
        obtain ⟨p', q'⟩ := pair'
        cases h.1
        cases h.2
        rfl

theorem security_reworded {old old' new new' : List SecurityScheme}
    (h : List.Forall₂ SecurityScheme.Reworded old old')
    (h' : List.Forall₂ SecurityScheme.Reworded new new') :
    SameFindings (security old new) (security old' new') := by
  have hsplit := split_related (fun _ _ h => SecurityScheme.Reworded.name_eq h) h h'
  refine concatenates_sameFindings.append ?_ ?_
  · exact hsplit.removed.map concatenates_sameFindings fun k d d' _ => rfl
  · exact hsplit.added.map concatenates_sameFindings fun k d d' _ => rfl

end Compare

theorem Spec.changes_reworded {old old' new new' : Spec} (h : old.Reworded old')
    (h' : new.Reworded new') : Follows SameFindings (old.changes new) (old'.changes new') := by
  cases h with
  | intro hes hss hds =>
    cases h' with
    | intro hes' hss' hds' =>
      refine changes_related concatenates_sameFindings ?_ ?_ (security_reworded hds hds')
      · exact endpoints_related concatenates_sameFindings (fun _ _ => Endpoint.Reworded.id_eq)
          (fun _ _ => Endpoint.Reworded.label_eq) (fun _ _ _ _ => endpointDetails_reworded) hes hes'
      · exact schemas_related concatenates_sameFindings (fun _ _ => Schema.Reworded.name_eq)
          (fun _ _ _ _ => schemaDetails_reworded) hss hss'

/-- Documentation does not influence the verdict: what is found, how it is counted and how it is
judged stays the same when either version is reworded. -/
theorem documentation_does_not_matter {old old' new new' : Spec} {c : Comparison}
    (h : old.Reworded old') (h' : new.Reworded new') (hc : Comparison.ofSpecs old new = .ok c) :
    ∃ c', Comparison.ofSpecs old' new' = .ok c' ∧
      c'.changes.map Change.finding = c.changes.map Change.finding ∧
      c'.summary = c.summary ∧ c'.risk = c.risk := by
  obtain ⟨changes, hchanges, rfl⟩ := Comparison.ofSpecs_eq_ok.mp hc
  obtain ⟨changes', hchanges', hsame⟩ := Spec.changes_reworded h h' changes hchanges
  refine ⟨_, Comparison.ofSpecs_eq_ok.mpr ⟨changes', hchanges', rfl⟩, hsame.symm, ?_, ?_⟩
  · exact Summary.ofChanges_eq_of_findings (.of_eq hsame.symm)
  · exact Risk.assess_eq_of_findings (.of_eq hsame.symm)

def Sample.documentedParameter (words name : String) : Parameter :=
  { name, location := "query", description := some words, default := .text words
    schema := some words }

def Sample.documentedEndpoint (words : String) (names : List String) : Endpoint :=
  { id := "POST-/pets", path := "/pets", method := "POST", operationId := some words
    summary := some words, description := some words
    parameters := names.map (Sample.documentedParameter words)
    requestBody := some
      { contentTypes := ["application/json"], schema := some words, description := some words }
    responses :=
      [{ statusCode := "200", description := words, contentType := some words
         schema := some words }]
    tags := [words] }

def Sample.documentedSchema (words : String) (flag : Bool) : Schema :=
  { name := "Pet", type := words, description := some words
    properties :=
      [{ name := "id", type := "string", required := flag, description := some words
         format := some words, values := some [.text words] }] }

/-- A specification that says the same words wherever it is free to. -/
def Sample.documented (words : String) (flag : Bool) (names : List String) : Spec :=
  { name := words, version := words, format := .openapi
    endpoints := [Sample.documentedEndpoint words names]
    schemas := [Sample.documentedSchema words flag]
    security := [{ name := "token", type := words, description := some words }] }

theorem Sample.reworded_documented (words words' : String) (flag flag' : Bool)
    (names : List String) :
    (Sample.documented words flag names).Reworded (Sample.documented words' flag' names) := by
  have hparameters : List.Forall₂ Parameter.Reworded
      (names.map (Sample.documentedParameter words))
      (names.map (Sample.documentedParameter words')) := by
    rw [List.forall₂_map_left_iff, List.forall₂_map_right_iff, List.forall₂_same]
    intro name _
    exact .intro (p := Sample.documentedParameter words name) fun _ => ⟨_, rfl⟩
  have hendpoint : (Sample.documentedEndpoint words names).Reworded
      (Sample.documentedEndpoint words' names) :=
    .intro (e := Sample.documentedEndpoint words names) hparameters (.some .intro)
      (.cons .intro .nil)
  have hschema : (Sample.documentedSchema words flag).Reworded
      (Sample.documentedSchema words' flag') :=
    .intro (s := Sample.documentedSchema words flag) (.cons .intro .nil)
  exact .intro (.cons hendpoint .nil) (.cons hschema .nil) (.cons .intro .nil)

/-- The parameter that goes is found whatever the documents say. -/
theorem removed_parameter_found_in_other_words :
    ∃ c', Comparison.ofSpecs (Sample.documented "Reworked." true ["limit", "page"])
        (Sample.documented "Final." false ["limit"]) = .ok c' ∧
      c'.changes.map Change.finding =
        [⟨.removed, .parameter, .warning, "POST /pets -> query:page", some "POST /pets"⟩] ∧
      c'.summary = { parametersRemoved := 1, endpointsModified := 1 } ∧
      c'.risk = ⟨2, .low, .patch⟩ :=
  documentation_does_not_matter
    (Sample.reworded_documented "Draft." "Reworked." false true ["limit", "page"])
    (Sample.reworded_documented "Draft." "Final." true false ["limit"]) rfl

end ApiDrift
