import ApiDrift.Proofs.Agreement
import ApiDrift.Proofs.Entries
import ApiDrift.Proofs.Walking

/-!
# Two layouts of one service

Descriptions of web services come in two layouts. In the older one definitions and security
definitions stand at the top, and a parameter has its type and default itself; in the newer one the
definitions stand among the components, and type and default in the schema of the parameter. A
document of the older layout is rewritten here into the newer one. Both are read as the same
specification, whatever values stand in place of the expected ones: also the faults are the same.
-/
namespace ApiDrift.Reading

open Document

/-- A mapping with its entries worked over; every other value as it is. -/
def inMap (f : Entries → Entries) (v : Document) : Document :=
  match v with
  | .map es => .map (f es)
  | _ => v

theorem entries_inMap {f : Entries → Entries} (hf : f [] = []) (v : Document) :
    (inMap f v).entries = f v.entries := by
  cases v with
  | map es => rfl
  | _ => exact hf.symm

namespace OpenApi

/-- The type and default of a parameter go into a schema of its own, unless it has a schema. -/
def upgradedParameter (es : Entries) : Entries :=
  if (Document.get es "schema").isMap then es
  else
    without ["schema", "type", "default"] es ++
      [(.text "schema", .map (renamed [("type", "type"), ("default", "default")] es))]

/-- A list of parameters, with each mapping among them upgraded. -/
def upgradedParameters (v : Document) : Document :=
  match v with
  | .seq items => .seq (items.map (inMap upgradedParameter))
  | _ => v

def upgradedOperation (es : Entries) : Entries := change "parameters" upgradedParameters es

/-- A path with each of its operations upgraded. -/
def upgradedPath (es : Entries) : Entries :=
  es.map fun e => if (method? e.1).isSome then (e.1, inMap upgradedOperation e.2) else e

def upgradedPaths (es : Entries) : Entries := es.map fun p => (p.1, inMap upgradedPath p.2)

/-- The components that the definitions of a document make. -/
def moved (es : Entries) : Entries :=
  renamed [("definitions", "schemas"), ("securityDefinitions", "securitySchemes")] es

/-- The definitions of a document, where it has any, go among components, and its operations are
upgraded. -/
def upgraded (es : Entries) : Entries :=
  without ["definitions", "securityDefinitions"] (change "paths" (inMap upgradedPaths) es) ++
    if (moved es).isEmpty then [] else [(.text "components", .map (moved es))]

/-! ### Parameters -/

theorem get?_upgradedParameter {es : Entries} (h : (Document.get es "schema").isMap = false)
    (k : String) : Document.get? (upgradedParameter es) k =
      if k = "schema" then some (.map (renamed [("type", "type"), ("default", "default")] es))
      else if k = "type" ∨ k = "default" then none
      else Document.get? es k := by
  rw [upgradedParameter, h, if_neg Bool.false_ne_true]
  by_cases hschema : k = "schema"
  · simp [hschema]
  · simp [hschema, Ne.symm hschema]

theorem entries_of_not_isMap {v : Document} (h : v.isMap = false) : v.entries = [] := by
  cases v with
  | map es => cases h
  | _ => rfl

/-- A type that is looked for in a second place where there is none. -/
theorem shownOr_truthyOr_null (default : String) (v : Document) :
    shownOr default (truthyOr v .null) = shownOr default v := by
  unfold truthyOr shownOr
  cases hv : v.isTruthy with
  | true => rw [if_pos rfl, hv]
  | false => rfl

theorem orElse_null (v : Document) : orElse v .null = v := by
  cases v <;> rfl

theorem parameterOf_upgraded (es : Entries) :
    parameterOf (upgradedParameter es) = parameterOf es := by
  cases hmap : (Document.get es "schema").isMap with
  | true => rw [upgradedParameter, hmap, if_pos rfl]
  | false =>
    have hold : sub es "schema" = [] := entries_of_not_isMap hmap
    have hget := get?_upgradedParameter hmap
    have hnew : sub (upgradedParameter es) "schema" =
        renamed [("type", "type"), ("default", "default")] es := by
      simp [sub, Document.get, hget, entries]
    have htype (v : Document) : shownOr "string" (truthyOr .null v) =
        shownOr "string" (truthyOr v .null) := (shownOr_truthyOr_null _ v).symm
    have hdefault (v : Document) : orElse .null v = orElse v .null := (orElse_null v).symm
    unfold parameterOf
    simp [hold, hnew, Document.get, hget, htype, hdefault]

theorem membersOrNone_seq (items : List Document) : membersOrNone (.seq items) = .ok items := by
  cases items <;> rfl

/-- Upgraded parameters are read like the parameters: members that are no mapping are passed over,
and what stands in place of a list is read as it is. -/
theorem parameters_upgraded (v : Document) : parameters (upgradedParameters v) = parameters v := by
  cases v with
  | seq items =>
    simp only [parameters, upgradedParameters, membersOrNone_seq, bind, Except.bind]
    induction items with
    | nil => rfl
    | cons item items ih =>
      cases item with
      | map es =>
        simp only [List.map_cons, inMap, List.filterMap_cons, each] at ih ⊢
        rw [parameterOf_upgraded, ih]
      | _ => exact ih
  | _ => rfl

theorem endpoint_upgraded (key : Document) (method : String) (es : Entries) :
    endpoint key method (upgradedOperation es) = endpoint key method es := by
  have hget {k : String} (hk : k ≠ "parameters") :
      get? (upgradedOperation es) k = get? es k := by
    rw [upgradedOperation, get?_change, if_neg hk]
  have hparameters : parameters (Document.get (upgradedOperation es) "parameters") =
      parameters (Document.get es "parameters") := by
    unfold Document.get upgradedOperation
    rw [get?_change, if_pos rfl]
    cases get? es "parameters" with
    | none => rfl
    | some v => exact parameters_upgraded v
  have hbody : requestBody (upgradedOperation es) = requestBody es := by
    unfold requestBody
    rw [hget (by decide)]
  unfold endpoint
  rw [hparameters, hbody]
  simp only [sub, Document.get, hget (k := "responses") (by decide), hget (k := "tags") (by decide),
    hget (k := "deprecated") (by decide), hget (k := "operationId") (by decide),
    hget (k := "summary") (by decide), hget (k := "description") (by decide)]

/-! ### Operations -/

theorem operations_upgraded (paths : Entries) : operations (upgradedPaths paths) =
    (operations paths).map fun o => (o.1, o.2.1, upgradedOperation o.2.2) := by
  unfold operations upgradedPaths
  rw [List.flatMap_map, List.map_flatMap]
  congr 1
  funext p
  have hentries : (inMap upgradedPath p.2).entries = upgradedPath p.2.entries :=
    entries_inMap rfl p.2
  rw [hentries, upgradedPath, List.filterMap_map, List.map_filterMap]
  congr 1
  funext e
  cases hmethod : method? e.1 with
  | none => simp [hmethod]
  | some method => simp [hmethod, entries_inMap (f := upgradedOperation) rfl e.2]

theorem endpoints_upgraded (paths : Entries) :
    each (fun o => endpoint o.1 o.2.1 o.2.2) (operations (upgradedPaths paths)) =
      each (fun o => endpoint o.1 o.2.1 o.2.2) (operations paths) := by
  rw [operations_upgraded, each_map]
  exact each_congr fun o _ => endpoint_upgraded o.1 o.2.1 o.2.2

/-! ### Documents -/

theorem get?_upgraded {k : String} (hk : k ≠ "components") (es : Entries) :
    get? (upgraded es) k =
      if k = "definitions" ∨ k = "securityDefinitions" then none
      else if k = "paths" then (get? es k).map (inMap upgradedPaths) else get? es k := by
  unfold upgraded
  cases moved es with
  | nil => simp
  | cons e es => simp [hk.symm]

theorem components_upgraded {es : Entries} (h : get? es "components" = none) :
    sub (upgraded es) "components" = moved es := by
  unfold sub Document.get upgraded
  cases moved es with
  | nil => simp [h, entries]
  | cons e es => simp [h, entries]

theorem firstOf_nil_right (es : Entries) : firstOf es [] = es := by
  cases es <;> rfl

/-- Definitions are found among the components after they went there from the top. -/
theorem firstOf_upgraded (old new : String) {es : Entries} (h : get? es "components" = none)
    (hmoved : get? (moved es) new = get? es old)
    (hold : old = "definitions" ∨ old = "securityDefinitions") :
    firstOf (sub (sub (upgraded es) "components") new) (sub (upgraded es) old) =
      firstOf (sub (sub es "components") new) (sub es old) := by
  have hcomponents : sub es "components" = [] := by simp [sub, Document.get, h, entries]
  have hne : old ≠ "components" := by rintro rfl; simp at hold
  have htop : sub (upgraded es) old = [] := by
    rw [sub, Document.get, get?_upgraded hne, if_pos hold]
    rfl
  have hfound : sub (moved es) new = sub es old := by rw [sub, Document.get, hmoved]; rfl
  rw [components_upgraded h, hcomponents, htop, hfound, firstOf_nil_right]
  rfl

theorem ofEntries_upgraded {es : Entries} (h : get? es "components" = none) :
    ofEntries (upgraded es) = ofEntries es := by
  have hinfo : sub (upgraded es) "info" = sub es "info" := by
    unfold sub Document.get
    rw [get?_upgraded (by decide)]
    rfl
  have hpaths : sub (upgraded es) "paths" = upgradedPaths (sub es "paths") := by
    unfold sub Document.get
    rw [get?_upgraded (by decide), if_neg (by decide), if_pos rfl]
    cases get? es "paths" with
    | none => rfl
    | some v => exact entries_inMap rfl v
  have hschemas := firstOf_upgraded "definitions" "schemas" h (by simp [moved]) (.inl rfl)
  have hsecurity := firstOf_upgraded "securityDefinitions" "securitySchemes" h (by simp [moved])
    (.inr rfl)
  unfold ofEntries
  dsimp only
  rw [hinfo, hpaths, hschemas, hsecurity, endpoints_upgraded]

/-- A document of the older layout and its upgrade are read alike, and refused alike. So a change of
layout is not reported as a change of the service. -/
theorem newer_layout_reads_alike {es : Entries} (h : get? es "components" = none) :
    ofDocument (.map (upgraded es)) = ofDocument (.map es) ∧
      ∀ old new, ofDocument (.map es) = .ok old → ofDocument (.map (upgraded es)) = .ok new →
        old = new ∧
          Comparison.ofSpecs old new = .ok (.unchanged new.name old.version new.version) := by
  have hread : ofDocument (.map (upgraded es)) = ofDocument (.map es) := ofEntries_upgraded h
  refine ⟨hread, fun old new hold hnew => ?_⟩
  have heq : old = new := Except.ok.inj (hold.symm.trans (hread.symm.trans hnew))
  refine ⟨heq, ?_⟩
  rw [Comparison.ofSpecs_eq_unchanged_iff, Spec.changes_eq_nil_iff, heq]
  exact .refl new

/-- A description of the older layout: a parameter with a default that counts as nothing, one that
has a schema already, and one that is none. -/
def Sample.stores : Entries :=
  let typed (type : String) : Document := .map [(.text "type", .text type)]
  let limit : Document := .map [(.text "name", .text "limit"), (.text "in", .text "query"),
    (.text "type", .text "integer"), (.text "default", .int 0)]
  let order : Document := .map [(.text "name", .text "order"), (.text "in", .text "query"),
    (.text "schema", typed "array"), (.text "default", .text "name")]
  let get : Document := .map [(.text "parameters", .seq [limit, order, .text "page"])]
  [(.text "swagger", .text "2.0"),
    (.text "paths", .map [(.text "/stores", .map [(.text "get", get)])]),
    (.text "definitions", .map [(.text "Store", .map [])]),
    (.text "securityDefinitions", .map [(.text "key", typed "apiKey")])]

/-- Both layouts have the same two parameters with their types and defaults, and the same
definitions. -/
theorem stores_read_alike :
    Document.get? Sample.stores "components" = none ∧
      (Document.get? (upgraded Sample.stores) "definitions").isNone ∧
      ∃ spec, ofDocument (.map Sample.stores) = .ok spec ∧
        ofDocument (.map (upgraded Sample.stores)) = .ok spec ∧
        (spec.endpoints.flatMap Endpoint.parameters).map (fun p => (p.name, p.type, p.default)) =
          [("limit", "integer", .int 0), ("order", "array", .text "name")] ∧
        spec.schemas.map Schema.name = ["Store"] ∧
        spec.security.map SecurityScheme.type = ["apiKey"] ∧
        Comparison.ofSpecs spec spec = .ok (.unchanged spec.name spec.version spec.version) := by
  have hread : ∃ spec, ofDocument (.map Sample.stores) = .ok spec ∧
      (spec.endpoints.flatMap Endpoint.parameters).map (fun p => (p.name, p.type, p.default)) =
        [("limit", "integer", .int 0), ("order", "array", .text "name")] ∧
      spec.schemas.map Schema.name = ["Store"] ∧
      spec.security.map SecurityScheme.type = ["apiKey"] :=
    ⟨_, rfl, rfl, rfl, rfl⟩
  obtain ⟨spec, hspec, hparameters, hschemas, hsecurity⟩ := hread
  have hlayout : Document.get? Sample.stores "components" = none := rfl
  have halike := newer_layout_reads_alike hlayout
  have hupgraded := halike.1.trans hspec
  exact ⟨hlayout, rfl, spec, hspec, hupgraded, hparameters, hschemas, hsecurity,
    (halike.2 spec spec hspec hupgraded).2⟩

end OpenApi
end ApiDrift.Reading
