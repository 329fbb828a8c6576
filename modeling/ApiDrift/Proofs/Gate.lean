import ApiDrift.Proofs.Mixed
import ApiDrift.Proofs.SharedFiles

/-!
# The gate for breaking changes

Comparing can be a gate: where breaking changes are to be a failure, they end the command with a
status of their own. What is shown can be narrowed, and shown in two styles. The gate takes no
account of either, for narrowing leaves the breaking changes as they are.

Two command lines are compared that are the same but for the switches that decide what is shown.
-/
namespace ApiDrift

namespace Comparison

variable {c : Comparison} {old new : Spec}

/-- Some change is a breaking one. -/
def Breaks (c : Comparison) : Prop := ∃ x ∈ c.changes, x.severity = .breaking

theorem narrow_breaking (c : Comparison) (n : Narrowing) : (c.narrow n).breaking = c.breaking :=
  narrow_invariant (P := fun b => b.breaking = c.breaking) (fun _ _ h => h) (fun _ h => h) rfl n

theorem breaking_ne_nil_iff (h : ofSpecs old new = .ok c) : c.breaking ≠ [] ↔ c.Breaks := by
  obtain ⟨changes, -, rfl⟩ := ofSpecs_eq_ok.mp h
  exact breakingOf_ne_nil_iff

end Comparison

namespace CommandLine

/-! ### Two files -/

section
variable {old new file : SourceFile} {c : Comparison} {fault : Fault} {code : Nat}

/-- The comparison of the specifications in two files of one format, with nothing left out. -/
inductive Compared (old new : SourceFile) (c : Comparison) : Prop
  | intro {o n : Spec} : old.spec = .ok o → new.spec = .ok n → o.format = n.format →
      Comparison.ofSpecs o n = .ok c → Compared old new c

/-- Two files with nothing left out: the comparison, or the fault that comes first. -/
def compareFiles (old new : SourceFile) : Except Fault Comparison := do
  let o ← old.spec
  let n ← new.spec
  if o.format = n.format then (Comparison.ofSpecs o n).mapError fun f => .failure (.plain f)
  else .error (.failure (.spec (.mismatch old.name o.format new.name n.format)))

theorem compareFiles_eq_ok_iff : compareFiles old new = .ok c ↔ Compared old new c := by
  simp only [compareFiles, bind_eq_ok]
  constructor
  · intro h
    obtain ⟨o, ho, n, hn, h⟩ := h
    split_ifs at h with hformat
    exact .intro ho hn hformat (mapError_eq_ok_iff.mp h)
  · intro h
    cases h with
    | @intro o n ho hn hformat hc =>
      refine ⟨o, ho, n, hn, ?_⟩
      rw [if_pos hformat, hc]
      rfl

/-- What a fault comes to is decided before anything is shown. -/
theorem runCompare_of_error (h : compareFiles old new = .error fault) (s : CompareSettings)
    (verbose : Bool) : ∃ log, runCompare s verbose old new = failed log fault := by
  unfold compareFiles at h
  unfold runCompare withSpec
  cases ho : old.spec with
  | error e =>
    rw [ho] at h
    cases h
    exact ⟨_, rfl⟩
  | ok o =>
    cases hn : new.spec with
    | error e =>
      rw [ho, hn] at h
      cases h
      exact ⟨_, rfl⟩
    | ok n =>
      simp only [ho, hn, bind, Except.bind] at h ⊢
      split_ifs at h ⊢ with hformat
      · cases hc : Comparison.ofSpecs o n with
        | ok c =>
          rw [hc] at h
          cases h
        | error f =>
          rw [hc] at h
          cases h
          simp only [compareSpecs, Spec.compare, hc]
          exact ⟨_, rfl⟩
      · cases h
        exact ⟨_, rfl⟩

theorem runCompare_of_compared (h : Compared old new c) (s : CompareSettings) (verbose : Bool) :
    (runCompare s verbose old new).output = comparisonLines s.style (c.narrow s.narrowing) ∧
      (runCompare s verbose old new).ending =
        .status (if s.failOnBreaking && !c.breaking.isEmpty then breakingStatus else 0) := by
  cases h with
  | @intro o n ho hn hformat hc =>
    simp only [runCompare, withSpec, ho, hn, hformat, if_true, compareSpecs, Spec.compare, hc,
      Comparison.narrow_breaking]
    split_ifs
    · exact ⟨rfl, rfl⟩
    · exact ⟨rfl, rfl⟩

theorem failed_output (log : List String) (fault : Fault) : (failed log fault).output = [] := by
  unfold failed
  split
  · rfl
  · rfl

theorem Compared.breaking_ne_nil_iff (h : Compared old new c) : c.breaking ≠ [] ↔ c.Breaks := by
  cases h with
  | intro _ _ _ hc => exact Comparison.breaking_ne_nil_iff hc

end

end CommandLine

/-! ### Two directories -/

namespace Revision

variable {r : Revision} {c : Comparison}

theorem compare_eq_map (n : Narrowing) (r : Revision) :
    r.compare n = (r.compare {}).map (Comparison.narrow n) := by
  unfold compare
  cases Reading.readSpec r.old r.filename with
  | error => rfl
  | ok o =>
    cases Reading.readSpec r.new r.filename with
    | error => rfl
    | ok w =>
      simp only [bind, Except.bind, Spec.compare]
      cases Comparison.ofSpecs o w with
      | error => rfl
      | ok => rfl

theorem breaking_ne_nil_iff (h : r.compare {} = .ok c) : c.breaking ≠ [] ↔ c.Breaks := by
  obtain ⟨o, -, h⟩ := bind_eq_ok.mp h
  obtain ⟨w, -, h⟩ := bind_eq_ok.mp h
  obtain ⟨b, hb, rfl⟩ := Spec.compare_eq_ok.mp h
  exact Comparison.breaking_ne_nil_iff hb

end Revision

namespace Batch

/-- A batch with its comparisons narrowed. -/
def narrow (n : Narrowing) (b : Batch) : Batch :=
  { b with results := b.results.map fun v => { v with comparison := v.comparison.narrow n } }

theorem ofRevision_eq_map (n : Narrowing) (r : Revision) :
    ofRevision n r = (ofRevision {} r).map (narrow n) := by
  unfold ofRevision
  rw [r.compare_eq_map n]
  cases r.compare {} with
  | ok c => rfl
  | error failure => cases failure <;> rfl

theorem ofRevisions_eq_map (n : Narrowing) (rs : List Revision) :
    ofRevisions n rs = (ofRevisions {} rs).map (narrow n) := by
  induction rs with
  | nil => rfl
  | cons r rs ih =>
    rw [ofRevisions, ofRevisions, ih, ofRevision_eq_map]
    cases ofRevision {} r with
    | error => rfl
    | ok a =>
      cases ofRevisions {} rs with
      | error => rfl
      | ok b => simp [bind, Except.bind, pure, Except.pure, Except.map, append, narrow]

theorem narrow_aggregate_breaking (n : Narrowing) (b : Batch) :
    (b.narrow n).aggregate.breaking = b.aggregate.breaking := by
  simp [aggregate, Comparison.aggregate, narrow, List.flatMap_map, Comparison.narrow_breaking]

/-- The breaking changes of a batch are those of its files. -/
theorem Records.breaking_ne_nil_iff {rs : List Revision} {b : Batch} (h : Records {} rs b) :
    b.aggregate.breaking ≠ [] ↔ ∃ r ∈ rs, ∃ c, r.compare {} = .ok c ∧ c.Breaks := by
  simp only [aggregate, Comparison.aggregate, List.flatMap_map, ne_eq, List.flatMap_eq_nil_iff,
    h.results_eq, List.mem_filterMap, result?_eq_some_iff]
  push Not
  constructor
  · intro hsome
    obtain ⟨v, ⟨r, hr, c, hc, rfl⟩, hbreaking⟩ := hsome
    exact ⟨r, hr, c, hc, (Revision.breaking_ne_nil_iff hc).mp hbreaking⟩
  · intro hsome
    obtain ⟨r, hr, c, hc, hbreaks⟩ := hsome
    exact ⟨_, ⟨r, hr, c, hc, rfl⟩, (Revision.breaking_ne_nil_iff hc).mpr hbreaks⟩

end Batch

namespace CommandLine

section
variable {old new : Directory} {code : Nat}

theorem batchOf_eq_map (n : Narrowing) (old new : Directory) :
    batchOf old new n = (batchOf old new {}).map (Batch.narrow n) := by
  unfold batchOf
  rw [Batch.ofRevisions_eq_map]
  cases Batch.ofRevisions {} (revisions old new) with
  | error => rfl
  | ok => rfl

/-- How comparing two directories ends does not depend on what is shown. -/
theorem runBatch_ending (s : BatchSettings) (verbose : Bool) (old new : Directory) :
    (runBatch s verbose old new).ending =
      match batchOf old new {} with
      | .error f => .escaped (.failure f)
      | .ok b =>
        let fails := s.failOnBreaking && !b.aggregate.breaking.isEmpty
        .status (if fails then breakingStatus else 0) := by
  simp only [runBatch]
  rw [batchOf_eq_map]
  cases batchOf old new {} with
  | error => rfl
  | ok b => simp only [Except.map, Batch.narrow_aggregate_breaking]

end

/-! ### Two command lines -/

section
variable {w : Surroundings} {g g' : Given} {hidden : List Switch}

theorem style_of_compareTask {old new : SourceFile} {s : CompareSettings}
    (h : compareTask w g = .ok (.compare old new s)) : s.style = styleOf g := by
  obtain ⟨-, _, _, _, _, -, -, -, -, -, htask⟩ := compareTask_eq_ok_iff.mp h
  cases htask
  rfl

end

/-- The schema before and after it loses its operation. -/
def Sample.orders : SourceFile × SourceFile :=
  (⟨"old/shop/orders.graphql", Sample.ascii "type Query \x7b orders: [Order] \x7d"⟩,
    ⟨"new/shop/orders.graphql", Sample.ascii "type Order \x7b id: ID \x7d"⟩)

/-- What is found when its versions are compared. -/
def Sample.ordersCompared : Comparison :=
  let removal : Change :=
    { type := .removed, category := .endpoint, severity := .breaking, path := "QUERY orders"
      description := "Endpoint removed: QUERY orders", oldValue := some "Query-orders" }
  let addition : Change :=
    { type := .added, category := .schema, severity := .info, path := "#/components/schemas/Order"
      description := "New schema: Order", newValue := some "Order" }
  { apiName := "GraphQL Schema", fromVersion := "1.0.0", toVersion := "1.0.0"
    changes := [removal, addition]
    breaking := [⟨removal, "Remove all references to this endpoint from client code", 100⟩]
    totalChanges := 2, risk := ⟨100, .critical, .major⟩
    summary := { endpointsRemoved := 1, schemasAdded := 1 } }

theorem orders_compared : Compared Sample.orders.1 Sample.orders.2 Sample.ordersCompared :=
  compareFiles_eq_ok_iff.mp (toOption_eq_some_iff.mp (by decide +kernel))

end CommandLine
end ApiDrift
