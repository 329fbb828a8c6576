import ApiDrift.Proofs.Outcomes
import ApiDrift.Verdict.Batch

/-!
# The files of a batch

A batch goes through its files one after another. Comparing a file gives an answer, a failure that
is reported, or a failure that escapes. Of the first two kinds a batch records each file where it
comes, with what the file gives by itself; the first failure of the third kind ends the batch. What
is recorded of a file therefore does not depend on the files around it. That the workers hand their
outcomes over in the order of the files is not proved here: a batch is taken in that order.
-/
namespace ApiDrift

/-- A failure that is not reported with a status of its own. -/
def Failure.Escapes (failure : Failure) : Prop := ∀ f, failure ≠ .spec f

namespace Revision

variable {n : Narrowing} {r : Revision}

/-- Comparing the file gives an answer or a failure that is reported. -/
def Settled (n : Narrowing) (r : Revision) : Prop :=
  (∃ c, r.compare n = .ok c) ∨ ∃ f, r.compare n = .error (.spec f)

instance (n : Narrowing) (r : Revision) : Decidable (r.Settled n) :=
  match h : r.compare n with
  | .ok c => isTrue (.inl ⟨c, h⟩)
  | .error (.spec f) => isTrue (.inr ⟨f, h⟩)
  | .error (.foreign _) | .error (.plain _) | .error .noWorkers | .error (.options _) =>
    isFalse (by simp [Settled, h])

theorem not_settled_iff :
    ¬ r.Settled n ↔ ∃ failure, r.compare n = .error failure ∧ failure.Escapes := by
  unfold Settled Failure.Escapes
  cases hr : r.compare n with
  | ok c => simp
  | error failure => simp

end Revision

namespace Batch

variable {n : Narrowing} {r : Revision} {rs before after : List Revision} {b : Batch}
variable {failure : Failure}

/-- What a batch records of a list of files: of each in its turn the comparison that it gives by
itself, or the reason why it gives none. -/
inductive Records (n : Narrowing) : List Revision → Batch → Prop
  | nil : Records n [] {}
  | compared {r : Revision} {c : Comparison} {rs : List Revision} {b : Batch} :
      r.compare n = .ok c → Records n rs b →
      Records n (r :: rs) { b with results := ⟨r.filename, c⟩ :: b.results }
  | refused {r : Revision} {f : SpecFault} {rs : List Revision} {b : Batch} :
      r.compare n = .error (.spec f) → Records n rs b →
      Records n (r :: rs) { b with failures := ⟨r.filename, f.message⟩ :: b.failures }

theorem ofRevision_compared {c : Comparison} (h : r.compare n = .ok c) :
    ofRevision n r = .ok { results := [⟨r.filename, c⟩] } := by
  unfold ofRevision
  rw [h]

theorem ofRevision_refused {f : SpecFault} (h : r.compare n = .error (.spec f)) :
    ofRevision n r = .ok { failures := [⟨r.filename, f.message⟩] } := by
  unfold ofRevision
  rw [h]

theorem ofRevision_escaped (h : r.compare n = .error failure) (hfailure : failure.Escapes) :
    ofRevision n r = .error failure := by
  unfold ofRevision
  rw [h]
  cases failure with
  | spec f => exact absurd rfl (hfailure f)
  | _ => rfl

theorem append_assoc (a b c : Batch) : (a.append b).append c = a.append (b.append c) := by
  simp only [append, List.append_assoc]

/-- A batch of two lists of files is made of the batches of both, of which the first comes first. -/
theorem ofRevisions_append (n : Narrowing) (before after : List Revision) :
    ofRevisions n (before ++ after) = (do
      let a ← ofRevisions n before
      let b ← ofRevisions n after
      return a.append b) := by
  induction before with
  | nil => exact (bind_pure (ofRevisions n after)).symm
  | cons r before ih =>
    simp only [List.cons_append, ofRevisions, ih, bind_assoc, pure_bind, append_assoc]

theorem exists_records (h : ∀ r ∈ rs, r.Settled n) :
    ∃ b, ofRevisions n rs = .ok b ∧ Records n rs b := by
  induction rs with
  | nil => exact ⟨{}, rfl, .nil⟩
  | cons r rs ih =>
    rw [List.forall_mem_cons] at h
    obtain ⟨b, hb, hrecords⟩ := ih h.2
    rcases h.1 with ⟨c, hc⟩ | ⟨f, hf⟩
    · refine ⟨_, ?_, .compared hc hrecords⟩
      simp only [ofRevisions, ofRevision_compared hc, hb, bind, Except.bind]
      rfl
    · refine ⟨_, ?_, .refused hf hrecords⟩
      simp only [ofRevisions, ofRevision_refused hf, hb, bind, Except.bind]
      rfl

theorem exists_first_unsettled (h : ∃ r ∈ rs, ¬ r.Settled n) :
    ∃ before r after, rs = before ++ r :: after ∧ (∀ q ∈ before, q.Settled n) ∧ ¬ r.Settled n := by
  induction rs with
  | nil => simp at h
  | cons r rs ih =>
    by_cases hr : r.Settled n
    · have hrest : ∃ q ∈ rs, ¬ q.Settled n := by
        simpa [hr] using h
      obtain ⟨before, q, after, rfl, hbefore, hq⟩ := ih hrest
      exact ⟨r :: before, q, after, rfl, List.forall_mem_cons.mpr ⟨hr, hbefore⟩, hq⟩
    · exact ⟨[], r, rs, rfl, List.forall_mem_nil _, hr⟩

/-- A failure that escapes ends a batch where nothing before it does. -/
theorem ofRevisions_escaped (hbefore : ∀ q ∈ before, q.Settled n)
    (h : r.compare n = .error failure) (hfailure : failure.Escapes) (after : List Revision) :
    ofRevisions n (before ++ r :: after) = .error failure := by
  obtain ⟨a, ha, -⟩ := exists_records hbefore
  rw [ofRevisions_append, ha, ofRevisions, ofRevision_escaped h hfailure]
  rfl

/-- A batch of files ends with what it records of them, where it ends so at all. -/
theorem ofRevisions_eq_ok_iff : ofRevisions n rs = .ok b ↔ Records n rs b := by
  constructor
  · intro h
    by_cases hsettled : ∀ r ∈ rs, r.Settled n
    · obtain ⟨b', hb', hrecords⟩ := exists_records hsettled
      cases h.symm.trans hb'
      exact hrecords
    · have hunsettled : ∃ r ∈ rs, ¬ r.Settled n := by simpa using hsettled
      obtain ⟨before, r, after, rfl, hbefore, hr⟩ := exists_first_unsettled hunsettled
      obtain ⟨failure, hcompare, hfailure⟩ := Revision.not_settled_iff.mp hr
      cases h.symm.trans (ofRevisions_escaped hbefore hcompare hfailure after)
  · intro h
    induction h with
    | nil => rfl
    | compared hc _ ih =>
      simp only [ofRevisions, ofRevision_compared hc, ih, bind, Except.bind]
      rfl
    | refused hf _ ih =>
      simp only [ofRevisions, ofRevision_refused hf, ih, bind, Except.bind]
      rfl

theorem Records.settled (h : Records n rs b) : ∀ r ∈ rs, r.Settled n := by
  induction h with
  | nil => exact List.forall_mem_nil _
  | compared hc _ ih => exact List.forall_mem_cons.mpr ⟨.inl ⟨_, hc⟩, ih⟩
  | refused hf _ ih => exact List.forall_mem_cons.mpr ⟨.inr ⟨_, hf⟩, ih⟩

/-- The result of a file: its comparison, if it gives one. -/
def result? (n : Narrowing) (r : Revision) : Option FileVerdict :=
  match r.compare n with
  | .ok c => some ⟨r.filename, c⟩
  | .error _ => none

/-- The refusal of a file: the reason why it gives no comparison, if that is reported. -/
def refusal? (n : Narrowing) (r : Revision) : Option FileRefusal :=
  match r.compare n with
  | .error (.spec f) => some ⟨r.filename, f.message⟩
  | _ => none

theorem result?_eq_some_iff {v : FileVerdict} :
    result? n r = some v ↔ ∃ c, r.compare n = .ok c ∧ v = ⟨r.filename, c⟩ := by
  unfold result?
  cases r.compare n with
  | ok c => simp [eq_comm]
  | error failure => simp

theorem refusal?_eq_some_iff {u : FileRefusal} :
    refusal? n r = some u ↔ ∃ f, r.compare n = .error (.spec f) ∧ u = ⟨r.filename, f.message⟩ := by
  unfold refusal?
  cases r.compare n with
  | ok c => simp
  | error failure => cases failure <;> simp [eq_comm]

theorem result?_eq_none {f : SpecFault} (h : r.compare n = .error (.spec f)) :
    result? n r = none := by
  unfold result?
  rw [h]

theorem refusal?_eq_none {c : Comparison} (h : r.compare n = .ok c) : refusal? n r = none := by
  unfold refusal?
  rw [h]

theorem Records.results_eq (h : Records n rs b) : b.results = rs.filterMap (result? n) := by
  induction h with
  | nil => rfl
  | compared hc _ ih =>
    rw [List.filterMap_cons_some (result?_eq_some_iff.mpr ⟨_, hc, rfl⟩), ← ih]
  | refused hf _ ih => rw [List.filterMap_cons_none (result?_eq_none hf), ← ih]

theorem Records.failures_eq (h : Records n rs b) : b.failures = rs.filterMap (refusal? n) := by
  induction h with
  | nil => rfl
  | compared hc _ ih => rw [List.filterMap_cons_none (refusal?_eq_none hc), ← ih]
  | refused hf _ ih =>
    rw [List.filterMap_cons_some (refusal?_eq_some_iff.mpr ⟨_, hf, rfl⟩), ← ih]

/-- A batch around one file is made of the batches of the three parts. -/
theorem ofRevisions_around_eq_ok :
    ofRevisions n (before ++ r :: after) = .ok b ↔
      ∃ a own c, ofRevisions n before = .ok a ∧ ofRevisions n [r] = .ok own ∧
        ofRevisions n after = .ok c ∧ b = a.append (own.append c) := by
  have hcons : before ++ r :: after = before ++ ([r] ++ after) := rfl
  rw [hcons, ofRevisions_append, ofRevisions_append]
  simp only [bind_eq_ok, pure, Except.pure, Except.ok.injEq]
  constructor
  · intro h
    obtain ⟨a, ha, -, ⟨own, hown, c, hc, rfl⟩, rfl⟩ := h
    exact ⟨a, own, c, ha, hown, hc, rfl⟩
  · intro h
    obtain ⟨a, own, c, ha, hown, hc, rfl⟩ := h
    exact ⟨a, ha, _, ⟨own, hown, c, hc, rfl⟩, rfl⟩

theorem run_eq_ofRevisions {workers : Option Int} (h : ∀ w ∈ workers, 0 < w) (n : Narrowing)
    (rs : List Revision) : run workers n rs = ofRevisions n rs := by
  cases workers with
  | none => rfl
  | some w =>
    have hw : ¬ w ≤ 0 := by
      have hpositive := h w rfl
      omega
    simp [run, hw]

/-- A batch whose files all give an answer or a reported failure records each of them in its place,
with what it gives by itself. Otherwise the batch ends with the first failure that escapes. What is
recorded of a file is what a batch of this file alone records, whatever files stand around it. -/
theorem files_are_isolated {workers : Option Int} (hworkers : ∀ w ∈ workers, 0 < w) (n : Narrowing)
    (rs : List Revision) :
    ((∀ r ∈ rs, r.Settled n) → ∃ b, run workers n rs = .ok b ∧ Records n rs b) ∧
      ((∃ r ∈ rs, ¬ r.Settled n) →
        ∃ before r after failure, rs = before ++ r :: after ∧ (∀ q ∈ before, q.Settled n) ∧
          r.compare n = .error failure ∧ failure.Escapes ∧ run workers n rs = .error failure) ∧
      ∀ before r after b, rs = before ++ r :: after →
        (run workers n rs = .ok b ↔
          ∃ a own c, run workers n before = .ok a ∧ run workers n [r] = .ok own ∧
            run workers n after = .ok c ∧ b = a.append (own.append c)) := by
  simp only [run_eq_ofRevisions hworkers]
  refine ⟨exists_records, ?_, ?_⟩
  · intro h
    obtain ⟨before, r, after, rfl, hbefore, hr⟩ := exists_first_unsettled h
    obtain ⟨failure, hcompare, hfailure⟩ := Revision.not_settled_iff.mp hr
    exact ⟨before, r, after, failure, rfl, hbefore, hcompare, hfailure,
      ofRevisions_escaped hbefore hcompare hfailure after⟩
  · intro before r after b hrs
    rw [hrs]
    exact ofRevisions_around_eq_ok

/-- A schema that gains a field, a file of no known format, and the schema once more. -/
def Sample.files : List Revision :=
  let schema : Revision :=
    { filename := "shop.graphql", old := "", new := "type Query \x7b orders: [Order] \x7d" }
  [schema, { filename := "notes.txt", old := "", new := "" }, schema]

/-- Two documents with faults that escape. -/
def Sample.unlisted : List Revision :=
  [{ filename := "first.yaml", old := "openapi: !!bool first", new := "" },
   { filename := "second.yaml", old := "openapi: !!bool second", new := "" }]

/-- The file of no known format is listed and the others are compared. Behind them a document with a
fault that escapes ends the batch, and the one after it is not reached. -/
theorem schema_compared_beside_notes :
    (∃ b, run (some 2) {} Sample.files = .ok b ∧ Records {} Sample.files b ∧
      b.results.map (·.comparison.totalChanges) = [1, 1] ∧
      b.failures.map (·.filename) = ["notes.txt"]) ∧
    ∃ failure, run (some 2) {} (Sample.files ++ Sample.unlisted) = .error failure ∧
      failure.Escapes ∧ failure.message = "'first'" := by
  have hworkers : ∀ w ∈ some (2 : Int), 0 < w := by simp
  constructor
  · have hsettled : ∀ r ∈ Sample.files, r.Settled {} := by decide +kernel
    obtain ⟨b, hb, hrecords⟩ := (files_are_isolated hworkers {} Sample.files).1 hsettled
    have hshown : (run (some 2) {} Sample.files).toOption.map (fun b =>
        (b.results.map (·.comparison.totalChanges), b.failures.map (·.filename))) =
          some ([1, 1], ["notes.txt"]) := by decide +kernel
    rw [hb] at hshown
    obtain ⟨hresults, hfailures⟩ := Prod.mk.inj (Option.some.inj hshown)
    exact ⟨b, hb, hrecords, hresults, hfailures⟩
  · have hunsettled : ∃ r ∈ Sample.files ++ Sample.unlisted, ¬ r.Settled {} := by decide +kernel
    obtain ⟨-, -, -, failure, -, -, -, hescapes, hfailure⟩ :=
      (files_are_isolated hworkers {} (Sample.files ++ Sample.unlisted)).2.1 hunsettled
    have hshown : ((run (some 2) {} (Sample.files ++ Sample.unlisted)).mapError
        Failure.message).map (fun _ => ()) = .error "'first'" := by decide +kernel
    rw [hfailure] at hshown
    exact ⟨failure, hfailure, hescapes, Except.error.inj hshown⟩

end Batch
end ApiDrift
