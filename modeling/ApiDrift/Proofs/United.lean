import ApiDrift.Proofs.Order
import ApiDrift.Proofs.Reachable
import Mathlib.Order.Basic

/-!
# The algebra of uniting

A union joins the changes of its parts in order and takes the highest score and the highest bump.
The highest of many is the least bound of all of them, so it can be found in steps, in any order and
from one part alone. Score and bump are those of the parts as they were compared: a bump that is due
to an addition stays where narrowing has left the addition out.

The name of a union is that of its first part. Groups of comparisons must therefore not be empty if
they are united one by one before they are united with each other.
-/
namespace ApiDrift

theorem Bump.rank_injective : Function.Injective Bump.rank := by
  intro a b
  cases a <;> cases b <;> decide

namespace Comparison

/-- What is left of a comparison after any number of narrowing steps. -/
inductive Narrowed (c : Comparison) : Comparison → Prop
  | whole : Narrowed c c
  | atLeast {d : Comparison} (s : Severity) : Narrowed c d → Narrowed c (d.atLeast s)
  | withoutDeprecations {d : Comparison} : Narrowed c d → Narrowed c d.withoutDeprecations

variable {c d : Comparison} {cs ds : List Comparison} {n : Nat}

theorem Narrowed.risk_eq (h : c.Narrowed d) : d.risk = c.risk := by
  induction h with
  | whole => rfl
  | atLeast _ _ ih => exact ih
  | withoutDeprecations _ ih => exact ih

/-! ### The highest of many -/

theorem rank_greaterBump (a b : Bump) : (greaterBump a b).rank = max a.rank b.rank := by
  unfold greaterBump
  split_ifs with h
  · omega
  · omega

theorem highestBump_concat (cs : List Comparison) (c : Comparison) :
    highestBump (cs ++ [c]) = greaterBump (highestBump cs) c.risk.bump := by
  simp only [highestBump, List.foldl_append, List.foldl_cons, List.foldl_nil]

theorem rank_highestBump_le_iff : (highestBump cs).rank ≤ n ↔ ∀ c ∈ cs, c.risk.bump.rank ≤ n := by
  induction cs using List.reverseRecOn with
  | nil => simp [highestBump, Bump.rank]
  | append_singleton cs c ih =>
    rw [highestBump_concat, rank_greaterBump, Nat.max_le, ih, List.forall_mem_append,
      List.forall_mem_singleton]

/-- Only what bounds the scores matters to the highest of them. -/
theorem highestScore_congr
    (h : ∀ n, (∀ c ∈ cs, c.risk.score ≤ n) ↔ ∀ d ∈ ds, d.risk.score ≤ n) :
    highestScore cs = highestScore ds := by
  apply eq_of_forall_ge_iff
  intro n
  rw [highestScore_le_iff, highestScore_le_iff, h]

theorem highestBump_congr
    (h : ∀ n, (∀ c ∈ cs, c.risk.bump.rank ≤ n) ↔ ∀ d ∈ ds, d.risk.bump.rank ≤ n) :
    highestBump cs = highestBump ds := by
  apply Bump.rank_injective
  apply eq_of_forall_ge_iff
  intro n
  rw [rank_highestBump_le_iff, rank_highestBump_le_iff, h]

/-! ### Unions of unions -/

/-- A bound of unions is one of all their parts. -/
theorem forall_unions_iff {P : Comparison → Prop} (hP : ∀ cs, P (aggregate cs) ↔ ∀ c ∈ cs, P c)
    (css : List (List Comparison)) :
    (∀ c ∈ css.map aggregate, P c) ↔ ∀ c ∈ css.flatten, P c := by
  simp only [List.forall_mem_map, List.forall_mem_flatten, hP]

/-- What is joined group by group is joined. -/
theorem flatMap_unions {β : Type} {f : Comparison → List β}
    (hf : ∀ cs, f (aggregate cs) = cs.flatMap f) (css : List (List Comparison)) :
    (css.map aggregate).flatMap f = css.flatten.flatMap f := by
  rw [List.flatMap_map, ← List.flatMap_id, List.flatMap_assoc]
  simp only [hf, id]

/-- The first of all is the first of the first group. -/
theorem head_unions {f : Comparison → String} {absent : String}
    (hf : ∀ cs, f (aggregate cs) = (cs.head?.map f).getD absent)
    {css : List (List Comparison)} (h : ∀ cs ∈ css, cs ≠ []) :
    ((css.map aggregate).head?.map f).getD absent = (css.flatten.head?.map f).getD absent := by
  cases css with
  | nil => rfl
  | cons cs css =>
    cases cs with
    | nil => exact absurd rfl (h [] List.mem_cons_self)
    | cons c cs => exact hf (c :: cs)

theorem aggregate_flatten {css : List (List Comparison)} (h : ∀ cs ∈ css, cs ≠ []) :
    aggregate (css.map aggregate) = aggregate css.flatten := by
  have hscore : highestScore (css.map aggregate) = highestScore css.flatten :=
    highestScore_congr fun n => forall_unions_iff (fun _ => highestScore_le_iff) css
  have hbump : highestBump (css.map aggregate) = highestBump css.flatten :=
    highestBump_congr fun n => forall_unions_iff (fun _ => rank_highestBump_le_iff) css
  have hchanges := flatMap_unions (f := (·.changes)) (fun _ => rfl) css
  have hbreaking := flatMap_unions (f := (·.breaking)) (fun _ => rfl) css
  have hname := head_unions (f := (·.apiName)) (fun _ => rfl) h
  have hfrom := head_unions (f := (·.fromVersion)) (fun _ => rfl) h
  have hto := head_unions (f := (·.toVersion)) (fun _ => rfl) h
  rw [aggregate, hchanges, hbreaking, hname, hfrom, hto, hscore, hbump]
  rfl

/-! ### One part, and parts in another order -/

/-- A comparison whose figures fit its changes is its own union. -/
theorem Coherent.aggregate_singleton (h : c.Coherent) : Comparison.aggregate [c] = c := by
  have hscore : highestScore [c] = c.risk.score := Nat.zero_max _
  have hbump : highestBump [c] = c.risk.bump := by
    apply Bump.rank_injective
    rw [← List.nil_append [c], highestBump_concat, rank_greaterBump]
    exact Nat.zero_max _
  simp only [Comparison.aggregate, List.flatMap_singleton, List.head?_cons, Option.map_some,
    Option.getD_some, hscore, hbump, ← h.level, ← h.total, ← h.summary]

theorem aggregate_perm (h : cs.Perm ds) : (aggregate cs).Permuted (aggregate ds) := by
  have hchanges := h.flatMap_right (·.changes)
  have hscore : highestScore cs = highestScore ds :=
    highestScore_congr fun n => by simp only [h.mem_iff]
  have hbump : highestBump cs = highestBump ds :=
    highestBump_congr fun n => by simp only [h.mem_iff]
  have hbreaking := h.flatMap_right (·.breaking)
  refine ⟨hchanges, hbreaking, Summary.ofChanges_perm hchanges, ?_⟩
  simp only [aggregate, hscore, hbump]

/-! ### The bump of a union -/

/-- Of two lists of changes taken together the greater bump is due. -/
theorem bumpOf_append (breaking breaking' : List BreakingChange) (changes changes' : List Change) :
    Risk.bumpOf (breaking ++ breaking') (changes ++ changes') =
      greaterBump (Risk.bumpOf breaking changes) (Risk.bumpOf breaking' changes') := by
  cases breaking with
  | cons b bs => exact (greaterBump_eq_major_iff.mpr (.inl rfl)).symm
  | nil =>
    cases breaking' with
    | cons b bs => exact (greaterBump_eq_major_iff.mpr (.inr rfl)).symm
    | nil =>
      simp only [Risk.bumpOf, List.nil_append, List.any_append]
      cases changes.any (fun c => c.type = .added) <;>
        cases changes'.any (fun c => c.type = .added) <;> rfl

theorem highestBump_eq_bumpOf (h : ∀ c ∈ cs, c.risk.bump = Risk.bumpOf c.breaking c.changes) :
    highestBump cs = Risk.bumpOf (cs.flatMap (·.breaking)) (cs.flatMap (·.changes)) := by
  induction cs using List.reverseRecOn with
  | nil => rfl
  | append_singleton cs c ih =>
    rw [List.forall_mem_append, List.forall_mem_singleton] at h
    simp only [highestBump_concat, List.flatMap_append, List.flatMap_singleton, bumpOf_append,
      ih h.1, h.2]

theorem bump_ofSpecs {old new : Spec} (h : ofSpecs old new = .ok c) :
    c.risk.bump = Risk.bumpOf c.breaking c.changes := by
  obtain ⟨changes, -, rfl⟩ := ofSpecs_eq_ok.mp h
  rfl

theorem highestBump_narrowed (h : List.Forall₂ Narrowed cs ds) :
    highestBump ds = highestBump cs := by
  have hbumps : ds.map (·.risk.bump) = cs.map (·.risk.bump) := by
    induction h with
    | nil => rfl
    | cons hcd _ ih => rw [List.map_cons, List.map_cons, ih, hcd.risk_eq]
  have hfold (cs : List Comparison) :
      highestBump cs = (cs.map (·.risk.bump)).foldl greaterBump .patch := List.foldl_map.symm
  rw [hfold, hfold, hbumps]

/-- Uniting is lawful: groups that are not empty can be united one by one and then with each other,
a result of comparing, narrowing and uniting is its own union, and the order of the parts shows in
the order of the changes only. The bump of a union of narrowed comparisons is that of all their
changes before anything was left out. -/
theorem uniting_laws :
    (∀ css : List (List Comparison), (∀ cs ∈ css, cs ≠ []) →
        aggregate (css.map aggregate) = aggregate css.flatten) ∧
      (∀ c : Comparison, c.Reachable → aggregate [c] = c) ∧
      (∀ cs ds : List Comparison, cs.Perm ds → (aggregate cs).Permuted (aggregate ds) ∧
        (aggregate cs).totalChanges = (aggregate ds).totalChanges) ∧
      ∀ (versions : List (Spec × Spec)) (cs ds : List Comparison),
        List.Forall₂ (fun v c => ofSpecs v.1 v.2 = .ok c) versions cs →
        List.Forall₂ Narrowed cs ds →
        (aggregate ds).risk.bump =
          Risk.bumpOf (cs.flatMap (·.breaking)) (cs.flatMap (·.changes)) := by
  refine ⟨fun css => aggregate_flatten, fun c hc => hc.coherent.aggregate_singleton, ?_, ?_⟩
  · intro cs ds h
    have hpermuted := aggregate_perm h
    exact ⟨hpermuted, congrArg Int.ofNat hpermuted.changes.length_eq⟩
  · intro versions cs ds hcs hds
    have hbump : (aggregate ds).risk.bump = highestBump cs := highestBump_narrowed hds
    rw [hbump]
    apply highestBump_eq_bumpOf
    intro c hc
    obtain ⟨v, -, hv⟩ := (mem_mapM (mapM_eq_ok_iff.mpr hcs)).mp hc
    exact bump_ofSpecs hv

/-- The one response that is new is left out, and the bump of the union is still minor. -/
theorem response_left_out_of_union :
    ∃ c d, ofSpecs Sample.listedTwice Sample.listedOnce = .ok c ∧
      ofSpecs Sample.shop Sample.shop = .ok d ∧
      (aggregate [c.atLeast .warning, d.withoutDeprecations]).changes = [] ∧
      (aggregate [c.atLeast .warning, d.withoutDeprecations]).risk.bump = .minor ∧
      aggregate [aggregate [c, d], aggregate [d]] = aggregate [c, d, d] ∧
      aggregate [c.atLeast .warning] = c.atLeast .warning ∧
      (aggregate [c, d]).Permuted (aggregate [d, c]) := by
  have hcd : ∃ c d, ofSpecs Sample.listedTwice Sample.listedOnce = .ok c ∧
      ofSpecs Sample.shop Sample.shop = .ok d ∧
      (aggregate [c.atLeast .warning, d.withoutDeprecations]).changes = [] ∧
      Risk.bumpOf (c.breaking ++ d.breaking) (c.changes ++ d.changes) = .minor :=
    ⟨_, _, rfl, rfl, rfl, rfl⟩
  obtain ⟨c, d, hc, hd, hnone, hminor⟩ := hcd
  obtain ⟨hgroups, hself, horder, hbump⟩ := uniting_laws
  have hleft : (aggregate [c.atLeast .warning, d.withoutDeprecations]).risk.bump =
      Risk.bumpOf (c.breaking ++ (d.breaking ++ [])) (c.changes ++ (d.changes ++ [])) :=
    hbump [(Sample.listedTwice, Sample.listedOnce), (Sample.shop, Sample.shop)] [c, d] _
      (.cons hc (.cons hd .nil)) (.cons (.atLeast .warning .whole)
        (.cons (.withoutDeprecations .whole) .nil))
  rw [List.append_nil, List.append_nil, hminor] at hleft
  exact ⟨c, d, hc, hd, hnone, hleft, hgroups [[c, d], [d]] (by simp),
    hself _ (.atLeast .warning (.compared hc)), (horder [c, d] [d, c] (.swap d c [])).1⟩

end Comparison
end ApiDrift
