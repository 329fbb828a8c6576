import ApiDrift.Proofs.Findings
import ApiDrift.Proofs.Reachable
import Mathlib.Algebra.BigOperators.Group.List.Basic

/-!
# Summaries of lists put together

Most counters of a summary count single changes, and those of two lists put together are added up.
The others count entities, each by a text that stands for it. An entity that both lists modify is
counted once, so that nothing is overstated: the count is at least the larger and at most the sum of
the two, and the sum exactly where no text is found on both sides. A union of comparisons has the
summary of all their changes, to which the same applies, part by part.
-/
namespace ApiDrift

/-- The counters of single changes. -/
def Summary.singleCounters : List (Summary → Int) :=
  [endpointsAdded, endpointsRemoved, endpointsDeprecated, schemasAdded, schemasRemoved,
   parametersAdded, parametersRemoved, securityAdded, securityRemoved]

/-- The kinds of entities that count as modified once, however many changes they have. -/
inductive Modifiable where
  | endpoint
  | schema
  | parameter
deriving DecidableEq, Repr

namespace Modifiable

/-- The counter of the entities of a kind. -/
def count : Modifiable → Summary → Int
  | endpoint => Summary.endpointsModified
  | schema => Summary.schemasModified
  | parameter => Summary.parametersModified

/-- The text of the entity that a change modifies. -/
def text? : Modifiable → Change → Option String
  | endpoint => Change.modifiedEndpoint?
  | schema => Change.modifiedSchema?
  | parameter => Change.modifiedParameter?

/-- The texts of the entities that some changes modify. -/
def texts (k : Modifiable) (cs : List Change) : List String := cs.filterMap k.text?

end Modifiable

/-! ### Different texts in two lists -/

section
variable (xs ys : List String)

theorem countDistinct_append :
    countDistinct (xs ++ ys) = (xs.toFinset ∪ ys.toFinset).card := by
  rw [countDistinct_eq_card, List.toFinset_append]

theorem max_countDistinct_le :
    max (countDistinct xs) (countDistinct ys) ≤ countDistinct (xs ++ ys) := by
  rw [countDistinct_append, countDistinct_eq_card, countDistinct_eq_card, Nat.max_le]
  exact ⟨Finset.card_le_card Finset.subset_union_left,
    Finset.card_le_card Finset.subset_union_right⟩

theorem countDistinct_append_le :
    countDistinct (xs ++ ys) ≤ countDistinct xs + countDistinct ys := by
  rw [countDistinct_append, countDistinct_eq_card, countDistinct_eq_card]
  exact Finset.card_union_le _ _

theorem countDistinct_append_eq_iff :
    countDistinct (xs ++ ys) = countDistinct xs + countDistinct ys ↔ xs.Disjoint ys := by
  rw [countDistinct_append, countDistinct_eq_card, countDistinct_eq_card,
    Finset.card_union_eq_card_add_card, List.disjoint_toFinset_iff_disjoint]

end

/-! ### The counters of two lists -/

namespace Summary

theorem countOf_append (a b : List Change) (g : Category) (t : ChangeType) :
    countOf (a ++ b) g t = countOf a g t + countOf b g t := by
  unfold countOf
  rw [List.countP_append, Nat.cast_add]

theorem exists_countOf {count : Summary → Int} (h : count ∈ singleCounters) :
    ∃ g t, ∀ cs, count (ofChanges cs) = countOf cs g t := by
  simp only [singleCounters, List.mem_cons, List.not_mem_nil, or_false] at h
  rcases h with rfl | rfl | rfl | rfl | rfl | rfl | rfl | rfl | rfl
  all_goals exact ⟨_, _, fun _ => rfl⟩

theorem single_append {count : Summary → Int} (h : count ∈ singleCounters) (a b : List Change) :
    count (ofChanges (a ++ b)) = count (ofChanges a) + count (ofChanges b) := by
  obtain ⟨g, t, hcount⟩ := exists_countOf h
  rw [hcount, hcount, hcount, countOf_append]

theorem single_nil {count : Summary → Int} (h : count ∈ singleCounters) :
    count (ofChanges []) = 0 := by
  obtain ⟨g, t, hcount⟩ := exists_countOf h
  exact hcount []

end Summary

namespace Modifiable

theorem count_ofChanges (k : Modifiable) (cs : List Change) :
    k.count (Summary.ofChanges cs) = (countDistinct (k.texts cs) : Nat) := by
  cases k <;> rfl

theorem texts_append (k : Modifiable) (a b : List Change) :
    k.texts (a ++ b) = k.texts a ++ k.texts b := List.filterMap_append

variable (k : Modifiable) (a b : List Change)

theorem max_count_le :
    max (k.count (Summary.ofChanges a)) (k.count (Summary.ofChanges b)) ≤
      k.count (Summary.ofChanges (a ++ b)) := by
  have hmax := max_countDistinct_le (k.texts a) (k.texts b)
  rw [count_ofChanges, count_ofChanges, count_ofChanges, texts_append]
  omega

theorem count_append_le :
    k.count (Summary.ofChanges (a ++ b)) ≤
      k.count (Summary.ofChanges a) + k.count (Summary.ofChanges b) := by
  have hsum := countDistinct_append_le (k.texts a) (k.texts b)
  rw [count_ofChanges, count_ofChanges, count_ofChanges, texts_append]
  omega

theorem count_append_eq_iff :
    k.count (Summary.ofChanges (a ++ b)) =
        k.count (Summary.ofChanges a) + k.count (Summary.ofChanges b) ↔
      (k.texts a).Disjoint (k.texts b) := by
  rw [count_ofChanges, count_ofChanges, count_ofChanges, texts_append,
    ← countDistinct_append_eq_iff]
  omega

end Modifiable

/-! ### The summary of a union -/

namespace Comparison

variable {cs : List Comparison}

theorem summary_aggregate (c : Comparison) (cs : List Comparison) :
    (aggregate (c :: cs)).summary =
      Summary.ofChanges (c.changes ++ cs.flatMap (·.changes)) := rfl

theorem single_aggregate {count : Summary → Int} (hcount : count ∈ Summary.singleCounters)
    (h : ∀ c ∈ cs, c.summary = Summary.ofChanges c.changes) :
    count (aggregate cs).summary = (cs.map fun c => count c.summary).sum := by
  induction cs with
  | nil => exact Summary.single_nil hcount
  | cons c cs ih =>
    rw [List.forall_mem_cons] at h
    rw [summary_aggregate, Summary.single_append hcount, ← h.1, List.map_cons, List.sum_cons,
      ← ih h.2]
    rfl

theorem count_aggregate_le (k : Modifiable)
    (h : ∀ c ∈ cs, c.summary = Summary.ofChanges c.changes) :
    k.count (aggregate cs).summary ≤ (cs.map fun c => k.count c.summary).sum := by
  induction cs with
  | nil =>
    rw [List.map_nil, List.sum_nil]
    exact (k.count_ofChanges []).le
  | cons c cs ih =>
    rw [List.forall_mem_cons] at h
    have hcount := k.count_append_le c.changes (cs.flatMap (·.changes))
    have hrest := ih h.2
    rw [← h.1, ← summary_aggregate] at hcount
    rw [List.map_cons, List.sum_cons]
    exact hcount.trans (Int.add_le_add_left hrest _)

/-- No part of a union modifies more than the union. -/
theorem count_le_aggregate (k : Modifiable) {c : Comparison} (hc : c ∈ cs)
    (h : c.summary = Summary.ofChanges c.changes) :
    k.count c.summary ≤ k.count (aggregate cs).summary := by
  induction cs with
  | nil => simp at hc
  | cons d cs ih =>
    have hmax := k.max_count_le d.changes (cs.flatMap (·.changes))
    rw [← summary_aggregate] at hmax
    rcases List.mem_cons.mp hc with rfl | hc
    · rw [h]
      exact (le_max_left _ _).trans hmax
    · exact (ih hc).trans ((le_max_right _ _).trans hmax)

end Comparison

/-- A summary does not depend on the order of the changes. Of two lists put together the counters of
single changes are added up; those of modified entities are at least the larger and at most the sum
of the two, and the sum exactly where both lists have no text of such an entity in common. So a
union of comparisons whose summaries fit their changes, as those of all results do, adds up the
former and never overstates the latter. -/
theorem summaries_add_up :
    (∀ a b : List Change, a.Perm b → Summary.ofChanges a = Summary.ofChanges b) ∧
      (∀ count ∈ Summary.singleCounters, ∀ a b, count (Summary.ofChanges (a ++ b)) =
        count (Summary.ofChanges a) + count (Summary.ofChanges b)) ∧
      (∀ (k : Modifiable) (a b : List Change),
        max (k.count (Summary.ofChanges a)) (k.count (Summary.ofChanges b)) ≤
            k.count (Summary.ofChanges (a ++ b)) ∧
          k.count (Summary.ofChanges (a ++ b)) ≤
            k.count (Summary.ofChanges a) + k.count (Summary.ofChanges b) ∧
          (k.count (Summary.ofChanges (a ++ b)) =
              k.count (Summary.ofChanges a) + k.count (Summary.ofChanges b) ↔
            (k.texts a).Disjoint (k.texts b))) ∧
      (∀ c : Comparison, c.Reachable → c.summary = Summary.ofChanges c.changes) ∧
      ∀ cs : List Comparison, (∀ c ∈ cs, c.summary = Summary.ofChanges c.changes) →
        (∀ count ∈ Summary.singleCounters,
          count (Comparison.aggregate cs).summary = (cs.map fun c => count c.summary).sum) ∧
        ∀ k : Modifiable,
          k.count (Comparison.aggregate cs).summary ≤ (cs.map fun c => k.count c.summary).sum ∧
            ∀ c ∈ cs, k.count c.summary ≤ k.count (Comparison.aggregate cs).summary := by
  refine ⟨fun a b => Summary.ofChanges_perm, fun count => Summary.single_append, ?_,
    fun c hc => hc.coherent.summary, ?_⟩
  · intro k a b
    exact ⟨k.max_count_le a b, k.count_append_le a b, k.count_append_eq_iff a b⟩
  · intro cs hcs
    refine ⟨fun count hcount => Comparison.single_aggregate hcount hcs, fun k => ⟨?_, ?_⟩⟩
    · exact Comparison.count_aggregate_le k hcs
    · exact fun c hc => Comparison.count_le_aggregate k hc (hcs c hc)

/-- The list of orders is deprecated in two files, and one endpoint is removed in each: the former
counts once, the latter twice. -/
theorem shared_label_counted_once :
    ∃ c, Comparison.ofSpecs Comparison.Sample.shop Comparison.Sample.shopWithoutCancelling =
        .ok c ∧ c.summary = Summary.ofChanges c.changes ∧
      (Comparison.aggregate [c, c]).summary.endpointsRemoved =
        c.summary.endpointsRemoved + (c.summary.endpointsRemoved + 0) ∧
      c.summary.endpointsRemoved = 1 ∧ c.summary.endpointsModified = 1 ∧
      (Comparison.aggregate [c, c]).summary.endpointsModified = 1 ∧
      ¬ (Modifiable.endpoint.texts c.changes).Disjoint (Modifiable.endpoint.texts c.changes) := by
  have hc : ∃ c,
      Comparison.ofSpecs Comparison.Sample.shop Comparison.Sample.shopWithoutCancelling = .ok c ∧
      c.summary.endpointsRemoved = 1 ∧ c.summary.endpointsModified = 1 ∧
      (Comparison.aggregate [c, c]).summary.endpointsModified = 1 :=
    ⟨_, rfl, rfl, rfl, rfl⟩
  obtain ⟨c, hc, hremoved, hmodified, hunion⟩ := hc
  obtain ⟨-, -, hlists, hreachable, hunions⟩ := summaries_add_up
  have hfits := hreachable c (.compared hc)
  have hparts := hunions [c, c] (by simpa using hfits)
  refine ⟨c, hc, hfits, ?_, hremoved, hmodified, hunion, ?_⟩
  · exact hparts.1 Summary.endpointsRemoved (by simp [Summary.singleCounters])
  · rw [← (hlists .endpoint c.changes c.changes).2.2]
    have hboth : Modifiable.endpoint.count (Summary.ofChanges (c.changes ++ c.changes)) = 1 := by
      rw [← List.append_nil (c.changes ++ c.changes), List.append_assoc]
      exact hunion
    have hone : Modifiable.endpoint.count (Summary.ofChanges c.changes) = 1 := by
      rw [← hfits]
      exact hmodified
    omega

end ApiDrift
