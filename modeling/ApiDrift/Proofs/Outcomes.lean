import ApiDrift.Compare.Keyed
import Mathlib.Data.List.Forall2

/-!
# Results of checks that can fail

What the answer of a sequence of checks says about the single checks: it exists exactly where each
check answers, and holds exactly what they answer.
-/
namespace ApiDrift

variable {α β ε : Type}

theorem bind_eq_ok {x : Except ε α} {f : α → Except ε β} {b : β} :
    x >>= f = .ok b ↔ ∃ a, x = .ok a ∧ f a = .ok b := by
  cases x with
  | error e => simp [bind, Except.bind]
  | ok a => simp [bind, Except.bind]

theorem toOption_eq_some_iff {x : Except ε α} {a : α} : x.toOption = some a ↔ x = .ok a := by
  cases x <;> simp [Except.toOption]

theorem isOk_eq_false_iff {x : Except ε α} : x.isOk = false ↔ ∃ e, x = .error e := by
  cases x <;> simp [Except.isOk, Except.toBool]

theorem mapError_eq_ok_iff {ε' : Type} {x : Except ε α} {f : ε → ε'} {a : α} :
    x.mapError f = .ok a ↔ x = .ok a := by
  cases x <;> simp [Except.mapError]

theorem mapError_eq_error_iff {ε' : Type} {x : Except ε α} {f : ε → ε'} {e : ε'} :
    x.mapError f = .error e ↔ ∃ d, x = .error d ∧ f d = e := by
  cases x <;> simp [Except.mapError]

/-- A check whose result is only worked up answers where it does. -/
theorem exists_bind_pure_iff {x : Except ε α} {g : α → β} :
    (∃ b, (x >>= fun a => pure (g a)) = .ok b) ↔ ∃ a, x = .ok a := by
  constructor
  · intro h
    obtain ⟨b, h⟩ := h
    obtain ⟨a, ha, -⟩ := bind_eq_ok.mp h
    exact ⟨a, ha⟩
  · intro h
    obtain ⟨a, rfl⟩ := h
    exact ⟨g a, rfl⟩

section
variable {f : α → Except ε β} {xs : List α} {ys : List β}

/-- The answers of a sequence of checks are those of its members. -/
theorem mem_mapM (h : xs.mapM f = .ok ys) {y : β} : y ∈ ys ↔ ∃ x ∈ xs, f x = .ok y := by
  induction xs generalizing ys with
  | nil =>
    cases h
    simp
  | cons x xs ih =>
    rw [List.mapM_cons, bind_eq_ok] at h
    obtain ⟨z, hz, h⟩ := h
    obtain ⟨zs, hzs, h⟩ := bind_eq_ok.mp h
    cases h
    simp only [List.mem_cons, ih hzs, exists_eq_or_imp, hz, Except.ok.injEq, eq_comm (a := y)]

/-- A sequence of checks gives a list exactly where each check gives the member at its place. -/
theorem mapM_eq_ok_iff : xs.mapM f = .ok ys ↔ List.Forall₂ (fun x y => f x = .ok y) xs ys := by
  induction xs generalizing ys with
  | nil => simp only [List.mapM_nil, List.forall₂_nil_left_iff, pure, Except.pure, Except.ok.injEq,
      eq_comm]
  | cons x xs ih =>
    simp only [List.mapM_cons, bind_eq_ok, ih, List.forall₂_cons_left_iff, pure, Except.pure,
      Except.ok.injEq]
    constructor
    · intro hm
      obtain ⟨y, hy, zs, hzs, rfl⟩ := hm
      exact ⟨y, zs, hy, hzs, rfl⟩
    · intro hm
      obtain ⟨y, zs, hy, hzs, rfl⟩ := hm
      exact ⟨y, hy, zs, hzs, rfl⟩

/-- What a check tells of a member stands in the place of the member. -/
theorem map_of_mapM {γ : Type} {g : β → γ} {h : α → γ} (hys : xs.mapM f = .ok ys)
    (hf : ∀ x ∈ xs, ∀ y, f x = .ok y → g y = h x) : ys.map g = xs.map h := by
  rw [mapM_eq_ok_iff] at hys
  induction hys with
  | nil => rfl
  | cons hy _ ih =>
    rw [List.forall_mem_cons] at hf
    rw [List.map_cons, List.map_cons, hf.1 _ hy, ih hf.2]

theorem mapM_singleton {x : α} {y : β} (h : f x = .ok y) : [x].mapM f = .ok [y] := by
  rw [List.mapM_cons, h]
  rfl

theorem mapM_ok (g : α → β) (xs : List α) :
    xs.mapM (fun x => (.ok (g x) : Except ε β)) = .ok (xs.map g) :=
  List.mapM_pure

/-- A sequence of checks answers exactly where each member does. -/
theorem exists_mapM_iff : (∃ ys, xs.mapM f = .ok ys) ↔ ∀ x ∈ xs, ∃ y, f x = .ok y := by
  induction xs with
  | nil => exact iff_of_true ⟨[], rfl⟩ (by simp)
  | cons x xs ih =>
    simp only [List.mapM_cons, bind_eq_ok, List.forall_mem_cons, ← ih]
    constructor
    · intro hm
      obtain ⟨ys, y, hy, zs, hzs, -⟩ := hm
      exact ⟨⟨y, hy⟩, zs, hzs⟩
    · intro hm
      obtain ⟨⟨y, hy⟩, zs, hzs⟩ := hm
      exact ⟨y :: zs, y, hy, zs, hzs, rfl⟩

end

namespace Compare

variable {f : α → Except ε (List β)} {xs : List α} {ys : List β}

theorem flatMapChecked_eq (f : α → Except ε (List β)) (xs : List α) :
    flatMapChecked f xs = (xs.mapM f >>= fun yss => pure yss.flatten) := by
  induction xs with
  | nil => rfl
  | cons x xs ih =>
    rw [flatMapChecked, ih, List.mapM_cons]
    simp only [bind_assoc, pure_bind, List.flatten_cons]

theorem flatMapChecked_ok (g : α → List β) (xs : List α) :
    flatMapChecked (fun x => (.ok (g x) : Except ε (List β))) xs = .ok (xs.flatMap g) := by
  rw [flatMapChecked_eq, mapM_ok, List.flatMap_def]
  rfl

theorem mem_flatMapChecked (h : flatMapChecked f xs = .ok ys) {y : β} :
    y ∈ ys ↔ ∃ x ∈ xs, ∃ zs, f x = .ok zs ∧ y ∈ zs := by
  induction xs generalizing ys with
  | nil =>
    cases h
    simp
  | cons x xs ih =>
    rw [flatMapChecked, bind_eq_ok] at h
    obtain ⟨us, hus, h⟩ := h
    obtain ⟨vs, hvs, h⟩ := bind_eq_ok.mp h
    cases h
    simp only [List.mem_append, ih hvs, List.mem_cons, exists_eq_or_imp, hus, Except.ok.injEq,
      exists_eq_left']

theorem flatMapChecked_append {us : List α} {vs : List β} (hxs : flatMapChecked f xs = .ok ys)
    (hus : flatMapChecked f us = .ok vs) : flatMapChecked f (xs ++ us) = .ok (ys ++ vs) := by
  induction xs generalizing ys with
  | nil =>
    cases hxs
    exact hus
  | cons x xs ih =>
    rw [flatMapChecked, bind_eq_ok] at hxs
    obtain ⟨zs, hzs, hxs⟩ := hxs
    obtain ⟨ws, hws, hxs⟩ := bind_eq_ok.mp hxs
    cases hxs
    rw [List.cons_append, flatMapChecked, hzs, ih hws, List.append_assoc]
    rfl

theorem flatMapChecked_eq_nil (h : ∀ x ∈ xs, f x = .ok []) : flatMapChecked f xs = .ok [] := by
  induction xs with
  | nil => rfl
  | cons x xs ih =>
    rw [flatMapChecked, h x List.mem_cons_self, ih fun y hy => h y (List.mem_cons_of_mem x hy)]
    rfl

theorem exists_flatMapChecked_iff :
    (∃ ys, flatMapChecked f xs = .ok ys) ↔ ∀ x ∈ xs, ∃ zs, f x = .ok zs := by
  induction xs with
  | nil => exact iff_of_true ⟨[], rfl⟩ (by simp)
  | cons x xs ih =>
    simp only [flatMapChecked, bind_eq_ok, List.forall_mem_cons, ← ih]
    constructor
    · intro hm
      obtain ⟨ys, us, hus, vs, hvs, -⟩ := hm
      exact ⟨⟨us, hus⟩, vs, hvs⟩
    · intro hm
      obtain ⟨⟨us, hus⟩, vs, hvs⟩ := hm
      exact ⟨us ++ vs, us, hus, vs, hvs, rfl⟩

end Compare
end ApiDrift
