import ApiDrift.Proofs.Outcomes
import ApiDrift.Proofs.Rules
import Mathlib.Data.List.Forall2

/-!
# Two runs side by side

Two pairs of versions are compared, and the entities of one pair are related to those of the other
item by item. The keyed differences are then related in the same way, whatever the relation is, as
long as it keeps the keys. What the changes of the two comparisons have to do with each other is
left open too: it has to hold of equal lists and to go through concatenation.
-/
namespace ApiDrift

section
variable {α α' β β' ε : Type} {r : α → α' → Prop} {s : β → β' → Prop}

/-- Where the first check answers, the second does, and the answers are related. -/
def Follows (r : α → α' → Prop) (x : Except ε α) (y : Except ε α') : Prop :=
  ∀ a, x = .ok a → ∃ b, y = .ok b ∧ r a b

theorem Follows.ok {a : α} {b : α'} (h : r a b) : Follows r (.ok a : Except ε α) (.ok b) := by
  intro a' ha
  cases ha
  exact ⟨b, rfl, h⟩

theorem Follows.bind {x : Except ε α} {y : Except ε α'} {f : α → Except ε β}
    {g : α' → Except ε β'} (h : Follows r x y) (hfg : ∀ a b, r a b → Follows s (f a) (g b)) :
    Follows s (x >>= f) (y >>= g) := by
  intro c hc
  obtain ⟨a, ha, hc⟩ := bind_eq_ok.mp hc
  obtain ⟨b, hb, hab⟩ := h a ha
  obtain ⟨d, hd, hcd⟩ := hfg a b hab c hc
  exact ⟨d, bind_eq_ok.mpr ⟨b, hb, hd⟩, hcd⟩

theorem Follows.trans {r : α → α → Prop} {x y z : Except ε α} (hxy : Follows r x y)
    (hyz : Follows r y z) (htrans : ∀ a b c, r a b → r b c → r a c) : Follows r x z := by
  intro a ha
  obtain ⟨b, hb, hab⟩ := hxy a ha
  obtain ⟨c, hc, hbc⟩ := hyz b hb
  exact ⟨c, hc, htrans a b c hab hbc⟩

theorem Follows.mapM {f : α → Except ε β} {g : α' → Except ε β'} {xs : List α} {ys : List α'}
    (h : List.Forall₂ (fun x y => Follows s (f x) (g y)) xs ys) :
    Follows (List.Forall₂ s) (xs.mapM f) (ys.mapM g) := by
  induction h with
  | nil => exact .ok .nil
  | cons hxy _ ih =>
    simp only [List.mapM_cons]
    exact hxy.bind fun u v huv => ih.bind fun us vs huvs => .ok (.cons huv huvs)

end

namespace Compare

/-! ### Lists that are compared by their parts -/

/-- A relation of lists that holds of equal ones and goes through concatenation. -/
structure Concatenates {β : Type} (r : List β → List β → Prop) : Prop where
  refl : ∀ xs, r xs xs
  append : ∀ {xs xs' ys ys'}, r xs xs' → r ys ys' → r (xs ++ ys) (xs' ++ ys')

section
variable {α α' β ε : Type} {R : α → α' → Prop} {r : List β → List β → Prop}
variable (hr : Concatenates r)
include hr

theorem Concatenates.flatten {xss yss : List (List β)} (h : List.Forall₂ r xss yss) :
    r xss.flatten yss.flatten := by
  induction h with
  | nil => exact hr.refl []
  | cons hxy _ ih =>
    rw [List.flatten_cons, List.flatten_cons]
    exact hr.append hxy ih

theorem Concatenates.flatMap {f : α → List β} {g : α' → List β} {xs : List α} {ys : List α'}
    (h : List.Forall₂ R xs ys) (hfg : ∀ x y, R x y → r (f x) (g y)) :
    r (xs.flatMap f) (ys.flatMap g) := by
  rw [List.flatMap_def, List.flatMap_def]
  exact hr.flatten (List.rel_map (fun x y => hfg x y) h)

theorem Concatenates.map {f : α → β} {g : α' → β} {xs : List α} {ys : List α'}
    (h : List.Forall₂ R xs ys) (hfg : ∀ x y, R x y → r [f x] [g y]) : r (xs.map f) (ys.map g) := by
  rw [List.map_eq_flatMap, List.map_eq_flatMap]
  exact hr.flatMap h hfg

theorem Concatenates.flatMapChecked {f : α → Except ε (List β)} {g : α' → Except ε (List β)}
    {xs : List α} {ys : List α'} (h : List.Forall₂ R xs ys)
    (hfg : ∀ x y, R x y → Follows r (f x) (g y)) :
    Follows r (Compare.flatMapChecked f xs) (Compare.flatMapChecked g ys) := by
  rw [flatMapChecked_eq, flatMapChecked_eq]
  exact (Follows.mapM (h.imp hfg)).bind fun _ _ huv => .ok (hr.flatten huv)

end

/-! ### Keyed differences of related lists -/

section
variable {α : Type} {key : α → String} {R : α → α → Prop} {m m' n n' : Keyed α}

/-- The same keys in the same order, with related items. -/
def Keyed.Related (R : α → α → Prop) (m m' : Keyed α) : Prop :=
  List.Forall₂ (fun e e' => e.1 = e'.1 ∧ R e.2 e'.2) m m'

theorem Keyed.Related.put (h : m.Related R m') (k : String) {x x' : α} (hx : R x x') :
    (m.put k x).Related R (m'.put k x') := by
  induction h with
  | nil => exact .cons ⟨rfl, hx⟩ .nil
  | @cons e e' rest rest' he hrest ih =>
    obtain ⟨k₁, y⟩ := e
    obtain ⟨k₂, y'⟩ := e'
    obtain ⟨rfl, hy⟩ := he
    by_cases hk : k₁ = k
    · simp only [Keyed.put, if_pos hk]
      exact .cons ⟨rfl, hx⟩ hrest
    · simp only [Keyed.put, if_neg hk]
      exact .cons ⟨rfl, hy⟩ ih

theorem Keyed.Related.get? (h : m.Related R m') (k : String) :
    Option.Rel R (m.get? k) (m'.get? k) := by
  induction h with
  | nil => exact .none
  | @cons e e' rest rest' he _ ih =>
    obtain ⟨k₁, y⟩ := e
    obtain ⟨k₂, y'⟩ := e'
    obtain ⟨rfl, hy⟩ := he
    rw [Keyed.get?_cons, Keyed.get?_cons]
    by_cases hk : k = k₁
    · rw [if_pos hk, if_pos hk]
      exact .some hy
    · rw [if_neg hk, if_neg hk]
      exact ih

theorem Keyed.Related.ofList (hkey : ∀ x x', R x x' → key x = key x') {items items' : List α}
    (h : List.Forall₂ R items items') :
    (Keyed.ofList key items).Related R (Keyed.ofList key items') := by
  refine List.rel_foldl (P := Keyed.Related R) (fun m m' hm x x' hx => ?_) .nil h
  rw [hkey x x' hx]
  exact hm.put (key x') hx

theorem Keyed.Related.without (h : m.Related R m') (hother : n.Related R n') :
    (m.without n).Related R (m'.without n') := by
  refine List.rel_filter (fun e e' he => ?_) h
  have hrel := hother.get? e'.1
  dsimp only
  rw [he.1]
  generalize n.get? e'.1 = x at hrel ⊢
  generalize n'.get? e'.1 = x' at hrel ⊢
  cases hrel <;> simp

theorem Keyed.Related.common (hold : m.Related R m') (hnew : n.Related R n') :
    List.Forall₂ (fun pair pair' => R pair.1 pair'.1 ∧ R pair.2 pair'.2) (Keyed.common m n)
      (Keyed.common m' n') := by
  refine List.rel_filterMap (fun e e' he => ?_) hnew
  have hrel := hold.get? e'.1
  rw [he.1]
  generalize m.get? e'.1 = x at hrel ⊢
  generalize m'.get? e'.1 = x' at hrel ⊢
  cases hrel with
  | none => exact .none
  | some hx => exact .some ⟨hx, he.2⟩

/-- The same keys were removed, added and kept, with related items. -/
structure Split.Related (R : α → α → Prop) (s s' : Split α) : Prop where
  removed : s.removed.Related R s'.removed
  added : s.added.Related R s'.added
  common : List.Forall₂ (fun pair pair' => R pair.1 pair'.1 ∧ R pair.2 pair'.2) s.common s'.common

theorem split_related (hkey : ∀ x x', R x x' → key x = key x') {old old' new new' : List α}
    (hold : List.Forall₂ R old old') (hnew : List.Forall₂ R new new') :
    (split key old new).Related R (split key old' new') := by
  have hold := Keyed.Related.ofList hkey hold
  have hnew := Keyed.Related.ofList hkey hnew
  exact ⟨hold.without hnew, hnew.without hold, hold.common hnew⟩

theorem Keyed.Related.map {β : Type} {r : List β → List β → Prop} (hr : Concatenates r)
    {f g : String × α → β} (h : m.Related R m')
    (hfg : ∀ k x x', R x x' → r [f (k, x)] [g (k, x')]) : r (m.map f) (m'.map g) := by
  refine hr.map h fun e e' he => ?_
  obtain ⟨k, x⟩ := e
  obtain ⟨k', x'⟩ := e'
  obtain ⟨rfl, hx⟩ := he
  exact hfg k x x' hx

end

/-! ### Comparisons of related endpoints and schemas

Of an endpoint that comes or goes a change shows the label, of a schema the name. What is left to
say of a relation is what it does to the details of a common entity. -/

section
variable {r : List Change → List Change → Prop} (hr : Concatenates r)
include hr

theorem endpoints_related {R : Endpoint → Endpoint → Prop} (hid : ∀ d d', R d d' → d.id = d'.id)
    (hlabel : ∀ d d', R d d' → d.label = d'.label)
    (hdetails : ∀ d d' e e', R d d' → R e e' →
      Follows r (endpointDetails d e) (endpointDetails d' e'))
    {old old' new new' : List Endpoint} (hold : List.Forall₂ R old old')
    (hnew : List.Forall₂ R new new') : Follows r (endpoints old new) (endpoints old' new') := by
  have hsplit := split_related hid hold hnew
  have hcommon : Follows r
      (flatMapChecked (fun pair => endpointDetails pair.1 pair.2)
        (split Endpoint.id old new).common)
      (flatMapChecked (fun pair => endpointDetails pair.1 pair.2)
        (split Endpoint.id old' new').common) := by
    refine hr.flatMapChecked hsplit.common fun pair pair' h => ?_
    exact hdetails pair.1 pair'.1 pair.2 pair'.2 h.1 h.2
  have hremoved : r ((split Endpoint.id old new).removed.map fun e => endpointRemoved e.1 e.2)
      ((split Endpoint.id old' new').removed.map fun e => endpointRemoved e.1 e.2) := by
    refine hsplit.removed.map hr fun k d d' hd => ?_
    simp only [endpointRemoved, hlabel d d' hd]
    exact hr.refl _
  have hadded : r ((split Endpoint.id old new).added.map fun e => endpointAdded e.1 e.2)
      ((split Endpoint.id old' new').added.map fun e => endpointAdded e.1 e.2) := by
    refine hsplit.added.map hr fun k d d' hd => ?_
    simp only [endpointAdded, hlabel d d' hd]
    exact hr.refl _
  unfold endpoints
  exact hcommon.bind fun _ _ h => .ok (hr.append (hr.append hremoved hadded) h)

theorem schemas_related {R : Schema → Schema → Prop} (hname : ∀ s s', R s s' → s.name = s'.name)
    (hdetails : ∀ s s' t t', R s s' → R t t' → r (schemaDetails s t) (schemaDetails s' t'))
    {old old' new new' : List Schema} (hold : List.Forall₂ R old old')
    (hnew : List.Forall₂ R new new') : r (schemas old new) (schemas old' new') := by
  have hsplit := split_related hname hold hnew
  refine hr.append (hr.append ?_ ?_) ?_
  · refine hsplit.removed.map hr fun k s s' _ => ?_
    exact hr.refl [_]
  · refine hsplit.added.map hr fun k s s' _ => ?_
    exact hr.refl [_]
  · exact hr.flatMap hsplit.common fun pair pair' h =>
      hdetails pair.1 pair'.1 pair.2 pair'.2 h.1 h.2

theorem changes_related {old old' new new' : Spec}
    (hendpoints : Follows r (endpoints old.endpoints new.endpoints)
      (endpoints old'.endpoints new'.endpoints))
    (hschemas : r (schemas old.schemas new.schemas) (schemas old'.schemas new'.schemas))
    (hsecurity : r (security old.security new.security) (security old'.security new'.security)) :
    Follows r (old.changes new) (old'.changes new') :=
  hendpoints.bind fun _ _ h => .ok (hr.append (hr.append h hschemas) hsecurity)

end
end Compare
end ApiDrift
