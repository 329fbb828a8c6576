import ApiDrift.Document.Composed
import ApiDrift.Json.Reader
import ApiDrift.Proofs.Walking
import ApiDrift.Proofs.Writable

/-!
# What data texts can hold

A data text writes nothing, truth values, numbers, texts, sequences, and mappings with texts for
keys. It has no way to write bytes or a value that contains itself, and a whole number with too many
digits is refused when it is read. So every value that is read is simple, and so are its parts.
-/
namespace ApiDrift

/-- A value that a data text can write. -/
inductive Document.Simple : Document → Prop
  | null : Simple .null
  | bool (b : Bool) : Simple (.bool b)
  | int {n : Int} : n.natAbs < textLimit → Simple (.int n)
  | float (x : Binary64) : Simple (.float x)
  | text (s : String) : Simple (.text s)
  | seq {items : List Document} : (∀ v ∈ items, Simple v) → Simple (.seq items)
  | map {es : Entries} : TextKeyed es → (∀ e ∈ es, Simple e.2) → Simple (.map es)

namespace Document
open Compare

/-- A property that what a data text writes has, if the values in it have it. -/
structure DataComposed (P : Document → Prop) : Prop where
  leaf : ∀ v, v.Simple → v.isLeaf = true → P v
  seq : ∀ items, (∀ v ∈ items, P v) → P (.seq items)
  map : ∀ es, TextKeyed es → (∀ e ∈ es, P e.2) → P (.map (ofPairs es))

/-- Writing a mapping keeps the entries it is written with. -/
theorem dataComposed_simple : DataComposed Simple where
  leaf _ hv _ := hv
  seq _ := .seq
  map es hkeys hvalues := by
    have hmem : ∀ e ∈ ofPairs es, e ∈ es := fun e he => ((mem_ofPairs_iff hkeys).mp he).mem
    exact .map (fun e he => hkeys e (hmem e he)) fun e he => hvalues e (hmem e he)

theorem Composed.data {P : Document → Prop} (hP : Composed P) : DataComposed P where
  leaf v _ := hP.leaf v
  seq := hP.seq
  map es hkeys hvalues := by
    apply hP.map
    intro e he
    rw [hkeys e he]
    exact ⟨hP.leaf _ rfl, hvalues e he⟩

end Document

namespace Json
open Document Text

/-! ### Whole numbers -/

theorem digit_le {c : Char} (h : isAsciiDigit c = true) : c.toNat - 48 ≤ 9 := by
  simp only [isAsciiDigit, Bool.and_eq_true, decide_eq_true_eq, Char.le_def] at h
  have hc : c.toNat ≤ 57 := h.2
  omega

theorem digitsValue_lt {ds : List Char} (h : ∀ d ∈ ds, isAsciiDigit d = true) :
    digitsValue ds < Number.powerOfTen ds.length := by
  induction ds using List.reverseRecOn with
  | nil => decide
  | append_singleton ds d ih =>
    have hd := digit_le (h d (by simp))
    have hds := ih fun c hc => h c (List.mem_append_left _ hc)
    have hpower : Number.powerOfTen (ds.length + 1) = Number.powerOfTen ds.length * 10 := rfl
    unfold digitsValue at hds ⊢
    simp only [List.foldl_append, List.length_append, List.length_singleton, hpower,
      List.foldl_cons, List.foldl_nil]
    omega

theorem powerOfTen_le {m n : Nat} (h : m ≤ n) : Number.powerOfTen m ≤ Number.powerOfTen n :=
  Nat.pow_le_pow_right (by decide) h

theorem splitWhole_digits {cs whole rest : List Char} (h : splitWhole cs = (whole, rest)) :
    ∀ d ∈ whole, isAsciiDigit d = true := by
  unfold splitWhole at h
  split at h
  · cases h
    intro d hd
    obtain rfl := List.mem_singleton.mp hd
    decide
  · cases h
    exact fun d hd => List.all_eq_true.mp List.all_takeWhile d hd

/-- A whole number that is read is short enough to be shown. -/
theorem natAbs_lt {ds : List Char} (h : ∀ d ∈ ds, isAsciiDigit d = true)
    (hlen : ¬ Number.digitLimit < ds.length) (negative : Bool) :
    (if negative then -(digitsValue ds : Int) else digitsValue ds).natAbs < textLimit := by
  have hvalue : (if negative then -(digitsValue ds : Int) else digitsValue ds).natAbs =
      digitsValue ds := by
    cases negative <;> simp
  rw [hvalue]
  exact Nat.lt_of_lt_of_le (digitsValue_lt h) (powerOfTen_le (Nat.le_of_not_lt hlen))

/-! ### Values -/

section
variable {α β : Type} {P : α → Prop} {Q : β → Prop}

/-- A reader that gives values of one kind only. -/
def Gives (P : α → Prop) (x : Except Stop (α × List Char)) : Prop :=
  ∀ a rest, x = .ok (a, rest) → P a

theorem Gives.ok {a : α} {rest : List Char} (h : P a) : Gives P (.ok (a, rest)) := by
  intro b after hb
  cases hb
  exact h

theorem Gives.bind {x : Except Stop (α × List Char)}
    {f : α × List Char → Except Stop (β × List Char)} (hx : Gives P x)
    (hf : ∀ a rest, P a → Gives Q (f (a, rest))) : Gives Q (x >>= f) := by
  intro b rest h
  obtain ⟨⟨a, after⟩, ha, hb⟩ := bind_eq_ok.mp h
  exact hf a after (hx a after ha) b rest hb

end

theorem gives_readNumber (cs : List Char) :
    Gives (fun v => v.Simple ∧ v.isLeaf = true) (readNumber cs) := by
  intro v rest h
  unfold readNumber at h
  dsimp only at h
  split at h
  · cases h
  · rename_i whole after _ hwhole
    split at h
    · split at h
      · cases h
      · rename_i hlen
        cases h
        exact ⟨.int (natAbs_lt (splitWhole_digits hwhole) hlen _), rfl⟩
    · cases h
      exact ⟨.float _, rfl⟩

theorem gives_readScalar (cs : List Char) :
    Gives (fun v => v.Simple ∧ v.isLeaf = true) (readScalar cs) := by
  intro v rest h
  unfold readScalar at h
  split at h
  · rename_i r hword
    cases h
    obtain ⟨w, hw, hr⟩ := List.exists_of_findSome?_eq_some hword
    obtain ⟨after, -, heq⟩ := Option.map_eq_some_iff.mp hr
    cases heq
    simp only [words, List.mem_cons, List.not_mem_nil, or_false] at hw
    rcases hw with rfl | rfl | rfl | rfl | rfl | rfl
    · exact ⟨.null, rfl⟩
    · exact ⟨.bool _, rfl⟩
    · exact ⟨.bool _, rfl⟩
    · exact ⟨.float _, rfl⟩
    · exact ⟨.float _, rfl⟩
    · exact ⟨.float _, rfl⟩
  · exact gives_readNumber cs v rest h

section
variable {P : Document → Prop}

/-- Members of a mapping: texts for keys, and values with a property. -/
def MembersOf (P : Document → Prop) (es : Entries) : Prop := TextKeyed es ∧ ∀ e ∈ es, P e.2

theorem MembersOf.nil : MembersOf P [] := ⟨List.forall_mem_nil _, List.forall_mem_nil _⟩

theorem MembersOf.cons {es : Entries} (h : MembersOf P es) (name : String) {v : Document}
    (hv : P v) : MembersOf P ((.text name, v) :: es) :=
  ⟨List.forall_mem_cons.mpr ⟨rfl, h.1⟩, List.forall_mem_cons.mpr ⟨hv, h.2⟩⟩

/-- The readers of values, items and members, for a bound of the nesting. -/
structure Sound (P : Document → Prop) (fuel : Nat) : Prop where
  value (cs : List Char) : Gives P (readValue fuel cs)
  items (cs : List Char) : Gives (fun vs => ∀ v ∈ vs, P v) (readItems fuel cs)
  members (cs : List Char) : Gives (MembersOf P) (readMembers fuel cs)

theorem Sound.zero : Sound P 0 where
  value cs v rest h := by
    unfold readValue at h
    cases h
  items cs v rest h := by
    unfold readItems at h
    cases h
  members cs v rest h := by
    unfold readMembers at h
    cases h

section
variable {fuel : Nat} (h : Sound P fuel)
include h

theorem Sound.value_succ (hP : DataComposed P) (cs : List Char) :
    Gives P (readValue (fuel + 1) cs) := by
  unfold readValue
  split
  · refine Gives.bind (P := fun _ => True) (fun _ _ _ => trivial) fun s rest _ => ?_
    exact .ok (hP.leaf _ (.text _) rfl)
  · split
    · exact .ok (hP.seq _ fun v hv => absurd hv List.not_mem_nil)
    · exact (h.items _).bind fun items rest hitems => .ok (hP.seq _ hitems)
  · split
    · exact .ok (hP.map [] (List.forall_mem_nil _) (List.forall_mem_nil _))
    · exact (h.members _).bind fun members rest hmembers =>
        .ok (hP.map _ hmembers.1 hmembers.2)
  · intro v rest hv
    obtain ⟨hsimple, hleaf⟩ := gives_readScalar cs v rest hv
    exact hP.leaf v hsimple hleaf

theorem Sound.items_succ (cs : List Char) :
    Gives (fun vs => ∀ v ∈ vs, P v) (readItems (fuel + 1) cs) := by
  unfold readItems
  refine (h.value cs).bind fun v rest hv => ?_
  dsimp only
  split
  · exact .ok (List.forall_mem_singleton.mpr hv)
  · refine (h.items _).bind fun items rest hitems => ?_
    exact .ok (List.forall_mem_cons.mpr ⟨hv, hitems⟩)
  · intro vs rest hvs
    cases hvs

theorem Sound.members_succ (cs : List Char) : Gives (MembersOf P) (readMembers (fuel + 1) cs) := by
  unfold readMembers
  split
  · refine Gives.bind (P := fun _ => True) (fun _ _ _ => trivial) fun s rest _ => ?_
    dsimp only
    split
    · refine (h.value _).bind fun v rest hv => ?_
      dsimp only
      split
      · exact .ok (MembersOf.nil.cons _ hv)
      · exact (h.members _).bind fun members rest hmembers => .ok (hmembers.cons _ hv)
      · intro es rest hes
        cases hes
    · intro es rest hes
      cases hes
  · intro es rest hes
    cases hes

end

theorem sound (hP : DataComposed P) (fuel : Nat) : Sound P fuel := by
  induction fuel with
  | zero => exact .zero
  | succ fuel ih => exact ⟨ih.value_succ hP, ih.items_succ, ih.members_succ⟩

/-- Every value that is read from a data text has what such a text composes. -/
theorem composed_of_read (hP : DataComposed P) {s : String} {v : Document} (h : read s = .ok v) :
    P v := by
  unfold read at h
  dsimp only at h
  split at h
  · rename_i w hw
    cases h
    unfold readAll at hw
    split at hw
    · cases hw
    · obtain ⟨⟨v, rest⟩, hv, hrest⟩ := bind_eq_ok.mp hw
      dsimp only at hrest
      split at hrest
      · cases hrest
        exact (sound hP _).value _ _ _ hv
      · cases hrest
  · cases h
  · cases h

end

/-- Every value that is read from a data text is one that a data text can write. -/
theorem simple_of_read {s : String} {v : Document} (h : read s = .ok v) : v.Simple :=
  composed_of_read dataComposed_simple h

end Json
end ApiDrift
