import ApiDrift.Text.Scan
import Mathlib.Data.List.TakeWhile

/-!
# What a scan finds

A scan tries a recogniser at every place of a text and goes on behind each success. The equations
here say what one step does, without the number of characters that are still to be passed over.

A recogniser stops at a character if it needs that character and reads nothing behind the first one.
What such a recogniser finds up to an occurrence of the character does not depend on what follows,
and what it finds from there on does not depend on what was before: the scan falls apart at the
occurrence. Recognisers that stop at a character are put together from parts that stay before it.
-/
namespace ApiDrift.Text

variable {α β : Type}

section
variable {r : Recogniser α} {x : α} {c : Char} {cs text after : List Char}

theorem findFrom_eq_findAll_drop (skip : Nat) (cs : List Char) :
    findFrom r skip cs = findAll r (cs.drop skip) := by
  induction cs generalizing skip with
  | nil => simp [findAll, findFrom]
  | cons c rest ih =>
    cases skip with
    | zero => rfl
    | succ skip =>
      rw [List.drop_succ_cons, ← ih]
      rfl

theorem exists_of_mem_findFrom {skip : Nat} (h : x ∈ findFrom r skip cs) :
    ∃ front rest, r front = some (x, rest) := by
  induction cs generalizing skip with
  | nil => simp [findFrom] at h
  | cons c cs ih =>
    cases skip with
    | succ skip => exact ih h
    | zero =>
      unfold findFrom at h
      cases hr : r (c :: cs) with
      | none =>
        rw [hr] at h
        exact ih h
      | some found =>
        obtain ⟨y, rest⟩ := found
        rw [hr] at h
        rcases List.mem_cons.mp h with rfl | h
        · exact ⟨_, _, hr⟩
        · exact ih h

/-- What a scan finds was recognised at some place. -/
theorem exists_of_mem_findAll (h : x ∈ findAll r cs) : ∃ front rest, r front = some (x, rest) :=
  exists_of_mem_findFrom h

theorem findAll_cons_of_none (h : r (c :: cs) = none) : findAll r (c :: cs) = findAll r cs := by
  simp only [findAll, findFrom, h]

theorem findAll_append_of_some (hne : text ≠ []) (h : r (text ++ after) = some (x, after)) :
    findAll r (text ++ after) = x :: findAll r after := by
  cases text with
  | nil => exact absurd rfl hne
  | cons c front =>
    have hskip : (front ++ after).length - after.length = front.length := by
      rw [List.length_append]
      omega
    rw [List.cons_append] at h ⊢
    simp only [findAll, findFrom, h]
    rw [hskip, findFrom_eq_findAll_drop, List.drop_left]
    rfl

end

/-- The recogniser needs the character and reads up to the first one at most. -/
structure StopsAt (c : Char) (r : Recogniser α) : Prop where
  needs : ∀ u, c ∉ u → r u = none
  upTo : ∀ u, c ∉ u → ∃ o : Option α, ∀ v, r (u ++ c :: v) = o.map fun x => (x, v)

/-- The text is empty or ends with the character. -/
def ClosedBy (c : Char) (text : List Char) : Prop := text = [] ∨ text.getLast? = some c

section
variable {c d : Char} {r s : Recogniser α} {text : List Char}

theorem ClosedBy.tail (h : ClosedBy c (d :: text)) : ClosedBy c text := by
  cases text with
  | nil => exact .inl rfl
  | cons e text =>
    have hlast := h.resolve_left (List.cons_ne_nil _ _)
    rw [List.getLast?_cons_cons] at hlast
    exact .inr hlast

theorem ClosedBy.of_append {front : List Char} (h : ClosedBy c (front ++ text)) :
    ClosedBy c text := by
  induction front with
  | nil => exact h
  | cons d front ih => exact ih h.tail

theorem ClosedBy.mem (h : ClosedBy c (d :: text)) : c ∈ d :: text :=
  List.mem_of_getLast? (h.resolve_left (List.cons_ne_nil _ _))

theorem StopsAt.findAll_eq_nil (h : StopsAt c r) (htext : c ∉ text) : findAll r text = [] := by
  induction text with
  | nil => rfl
  | cons d text ih =>
    rw [findAll_cons_of_none (h.needs _ htext)]
    exact ih (List.not_mem_of_not_mem_cons htext)

/-- A scan falls apart where the text is cut behind the character. -/
theorem StopsAt.findAll_append (h : StopsAt c r) (htext : ClosedBy c text) (b : List Char) :
    findAll r (text ++ b) = findAll r text ++ findAll r b := by
  -- A success takes the text away up to its first `c`, a failure one character: both leave a text
  -- that is shorter and still closed.
  induction hn : text.length using Nat.strongRecOn generalizing text with
  | ind n ih =>
    cases text with
    | nil => rfl
    | cons d text =>
      obtain ⟨u, w, heq, hu⟩ := List.eq_append_cons_of_mem htext.mem
      obtain ⟨o, ho⟩ := h.upTo u hu
      have hlong : d :: (text ++ b) = u ++ c :: (w ++ b) := by
        rw [← List.cons_append, heq, List.append_assoc, List.cons_append]
      cases o with
      | none =>
        have hfail : r (d :: text) = none := heq ▸ ho w
        have hfail' : r (d :: (text ++ b)) = none := hlong ▸ ho (w ++ b)
        rw [List.cons_append, findAll_cons_of_none hfail, findAll_cons_of_none hfail']
        exact ih text.length (by simp [← hn]) htext.tail rfl
      | some x =>
        have hsplit : ∀ v, u ++ c :: v = (u ++ [c]) ++ v := fun v => List.append_cons u c v
        have hfind : ∀ v, findAll r (u ++ c :: v) = x :: findAll r v := by
          intro v
          have hv := ho v
          rw [hsplit] at hv ⊢
          exact findAll_append_of_some (by simp) hv
        have hw : ClosedBy c w := by
          rw [heq, hsplit] at htext
          exact htext.of_append
        have hlength : w.length < n := by
          rw [← hn, heq, List.length_append, List.length_cons]
          omega
        rw [List.cons_append, hlong, heq, hfind, hfind, ih w.length hlength hw rfl,
          List.cons_append]

theorem StopsAt.const_none : StopsAt c (fun _ => none : Recogniser α) where
  needs _ _ := rfl
  upTo _ _ := ⟨none, fun _ => rfl⟩

theorem StopsAt.or (hr : StopsAt c r) (hs : StopsAt c s) :
    StopsAt c fun cs => (r cs).or (s cs) where
  needs u hu := by rw [hr.needs u hu, hs.needs u hu, Option.or_none]
  upTo u hu := by
    obtain ⟨o, ho⟩ := hr.upTo u hu
    obtain ⟨p, hp⟩ := hs.upTo u hu
    refine ⟨o.or p, fun v => ?_⟩
    rw [ho, hp]
    cases o <;> rfl

theorem StopsAt.map (hr : StopsAt c r) (f : α → β) :
    StopsAt c fun cs => do
      let (x, rest) ← r cs
      return (f x, rest) where
  needs u hu := by rw [hr.needs u hu]; rfl
  upTo u hu := by
    obtain ⟨o, ho⟩ := hr.upTo u hu
    refine ⟨o.map f, fun v => ?_⟩
    rw [ho]
    cases o <;> rfl

theorem StopsAt.ofAppend {front : List Char} (hr : StopsAt c r) (hfront : c ∉ front) :
    StopsAt c fun cs => r (front ++ cs) where
  needs u hu := hr.needs _ (by simp [hfront, hu])
  upTo u hu := by
    obtain ⟨o, ho⟩ := hr.upTo (front ++ u) (by simp [hfront, hu])
    exact ⟨o, fun v => by rw [← List.append_assoc]; exact ho v⟩

end

/-! The leaves of a recogniser, on a text with a character that they cannot pass. -/

section
variable {c : Char} {p : Char → Bool} {w : List Char}

theorem takeWhile_append_cons (h : p c = false) (u v : List Char) :
    (u ++ c :: v).takeWhile p = u.takeWhile p := by
  induction u with
  | nil => rw [List.nil_append, List.takeWhile_cons_of_neg (by simp [h]), List.takeWhile_nil]
  | cons d u ih =>
    by_cases hd : p d = true
    · rw [List.cons_append, List.takeWhile_cons_of_pos hd, List.takeWhile_cons_of_pos hd, ih]
    · rw [List.cons_append, List.takeWhile_cons_of_neg hd, List.takeWhile_cons_of_neg hd]

theorem dropWhile_append_cons (h : p c = false) (u v : List Char) :
    (u ++ c :: v).dropWhile p = u.dropWhile p ++ c :: v := by
  induction u with
  | nil => rw [List.nil_append, List.dropWhile_cons_of_neg (by simp [h]), List.dropWhile_nil,
      List.nil_append]
  | cons d u ih =>
    by_cases hd : p d = true
    · rw [List.cons_append, List.dropWhile_cons_of_pos hd, List.dropWhile_cons_of_pos hd, ih]
    · rw [List.cons_append, List.dropWhile_cons_of_neg hd, List.dropWhile_cons_of_neg hd,
        List.cons_append]

theorem prefix_append_cons_iff (h : c ∉ w) {u v : List Char} :
    w <+: u ++ c :: v ↔ w <+: u := by
  constructor
  · intro hw
    rcases List.prefix_or_prefix_of_prefix hw (List.prefix_append u (c :: v)) with hwu | huw
    · exact hwu
    · obtain ⟨t, rfl⟩ := huw
      rw [List.prefix_append_right_inj] at hw
      cases t with
      | nil => simp
      | cons d t =>
        obtain ⟨rfl, -⟩ := List.cons_prefix_cons.mp hw
        exact absurd (by simp) h
  · intro hw
    exact hw.trans (List.prefix_append u _)

theorem skipBlanks_append (h : isBlank c = false) (u v : List Char) :
    skipBlanks (u ++ c :: v) = skipBlanks u ++ c :: v :=
  dropWhile_append_cons h u v

theorem literal?_append {word : String} (h : c ∉ word.toList) (u v : List Char) :
    literal? word (u ++ c :: v) = (literal? word u).map (· ++ c :: v) := by
  have hiff : word.toList.isPrefixOf (u ++ c :: v) = word.toList.isPrefixOf u := by
    rw [Bool.eq_iff_iff, List.isPrefixOf_iff_prefix, List.isPrefixOf_iff_prefix,
      prefix_append_cons_iff h]
  simp only [literal?, hiff]
  by_cases hu : word.toList.isPrefixOf u = true
  · obtain ⟨t, rfl⟩ := List.isPrefixOf_iff_prefix.mp hu
    rw [if_pos hu, if_pos hu, Option.map_some, List.append_assoc, List.drop_left, List.drop_left]
  · rw [if_neg hu, if_neg hu, Option.map_none]

theorem blanks?_append (h : isBlank c = false) (u v : List Char) :
    blanks? (u ++ c :: v) = (blanks? u).map (· ++ c :: v) := by
  cases u with
  | nil => simp [blanks?, h]
  | cons d u =>
    by_cases hd : isBlank d = true
    · rw [List.cons_append, blanks?, blanks?, if_pos hd, if_pos hd, Option.map_some,
        ← List.cons_append, skipBlanks_append h]
    · rw [List.cons_append, blanks?, blanks?, if_neg hd, if_neg hd, Option.map_none]

theorem word?_append (h : isWordChar c = false) (u v : List Char) :
    word? (u ++ c :: v) = (word? u).map fun p => (p.1, p.2 ++ c :: v) := by
  simp only [word?, takeWhile_append_cons h, dropWhile_append_cons h]
  split <;> rfl

end

/-- Whatever begins with the character stays behind what the recogniser leaves. -/
structure StaysBefore (c : Char) (f : Recogniser α) : Prop where
  append : ∀ u v, f (u ++ c :: v) = (f u).map fun p => (p.1, p.2 ++ c :: v)
  suffix : ∀ u x rest, f u = some (x, rest) → rest <:+ u

/-- A step over characters, as a recogniser of nothing. -/
def passing (f : List Char → Option (List Char)) : Recogniser Unit :=
  fun cs => (f cs).map fun rest => ((), rest)

section
variable {c : Char}

theorem StaysBefore.passing {f : List Char → Option (List Char)}
    (happend : ∀ u v, f (u ++ c :: v) = (f u).map (· ++ c :: v))
    (hsuffix : ∀ u rest, f u = some rest → rest <:+ u) : StaysBefore c (passing f) where
  append u v := by
    rw [Text.passing, Text.passing, happend]
    cases f u <;> rfl
  suffix u x rest h := by
    obtain ⟨rest', hrest, heq⟩ := Option.map_eq_some_iff.mp h
    cases heq
    exact hsuffix u rest hrest

theorem StaysBefore.literal {word : String} (h : c ∉ word.toList) :
    StaysBefore c (Text.passing (literal? word)) := by
  refine .passing (literal?_append h) fun u rest hu => ?_
  unfold literal? at hu
  split at hu
  · cases hu
    exact List.drop_suffix _ _
  · cases hu

theorem StaysBefore.blanks (h : isBlank c = false) : StaysBefore c (Text.passing blanks?) := by
  refine .passing (blanks?_append h) fun u rest hu => ?_
  unfold blanks? at hu
  split at hu
  · split at hu
    · cases hu
      exact List.dropWhile_suffix _
    · cases hu
  · cases hu

theorem StaysBefore.word (h : isWordChar c = false) : StaysBefore c word? where
  append := word?_append h
  suffix u x rest hu := by
    unfold word? at hu
    dsimp only at hu
    split at hu
    · cases hu
    · cases hu
      exact List.dropWhile_suffix _

theorem StaysBefore.map {r : Recogniser α} (hr : StaysBefore c r) (f : α → β) :
    StaysBefore c fun cs => (r cs).map fun p => (f p.1, p.2) where
  append u v := by
    rw [hr.append]
    cases r u <;> rfl
  suffix u x rest h := by
    obtain ⟨⟨y, rest'⟩, hrest, heq⟩ := Option.map_eq_some_iff.mp h
    cases heq
    exact hr.suffix u y _ hrest

section
variable {f : Recogniser α} {g : α × List Char → Option (β × List Char)}

theorem StaysBefore.bind (hf : StaysBefore c f) (hg : ∀ x, StaysBefore c fun rest => g (x, rest)) :
    StaysBefore c fun cs => f cs >>= g where
  append u v := by
    rw [hf.append]
    cases f u with
    | none => rfl
    | some p => exact (hg p.1).append p.2 v
  suffix u y rest h := by
    obtain ⟨⟨x, rest'⟩, hx, hy⟩ := Option.bind_eq_some_iff.mp h
    exact ((hg x).suffix rest' y rest hy).trans (hf.suffix u x rest' hx)

theorem StopsAt.bind (hf : StaysBefore c f) (hg : ∀ x, StopsAt c fun rest => g (x, rest)) :
    StopsAt c fun cs => f cs >>= g where
  needs u hu := by
    cases hx : f u with
    | none => rfl
    | some p => exact (hg p.1).needs p.2 fun hmem => hu ((hf.suffix u p.1 p.2 hx).mem hmem)
  upTo u hu := by
    cases hx : f u with
    | none =>
      refine ⟨none, fun v => ?_⟩
      rw [hf.append, hx]
      rfl
    | some p =>
      obtain ⟨o, ho⟩ := (hg p.1).upTo p.2 fun hmem => hu ((hf.suffix u p.1 p.2 hx).mem hmem)
      refine ⟨o, fun v => ?_⟩
      rw [hf.append, hx]
      exact ho v

end

section
variable {f : List Char → Option (List Char)} {r : Recogniser α}

theorem passing_bind (cs : List Char) : (Text.passing f cs >>= fun p => r p.2) = f cs >>= r := by
  rw [Text.passing]
  cases f cs <;> rfl

theorem StaysBefore.after (hf : StaysBefore c (Text.passing f)) (hr : StaysBefore c r) :
    StaysBefore c fun cs => f cs >>= r := by
  have h := hf.bind (g := fun p => r p.2) fun _ => hr
  simpa only [passing_bind] using h

theorem StopsAt.after (hf : StaysBefore c (Text.passing f)) (hr : StopsAt c r) :
    StopsAt c fun cs => f cs >>= r := by
  have h := StopsAt.bind (g := fun p => r p.2) hf fun _ => hr
  simpa only [passing_bind] using h

theorem StopsAt.ofSkipBlanks (hr : StopsAt c r) (hc : isBlank c = false) :
    StopsAt c fun cs => r (skipBlanks cs) := by
  refine .after (.passing (f := fun cs => some (skipBlanks cs)) ?_ ?_) hr
  · intro u v
    rw [skipBlanks_append hc, Option.map_some]
  · intro u rest hu
    cases hu
    exact List.dropWhile_suffix _

end

theorem StaysBefore.blankWord (hblank : isBlank c = false) (hword : isWordChar c = false) :
    StaysBefore c blankWord? :=
  .after (.blanks hblank) (.word hword)

theorem takeWhile_of_notMem {u : List Char} (hu : c ∉ u) : u.takeWhile (· != c) = u :=
  List.takeWhile_eq_self_iff.mpr fun _ hd => bne_iff_ne.mpr fun heq => hu (heq ▸ hd)

theorem dropWhile_eq_nil_of_notMem {u : List Char} (hu : c ∉ u) : u.dropWhile (· != c) = [] :=
  List.dropWhile_eq_nil_iff.mpr fun _ hd => bne_iff_ne.mpr fun heq => hu (heq ▸ hd)

/-- A text is cut at the first occurrence of a character in one way. -/
theorem append_cons_inj {u u' v v' : List Char} (hu : c ∉ u) (hu' : c ∉ u')
    (h : u ++ c :: v = u' ++ c :: v') : u = u' ∧ v = v' := by
  have htake := congrArg (List.takeWhile (· != c)) h
  have hc : (c != c) = false := bne_self_eq_false c
  rw [takeWhile_append_cons (p := (· != c)) hc, takeWhile_append_cons (p := (· != c)) hc,
    takeWhile_of_notMem hu, takeWhile_of_notMem hu'] at htake
  subst htake
  exact ⟨rfl, (List.cons_inj_right c).mp (List.append_cancel_left h)⟩

theorem braced?_append {body rest : List Char} (hbody : '\x7d' ∉ body) :
    braced? ('\x7b' :: (body ++ '\x7d' :: rest)) =
      if body.isEmpty then none else some (body, rest) := by
  have htake : (body ++ '\x7d' :: rest).takeWhile (· != '\x7d') = body := by
    rw [takeWhile_append_cons rfl, takeWhile_of_notMem hbody]
  have hdrop : (body ++ '\x7d' :: rest).dropWhile (· != '\x7d') = '\x7d' :: rest := by
    rw [dropWhile_append_cons rfl, dropWhile_eq_nil_of_notMem hbody, List.nil_append]
  simp only [braced?, char?, if_true, Option.bind_eq_bind, Option.bind_some, htake, hdrop]

theorem stopsAt_braced : StopsAt '\x7d' braced? where
  needs u hu := by
    cases u with
    | nil => rfl
    | cons d u =>
      by_cases hd : d = '\x7b'
      · subst hd
        have hdrop := dropWhile_eq_nil_of_notMem (List.not_mem_of_not_mem_cons hu)
        simp only [braced?, char?, if_true, Option.bind_eq_bind, Option.bind_some, hdrop,
          Option.bind_none]
      · simp [braced?, char?, hd]
  upTo u hu := by
    cases u with
    | nil => exact ⟨none, fun v => rfl⟩
    | cons d u =>
      by_cases hd : d = '\x7b'
      · subst hd
        have hu' := List.not_mem_of_not_mem_cons hu
        refine ⟨if u.isEmpty then none else some u, fun v => ?_⟩
        rw [List.cons_append, braced?_append hu']
        split <;> rfl
      · refine ⟨none, fun v => ?_⟩
        simp [braced?, char?, hd]

end

end ApiDrift.Text
