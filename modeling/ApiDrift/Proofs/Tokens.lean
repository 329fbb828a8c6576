import ApiDrift.Json.Writer
import ApiDrift.Proofs.DataNotation
import Mathlib.Tactic.IntervalCases

/-!
# Texts and whole numbers in data texts

Inside quotation marks a character stands for itself or is escaped. One beyond the first plane is
escaped by a pair of surrogates, and no character is half of such a pair: every escape is read back
as the character it was made from. A whole number is read back where its digits do not go on after
it. With ASCII only, all that is written is printable.
-/
namespace ApiDrift
namespace Json
open Document
open Text hiding readText

variable {acc cs rest : List Char}

/-! ### Texts -/

section
variable {start : Nat}

theorem hexDigits_succ (width n : Nat) :
    hexDigits (width + 1) n = hexDigits width (n / 16) ++ hexDigits 1 n := rfl

theorem hexDigits_one (n : Nat) : ∃ c, hexDigits 1 n = [c] ∧ hexValue? c = some (n % 16) := by
  refine ⟨_, rfl, ?_⟩
  have hdigit : n % 16 < 16 := Nat.mod_lt n (by decide)
  generalize n % 16 = k at hdigit
  revert k
  decide

theorem hexFour?_hexDigits {n : Nat} (h : n < 0x10000) :
    ∃ a b c d, hexDigits 4 n = [a, b, c, d] ∧ hexFour? a b c d = some n := by
  obtain ⟨a, ha, hva⟩ := hexDigits_one (n / 16 / 16 / 16)
  obtain ⟨b, hb, hvb⟩ := hexDigits_one (n / 16 / 16)
  obtain ⟨c, hc, hvc⟩ := hexDigits_one (n / 16)
  obtain ⟨d, hd, hvd⟩ := hexDigits_one n
  refine ⟨a, b, c, d, ?_, ?_⟩
  · rw [hexDigits_succ, hexDigits_succ, hexDigits_succ, ha, hb, hc, hd]
    rfl
  · have hsum : ((n / 16 / 16 / 16 % 16 * 16 + n / 16 / 16 % 16) * 16 + n / 16 % 16) * 16 +
        n % 16 = n := by omega
    simp [hexFour?, hva, hvb, hvc, hvd, hsum]

theorem readText_quote (start : Nat) (acc rest : List Char) :
    readText start none acc ('"' :: rest) = .ok (acc.reverse, rest) := by
  rw [readText.eq_def]
  rfl

theorem readText_unit {n : Nat} (h : n < 0x10000) (hrest : rest ≠ []) :
    readText start none acc ('\\' :: 'u' :: hexDigits 4 n ++ rest) =
      if isHighSurrogate n then readText start (some n) acc rest
      else readText start none ((unitChars n).reverse ++ acc) rest := by
  obtain ⟨w, x, y, z, hdigits, hvalue⟩ := hexFour?_hexDigits h
  rw [hdigits]
  simp [readText, hvalue, hrest]

theorem readText_low {n high : Nat} (h : n < 0x10000) (hlow : isLowSurrogate n = true)
    (hrest : rest ≠ []) :
    readText start (some high) acc ('\\' :: 'u' :: hexDigits 4 n ++ rest) =
      readText start none (joinSurrogates high n :: acc) rest := by
  obtain ⟨w, x, y, z, hdigits, hvalue⟩ := hexFour?_hexDigits h
  rw [hdigits]
  simp [readText, hvalue, hrest, hlow]

theorem readText_simple {e d : Char} (he : simpleEscape? e = some d) (hu : e ≠ 'u') :
    readText start none acc ('\\' :: e :: rest) = readText start none (d :: acc) rest := by
  simp [readText, he]

theorem readText_plain {c : Char} (hquote : c ≠ '"') (hslash : c ≠ '\\')
    (hcontrol : 32 ≤ c.toNat) :
    readText start none acc (c :: rest) = readText start none (c :: acc) rest := by
  have h : ¬ c.toNat ≤ 31 := by omega
  rw [readText.eq_def]
  simp [hquote, hslash, h]

theorem isHighSurrogate_char (c : Char) : isHighSurrogate c.toNat = false := by
  have hvalid : c.toNat < 0xd800 ∨ 0xdfff < c.toNat ∧ c.toNat < 0x110000 := c.valid
  simp [isHighSurrogate]
  omega

theorem unitChars_char (c : Char) : unitChars c.toNat = [c] := by
  have hvalid : c.toNat < 0xd800 ∨ 0xdfff < c.toNat ∧ c.toNat < 0x110000 := c.valid
  have hlow : isLowSurrogate c.toNat = false := by
    simp [isLowSurrogate]
    omega
  simp [unitChars, isHighSurrogate_char, hlow, Char.ofNat_toNat]

theorem escapeWide_eq (c : Char) : escapeWide c =
    if c.toNat < 0x10000 then unitEscape c.toNat
    else unitEscape (0xd800 + (c.toNat - 0x10000) / 1024) ++
      unitEscape (0xdc00 + (c.toNat - 0x10000) % 1024) := rfl

theorem readText_char {c : Char} (hc : c.toNat < 0x10000) (hrest : rest ≠ []) :
    readText start none acc (unitEscape c.toNat ++ rest) = readText start none (c :: acc) rest := by
  rw [unitEscape, readText_unit hc hrest, isHighSurrogate_char, unitChars_char]
  rfl

/-- The escapes of the two halves of a pair are read as one character. -/
theorem readText_pair {n : Nat} (hn : n < 0x100000) (hrest : rest ≠ []) :
    readText start none acc
        (unitEscape (0xd800 + n / 1024) ++ (unitEscape (0xdc00 + n % 1024) ++ rest)) =
      readText start none (Char.ofNat (0x10000 + n) :: acc) rest := by
  have hhigh : isHighSurrogate (0xd800 + n / 1024) = true := by
    simp [isHighSurrogate]
    omega
  have hlow : isLowSurrogate (0xdc00 + n % 1024) = true := by
    simp [isLowSurrogate]
    omega
  have hsum : 0x10000 + (0xd800 + n / 1024 - 0xd800) * 1024 + (0xdc00 + n % 1024 - 0xdc00) =
      0x10000 + n := by omega
  have hnext : unitEscape (0xdc00 + n % 1024) ++ rest ≠ [] := by simp [unitEscape]
  rw [unitEscape, readText_unit (by omega) hnext, if_pos hhigh, unitEscape,
    readText_low (by omega) hlow hrest, joinSurrogates, hsum]

theorem readText_escapeWide {c : Char} (hrest : rest ≠ []) :
    readText start none acc (escapeWide c ++ rest) = readText start none (c :: acc) rest := by
  have hvalid : c.toNat < 0xd800 ∨ 0xdfff < c.toNat ∧ c.toNat < 0x110000 := c.valid
  rw [escapeWide_eq]
  split_ifs with hc
  · exact readText_char hc hrest
  · have hsum : 0x10000 + (c.toNat - 0x10000) = c.toNat := by omega
    rw [List.append_assoc, readText_pair (by omega) hrest, hsum, Char.ofNat_toNat]

theorem readText_escapeChar (ascii : Bool) {c : Char} (hrest : rest ≠ []) :
    readText start none acc (escapeChar ascii c ++ rest) =
      readText start none (c :: acc) rest := by
  unfold escapeChar
  split_ifs with hmark hn hr ht h8 h12 hcontrol hwide
  · have he : simpleEscape? c = some c := by
      simp only [Bool.or_eq_true, decide_eq_true_eq] at hmark
      rcases hmark with rfl | rfl <;> rfl
    refine readText_simple he ?_
    rintro rfl
    simp at hmark
  · exact hn ▸ readText_simple rfl (by decide)
  · exact hr ▸ readText_simple rfl (by decide)
  · exact ht ▸ readText_simple rfl (by decide)
  · have hc : Char.ofNat 8 = c := by rw [← h8, Char.ofNat_toNat]
    exact hc ▸ readText_simple rfl (by decide)
  · have hc : Char.ofNat 12 = c := by rw [← h12, Char.ofNat_toNat]
    exact hc ▸ readText_simple rfl (by decide)
  · exact readText_char (by omega) hrest
  · exact readText_escapeWide hrest
  · simp only [Bool.or_eq_true, decide_eq_true_eq, not_or] at hmark
    exact readText_plain hmark.1 hmark.2 (by omega)

theorem readText_flatMap (ascii : Bool) (start : Nat) (cs acc rest : List Char) :
    readText start none acc (cs.flatMap (escapeChar ascii) ++ '"' :: rest) =
      .ok (acc.reverse ++ cs, rest) := by
  induction cs generalizing acc with
  | nil => simpa using readText_quote start acc rest
  | cons c cs ih =>
    rw [List.flatMap_cons, List.append_assoc, readText_escapeChar ascii (by simp), ih]
    simp

/-- Nothing is half of a pair in a text that is written with ASCII only. -/
def Unbroken (ascii : Bool) (cs : List Char) : Prop := ascii = true → hasHalf cs = false

theorem unbroken_false (cs : List Char) : Unbroken false cs := fun h => nomatch h

/-- A text is read back up to its closing mark. Halves of pairs are written as escapes with ASCII
only, and two of them may be read as one character. -/
theorem readText_name {ascii : Bool} (h : Unbroken ascii cs) (start : Nat) (rest : List Char) :
    readText start none [] (escapeChars ascii cs ++ '"' :: rest) = .ok (cs, rest) := by
  have heq : escapeChars ascii cs = cs.flatMap (escapeChar ascii) := by
    unfold escapeChars
    split_ifs with hascii
    · exact spell_of_not_hasHalf (h hascii)
    · rfl
  rw [heq]
  exact readText_flatMap ascii start cs [] rest

end

/-! ### Whole numbers -/

/-- What may stand after a value: a number does not go on there. -/
def Follows (cs : List Char) : Prop :=
  ∀ c ∈ cs.head?, isAsciiDigit c = false ∧ c ≠ '.' ∧ c ≠ 'e' ∧ c ≠ 'E'

theorem follows_nil : Follows [] := fun _ h => by cases h

theorem follows_cons {c : Char} (h : isAsciiDigit c = false ∧ c ≠ '.' ∧ c ≠ 'e' ∧ c ≠ 'E') :
    Follows (c :: cs) := by
  intro d hd
  cases hd
  exact h

theorem splitFraction_of_follows (h : Follows cs) : splitFraction cs = (none, cs) := by
  unfold splitFraction
  split
  · exact absurd rfl (h '.' rfl).2.1
  · rfl

theorem splitExponent_of_follows (h : Follows cs) : splitExponent cs = (none, cs) := by
  cases cs with
  | nil => rfl
  | cons c cs =>
    obtain ⟨-, -, he, hE⟩ := h c rfl
    simp [splitExponent, he, hE]

theorem splitDigits_append {ds : List Char} (hds : ∀ d ∈ ds, isAsciiDigit d = true)
    (h : Follows cs) : splitDigits (ds ++ cs) = (ds, cs) := by
  have hnone : cs.takeWhile isAsciiDigit = [] ∧ cs.dropWhile isAsciiDigit = cs := by
    cases cs with
    | nil => exact ⟨rfl, rfl⟩
    | cons c cs => simp [(h c rfl).1]
  rw [splitDigits, List.takeWhile_append_of_pos hds, List.dropWhile_append_of_pos hds, hnone.1,
    hnone.2, List.append_nil]

theorem ne_of_isAsciiDigit {c d : Char} (hc : isAsciiDigit c = true)
    (hd : isAsciiDigit d = false) : c ≠ d := by
  rintro rfl
  exact Bool.false_ne_true (hd.symm.trans hc)

theorem isAsciiDigit_of_isDigit {c : Char} (h : c.isDigit = true) : isAsciiDigit c = true := by
  simpa [isAsciiDigit, Char.isDigit, Char.le_def] using h

theorem isAsciiDigit_of_mem_toDigits (n : Nat) :
    ∀ d ∈ Nat.toDigits 10 n, isAsciiDigit d = true := fun _ hd =>
  isAsciiDigit_of_isDigit (Nat.isDigit_of_mem_toDigits (by decide) (by decide) hd)

theorem toDigits_ten_ne_nil (n : Nat) : Nat.toDigits 10 n ≠ [] := Nat.toDigits_ne_nil

theorem exists_toDigits (n : Nat) :
    ∃ d ds, Nat.toDigits 10 n = d :: ds ∧ isAsciiDigit d = true := by
  obtain ⟨d, ds, hds⟩ := List.exists_cons_of_ne_nil (toDigits_ten_ne_nil n)
  exact ⟨d, ds, hds, isAsciiDigit_of_mem_toDigits n d (by simp [hds])⟩

theorem digitsValue_toDigits (n : Nat) : digitsValue (Nat.toDigits 10 n) = n := by
  have h : Nat.ofDigitChars 10 (Nat.toDigits 10 n) 0 = n := Nat.ofDigitChars_ten_toDigits
  rw [Nat.ofDigitChars_eq_foldl] at h
  simp only [Nat.mul_comm 10] at h
  exact h

theorem toDigits_head?_ne {n : Nat} (h : 0 < n) : (Nat.toDigits 10 n).head? ≠ some '0' := by
  -- Without its last digit a number begins as it did.
  induction n using Nat.strongRecOn with
  | _ n ih =>
    by_cases hn : n < 10
    · rw [Nat.toDigits_of_lt_base hn]
      clear ih
      interval_cases n <;> decide
    · have hhead := ih (n / 10) (by omega) (by omega)
      rw [Nat.toDigits_of_base_le (by decide) (by omega),
        List.head?_append_of_ne_nil _ (toDigits_ten_ne_nil _)]
      exact hhead

theorem splitWhole_toDigits (n : Nat) (h : Follows cs) :
    splitWhole (Nat.toDigits 10 n ++ cs) = (Nat.toDigits 10 n, cs) := by
  rcases Nat.eq_zero_or_pos n with rfl | hn
  · rfl
  · have hsplit := splitDigits_append (isAsciiDigit_of_mem_toDigits n) h
    have hzero := toDigits_head?_ne hn
    unfold splitWhole
    split
    · rename_i after heq
      have hhead : (Nat.toDigits 10 n ++ cs).head? = (Nat.toDigits 10 n).head? :=
        List.head?_append_of_ne_nil _ (toDigits_ten_ne_nil n)
      rw [heq] at hhead
      exact absurd hhead.symm hzero
    · exact hsplit

theorem powerOfTen_lt {m n : Nat} (h : m < n) : Number.powerOfTen m < Number.powerOfTen n :=
  Nat.pow_lt_pow_right (by decide) h

theorem length_toDigits_le_iff {n k : Nat} (hk : 0 < k) :
    (Nat.toDigits 10 n).length ≤ k ↔ n < Number.powerOfTen k :=
  Nat.length_toDigits_le_iff (by decide) hk

theorem digitLimit_lt_iff {n : Nat} :
    Number.digitLimit < (Nat.toDigits 10 n).length ↔ ¬ n < textLimit := by
  rw [← Nat.not_le, length_toDigits_le_iff (by decide)]
  rfl

theorem toList_toString_nonneg (n : Nat) : (toString (n : Int)).toList = Nat.toDigits 10 n := by
  rw [Int.toString_eq_repr, Int.repr_eq_if, if_pos (Int.natCast_nonneg n), Int.toNat_natCast,
    Nat.repr_eq_ofList_toDigits, String.toList_ofList]

theorem toList_toString_neg {n : Int} (h : ¬ 0 ≤ n) :
    (toString n).toList = '-' :: Nat.toDigits 10 n.natAbs := by
  have habs : (-n).toNat = n.natAbs := by omega
  rw [Int.toString_eq_repr, Int.repr_eq_if, if_neg h, String.toList_append,
    Nat.repr_eq_ofList_toDigits, String.toList_ofList, habs]
  simp

section
variable {body whole : List Char} (hwhole : splitWhole body = (whole, rest)) (hne : whole ≠ [])
  (hrest : Follows rest)
include hwhole hne hrest

theorem readNumber_minus : readNumber ('-' :: body) =
    if Number.digitLimit < whole.length then .error (.tooLong whole.length)
    else .ok (.int (-(digitsValue whole : Int)), rest) := by
  obtain ⟨d, ds, rfl⟩ := List.exists_cons_of_ne_nil hne
  simp [-List.length_cons, readNumber, hwhole, splitFraction_of_follows hrest,
    splitExponent_of_follows hrest]

theorem readNumber_whole (hsign : ∀ cs, body ≠ '-' :: cs) : readNumber body =
    if Number.digitLimit < whole.length then .error (.tooLong whole.length)
    else .ok (.int (digitsValue whole), rest) := by
  obtain ⟨d, ds, rfl⟩ := List.exists_cons_of_ne_nil hne
  simp [-List.length_cons, readNumber, hwhole, splitFraction_of_follows hrest,
    splitExponent_of_follows hrest]

end

/-- A whole number is read back, or refused for the number of its digits. -/
theorem readNumber_toString (n : Int) (hrest : Follows rest) :
    readNumber ((toString n).toList ++ rest) =
      if n.natAbs < textLimit then .ok (.int n, rest)
      else .error (.tooLong (Nat.toDigits 10 n.natAbs).length) := by
  have hwhole := splitWhole_toDigits n.natAbs hrest
  have hne := toDigits_ten_ne_nil n.natAbs
  by_cases hsign : 0 ≤ n
  · obtain ⟨m, rfl⟩ := Int.eq_ofNat_of_zero_le hsign
    rw [Int.natAbs_natCast] at hwhole hne ⊢
    have hminus : ∀ cs, Nat.toDigits 10 m ++ rest ≠ '-' :: cs := by
      intro cs heq
      obtain ⟨d, ds, hds, hdigit⟩ := exists_toDigits m
      rw [hds, List.cons_append, List.cons.injEq] at heq
      exact ne_of_isAsciiDigit hdigit (by decide) heq.1
    rw [toList_toString_nonneg, readNumber_whole hwhole hne hrest hminus, digitsValue_toDigits]
    simp only [digitLimit_lt_iff, ite_not]
  · have hvalue : -(n.natAbs : Int) = n := by omega
    rw [toList_toString_neg hsign, List.cons_append, readNumber_minus hwhole hne hrest,
      digitsValue_toDigits, hvalue]
    simp only [digitLimit_lt_iff, ite_not]

/-- The characters with which a value begins. -/
def Opens (c : Char) : Prop :=
  isAsciiDigit c = true ∨ c ∈ ['n', 't', 'f', '-', '"', '[', '\x7b']

theorem Opens.apart {c : Char} (h : Opens c) : isSpace c = false ∧ c ≠ ']' ∧ c ≠ '\ufeff' := by
  rcases h with h | h
  · have hne (d : Char) (hd : isAsciiDigit d = false) : c ≠ d := ne_of_isAsciiDigit h hd
    refine ⟨?_, hne _ (by decide), hne _ (by decide)⟩
    simp [isSpace, hne ' ' (by decide), hne '\t' (by decide), hne '\n' (by decide),
      hne '\r' (by decide)]
  · simp only [List.mem_cons, List.not_mem_nil, or_false] at h
    rcases h with rfl | rfl | rfl | rfl | rfl | rfl | rfl <;> decide

theorem readScalar_null : readScalar ("null".toList ++ rest) = .ok (.null, rest) := rfl

theorem readScalar_bool (b : Bool) :
    readScalar ((if b then "true" else "false").toList ++ rest) = .ok (.bool b, rest) := by
  cases b <;> rfl

/-- Whether there is a digit at the front, or one after a sign. -/
def beginsNumber : List Char → Bool
  | c :: d :: _ => isAsciiDigit c || c == '-' && isAsciiDigit d
  | [c] => isAsciiDigit c
  | [] => false

theorem beginsNumber_digit {c : Char} (h : isAsciiDigit c = true) (cs : List Char) :
    beginsNumber (c :: cs) = true := by
  cases cs <;> simp [beginsNumber, h]

theorem beginsNumber_longer {ds : List Char} (h : ds <+: cs) (hlen : 2 ≤ ds.length) :
    beginsNumber cs = beginsNumber ds := by
  obtain ⟨after, rfl⟩ := h
  match ds, hlen with
  | _ :: _ :: _, _ => rfl

theorem readScalar_number (h : beginsNumber cs = true) : readScalar cs = readNumber cs := by
  -- No word begins as a number does, so a number is none of them.
  have hwords : ∀ w ∈ words, 2 ≤ w.1.toList.length ∧ beginsNumber w.1.toList = false := by decide
  have hnone :
      (words.findSome? fun w => (dropWord? w.1 cs).map fun rest => (w.2, rest)) = none := by
    rw [List.findSome?_eq_none_iff]
    intro w hw
    have hprefix : ¬ w.1.toList <+: cs := by
      intro hprefix
      obtain ⟨hlen, hword⟩ := hwords w hw
      rw [beginsNumber_longer hprefix hlen, hword] at h
      cases h
    simp [dropWord?, hprefix]
  rw [readScalar, hnone]

theorem exists_toString (n : Int) : ∃ c cs, (toString n).toList = c :: cs ∧
    (isAsciiDigit c = true ∨ c = '-') ∧ ∀ rest, beginsNumber (c :: cs ++ rest) = true := by
  by_cases hsign : 0 ≤ n
  · obtain ⟨m, rfl⟩ := Int.eq_ofNat_of_zero_le hsign
    obtain ⟨d, ds, hds, hdigit⟩ := exists_toDigits m
    exact ⟨d, ds, (toList_toString_nonneg m).trans hds, .inl hdigit, fun rest =>
      beginsNumber_digit hdigit _⟩
  · obtain ⟨d, ds, hds, hdigit⟩ := exists_toDigits n.natAbs
    refine ⟨'-', d :: ds, by rw [toList_toString_neg hsign, hds], .inr rfl, fun rest => ?_⟩
    simp [beginsNumber, hdigit]

/-! ### Printable characters -/

/-- Whether all characters are printable ones of the ASCII range. -/
def Printable (cs : List Char) : Prop := ∀ c ∈ cs, 32 ≤ c.toNat ∧ c.toNat ≤ 126

instance (cs : List Char) : Decidable (Printable cs) :=
  List.decidableBAll (fun c : Char => 32 ≤ c.toNat ∧ c.toNat ≤ 126) cs

@[simp] theorem printable_append {cs ds : List Char} :
    Printable (cs ++ ds) ↔ Printable cs ∧ Printable ds :=
  List.forall_mem_append

@[simp] theorem printable_cons {c : Char} {cs : List Char} :
    Printable (c :: cs) ↔ (32 ≤ c.toNat ∧ c.toNat ≤ 126) ∧ Printable cs :=
  List.forall_mem_cons

@[simp] theorem printable_nil : Printable [] := List.forall_mem_nil _

theorem toNat_of_isAsciiDigit {c : Char} (h : isAsciiDigit c = true) :
    32 ≤ c.toNat ∧ c.toNat ≤ 126 := by
  rw [isAsciiDigit, Bool.and_eq_true, decide_eq_true_eq, decide_eq_true_eq] at h
  have hlow : 48 ≤ c.toNat := h.1
  have hhigh : c.toNat ≤ 57 := h.2
  omega

theorem toNat_of_hexValue? {c : Char} {n : Nat} (h : hexValue? c = some n) :
    32 ≤ c.toNat ∧ c.toNat ≤ 126 := by
  unfold hexValue? at h
  split_ifs at h with hdigit hlower hupper
  · exact toNat_of_isAsciiDigit hdigit
  · rw [Bool.and_eq_true, decide_eq_true_eq, decide_eq_true_eq] at hlower
    have hlow : 97 ≤ c.toNat := hlower.1
    have hhigh : c.toNat ≤ 102 := hlower.2
    omega
  · rw [Bool.and_eq_true, decide_eq_true_eq, decide_eq_true_eq] at hupper
    have hlow : 65 ≤ c.toNat := hupper.1
    have hhigh : c.toNat ≤ 70 := hupper.2
    omega

theorem printable_hexDigits (width n : Nat) : Printable (hexDigits width n) := by
  induction width generalizing n with
  | zero => exact printable_nil
  | succ width ih =>
    obtain ⟨c, hc, hvalue⟩ := hexDigits_one n
    rw [hexDigits_succ, hc, printable_append]
    exact ⟨ih (n / 16), by simpa using toNat_of_hexValue? hvalue⟩

theorem printable_unitEscape (n : Nat) : Printable (unitEscape n) := by
  simp [unitEscape, printable_hexDigits]

theorem printable_escapeWide (c : Char) : Printable (escapeWide c) := by
  rw [escapeWide_eq]
  split_ifs <;> simp [printable_unitEscape]

theorem printable_escapeChar (c : Char) : Printable (escapeChar true c) := by
  unfold escapeChar
  split_ifs with hmark hn hr ht h8 h12 hcontrol hwide
  · simp only [Bool.or_eq_true, decide_eq_true_eq] at hmark
    rcases hmark with rfl | rfl <;> decide
  · decide
  · decide
  · decide
  · decide
  · decide
  · exact printable_unitEscape _
  · exact printable_escapeWide c
  · simp at hwide
    simp
    omega

theorem printable_spell {f : Char → List Char} (h : ∀ c, Printable (f c)) (cs : List Char) :
    Printable (spell f cs) := by
  fun_induction spell f cs with
  | case1 a b rest n hn ih => simp [printable_unitEscape, ih]
  | case2 a b rest hn ih => simp [h, ih]
  | case3 a => exact h a
  | case4 => exact printable_nil

theorem printable_writeText (s : String) : Printable (writeText true s) := by
  have hbody : Printable (escapeChars true s.toList) := printable_spell printable_escapeChar _
  simp [writeText, hbody]

theorem printable_toString (n : Int) : Printable (toString n).toList := by
  have hdigits (m : Nat) : Printable (Nat.toDigits 10 m) := fun d hd =>
    toNat_of_isAsciiDigit (isAsciiDigit_of_mem_toDigits m d hd)
  by_cases hsign : 0 ≤ n
  · obtain ⟨m, rfl⟩ := Int.eq_ofNat_of_zero_le hsign
    rw [toList_toString_nonneg]
    exact hdigits m
  · rw [toList_toString_neg hsign]
    simp [hdigits]

end Json
end ApiDrift
