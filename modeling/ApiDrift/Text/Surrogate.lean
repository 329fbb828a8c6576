/-!
# Surrogates

Code units that come in pairs: two of them stand for one character beyond the first plane. Half of a
pair stands for no character, yet an escape can put one into a text. There it is held by two
characters: a mark, the last code point of all, which is set aside for such use, and a character for
the half.
-/

namespace ApiDrift.Text

def isHighSurrogate (n : Nat) : Bool := 0xd800 ≤ n && n ≤ 0xdbff

def isLowSurrogate (n : Nat) : Bool := 0xdc00 ≤ n && n ≤ 0xdfff

/-- The character that a pair of surrogates stands for. -/
def joinSurrogates (high low : Nat) : Char :=
  Char.ofNat (0x10000 + (high - 0xd800) * 1024 + (low - 0xdc00))

/-- What stands before the character that holds half of a pair. -/
def halfMark : Char := Char.ofNat 0x10ffff

/-- The characters that hold a code unit. -/
def unitChars (n : Nat) : List Char :=
  if isHighSurrogate n || isLowSurrogate n then [halfMark, Char.ofNat (n + 0x800)]
  else [Char.ofNat n]

/-- The half of a pair that two characters hold. -/
def halfOf? (mark c : Char) : Option Nat :=
  if mark = halfMark && 0xe000 ≤ c.toNat && c.toNat ≤ 0xe7ff then some (c.toNat - 0x800) else none

/-- Whether a text holds half of a pair. -/
def hasHalf : List Char → Bool
  | a :: b :: rest => (halfOf? a b).isSome || hasHalf (b :: rest)
  | _ => false

/-- No half is held where its mark is missing. -/
theorem hasHalf_eq_false {cs : List Char} (h : halfMark ∉ cs) : hasHalf cs = false := by
  fun_induction hasHalf cs with
  | case1 a b rest ih =>
    obtain ⟨hmark, hrest⟩ := List.ne_and_not_mem_of_not_mem_cons h
    simp [halfOf?, Ne.symm hmark, ih hrest]
  | case2 => rfl

/-- The halves at the front of a text. -/
def leadingHalves : List Char → List Nat
  | a :: b :: rest =>
    match halfOf? a b with
    | some n => n :: leadingHalves rest
    | none => []
  | _ => []

end ApiDrift.Text
