import ApiDrift.Number.Natural

/-!
# Numbers of binary floating point

The values of the 64-bit format as a sign, a whole mantissa and a power of two, together with the
rounding of an exact quotient to the nearest of them, a half going to the even neighbour. Sums and
products are rounded once from their exact values.
-/

namespace ApiDrift

open Number

/-- A finite value is `mantissa * 2 ^ exponent`; rounding keeps the mantissa below `2 ^ 53` and the
exponent at least `-1074`, and the mantissa at least `2 ^ 52` unless the exponent is `-1074`. -/
inductive Binary64 where
  | nan
  | infinite (negative : Bool)
  | finite (negative : Bool) (mantissa : Nat) (exponent : Int)
deriving DecidableEq, Repr

namespace Binary64

/-- The whole number nearest to a quotient; a half goes to the even neighbour. -/
def roundQuotient (num den : Nat) : Nat :=
  let q := num / den
  let r := num % den
  if den < 2 * r || (2 * r == den && q % 2 == 1) then q + 1 else q

/-- A quotient divided by a power of two, as a quotient. -/
def scale (num den : Nat) (e : Int) : Nat × Nat :=
  if 0 ≤ e then (num, den * powerOfTwo e.toNat) else (num * powerOfTwo (-e).toNat, den)

/-- The number of the power of two just below a positive quotient. -/
def floorLog2 (num den : Nat) : Int :=
  let e : Int := (num.log2 : Int) - den.log2
  let s := scale num den e
  if s.1 < s.2 then e - 1 else e

def zero (negative : Bool) : Binary64 := finite negative 0 (-1074)

/-- The value nearest to a quotient with a positive denominator. -/
def ofQuotient (negative : Bool) (num den : Nat) : Binary64 :=
  if num = 0 then zero negative
  else
    let e := max (floorLog2 num den - 52) (-1074)
    let s := scale num den e
    let m := roundQuotient s.1 s.2
    let r : Nat × Int := if m = powerOfTwo 53 then (powerOfTwo 52, e + 1) else (m, e)
    if 971 < r.2 then infinite negative else finite negative r.1 r.2

private def digitCount (n : Nat) : Nat := (Nat.repr n).length

/-- The value nearest to `m * 10 ^ e`. Numbers far outside the range are settled by their size. -/
def ofDecimal (negative : Bool) (m : Nat) (e : Int) : Binary64 :=
  if m = 0 then zero negative
  else
    let size := (digitCount m : Int) + e
    if 310 < size then infinite negative
    else if size < -330 then zero negative
    else if 0 ≤ e then ofQuotient negative (m * powerOfTen e.toNat) 1
    else ofQuotient negative m (powerOfTen (-e).toNat)

def ofNat (n : Nat) : Binary64 := ofQuotient false n 1

/-- The exact value of a finite mantissa and exponent as a quotient. -/
def quotient (m : Nat) (e : Int) : Nat × Nat :=
  if 0 ≤ e then (m * powerOfTwo e.toNat, 1) else (m, powerOfTwo (-e).toNat)

def neg : Binary64 → Binary64
  | nan => nan
  | infinite s => infinite (!s)
  | finite s m e => finite (!s) m e

private def signed (negative : Bool) (n : Nat) : Int := if negative then -n else n

def add : Binary64 → Binary64 → Binary64
  | nan, _ => nan
  | _, nan => nan
  | infinite s, infinite t => if s = t then infinite s else nan
  | infinite s, _ => infinite s
  | _, infinite s => infinite s
  | finite s m e, finite t n f =>
    let a := quotient m e
    let b := quotient n f
    let sum := signed s (a.1 * b.2) + signed t (b.1 * a.2)
    if sum = 0 then zero (s && t) else ofQuotient (sum < 0) sum.natAbs (a.2 * b.2)

def mul : Binary64 → Binary64 → Binary64
  | nan, _ => nan
  | _, nan => nan
  | infinite s, infinite t => infinite (s != t)
  | infinite s, finite t n _ => if n = 0 then nan else infinite (s != t)
  | finite s m _, infinite t => if m = 0 then nan else infinite (s != t)
  | finite s m e, finite t n f =>
    let a := quotient m e
    let b := quotient n f
    ofQuotient (s != t) (a.1 * b.1) (a.2 * b.2)

/-- Zero of either sign; every other value, and what is no number, counts as something. -/
def isZero : Binary64 → Bool
  | finite _ m _ => m == 0
  | _ => false

/-- The whole number that a value equals, if it does. -/
def toInt? : Binary64 → Option Int
  | finite s m e =>
    let q := quotient m e
    if q.1 % q.2 = 0 then some (signed s (q.1 / q.2)) else none
  | _ => none

/-- Whether a whole number is at most the value. -/
def atLeast (n : Int) : Binary64 → Bool
  | nan => false
  | infinite s => !s
  | finite s m e =>
    let q := quotient m e
    n * q.2 ≤ signed s q.1

/-- Equality of numbers, for which the two zeros are one. -/
def sameNumber : Binary64 → Binary64 → Bool
  | nan, nan => true
  | infinite s, infinite t => s == t
  | finite s m e, finite t n f => (m == 0 && n == 0) || (s == t && m == n && e == f)
  | _, _ => false

end Binary64
end ApiDrift
