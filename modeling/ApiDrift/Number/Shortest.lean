import ApiDrift.Number.Binary64

/-!
# The shortest decimal text of a number

The fewest digits that read back as the same value and, of those, the ones nearest to it. For one,
two, … seventeen digits the two neighbours of the value on that decimal grid are tested against the
interval of reals that round to it; the ends belong to the interval when the mantissa is even. The
text is positional from 0.0001 up to below 10 ^ 16, and has an exponent of at least two digits
elsewhere.
-/

namespace ApiDrift.Binary64

open Number

private def decimalLength (n : Nat) : Nat := (Nat.repr n).length

/-- The number of the power of ten just below a positive quotient. -/
def floorLog10 (num den : Nat) : Int :=
  let e : Int := (decimalLength num : Int) - decimalLength den
  let reached := if 0 ≤ e then den * powerOfTen e.toNat ≤ num else den ≤ num * powerOfTen (-e).toNat
  if reached then e else e - 1

/-- The reals that round to a value, over a common denominator. -/
structure Interval where
  low : Nat
  value : Nat
  high : Nat
  den : Nat
  closed : Bool
deriving DecidableEq, Repr

/-- The interval of a positive mantissa; below a power of two the gap is half as wide. -/
def interval (m : Nat) (e : Int) : Interval :=
  let unit := if 0 ≤ e then powerOfTwo e.toNat else 1
  let den := if 0 ≤ e then 4 else 4 * powerOfTwo (-e).toNat
  let below := if m = powerOfTwo 52 && -1074 < e then 1 else 2
  ⟨(4 * m - below) * unit, 4 * m * unit, (4 * m + 2) * unit, den, m % 2 == 0⟩

/-- Whether `num / den` of the scaled interval holds the scaled point. -/
private def holds (i : Interval) (up down c : Nat) : Bool :=
  let p := c * i.den * down
  let low := i.low * up
  let high := i.high * up
  if i.closed then low ≤ p && p ≤ high else low < p && p < high

/-- The grid point with step `10 ^ k` that the shortest text takes, if the grid has one inside. -/
def gridPoint? (i : Interval) (k : Int) : Option Nat :=
  let up := if 0 ≤ k then 1 else powerOfTen (-k).toNat
  let down := if 0 ≤ k then powerOfTen k.toNat else 1
  let num := i.value * up
  let den := i.den * down
  let c := num / den
  let r := num % den
  let lower := holds i up down c
  let upper := holds i up down (c + 1)
  if lower && upper then
    some (if 2 * r < den || (2 * r == den && c % 2 == 0) then c else c + 1)
  else if lower then some c
  else if upper then some (c + 1)
  else none

private def search (i : Interval) (e10 : Int) : Nat → Nat → Nat × Int
  | 0, _ => (0, 0)
  | left + 1, digits =>
    let k := e10 - digits + 1
    match gridPoint? i k with
    | some c => if c = powerOfTen digits then (1, k + digits) else (c, k)
    | none => search i e10 left (digits + 1)

/-- Digits and power of ten of the shortest decimal of a positive mantissa. -/
def shortest (m : Nat) (e : Int) : Nat × Int :=
  let i := interval m e
  search i (floorLog10 i.value i.den) 18 1

private def twoDigits (n : Nat) : String := if n < 10 then "0" ++ Nat.repr n else Nat.repr n

/-- The digits `ds` with the decimal point after the first `point` of them. -/
def placePoint (ds : List Char) (point : Int) : List Char :=
  if point ≤ 0 then '0' :: '.' :: (List.replicate (-point).toNat '0' ++ ds)
  else
    let p := point.toNat
    if ds.length ≤ p then ds ++ List.replicate (p - ds.length) '0' ++ ['.', '0']
    else ds.take p ++ '.' :: ds.drop p

/-- A decimal `c * 10 ^ k` as text. -/
def decimalText (c : Nat) (k : Int) : String :=
  let ds := (Nat.repr c).toList
  let point := (ds.length : Int) + k
  if -4 < point && point ≤ 16 then String.ofList (placePoint ds point)
  else
    let e := point - 1
    let digits := if ds.length = 1 then ds else ds.take 1 ++ '.' :: ds.drop 1
    String.ofList digits ++ "e" ++ (if e < 0 then "-" else "+") ++ twoDigits e.natAbs

/-- The shortest text of a number. -/
def text : Binary64 → String
  | nan => "nan"
  | infinite s => if s then "-inf" else "inf"
  | finite s m e =>
    let sign := if s then "-" else ""
    if m = 0 then sign ++ "0.0"
    else
      let d := shortest m e
      sign ++ decimalText d.1 d.2

end ApiDrift.Binary64
