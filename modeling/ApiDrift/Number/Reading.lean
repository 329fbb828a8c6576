import ApiDrift.Number.Binary64
import ApiDrift.Text.CharClass

/-!
# Reading numbers from text

Whole numbers in a base from 2 to 16 and decimal numbers, with blanks around them, a sign, digits of
any script, and single low lines between digits. A whole number of more than 4300 digits is refused
in a base that is no power of two.
-/

namespace ApiDrift.Number

open ApiDrift.Text

/-- Why a text is no whole number. -/
inductive IntegerFault where
  | malformed
  | tooLong (digits : Nat)
deriving DecidableEq, Repr

/-- The number of digits that a whole number may have when it is read. -/
def digitLimit : Nat := 4300

/-- The value of a digit in bases up to 36. -/
def digitOf (c : Char) : Option Nat :=
  match digitValue? c with
  | some v => some v
  | none =>
    if 'a' ≤ c && c ≤ 'z' then some (c.toNat - 87)
    else if 'A' ≤ c && c ≤ 'Z' then some (c.toNat - 55)
    else none

/-- A sign in front of a number, and what follows it. -/
def splitSign : List Char → Bool × List Char
  | '-' :: rest => (true, rest)
  | '+' :: rest => (false, rest)
  | cs => (false, cs)

/-- The letter that announces a base after a zero. -/
def baseLetter? : Nat → Option Char
  | 2 => some 'b'
  | 8 => some 'o'
  | 16 => some 'x'
  | _ => none

/-- Drops `0b`, `0o` or `0x` in front of the digits of that base, with a low line after it. -/
def dropBase (base : Nat) (cs : List Char) : List Char :=
  match cs, baseLetter? base with
  | '0' :: c :: rest, some l =>
    if c = l || c.toNat + 32 = l.toNat then
      match rest with
      | '_' :: rest' => rest'
      | _ => rest
    else cs
  | _, _ => cs

/-- The digits at the front, their value and number, and what follows. A low line counts when a
digit stands on both its sides. -/
def readDigits (base : Nat) (value count : Nat) (afterDigit : Bool) :
    List Char → Nat × Nat × List Char
  | [] => (value, count, [])
  | c :: rest =>
    match digitOf c with
    | some v =>
      if v < base then readDigits base (value * base + v) (count + 1) true rest
      else (value, count, c :: rest)
    | none =>
      if c = '_' && afterDigit && (rest.head?.bind digitOf).isSome then
        readDigits base value count false rest
      else (value, count, c :: rest)

/-- A whole number written in a base. -/
def readInteger (base : Nat) (s : String) : Except IntegerFault Int :=
  let (negative, body) := splitSign (trim s.toList)
  let (value, count, rest) := readDigits base 0 0 false (dropBase base body)
  if base ∉ [2, 4, 8, 16] && digitLimit < count then .error (.tooLong count)
  else if count = 0 || !rest.isEmpty then .error .malformed
  else .ok (if negative then -(value : Int) else value)

private def readExponent? (cs : List Char) : Option Int :=
  let (negative, body) := splitSign cs
  let (value, count, rest) := readDigits 10 0 0 false body
  if count = 0 || !rest.isEmpty then none
  else some (if negative then -(value : Int) else value)

/-- A decimal without its sign: digits, a point, digits, and a power of ten. -/
def readUnsigned? (negative : Bool) (cs : List Char) : Option Binary64 :=
  let (whole, wholeCount, rest) := readDigits 10 0 0 false cs
  let (mantissa, places, rest) :=
    match rest with
    | '.' :: fraction => readDigits 10 whole 0 false fraction
    | _ => (whole, 0, rest)
  if wholeCount + places = 0 then none
  else
    match rest with
    | [] => some (Binary64.ofDecimal negative mantissa (-(places : Int)))
    | c :: body =>
      if c = 'e' || c = 'E' then
        (readExponent? body).map fun e => Binary64.ofDecimal negative mantissa (e - places)
      else none

/-- A decimal number, an infinity, or what is no number. -/
def readReal? (s : String) : Option Binary64 :=
  let (negative, body) := splitSign (trim s.toList)
  let word := (lower (String.ofList body))
  if word = "inf" || word = "infinity" then some (.infinite negative)
  else if word = "nan" then some .nan
  else readUnsigned? negative body

/-- What is said of the text of a whole number with too many digits. -/
def tooLongMessage (digits : Nat) : String :=
  "Exceeds the limit (4300 digits) for integer string conversion: value has " ++ Nat.repr digits ++
    " digits; use sys.set_int_max_str_digits() to increase the limit"

/-- What is said of a whole number whose text would have too many digits. -/
def tooLongToShow : String :=
  "Exceeds the limit (4300 digits) for integer string conversion; " ++
    "use sys.set_int_max_str_digits() to increase the limit"

end ApiDrift.Number
