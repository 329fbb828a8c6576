import ApiDrift.Text.CharClass
import ApiDrift.Text.Surrogate

/-!
# Quoted text

The way a text or a sequence of bytes is shown inside other text: between single quotes, or between
double quotes where it holds a single quote and no double one, with what cannot be printed written
as an escape.
-/

namespace ApiDrift.Text

private def hexDigit (n : Nat) : Char := Char.ofNat (if n < 10 then 48 + n else 87 + n)

/-- The last `width` hexadecimal digits of a number. -/
def hexDigits : Nat → Nat → List Char
  | 0, _ => []
  | width + 1, n => hexDigits width (n / 16) ++ [hexDigit (n % 16)]

/-- An escape with four digits. -/
def unitEscape (n : Nat) : List Char := '\\' :: 'u' :: hexDigits 4 n

/-- A text by the spelling of its characters; half of a pair is written as an escape. -/
def spell (f : Char → List Char) : List Char → List Char
  | a :: b :: rest =>
    match halfOf? a b with
    | some n => unitEscape n ++ spell f rest
    | none => f a ++ spell f (b :: rest)
  | [a] => f a
  | [] => []

theorem spell_of_not_hasHalf {f : Char → List Char} {cs : List Char} (h : hasHalf cs = false) :
    spell f cs = cs.flatMap f := by
  fun_induction spell f cs with
  | case1 a b rest n hn => simp [hasHalf, hn] at h
  | case2 a b rest hn ih =>
    rw [hasHalf, hn, Option.isSome_none, Bool.false_or] at h
    rw [ih h]
    rfl
  | case3 a => simp
  | case4 => rfl

/-- The quotation mark that needs the fewest escapes. -/
def quoteFor (cs : List Char) : Char :=
  if cs.contains '\'' && !cs.contains '"' then '"' else '\''

/-- One character between the quotation marks `quote`. -/
def quoteChar (quote c : Char) : List Char :=
  if c = quote || c = '\\' then ['\\', c]
  else if c = '\t' then ['\\', 't']
  else if c = '\n' then ['\\', 'n']
  else if c = '\r' then ['\\', 'r']
  else if isPrintable c then [c]
  else if c.toNat ≤ 0xff then '\\' :: 'x' :: hexDigits 2 c.toNat
  else if c.toNat ≤ 0xffff then unitEscape c.toNat
  else '\\' :: 'U' :: hexDigits 8 c.toNat

/-- A text between quotation marks. -/
def quoteChars (cs : List Char) : List Char :=
  let q := quoteFor cs
  q :: spell (quoteChar q) cs ++ [q]

/-- A text between quotation marks. -/
def quote (s : String) : String := String.ofList (quoteChars s.toList)

/-- One byte between the quotation marks `quote`. -/
def quoteByte (quote : Char) (b : UInt8) : List Char :=
  if b.toNat < 0x7f then
    let c := Char.ofNat b.toNat
    if b.toNat < 0x20 && c != '\t' && c != '\n' && c != '\r' then '\\' :: 'x' :: hexDigits 2 b.toNat
    else quoteChar quote c
  else '\\' :: 'x' :: hexDigits 2 b.toNat

/-- A sequence of bytes, marked by a `b` before the quotation marks. -/
def quoteBytes (bs : List UInt8) : String :=
  let q := if bs.contains 39 && !bs.contains 34 then '"' else '\''
  String.ofList ('b' :: q :: bs.flatMap (quoteByte q) ++ [q])

end ApiDrift.Text
