import ApiDrift.Document
import ApiDrift.Number.Reading
import ApiDrift.Yaml.Fault
import ApiDrift.Yaml.Tag

/-!
# Values of scalars

What the text of a scalar means under its tag. Low lines in numbers are passed over; a number may be
written to base sixty with colons between its digits.
-/

namespace ApiDrift.Yaml.Scalar

open ApiDrift.Text

/-- A result or the reason why there is none. -/
abbrev Valued (α : Type) := Except ScalarFault α

private def dropLow (s : String) : List Char := s.toList.filter (· != '_')

private def integerIn (base : Nat) (cs : List Char) : Valued Int :=
  let s := String.ofList cs
  match Number.readInteger base s with
  | .ok n => .ok n
  | .error .malformed => .error (.integer base s)
  | .error (.tooLong n) => .error (.integerTooLong n)

private def sixtieths : List Int → Int := fun ds => ds.foldl (fun n d => n * 60 + d) 0

private def magnitude (body : List Char) : Valued Int :=
  match body with
  | [] => .error .emptyNumber
  | ['0'] => .ok 0
  | '0' :: 'b' :: rest => integerIn 2 rest
  | '0' :: 'x' :: rest => integerIn 16 rest
  | '0' :: _ => integerIn 8 body
  | _ =>
    if body.contains ':' then sixtieths <$> (splitAt ':' body).mapM (integerIn 10)
    else integerIn 10 body

/-- A whole number. -/
def whole (s : String) : Valued Int :=
  let cs := dropLow s
  if cs.isEmpty then .error .emptyNumber
  else
    let (negative, body) := Number.splitSign cs
    (fun n => if negative then -n else n) <$> magnitude body

private def realIn (cs : List Char) : Valued Binary64 :=
  let s := String.ofList cs
  match Number.readReal? s with
  | some x => .ok x
  | none => .error (.real s)

/-- The sum of digits to base sixty, the last one first. A place beyond all finite numbers has no
value. -/
private def sexagesimal (place : Nat) (sum : Binary64) : List Binary64 → Valued Binary64
  | [] => .ok sum
  | d :: ds =>
    match Binary64.ofNat place with
    | .finite s m e => sexagesimal (place * 60) (sum.add (d.mul (.finite s m e))) ds
    | _ => .error .placeSize

private def realMagnitude (body : List Char) : Valued Binary64 :=
  if body = ".inf".toList then .ok (.infinite false)
  else if body = ".nan".toList then .ok .nan
  else if body.contains ':' then do
    let ds ← (splitAt ':' body).mapM realIn
    sexagesimal 1 (.zero false) ds.reverse
  else realIn body

/-- A number with a point. -/
def real (s : String) : Valued Binary64 :=
  let cs := (lower (String.ofList (dropLow s))).toList
  if cs.isEmpty then .error .emptyNumber
  else
    let (negative, body) := Number.splitSign cs
    (fun x => if negative then x.neg else x) <$> realMagnitude body

/-- A truth value by one of its words, whatever their case. -/
def flag (s : String) : Valued Bool :=
  let w := lower s
  if ["yes", "true", "on"].contains w then .ok true
  else if ["no", "false", "off"].contains w then .ok false
  else .error (.unknownFlag w)

private def microseconds (fraction : List Char) : Nat :=
  let ds := fraction.take 6
  (ds ++ List.replicate (6 - ds.length) '0').foldl (fun n d => n * 10 + (d.toNat - 48)) 0

private def offset : Zone → Int
  | .universal => 0
  | .shifted negative hours minutes =>
    let n : Int := (hours * 60 + minutes : Nat)
    if negative then -n else n

/-- A date or moment. -/
def moment (s : String) : Valued Document :=
  match momentParts? s with
  | none => .error .noDate
  | some (d, none) =>
    match Date.of d.year d.month d.day with
    | .ok date => .ok (.date date)
    | .error f => .error (.calendar f)
  | some (d, some t) =>
    match Moment.of d.year d.month d.day t.hour t.minute t.second (microseconds t.fraction)
        (t.zone.map offset) with
    | .ok m => .ok (.moment m)
    | .error f => .error (.calendar f)

/-- The value of a character among the 64 digits of binary data. -/
def sixBits? (c : Char) : Option Nat :=
  if 'A' ≤ c && c ≤ 'Z' then some (c.toNat - 65)
  else if 'a' ≤ c && c ≤ 'z' then some (c.toNat - 71)
  else if isAsciiDigit c then some (c.toNat + 4)
  else if c = '+' then some 62
  else if c = '/' then some 63
  else none

/-- Four digits make three bytes; equals signs fill up the last four, and what is no digit is passed
over. `filled` is the number of digits of the current four, `left` the bits not yet written. -/
def bytesFrom (filled left pads : Nat) (acc : List UInt8) : List Char → Except Problem (List UInt8)
  | [] =>
    if filled = 0 then .ok acc.reverse
    else if filled = 1 then .error (.base64Length (acc.length / 3 * 4 + 1))
    else .error .base64Padding
  | c :: rest =>
    if c = '=' then
      if 2 ≤ filled && 4 ≤ filled + pads + 1 then .ok acc.reverse
      else bytesFrom filled left (if 2 ≤ filled then pads + 1 else pads) acc rest
    else
      match sixBits? c with
      | none => bytesFrom filled left pads acc rest
      | some v =>
        match filled with
        | 0 => bytesFrom 1 v 0 acc rest
        | 1 => bytesFrom 2 (v % 16) 0 (UInt8.ofNat (left * 4 + v / 16) :: acc) rest
        | 2 => bytesFrom 3 (v % 4) 0 (UInt8.ofNat (left * 16 + v / 4) :: acc) rest
        | _ => bytesFrom 0 0 0 (UInt8.ofNat (left * 64 + v) :: acc) rest

/-- Binary data. -/
def binary (s : String) : Except Problem (List UInt8) :=
  let cs := s.toList
  let first := (cs.takeWhile fun c => c.toNat < 128).length
  let run := ((cs.drop first).takeWhile fun c => 128 ≤ c.toNat).length
  match cs.drop first with
  | [] => bytesFrom 0 0 0 [] cs
  | c :: _ =>
    if run = 1 then .error (.nonAscii c first) else .error (.nonAsciiRun first (first + run - 1))

end ApiDrift.Yaml.Scalar
