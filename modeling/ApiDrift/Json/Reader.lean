import ApiDrift.Document
import ApiDrift.Json.Fault
import ApiDrift.Text.Surrogate

/-!
# Reading data texts

Each reader takes the characters that are left and gives back a value with the characters left after
it. Beside the standard notation, `NaN`, `Infinity` and `-Infinity` are numbers. A repeated name
keeps its first place and its last value.
-/

namespace ApiDrift.Json

open ApiDrift.Text

def isSpace (c : Char) : Bool := c == ' ' || c == '\t' || c == '\n' || c == '\r'

def skipSpace (cs : List Char) : List Char := cs.dropWhile isSpace

/-- A value that has been read, and the characters after it. -/
abbrev Step (α : Type) := Except Stop (α × List Char)

private def stopAt {α : Type} (p : Problem) (cs : List Char) : Except Stop α :=
  .error (.problem p cs.length)

/-- The value of four hexadecimal digits. -/
def hexFour? (a b c d : Char) : Option Nat := do
  let w ← hexValue? a
  let x ← hexValue? b
  let y ← hexValue? c
  let z ← hexValue? d
  return ((w * 16 + x) * 16 + y) * 16 + z

/-- The character of an escape of one letter. -/
def simpleEscape? (c : Char) : Option Char :=
  if c = '"' || c = '\\' || c = '/' then some c
  else if c = 'b' then some (Char.ofNat 8)
  else if c = 'f' then some (Char.ofNat 12)
  else if c = 'n' then some '\n'
  else if c = 'r' then some '\r'
  else if c = 't' then some '\t'
  else none

/-- The rest of a text up to its closing mark; `start` characters were left at its opening mark. The
first half of a pair of surrogates waits in `high` for the second, which must follow at once. -/
def readText (start : Nat) (high : Option Nat) (acc : List Char) : List Char → Step (List Char)
  | [] => .error (.problem .unterminated start)
  | c :: rest =>
    let settled := match high with
      | some h => (unitChars h).reverse ++ acc
      | none => acc
    if c = '"' then .ok (settled.reverse, rest)
    else if c = '\\' then
      match rest with
      | [] => .error (.problem .unterminated start)
      | 'u' :: rest' =>
        match rest' with
        | w :: x :: y :: z :: rest'' =>
          if rest''.isEmpty then .error (.problem .unicodeEscape rest.length)
          else
            match hexFour? w x y z with
            | none => .error (.problem .unicodeEscape rest.length)
            | some n =>
              match high with
              | some h =>
                if isLowSurrogate n then readText start none (joinSurrogates h n :: acc) rest''
                else if isHighSurrogate n then readText start (some n) settled rest''
                else readText start none ((unitChars n).reverse ++ settled) rest''
              | none =>
                if isHighSurrogate n then readText start (some n) acc rest''
                else readText start none ((unitChars n).reverse ++ acc) rest''
        | _ => .error (.problem .unicodeEscape rest.length)
      | e :: rest' =>
        match simpleEscape? e with
        | some d => readText start none (d :: settled) rest'
        | none => .error (.problem .escape (rest.length + 1))
    else if c.toNat ≤ 0x1f then .error (.problem .control (rest.length + 1))
    else readText start none (c :: settled) rest

/-- Splits the ASCII digits off the front. -/
def splitDigits (cs : List Char) : List Char × List Char :=
  (cs.takeWhile isAsciiDigit, cs.dropWhile isAsciiDigit)

def digitsValue (ds : List Char) : Nat := ds.foldl (fun n d => n * 10 + (d.toNat - 48)) 0

/-- The digits after a decimal point, where at least one follows it. -/
def splitFraction (cs : List Char) : Option (List Char) × List Char :=
  match cs with
  | '.' :: rest =>
    match splitDigits rest with
    | ([], _) => (none, cs)
    | (ds, rest') => (some ds, rest')
  | _ => (none, cs)

/-- The power of ten after an `e`, where it has at least one digit. -/
def splitExponent (cs : List Char) : Option Int × List Char :=
  match cs with
  | c :: rest =>
    if c = 'e' || c = 'E' then
      let (negative, body) := Number.splitSign rest
      match splitDigits body with
      | ([], _) => (none, cs)
      | (ds, rest') =>
        let n : Int := digitsValue ds
        (some (if negative then -n else n), rest')
    else (none, cs)
  | [] => (none, cs)

/-- The whole part of a number: a zero, or digits that do not begin with one. -/
def splitWhole (cs : List Char) : List Char × List Char :=
  match cs with
  | '0' :: rest => (['0'], rest)
  | _ => splitDigits cs

/-- A number whose text starts with `start`. -/
def readNumber (start : List Char) : Step Document :=
  let (negative, body) := match start with
    | '-' :: rest => (true, rest)
    | _ => (false, start)
  match splitWhole body with
  | ([], _) => stopAt .value start
  | (whole, rest) =>
    match splitFraction rest with
    | (fraction?, rest') =>
      match splitExponent rest' with
      | (exponent?, rest'') =>
        if fraction?.isNone && exponent?.isNone then
          if Number.digitLimit < whole.length then .error (.tooLong whole.length)
          else
            let n : Int := digitsValue whole
            .ok (.int (if negative then -n else n), rest'')
        else
          let fraction := fraction?.getD []
          let mantissa := digitsValue (whole ++ fraction)
          let e := exponent?.getD 0 - fraction.length
          .ok (.float (Binary64.ofDecimal negative mantissa e), rest'')

/-- What follows a word, if the text begins with it. -/
def dropWord? (word : String) (cs : List Char) : Option (List Char) :=
  if word.toList.isPrefixOf cs then some (cs.drop word.length) else none

/-- The fixed words, in the order in which they are tried. -/
def words : List (String × Document) :=
  [("null", .null), ("true", .bool true), ("false", .bool false), ("NaN", .float .nan),
   ("Infinity", .float (.infinite false)), ("-Infinity", .float (.infinite true))]

def readScalar (cs : List Char) : Step Document :=
  match words.findSome? fun w => (dropWord? w.1 cs).map fun rest => (w.2, rest) with
  | some r => .ok r
  | none => readNumber cs

mutual

/-- A value at the front of the characters. The first argument bounds the nesting and the number of
members; two for each character and two more are enough. -/
def readValue : Nat → List Char → Except Stop (Document × List Char)
  | 0, cs => stopAt .value cs
  | fuel + 1, cs =>
    match cs with
    | '"' :: rest => do
      let (s, rest) ← readText cs.length none [] rest
      return (.text (String.ofList s), rest)
    | '[' :: rest =>
      match skipSpace rest with
      | ']' :: rest => .ok (.seq [], rest)
      | rest => do
        let (items, rest) ← readItems fuel rest
        return (.seq items, rest)
    | '\x7b' :: rest =>
      match skipSpace rest with
      | '\x7d' :: rest => .ok (.map [], rest)
      | rest => do
        let (members, rest) ← readMembers fuel rest
        return (.map (Document.ofPairs members), rest)
    | _ => readScalar cs

/-- The items of a sequence up to its closing bracket. -/
def readItems : Nat → List Char → Except Stop (List Document × List Char)
  | 0, cs => stopAt .value cs
  | fuel + 1, cs => do
    let (item, rest) ← readValue fuel cs
    match skipSpace rest with
    | ']' :: rest => .ok ([item], rest)
    | ',' :: rest => do
      let (items, rest) ← readItems fuel (skipSpace rest)
      return (item :: items, rest)
    | rest => stopAt .comma rest

/-- The members of a mapping up to its closing brace. -/
def readMembers : Nat → List Char → Except Stop (Document.Entries × List Char)
  | 0, cs => stopAt .value cs
  | fuel + 1, cs =>
    match cs with
    | '"' :: rest => do
      let (name, rest) ← readText cs.length none [] rest
      match skipSpace rest with
      | ':' :: rest => do
        let (value, rest) ← readValue fuel (skipSpace rest)
        let member := (Document.text (String.ofList name), value)
        match skipSpace rest with
        | '\x7d' :: rest => .ok ([member], rest)
        | ',' :: rest => do
          let (members, rest) ← readMembers fuel (skipSpace rest)
          return (member :: members, rest)
        | rest => stopAt .comma rest
      | rest => stopAt .colon rest
    | _ => stopAt .name cs

end

/-- A whole text as one value. -/
def readAll (cs : List Char) : Except Stop Document :=
  match cs with
  | '\ufeff' :: _ => stopAt .byteOrderMark cs
  | _ => do
    let (value, rest) ← readValue (2 * cs.length + 2) (skipSpace cs)
    match skipSpace rest with
    | [] => .ok value
    | rest => stopAt .extra rest

/-- The value that a data text writes. -/
def read (s : String) : Except Fault Document :=
  let cs := s.toList
  match readAll cs with
  | .ok value => .ok value
  | .error (.problem p left) => .error (.malformed (placeOf cs p left))
  | .error (.tooLong n) => .error (.integerTooLong n)

end ApiDrift.Json
