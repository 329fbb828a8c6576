import ApiDrift.Number.Reading

/-!
# Malformed data texts

Why a text is no data text, and where: the place is counted in characters from the start, and shown
with its line and column.
-/

namespace ApiDrift.Json

inductive Problem where
  | byteOrderMark
  | value
  | name
  | colon
  | comma
  | extra
  | unterminated
  | control
  | escape
  | unicodeEscape
deriving DecidableEq, Repr

def Problem.text : Problem → String
  | byteOrderMark => "Unexpected UTF-8 BOM (decode using utf-8-sig)"
  | value => "Expecting value"
  | name => "Expecting property name enclosed in double quotes"
  | colon => "Expecting ':' delimiter"
  | comma => "Expecting ',' delimiter"
  | extra => "Extra data"
  | unterminated => "Unterminated string starting at"
  | control => "Invalid control character at"
  | escape => "Invalid \\escape"
  | unicodeEscape => "Invalid \\uXXXX escape"

/-- A problem and the number of characters left at its place, or a whole number that is too long. -/
inductive Stop where
  | problem (p : Problem) (left : Nat)
  | tooLong (digits : Nat)
deriving DecidableEq, Repr

/-- A problem with its place in the whole text. -/
structure Place where
  problem : Problem
  offset : Nat
  line : Nat
  column : Nat
deriving DecidableEq, Repr

inductive Fault where
  | malformed (place : Place)
  | integerTooLong (digits : Nat)
deriving DecidableEq, Repr

/-- The place at which `left` characters of a text are left. -/
def placeOf (cs : List Char) (p : Problem) (left : Nat) : Place :=
  let offset := cs.length - left
  let before := cs.take offset
  { problem := p
    offset
    line := before.count '\n' + 1
    column := (before.reverse.takeWhile (· != '\n')).length + 1 }

def Place.message (p : Place) : String :=
  p.problem.text ++ ": line " ++ Nat.repr p.line ++ " column " ++ Nat.repr p.column ++ " (char " ++
    Nat.repr p.offset ++ ")"

def Fault.message : Fault → String
  | malformed p => p.message
  | integerTooLong n => Number.tooLongMessage n

end ApiDrift.Json
