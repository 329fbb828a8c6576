import ApiDrift.Document.Display
import ApiDrift.Text.Utf8

/-!
# Values that data texts can hold

The plain form of a value has only nothing, truth values, finite numbers, texts, sequences and
mappings with texts for keys. Dates become their text for exchange, bytes the text they write, sets
and tuples sequences; what is no finite number becomes nothing. A value that contains itself has no
plain form, and neither has a key with too many digits or one whose text cannot be encoded.
-/

namespace ApiDrift

/-- Why a value has no plain form. -/
inductive PlainFault where
  | circular
  | undecodable (position : Nat) (byte : UInt8)
  | unencodable (f : Text.EncodingFault)
  | numberTooLong
deriving DecidableEq, Repr

def PlainFault.message : PlainFault → String
  | circular => "Circular reference detected (id repeated)"
  | undecodable position byte =>
    "'utf-8' codec can't decode byte 0x" ++ String.ofList (Text.hexDigits 2 byte.toNat) ++
      " in position " ++ Nat.repr position ++ ": invalid utf-8"
  | unencodable f => f.message
  | numberTooLong => Number.tooLongToShow

namespace Document

private def decoded (bs : List UInt8) : Except PlainFault String :=
  match Text.decodeUtf8 bs with
  | .ok cs => .ok (String.ofList cs)
  | .error f => .error (.undecodable f.position f.first)

/-- A key as a text. -/
def keyText (k : Document) : Except PlainFault String :=
  match k with
  | text s => .ok s
  | bool b => .ok (if b then "true" else "false")
  | bytes bs => decoded bs
  | moment t => .ok t.isoText
  | cycle _ => .error .circular
  | _ => if k.isShowable then .ok k.toText else .error .numberTooLong

/-- The text of a key, where it can be encoded. -/
def keyName (k : Document) : Except PlainFault String := do
  let s ← keyText k
  match Text.encodingFault? s with
  | some f => throw (.unencodable f)
  | none => return s

mutual

/-- The plain form of a value. -/
def plain : Document → Except PlainFault Document
  | float x =>
    match x with
    | .finite .. => .ok (float x)
    | _ => .ok null
  | bytes bs => return text (← decoded bs)
  | date d => .ok (text d.text)
  | moment t => .ok (text t.isoText)
  | seq items => return seq (← plainAll items)
  | tuple items => return seq (← plainAll items)
  | set items => return seq (← plainAll items)
  | map entries => return map (ofPairs (← plainEntries entries))
  | cycle _ => .error .circular
  | v => .ok v

def plainAll : List Document → Except PlainFault (List Document)
  | [] => .ok []
  | x :: xs => return (← plain x) :: (← plainAll xs)

def plainEntries : List (Document × Document) → Except PlainFault Entries
  | [] => .ok []
  | (k, v) :: es => return (text (← keyName k), ← plain v) :: (← plainEntries es)

end

/-- Whether a value is nothing. -/
def isNull : Document → Bool
  | null => true
  | _ => false

end Document
end ApiDrift
