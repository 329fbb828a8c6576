import ApiDrift.Text.Quoted

/-!
# Bytes as text

Decoding of UTF-8. A fault names the bytes from the start of the faulty character: an octet that
starts no character, an octet that cannot continue one, or the end of the bytes inside one. Every
text can be encoded but for halves of surrogate pairs, and a fault names the first of them.
-/

namespace ApiDrift.Text

/-- Why a sequence of bytes is no text. -/
inductive Utf8Cause where
  | invalidStart
  | invalidContinuation
  | unexpectedEnd
deriving DecidableEq, Repr

/-- The faulty bytes: where they start, the first of them, and how many there are. -/
structure Utf8Fault where
  position : Nat
  first : UInt8
  count : Nat
  cause : Utf8Cause
deriving DecidableEq, Repr

/-- What is said of faulty bytes. -/
def Utf8Fault.message (f : Utf8Fault) : String :=
  let place :=
    if f.count = 1 then
      "byte 0x" ++ String.ofList (hexDigits 2 f.first.toNat) ++ " in position " ++
        Nat.repr f.position
    else
      "bytes in position " ++ Nat.repr f.position ++ "-" ++ Nat.repr (f.position + f.count - 1)
  let reason := match f.cause with
    | .invalidStart => "invalid start byte"
    | .invalidContinuation => "invalid continuation byte"
    | .unexpectedEnd => "unexpected end of data"
  "'utf-8' codec can't decode " ++ place ++ ": " ++ reason

/-- What the first octet of a character promises: the number of octets to follow, the range of the
next one, and the bits it contributes. -/
structure Lead where
  tail : Nat
  low : Nat
  high : Nat
  bits : Nat
deriving DecidableEq, Repr

/-- The promise of an octet of two or more, if it starts a character. -/
def lead? (b : Nat) : Option Lead :=
  if 0xc2 ≤ b && b ≤ 0xdf then some ⟨1, 0x80, 0xbf, b - 0xc0⟩
  else if b = 0xe0 then some ⟨2, 0xa0, 0xbf, 0⟩
  else if b = 0xed then some ⟨2, 0x80, 0x9f, 0xd⟩
  else if 0xe1 ≤ b && b ≤ 0xef then some ⟨2, 0x80, 0xbf, b - 0xe0⟩
  else if b = 0xf0 then some ⟨3, 0x90, 0xbf, 0⟩
  else if b = 0xf4 then some ⟨3, 0x80, 0x8f, 4⟩
  else if 0xf1 ≤ b && b ≤ 0xf3 then some ⟨3, 0x80, 0xbf, b - 0xf0⟩
  else none

/-- The character begun by the octets read so far, still short of `l.tail` octets. -/
structure OpenChar where
  start : Nat
  first : UInt8
  seen : Nat
  awaited : Lead
deriving DecidableEq, Repr

private def faultOf (o : OpenChar) (cause : Utf8Cause) : Utf8Fault :=
  ⟨o.start, o.first, o.seen, cause⟩

/-- Decoding from byte number `i`, inside the character `o` if there is one; `acc` holds the
characters read, latest first. -/
def decodeFrom (i : Nat) (o : Option OpenChar) (acc : List Char) :
    List UInt8 → Except Utf8Fault (List Char)
  | [] =>
    match o with
    | none => .ok acc.reverse
    | some o => .error (faultOf o .unexpectedEnd)
  | b :: rest =>
    match o with
    | none =>
      if b.toNat < 0x80 then decodeFrom (i + 1) none (Char.ofNat b.toNat :: acc) rest
      else
        match lead? b.toNat with
        | none => .error ⟨i, b, 1, .invalidStart⟩
        | some l => decodeFrom (i + 1) (some ⟨i, b, 1, l⟩) acc rest
    | some o =>
      let l := o.awaited
      if l.low ≤ b.toNat && b.toNat ≤ l.high then
        let bits := l.bits * 64 + (b.toNat - 0x80)
        if l.tail ≤ 1 then decodeFrom (i + 1) none (Char.ofNat bits :: acc) rest
        else
          let next : OpenChar :=
            { o with seen := o.seen + 1, awaited := ⟨l.tail - 1, 0x80, 0xbf, bits⟩ }
          decodeFrom (i + 1) (some next) acc rest
      else .error (faultOf o .invalidContinuation)

/-- The text that a sequence of bytes writes in UTF-8. -/
def decodeUtf8 (bytes : List UInt8) : Except Utf8Fault (List Char) := decodeFrom 0 none [] bytes

/-- The halves of surrogate pairs for which a text cannot be encoded: where they start, the first of
them, and how many there are in a row. -/
structure EncodingFault where
  position : Nat
  first : Nat
  count : Nat
deriving DecidableEq, Repr

/-- What is said of halves of surrogate pairs. -/
def EncodingFault.message (f : EncodingFault) : String :=
  let place :=
    if f.count = 1 then
      "character '" ++ String.ofList (unitEscape f.first) ++ "' in position " ++ Nat.repr f.position
    else
      "characters in position " ++ Nat.repr f.position ++ "-" ++ Nat.repr (f.position + f.count - 1)
  "'utf-8' codec can't encode " ++ place ++ ": surrogates not allowed"

/-- The first halves of a text that starts at a position. -/
def encodingFaultFrom? (position : Nat) : List Char → Option EncodingFault
  | a :: b :: rest =>
    match halfOf? a b with
    | some n => some ⟨position, n, (leadingHalves rest).length + 1⟩
    | none => encodingFaultFrom? (position + 1) (b :: rest)
  | _ => none

/-- Why a text cannot be encoded, if it cannot. -/
def encodingFault? (s : String) : Option EncodingFault := encodingFaultFrom? 0 s.toList

theorem encodingFaultFrom?_eq_none_iff {position : Nat} {cs : List Char} :
    encodingFaultFrom? position cs = none ↔ hasHalf cs = false := by
  fun_induction hasHalf cs generalizing position with
  | case1 a b rest ih =>
    unfold encodingFaultFrom?
    cases halfOf? a b with
    | some n => simp
    | none => simpa using ih
  | case2 => simp [encodingFaultFrom?]

theorem encodingFault?_eq_none_iff {s : String} :
    encodingFault? s = none ↔ hasHalf s.toList = false :=
  encodingFaultFrom?_eq_none_iff

/-- The number of bytes a character takes in UTF-8. -/
def utf8Width (c : Char) : Nat :=
  if c.toNat < 0x80 then 1 else if c.toNat < 0x800 then 2 else if c.toNat < 0x10000 then 3 else 4

/-- Every end of line, whether one or two characters, becomes a line feed. -/
def unifyLineEnds : List Char → List Char
  | [] => []
  | '\r' :: '\n' :: rest => '\n' :: unifyLineEnds rest
  | c :: rest => (if c = '\r' then '\n' else c) :: unifyLineEnds rest

/-- The text that the bytes of a file write, with its line ends unified. -/
def readText (bytes : List UInt8) : Except Utf8Fault String :=
  (decodeUtf8 bytes).map fun cs => String.ofList (unifyLineEnds cs)

end ApiDrift.Text
