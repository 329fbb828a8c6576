import ApiDrift.Document
import ApiDrift.Number.Shortest
import ApiDrift.Text.Quoted

/-!
# Writing data texts

A layout says what is escaped, what stands between members, and how far nested members are set in.
Empty containers are written without a line break. What data texts cannot hold is written as null.
-/

namespace ApiDrift.Json

open ApiDrift.Text

/-- How a data text is laid out. -/
structure Layout where
  /-- Whether every character outside printable ASCII is escaped. -/
  ascii : Bool
  comma : String
  colon : String
  /-- The number of blanks for each level, where members stand on lines of their own. -/
  indent : Option Nat
deriving DecidableEq, Repr

/-- One line, a blank after commas and colons, ASCII only. -/
def Layout.inlineAscii : Layout := ⟨true, ", ", ": ", none⟩

/-- A line for each member, two blanks for each level, ASCII only. -/
def Layout.pagedAscii : Layout := ⟨true, ",", ": ", some 2⟩

/-- No blanks at all. -/
def Layout.compact : Layout := ⟨false, ",", ":", none⟩

/-- A line for each member. -/
def Layout.paged (indent : Nat) : Layout := ⟨false, ",", ": ", some indent⟩

/-- The layout for an indent, or the compact one. -/
def Layout.ofIndent : Option Nat → Layout
  | none => compact
  | some n => paged n

/-- A character outside the printable ASCII range by the code units of its escape. -/
def escapeWide (c : Char) : List Char :=
  if c.toNat < 0x10000 then unitEscape c.toNat
  else
    let n := c.toNat - 0x10000
    unitEscape (0xd800 + n / 1024) ++ unitEscape (0xdc00 + n % 1024)

/-- A character inside quotation marks. -/
def escapeChar (ascii : Bool) (c : Char) : List Char :=
  if c = '"' || c = '\\' then ['\\', c]
  else if c = '\n' then ['\\', 'n']
  else if c = '\r' then ['\\', 'r']
  else if c = '\t' then ['\\', 't']
  else if c.toNat = 8 then ['\\', 'b']
  else if c.toNat = 12 then ['\\', 'f']
  else if c.toNat < 32 then unitEscape c.toNat
  else if ascii && 126 < c.toNat then escapeWide c
  else [c]

/-- The characters of a text inside quotation marks. -/
def escapeChars (ascii : Bool) (cs : List Char) : List Char :=
  if ascii then spell (escapeChar ascii) cs else cs.flatMap (escapeChar ascii)

/-- A text between quotation marks. -/
def writeText (ascii : Bool) (s : String) : List Char :=
  '"' :: escapeChars ascii s.toList ++ ['"']

/-- A line break and the blanks of a level, where members stand on lines of their own. -/
def Layout.lineBreak (l : Layout) (level : Nat) : List Char :=
  match l.indent with
  | none => []
  | some n => '\n' :: List.replicate (n * level) ' '

/-- A number of floating point; what is no finite number keeps its word. -/
def writeReal (x : Binary64) : List Char :=
  match x with
  | .nan => "NaN".toList
  | .infinite s => (if s then "-Infinity" else "Infinity").toList
  | .finite .. => x.text.toList

mutual

/-- A value at a level of nesting. -/
def write (l : Layout) (level : Nat) : Document → List Char
  | .bool b => (if b then "true" else "false").toList
  | .int n => (toString n).toList
  | .float x => writeReal x
  | .text s => writeText l.ascii s
  | .seq items =>
    if items.isEmpty then ['[', ']']
    else '[' :: writeItems l (level + 1) true items ++ (l.lineBreak level ++ [']'])
  | .map entries =>
    if entries.isEmpty then ['\x7b', '\x7d']
    else '\x7b' :: writeMembers l (level + 1) true entries ++ (l.lineBreak level ++ ['\x7d'])
  | _ => "null".toList

def writeItems (l : Layout) (level : Nat) (first : Bool) : List Document → List Char
  | [] => []
  | x :: xs =>
    (if first then [] else l.comma.toList) ++ l.lineBreak level ++ write l level x ++
      writeItems l level false xs

def writeMembers (l : Layout) (level : Nat) (first : Bool) :
    List (Document × Document) → List Char
  | [] => []
  | (k, v) :: es =>
    (if first then [] else l.comma.toList) ++ l.lineBreak level ++
      (match k with
        | .text s => writeText l.ascii s
        | _ => writeText l.ascii "") ++
      l.colon.toList ++ write l level v ++ writeMembers l level false es

end

/-- A value as a data text. -/
def render (l : Layout) (d : Document) : String := String.ofList (write l 0 d)

end ApiDrift.Json
