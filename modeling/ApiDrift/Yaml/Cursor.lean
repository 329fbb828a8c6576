import ApiDrift.Text.Quoted

/-!
# Places in a markup text

A cursor holds the characters before it, nearest first, and those from it on, with its line and
column. It is shown with the line it stands in; of a long line only the part near the cursor.
-/

namespace ApiDrift.Yaml

structure Cursor where
  before : List Char
  rest : List Char
  index : Nat
  line : Nat
  column : Nat
deriving DecidableEq, Repr

/-- The characters that end a line. -/
def isBreak (c : Char) : Bool :=
  c == '\n' || c == '\r' || c.toNat == 0x85 || c.toNat == 0x2028 || c.toNat == 0x2029

/-- What the end of the text counts as. -/
def endMark : Char := Char.ofNat 0

def isBreakOrEnd (c : Char) : Bool := isBreak c || c == endMark

def isSpaceOrEnd (c : Char) : Bool := c == ' ' || isBreakOrEnd c

def isBlankOrEnd (c : Char) : Bool := c == '\t' || isSpaceOrEnd c

namespace Cursor

def start (cs : List Char) : Cursor := ⟨[], cs, 0, 0, 0⟩

/-- The character at the cursor. -/
def peek (c : Cursor) : Char := c.rest.headD endMark

/-- The character some places after the cursor. -/
def peekAt (c : Cursor) (n : Nat) : Char := (c.rest.drop n).headD endMark

/-- Moves over one character; a carriage return before a line feed ends no line of its own. -/
def advance (c : Cursor) : Cursor :=
  match c.rest with
  | [] => c
  | ch :: rest =>
    let moved : Cursor := { c with before := ch :: c.before, rest, index := c.index + 1 }
    if isBreak ch && !(ch == '\r' && rest.head? == some '\n') then
      { moved with line := c.line + 1, column := 0 }
    else if ch.toNat == 0xfeff || ch == '\r' then moved
    else { moved with column := c.column + 1 }

def skip : Nat → Cursor → Cursor
  | 0, c => c
  | n + 1, c => skip n c.advance

/-- The characters at the cursor that satisfy a test, and the place after them. -/
def span (p : Char → Bool) (c : Cursor) : List Char × Cursor :=
  let run := c.rest.takeWhile p
  (run, c.skip run.length)

def skipSpaces (c : Cursor) : Cursor := (c.span (· == ' ')).2

/-- A line break as the character it stands for, and the place after it. -/
def lineBreak? (c : Cursor) : Option (Char × Cursor) :=
  match c.rest with
  | '\r' :: '\n' :: _ => some ('\n', c.skip 2)
  | ch :: _ =>
    if ch == '\n' || ch == '\r' || ch.toNat == 0x85 then some ('\n', c.advance)
    else if isBreak ch then some (ch, c.advance)
    else none
  | [] => none

/-- Moves over a line break, if there is one. -/
def skipBreak (c : Cursor) : Cursor := (c.lineBreak?.map (·.2)).getD c

/-- Whether a line of three equal marks that divides documents begins at the cursor. -/
def atDivider (c : Cursor) : Bool :=
  (c.rest.take 3 == ['-', '-', '-'] || c.rest.take 3 == ['.', '.', '.']) &&
    isBlankOrEnd (c.peekAt 3)

/-- The most characters of a line that are shown on each side of the cursor. -/
def sideLimit : Nat := 36

/-- What is shown of one side of a line: all of it, or the 32 characters nearest to the cursor. -/
private def side (cs : List Char) : List Char × Bool :=
  let near := cs.takeWhile fun ch => !isBreakOrEnd ch
  if sideLimit < near.length then (near.take 32, true) else (near, false)

/-- The place, its line, and a caret below it. -/
def describe (c : Cursor) : String :=
  let (left, cutLeft) := side c.before
  let (right, cutRight) := side c.rest
  let head := if cutLeft then " ... " else ""
  let tail := if cutRight then " ... " else ""
  let lead := String.ofList (List.replicate (4 + left.length + head.length) ' ')
  "  in \"<unicode string>\", line " ++ Nat.repr (c.line + 1) ++ ", column " ++
    Nat.repr (c.column + 1) ++ ":\n    " ++ head ++ String.ofList left.reverse ++
    String.ofList right ++ tail ++ "\n" ++ lead ++ "^"

end Cursor
end ApiDrift.Yaml
