import ApiDrift.Yaml.Token.Scalars

/-!
# The tokens of a text

A scalar may turn out to be the key of a mapping only when the colon after it is met, on the same
line and within 1024 characters. Until then it waits as a pending key: tokens are kept back from the
first pending key on, and the mark of the key, and of the mapping it opens, are put in front of it
when the colon comes.

The tokens that are certain before the first fault stand before that fault: what reads them sees the
fault only when it asks for more.
-/

namespace ApiDrift.Yaml

/-- A token that may be a key: its number among all tokens, its place, and whether nothing else can
stand there. -/
structure PendingKey where
  number : Nat
  required : Bool
  place : Cursor

structure Lexer where
  cursor : Cursor
  /-- Depth of brackets. -/
  flow : Nat := 0
  /-- How many tokens have been given out. -/
  taken : Nat := 0
  /-- Tokens that are kept back, first to last. -/
  queue : List Token := []
  finished : Bool := false
  indent : Int := -1
  indents : List Int := []
  keyAllowed : Bool := true
  /-- At most one pending key for each depth of brackets. -/
  pending : List (Nat × PendingKey) := []

namespace Lexer

private def notice (problem : Problem) (at_ : Cursor) : Fault :=
  .notice ⟨.tokens, none, none, problem, at_⟩

private def noColonAt (k : PendingKey) (c : Cursor) : Fault :=
  tokenFault .simpleKey k.place .noColon c

/-- Gives up the pending keys that are too far back. -/
def dropStale (s : Lexer) : Except Fault Lexer :=
  let stale (k : PendingKey) : Bool :=
    k.place.line != s.cursor.line || 1024 < s.cursor.index - k.place.index
  match s.pending.find? fun e => stale e.2 && e.2.required with
  | some e => .error (noColonAt e.2 s.cursor)
  | none => .ok { s with pending := s.pending.filter fun e => !stale e.2 }

/-- Gives up the pending key of this depth. -/
def dropKey (s : Lexer) : Except Fault Lexer :=
  match s.pending.lookup s.flow with
  | some k =>
    if k.required then .error (noColonAt k s.cursor)
    else .ok { s with pending := s.pending.filter fun e => e.1 != s.flow }
  | none => .ok s

/-- Notes that the next token may be a key. -/
def saveKey (s : Lexer) : Except Fault Lexer := do
  if s.keyAllowed then
    let required := s.flow == 0 && s.indent == (s.cursor.column : Int)
    let s ← s.dropKey
    let k : PendingKey := ⟨s.taken + s.queue.length, required, s.cursor⟩
    return { s with pending := s.pending ++ [(s.flow, k)] }
  else return s

def push (s : Lexer) (t : Token) : Lexer := { s with queue := s.queue ++ [t] }

def pushAt (s : Lexer) (kind : TokenKind) (c : Cursor) : Lexer := s.push ⟨kind, c, c⟩

/-- Puts a token in front of the token with a number. -/
def insertAt (s : Lexer) (number : Nat) (t : Token) : Lexer :=
  let i := number - s.taken
  { s with queue := s.queue.take i ++ t :: s.queue.drop i }

private def closeBlocks (s : Lexer) (column : Int) : List Int → Lexer
  | [] => s
  | outer :: rest =>
    if column < s.indent then
      closeBlocks { s.pushAt .blockEnd s.cursor with indent := outer, indents := rest } column rest
    else s

/-- Closes the blocks that are indented more than a column. -/
def unwind (s : Lexer) (column : Int) : Lexer :=
  if s.flow ≠ 0 then s else closeBlocks s column s.indents

/-- Opens a block at a column, if it is indented more than the block around it. -/
def deepen (s : Lexer) (column : Int) : Option Lexer :=
  if s.indent < column then some { s with indents := s.indent :: s.indents, indent := column }
  else none

/-- A token of a fixed number of characters. -/
def mark (s : Lexer) (kind : TokenKind) (width : Nat) : Lexer :=
  let stop := s.cursor.skip width
  { s.push ⟨kind, s.cursor, stop⟩ with cursor := stop }

/-- Moves to the next token, over blanks, comments and line breaks. -/
def skipToToken : Nat → Lexer → Lexer
  | 0, s => s
  | fuel + 1, s =>
    let c := s.cursor.skipSpaces
    let c := if c.peek = '#' then (c.span fun ch => !isBreakOrEnd ch).2 else c
    match c.lineBreak? with
    | some (_, after) =>
      skipToToken fuel { s with cursor := after, keyAllowed := s.keyAllowed || s.flow == 0 }
    | none => { s with cursor := c }

private def endOfStream (s : Lexer) : Except Fault Lexer := do
  let s ← (s.unwind (-1)).dropKey
  return { s.pushAt .streamEnd s.cursor with keyAllowed := false, pending := [], finished := true }

private def directiveLine (s : Lexer) : Except Fault Lexer := do
  let s ← (s.unwind (-1)).dropKey
  let (d, stop, next) ← scanDirective s.cursor
  return { s.push ⟨.directive d, s.cursor, stop⟩ with cursor := next, keyAllowed := false }

private def documentMark (s : Lexer) (kind : TokenKind) : Except Fault Lexer := do
  let s ← (s.unwind (-1)).dropKey
  return { s.mark kind 3 with keyAllowed := false }

private def openFlow (s : Lexer) (kind : TokenKind) : Except Fault Lexer := do
  let s ← s.saveKey
  return { s.mark kind 1 with flow := s.flow + 1, keyAllowed := true }

private def closeFlow (s : Lexer) (kind : TokenKind) : Except Fault Lexer := do
  let s ← s.dropKey
  return { s.mark kind 1 with flow := s.flow - 1, keyAllowed := false }

private def entryComma (s : Lexer) : Except Fault Lexer := do
  let s ← s.dropKey
  return { s.mark .flowEntry 1 with keyAllowed := true }

/-- Opens a block at the cursor where one can begin. -/
private def openBlock (s : Lexer) (kind : TokenKind) (problem : Problem) : Except Fault Lexer :=
  if s.flow ≠ 0 then .ok s
  else if !s.keyAllowed then .error (notice problem s.cursor)
  else
    match s.deepen s.cursor.column with
    | some d => .ok (d.pushAt kind s.cursor)
    | none => .ok s

private def entryDash (s : Lexer) : Except Fault Lexer := do
  let s ← s.openBlock .blockSequenceStart .entryHere
  let s ← { s with keyAllowed := true }.dropKey
  return s.mark .blockEntry 1

private def keyMark (s : Lexer) : Except Fault Lexer := do
  let s ← s.openBlock .blockMappingStart .keyHere
  let s ← { s with keyAllowed := s.flow == 0 }.dropKey
  return s.mark .key 1

private def valueMark (s : Lexer) : Except Fault Lexer := do
  match s.pending.lookup s.flow with
  | some k =>
    let s := { s with pending := s.pending.filter fun e => e.1 != s.flow }
    let s := s.insertAt k.number ⟨.key, k.place, k.place⟩
    let s :=
      if s.flow = 0 then
        match s.deepen k.place.column with
        | some d => d.insertAt k.number ⟨.blockMappingStart, k.place, k.place⟩
        | none => s
      else s
    return { s with keyAllowed := false }.mark .value 1
  | none =>
    let s ← s.openBlock .blockMappingStart .valueHere
    let s ← { s with keyAllowed := s.flow == 0 }.dropKey
    return s.mark .value 1

private def named (s : Lexer) (scan : Cursor → Except Fault (TokenKind × Cursor)) :
    Except Fault Lexer := do
  let s ← s.saveKey
  let (kind, next) ← scan s.cursor
  return { s.push ⟨kind, s.cursor, next⟩ with cursor := next, keyAllowed := false }

private def anchorName (activity : Activity) (kind : String → TokenKind) (c : Cursor) :
    Except Fault (TokenKind × Cursor) := do
  let (name, next) ← scanAnchor activity c
  return (kind name, next)

private def quotedText (double : Bool) (c : Cursor) : Except Fault (TokenKind × Cursor) := do
  let (s, next) ← scanQuoted c double
  return (.scalar s false, next)

private def blockText (s : Lexer) (isFolded : Bool) : Except Fault Lexer := do
  let s ← { s with keyAllowed := true }.dropKey
  let (text, stop, next) ← scanBlock isFolded s.indent s.cursor
  return { s.push ⟨.scalar text false, s.cursor, stop⟩ with cursor := next }

private def bareText (s : Lexer) : Except Fault Lexer := do
  let s ← s.saveKey
  let t := scanBare (s.flow != 0) (s.indent + 1) s.cursor
  return { s.push ⟨.scalar (String.ofList t.text) true, s.cursor, t.stop⟩ with
    cursor := t.next, keyAllowed := t.newLine }

/-- Whether a bare text can begin at the cursor. -/
def startsBare (flow : Bool) (c : Cursor) : Bool :=
  let ch := c.peek
  !(isBlankOrEnd ch || "-?:,[]\x7b\x7d#&*!|>'\"%@\x60".toList.contains ch) ||
    (!isBlankOrEnd (c.peekAt 1) && (ch == '-' || (!flow && (ch == '?' || ch == ':'))))

/-- Reads the token at the cursor, which stands at no blank. -/
private def readToken (s : Lexer) : Except Fault Lexer :=
  let c := s.cursor
  let ch := c.peek
  let inFlow := s.flow != 0
  let next := isBlankOrEnd (c.peekAt 1)
  let divider := c.column == 0 && c.atDivider
  if c.rest.isEmpty then s.endOfStream
  else if ch == '%' && c.column == 0 then s.directiveLine
  else if divider && ch == '-' then s.documentMark .documentStart
  else if divider && ch == '.' then s.documentMark .documentEnd
  else if ch == '[' then s.openFlow .flowSequenceStart
  else if ch == '\x7b' then s.openFlow .flowMappingStart
  else if ch == ']' then s.closeFlow .flowSequenceEnd
  else if ch == '\x7d' then s.closeFlow .flowMappingEnd
  else if ch == ',' then s.entryComma
  else if ch == '-' && next then s.entryDash
  else if ch == '?' && (inFlow || next) then s.keyMark
  else if ch == ':' && (inFlow || next) then s.valueMark
  else if ch == '*' then s.named (anchorName .reference .reference)
  else if ch == '&' then s.named (anchorName .anchor .anchor)
  else if ch == '!' then s.named scanTag
  else if ch == '|' && !inFlow then s.blockText false
  else if ch == '>' && !inFlow then s.blockText true
  else if ch == '\'' then s.named (quotedText false)
  else if ch == '"' then s.named (quotedText true)
  else if startsBare inFlow c then s.bareText
  else .error (.notice ⟨.tokens, some .nextToken, none, .noToken ch, c⟩)

/-- Reads on to the next token. -/
def fetch (s : Lexer) : Except Fault Lexer := do
  let c := s.cursor
  let s := if c.index = 0 && c.peek.toNat = 0xfeff then { s with cursor := c.advance } else s
  let s ← (skipToToken (s.cursor.rest.length + 1) s).dropStale
  (s.unwind s.cursor.column).readToken

/-- Whether the first token that is kept back may still turn out to be a key. -/
def firstIsPending (s : Lexer) : Bool := s.pending.any fun e => e.2.number == s.taken

/-- All tokens that are certain, and the fault that ends them, if one does. -/
def run : Nat → Lexer → List Token → List Token × Option Fault
  | 0, _, acc => (acc.reverse, none)
  | fuel + 1, s, acc =>
    match s.queue with
    | [] =>
      if s.finished then (acc.reverse, none)
      else
        match s.fetch with
        | .ok s => run fuel s acc
        | .error f => (acc.reverse, some f)
    | t :: rest =>
      let step : Except Fault (Lexer × Bool) := do
        if s.finished then return (s, true)
        let s ← s.dropStale
        if s.firstIsPending then return (← s.fetch, false) else return (s, true)
      match step with
      | .error f => (acc.reverse, some f)
      | .ok (s, true) => run fuel { s with queue := rest, taken := s.taken + 1 } (t :: acc)
      | .ok (s, false) => run fuel s acc

end Lexer

/-- The tokens of a text. -/
def tokensOf (cs : List Char) : List Token × Option Fault :=
  Lexer.run (cs.length * 8 + 64) { cursor := Cursor.start cs } []

end ApiDrift.Yaml
