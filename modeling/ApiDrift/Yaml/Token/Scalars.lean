import ApiDrift.Text.Surrogate
import ApiDrift.Yaml.Token.Names

/-!
# Scalars

The three ways of writing a text: between quotation marks, as an indented block, or bare. Line
breaks inside a text are folded: one becomes a blank, of several the first is dropped.
-/

namespace ApiDrift.Yaml

open ApiDrift.Text

/-- What a break between lines of a folded text leaves: the break itself if it is none of the usual
ones, a blank if no empty line follows, and the empty lines. -/
private def folded (lineBreak : Char) (breaks : List Char) : List Char :=
  (if lineBreak ≠ '\n' then [lineBreak] else if breaks.isEmpty then [' '] else []) ++ breaks

/-- Empty lines inside a quoted text, up to a line that holds something. -/
def quotedBreaks (start : Cursor) : Nat → Cursor → List Char → Except Fault (List Char × Cursor)
  | 0, c, acc => .ok (acc.reverse, c)
  | fuel + 1, c, acc =>
    if c.atDivider then .error (tokenFault .quoted start .divider c)
    else
      let c := (c.span fun ch => ch == ' ' || ch == '\t').2
      match c.lineBreak? with
      | some (ch, after) => quotedBreaks start fuel after (ch :: acc)
      | none => .ok (acc.reverse, c)

/-- Blanks inside a quoted text, which a line break folds. -/
def quotedSpaces (start c : Cursor) : Except Fault (List Char × Cursor) :=
  let (blanks, after) := c.span fun ch => ch == ' ' || ch == '\t'
  match after.lineBreak? with
  | some (ch, next) => do
    let (breaks, next) ← quotedBreaks start (next.rest.length + 1) next []
    return (folded ch breaks, next)
  | none =>
    if after.peek = endMark then .error (tokenFault .quoted start .endOfText after)
    else .ok (blanks, after)

/-- The character of an escape of one letter. -/
def escapeChar? (c : Char) : Option Char :=
  (([('0', 0), ('a', 7), ('b', 8), ('t', 9), ('\t', 9), ('n', 10), ('v', 11), ('f', 12), ('r', 13),
      ('e', 27), (' ', 32), ('"', 34), ('\\', 92), ('/', 47), ('N', 0x85), ('_', 0xa0),
      ('L', 0x2028), ('P', 0x2029)] : List (Char × Nat)).lookup c).map Char.ofNat

/-- The number of digits after an escape that names a code point. -/
def escapeWidth? (c : Char) : Option Nat :=
  if c = 'x' then some 2 else if c = 'u' then some 4 else if c = 'U' then some 8 else none

private def firstNonHex (cs : List Char) : Nat → Option Char
  | 0 => none
  | n + 1 =>
    match cs with
    | [] => some endMark
    | c :: rest => if (hexValue? c).isSome then firstNonHex rest n else some c

private def hexNumber (cs : List Char) : Nat :=
  cs.foldl (fun n c => n * 16 + (hexValue? c).getD 0) 0

/-- An escape after its backslash. Two escapes are never one character. -/
def scanEscape (start c : Cursor) : Except Fault (List Char × Cursor) :=
  match escapeChar? c.peek with
  | some ch => .ok ([ch], c.advance)
  | none =>
    match escapeWidth? c.peek with
    | some width =>
      let d := c.advance
      match firstNonHex d.rest width with
      | some bad => .error (tokenFault .doubleQuoted start (.notHex width bad) d)
      | none =>
        let code := hexNumber (d.rest.take width)
        if 0x7fffffff < code then .error (.scalar .codePointSize)
        else if 0x10ffff < code then .error (.scalar .codePoint)
        else .ok (unitChars code, d.skip width)
    | none =>
      match c.lineBreak? with
      | some (_, after) => quotedBreaks start (after.rest.length + 1) after []
      | none => .error (tokenFault .doubleQuoted start (.unknownEscape c.peek) c)

private def isQuotedRun (c : Char) : Bool :=
  !(isBlankOrEnd c || c == '\'' || c == '"' || c == '\\')

/-- A quoted text after its opening mark, up to the closing one. -/
def quotedFrom (start : Cursor) (double : Bool) :
    Nat → Cursor → List Char → Except Fault (List Char × Cursor)
  | 0, c, acc => .ok (acc, c)
  | fuel + 1, c, acc =>
    let (run, c) := c.span isQuotedRun
    let acc := acc ++ run
    let ch := c.peek
    if !double && ch == '\'' && c.peekAt 1 == '\'' then
      quotedFrom start double fuel (c.skip 2) (acc ++ ['\''])
    else if ch == (if double then '"' else '\'') then .ok (acc, c.advance)
    else if ch == '\'' || ch == '"' || (!double && ch == '\\') then
      quotedFrom start double fuel c.advance (acc ++ [ch])
    else if ch == '\\' then do
      let (cs, c) ← scanEscape start c.advance
      quotedFrom start double fuel c (acc ++ cs)
    else do
      let (cs, c) ← quotedSpaces start c
      quotedFrom start double fuel c (acc ++ cs)

/-- A quoted text. -/
def scanQuoted (start : Cursor) (double : Bool) : Except Fault (String × Cursor) := do
  let (cs, after) ← quotedFrom start double (start.rest.length + 1) start.advance []
  return (String.ofList cs, after)

/-- What a bare text is made of on one line. Inside brackets the marks of a collection end it. -/
def bareRun (flow : Bool) : List Char → List Char
  | [] => []
  | c :: rest =>
    let next := rest.headD endMark
    if isBlankOrEnd c then []
    else if c == ':' && (isBlankOrEnd next || (flow && ",[]\x7b\x7d".toList.contains next)) then []
    else if flow && ",?[]\x7b\x7d".toList.contains c then []
    else c :: bareRun flow rest

/-- Empty lines and indentation before the next line of a bare text; nothing at a divider. -/
def bareBreaks : Nat → Cursor → List Char → Option (List Char) × Cursor
  | 0, c, acc => (some acc.reverse, c)
  | fuel + 1, c, acc =>
    if c.peek = ' ' then bareBreaks fuel c.advance acc
    else
      match c.lineBreak? with
      | some (ch, after) =>
        if after.atDivider then (none, after) else bareBreaks fuel after (ch :: acc)
      | none => (some acc.reverse, c)

/-- What stands between two parts of a bare text; whether it holds a line break; the place after. -/
def bareSpaces (c : Cursor) : List Char × Bool × Cursor :=
  let (blanks, after) := c.span (· == ' ')
  match after.lineBreak? with
  | some (ch, next) =>
    if next.atDivider then ([], true, next)
    else
      match bareBreaks (next.rest.length + 1) next [] with
      | (some breaks, next) => (folded ch breaks, true, next)
      | (none, next) => ([], true, next)
  | none => (blanks, false, after)

/-- A bare text that has been read. -/
structure BareText where
  text : List Char
  stop : Cursor
  next : Cursor
  /-- Whether a line break was passed since its last part. -/
  newLine : Bool

/-- The parts of a bare text that are indented at least by `indent`. -/
def bareFrom (flow : Bool) (indent : Int) : Nat → Cursor → List Char → BareText → BareText
  | 0, _, _, t => t
  | fuel + 1, c, spaces, t =>
    if c.peek = '#' then t
    else
      let run := bareRun flow c.rest
      if run.isEmpty then t
      else
        let stop := c.skip run.length
        let (spaces', newLine, next) := bareSpaces stop
        let t := { text := t.text ++ spaces ++ run, stop, next, newLine : BareText }
        if spaces'.isEmpty || next.peek = '#' || (!flow && (next.column : Int) < indent) then t
        else bareFrom flow indent fuel next spaces' t

/-- A bare text. -/
def scanBare (flow : Bool) (indent : Int) (start : Cursor) : BareText :=
  bareFrom flow indent (start.rest.length + 1) start [] ⟨[], start, start, false⟩

/-- What becomes of the line breaks at the end of a block. -/
inductive Chomping where
  | clip
  | keep
  | strip
deriving DecidableEq, Repr

private def chomping? (c : Char) : Option Chomping :=
  if c = '+' then some .keep else if c = '-' then some .strip else none

private def increment? (start c : Cursor) : Except Fault (Option Nat × Cursor) :=
  if isAsciiDigit c.peek then
    if c.peek = '0' then .error (tokenFault .blockScalar start .zeroIndent c)
    else .ok (some (c.peek.toNat - 48), c.advance)
  else .ok (none, c)

/-- The indicators after the mark of a block: chomping and indentation, in either order. -/
def blockHeader (start c : Cursor) : Except Fault ((Chomping × Option Nat) × Cursor) := do
  let (header, c) ←
    match chomping? c.peek with
    | some chomping => do
      let (increment, c) ← increment? start c.advance
      pure ((chomping, increment), c)
    | none => do
      let (increment, c) ← increment? start c
      match increment, chomping? c.peek with
      | some _, some chomping => pure ((chomping, increment), c.advance)
      | _, _ => pure ((Chomping.clip, increment), c)
  if isSpaceOrEnd c.peek then return (header, c)
  else .error (tokenFault .blockScalar start (.notIndicator c.peek) c)

/-- Empty lines before the first line of a block, and its greatest indentation among them. -/
def blockIndentation : Nat → Cursor → List Char → Nat → Cursor → List Char × Nat × Cursor × Cursor
  | 0, c, acc, deepest, stop => (acc.reverse, deepest, stop, c)
  | fuel + 1, c, acc, deepest, stop =>
    if c.peek = ' ' then
      let c := c.advance
      blockIndentation fuel c acc (max deepest c.column) stop
    else
      match c.lineBreak? with
      | some (ch, after) => blockIndentation fuel after (ch :: acc) deepest after
      | none => (acc.reverse, deepest, stop, c)

private def skipIndent (indent : Nat) (c : Cursor) : Cursor :=
  c.skip (min (indent - c.column) (c.rest.takeWhile (· == ' ')).length)

/-- Empty lines inside a block, and the indentation of the next line. -/
def blockBreaks (indent : Nat) : Nat → Cursor → List Char → Cursor → List Char × Cursor × Cursor
  | 0, c, acc, stop => (acc.reverse, stop, c)
  | fuel + 1, c, acc, stop =>
    let c := skipIndent indent c
    match c.lineBreak? with
    | some (ch, after) => blockBreaks indent fuel after (ch :: acc) after
    | none => (acc.reverse, stop, c)

/-- A block that has been read up to its last line. -/
structure BlockText where
  text : List Char
  /-- The break after the last line. -/
  lineBreak : List Char
  /-- The empty lines after it. -/
  breaks : List Char
  stop : Cursor
  next : Cursor

/-- The lines of a block that are indented by `indent`. -/
def blockLines (isFolded : Bool) (indent : Nat) : Nat → BlockText → BlockText
  | 0, t => t
  | fuel + 1, t =>
    let c := t.next
    if c.column = indent && c.peek ≠ endMark then
      let solid := !(c.peek == ' ' || c.peek == '\t')
      let (line, after) := c.span fun ch => !isBreakOrEnd ch
      let (lineBreak, after) := match after.lineBreak? with
        | some (ch, next) => ([ch], next)
        | none => ([], after)
      let (breaks, stop, next) := blockBreaks indent (after.rest.length + 1) after [] after
      let text := t.text ++ t.breaks ++ line
      if next.column = indent && next.peek ≠ endMark then
        let joint :=
          if isFolded && lineBreak == ['\n'] && solid &&
              !(next.peek == ' ' || next.peek == '\t') then
            (if breaks.isEmpty then [' '] else [])
          else lineBreak
        blockLines isFolded indent fuel ⟨text ++ joint, lineBreak, breaks, stop, next⟩
      else ⟨text, lineBreak, breaks, stop, next⟩
    else t

/-- A block scalar: its text, the place of its end, and the place after it. -/
def scanBlock (isFolded : Bool) (outer : Int) (start : Cursor) :
    Except Fault (String × Cursor × Cursor) := do
  let ((chomping, increment), c) ← blockHeader start start.advance
  let c ← scanLineEnd .blockScalar start c
  let least := (max (outer + 1) 1).toNat
  let (breaks, indent, stop, c) :=
    match increment with
    | none =>
      let (breaks, deepest, stop, c) := blockIndentation (c.rest.length + 1) c [] 0 c
      (breaks, max least deepest, stop, c)
    | some n =>
      let indent := least + n - 1
      let (breaks, stop, c) := blockBreaks indent (c.rest.length + 1) c [] c
      (breaks, indent, stop, c)
  let t := blockLines isFolded indent (c.rest.length + 1) ⟨[], [], breaks, stop, c⟩
  let ending := match chomping with
    | .strip => []
    | .clip => t.lineBreak
    | .keep => t.lineBreak ++ t.breaks
  return (String.ofList (t.text ++ ending), t.stop, t.next)

end ApiDrift.Yaml
