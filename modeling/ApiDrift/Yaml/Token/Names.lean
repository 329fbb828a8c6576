import ApiDrift.Yaml.Token

/-!
# Directives, anchors and tags

The tokens whose text is a name or an address: directive lines, anchors and aliases, and tags with
their handles and escaped bytes.
-/

namespace ApiDrift.Yaml

open ApiDrift.Text

def isNameChar (c : Char) : Bool := isAsciiDigit c || isAsciiLetter c || c == '-' || c == '_'

/-- The characters that a tag may hold as they are, and the percent sign of an escape. -/
def isUriChar (c : Char) : Bool :=
  isAsciiDigit c || isAsciiLetter c || "-;/?:@&=+$,_.!~*'()[]%".toList.contains c

/-- A directive or a tag, whose parts are read alike. -/
inductive TagContext where
  | directive
  | tag
deriving DecidableEq, Repr

def TagContext.scanning : TagContext → Activity
  | directive => .directive
  | tag => .tag

def TagContext.parsing : TagContext → Activity
  | directive => .directiveText
  | tag => .tagText

/-- A handle: an exclamation mark, or a name between two. -/
def scanHandle (ctx : TagContext) (since c : Cursor) : Except Fault (String × Cursor) :=
  if c.peek ≠ '!' then .error (tokenFault ctx.scanning since (.notTagMark c.peek) c)
  else if c.peekAt 1 = ' ' then .ok ("!", c.advance)
  else
    let (name, after) := c.advance.span isNameChar
    if after.peek ≠ '!' then .error (tokenFault ctx.scanning since (.notTagMark after.peek) after)
    else .ok (String.ofList ('!' :: name ++ ['!']), after.advance)

/-- Bytes written as pairs of hexadecimal digits after percent signs. -/
def scanBytes (ctx : TagContext) (since : Cursor) :
    Nat → Cursor → List UInt8 → Except Fault (List UInt8 × Cursor)
  | 0, c, acc => .ok (acc.reverse, c)
  | fuel + 1, c, acc =>
    if c.peek ≠ '%' then .ok (acc.reverse, c)
    else
      let d := c.advance
      match hexValue? d.peek, hexValue? (d.peekAt 1) with
      | some h, some l => scanBytes ctx since fuel (d.skip 2) (UInt8.ofNat (h * 16 + l) :: acc)
      | none, _ => .error (tokenFault ctx.scanning since (.notUriEscape d.peek) d)
      | some _, none => .error (tokenFault ctx.scanning since (.notUriEscape (d.peekAt 1)) d)

/-- The text of a tag, its escapes read as UTF-8. -/
def scanUriFrom (ctx : TagContext) (since : Cursor) :
    Nat → Cursor → List Char → Except Fault (List Char × Cursor)
  | 0, c, acc => .ok (acc, c)
  | fuel + 1, c, acc =>
    let (run, after) := c.span fun ch => isUriChar ch && ch != '%'
    let acc := acc ++ run
    if after.peek = '%' then do
      let (bytes, next) ← scanBytes ctx since after.rest.length after []
      match decodeUtf8 bytes with
      | .ok cs => scanUriFrom ctx since fuel next (acc ++ cs)
      | .error f => .error (tokenFault ctx.scanning since (.uriBytes f) after)
    else .ok (acc, after)

def scanUri (ctx : TagContext) (since c : Cursor) : Except Fault (String × Cursor) := do
  let (cs, after) ← scanUriFrom ctx since (c.rest.length + 1) c []
  if after.index = c.index then .error (tokenFault ctx.parsing since (.notUri c.peek) c)
  else return (String.ofList cs, after)

/-- The name of an anchor or alias after its mark. -/
def scanAnchor (activity : Activity) (start : Cursor) : Except Fault (String × Cursor) :=
  let c := start.advance
  let (name, after) := c.span isNameChar
  if name.isEmpty then .error (tokenFault activity start (.notAName c.peek) c)
  else if isBlankOrEnd after.peek || "?:,]\x7d%@\x60".toList.contains after.peek then
    .ok (String.ofList name, after)
  else .error (tokenFault activity start (.notAName after.peek) after)

/-- A tag is complete when a blank or the end of its line follows. -/
private def closeTag (start : Cursor) (handle : Option String) (suffix : String) (c : Cursor) :
    Except Fault (TokenKind × Cursor) :=
  if isSpaceOrEnd c.peek then .ok (.tag handle suffix, c)
  else .error (tokenFault .tag start (.notSpace c.peek) c)

/-- A tag: an address in angle brackets, a lone exclamation mark, or a handle and a suffix. -/
def scanTag (start : Cursor) : Except Fault (TokenKind × Cursor) :=
  let ch := start.peekAt 1
  if ch = '<' then do
    let (suffix, after) ← scanUri .tag start (start.skip 2)
    if after.peek ≠ '>' then .error (tokenFault .tagText start (.notTagEnd after.peek) after)
    else closeTag start none suffix after.advance
  else if isBlankOrEnd ch then closeTag start none "!" start.advance
  else do
    let ahead := (start.rest.drop 1).takeWhile fun x => !isSpaceOrEnd x
    let (handle, after) ←
      if ahead.contains '!' then scanHandle .tag start start
      else .ok ("!", start.advance)
    let (suffix, after) ← scanUri .tag start after
    closeTag start (some handle) suffix after

private def scanVersionNumber (start c : Cursor) : Except Fault (Nat × Cursor) :=
  if !isAsciiDigit c.peek then .error (tokenFault .directive start (.notDigit c.peek) c)
  else
    let (ds, after) := c.span isAsciiDigit
    if Number.digitLimit < ds.length then .error (.scalar (.integerTooLong ds.length))
    else .ok (ds.foldl (fun n d => n * 10 + (d.toNat - 48)) 0, after)

private def scanVersion (start c : Cursor) : Except Fault (Directive × Cursor) := do
  let (major, c) ← scanVersionNumber start c.skipSpaces
  if c.peek ≠ '.' then .error (tokenFault .directive start (.notDigitOrDot c.peek) c)
  else
    let (minor, c) ← scanVersionNumber start c.advance
    if isSpaceOrEnd c.peek then return (.version major minor, c)
    else .error (tokenFault .directive start (.notDigitOrSpace c.peek) c)

private def scanTagDirective (start c : Cursor) : Except Fault (Directive × Cursor) := do
  let (handle, c) ← scanHandle .directive start c.skipSpaces
  if c.peek ≠ ' ' then .error (tokenFault .directive start (.notSpace c.peek) c)
  else
    let (pre, c) ← scanUri .directive start c.skipSpaces
    if isSpaceOrEnd c.peek then return (.tag handle pre, c)
    else .error (tokenFault .directive start (.notSpace c.peek) c)

/-- What may stand at the end of a line: blanks, a comment, and the line break. -/
def scanLineEnd (activity : Activity) (start c : Cursor) : Except Fault Cursor :=
  let c := c.skipSpaces
  let c := if c.peek = '#' then (c.span fun ch => !isBreakOrEnd ch).2 else c
  if isBreakOrEnd c.peek then .ok c.skipBreak
  else .error (tokenFault activity start (.notCommentOrBreak c.peek) c)

/-- A directive line; the token ends before what is left of the line. -/
def scanDirective (start : Cursor) : Except Fault (Directive × Cursor × Cursor) := do
  let c := start.advance
  let (name, after) := c.span isNameChar
  if name.isEmpty then .error (tokenFault .directive start (.notAName c.peek) c)
  else if !isSpaceOrEnd after.peek then
    .error (tokenFault .directive start (.notAName after.peek) after)
  else
    let (directive, stop, c) ←
      if String.ofList name = "YAML" then do
        let (d, c) ← scanVersion start after
        pure (d, c, c)
      else if String.ofList name = "TAG" then do
        let (d, c) ← scanTagDirective start after
        pure (d, c, c)
      else pure (Directive.other, after, (after.span fun ch => !isBreakOrEnd ch).2)
    let next ← scanLineEnd .directive start c
    return (directive, stop, next)

end ApiDrift.Yaml
