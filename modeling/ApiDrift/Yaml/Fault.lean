import ApiDrift.Calendar
import ApiDrift.Json.Fault
import ApiDrift.Text.Utf8
import ApiDrift.Yaml.Cursor

/-!
# Malformed markup

Everything that can be wrong with a markup text: a character it may not hold; a notice of the
reader, with what it was doing and where that began; a scalar whose value does not exist.
-/

namespace ApiDrift.Yaml

open ApiDrift.Text

/-- Which part of the reading gives a notice. -/
inductive Stage where
  | tokens
  | structure_
  | references
  | values
deriving DecidableEq, Repr

/-- What was being read. -/
inductive Activity where
  | simpleKey
  | directive
  | nextToken
  | anchor
  | reference
  | tag
  | tagText
  | directiveText
  | blockScalar
  | doubleQuoted
  | quoted
  | node
  | blockNode
  | flowNode
  | blockCollection
  | blockMapping
  | flowSequence
  | flowMapping
  | duplicateAnchor (name : String)
  | singleDocument
  | mapping
  | orderedMap
  | pairs
deriving DecidableEq, Repr

def Activity.text : Activity → String
  | simpleKey => "while scanning a simple key"
  | directive => "while scanning a directive"
  | nextToken => "while scanning for the next token"
  | anchor => "while scanning an anchor"
  | reference => "while scanning an alias"
  | tag => "while scanning a tag"
  | tagText => "while parsing a tag"
  | directiveText => "while parsing a directive"
  | blockScalar => "while scanning a block scalar"
  | doubleQuoted => "while scanning a double-quoted scalar"
  | quoted => "while scanning a quoted scalar"
  | node => "while parsing a node"
  | blockNode => "while parsing a block node"
  | flowNode => "while parsing a flow node"
  | blockCollection => "while parsing a block collection"
  | blockMapping => "while parsing a block mapping"
  | flowSequence => "while parsing a flow sequence"
  | flowMapping => "while parsing a flow mapping"
  | duplicateAnchor name => "found duplicate anchor " ++ quote name ++ "; first occurrence"
  | singleDocument => "expected a single document in the stream"
  | mapping => "while constructing a mapping"
  | orderedMap => "while constructing an ordered map"
  | pairs => "while constructing pairs"

/-- What is wrong. -/
inductive Problem where
  | noColon
  | noToken (c : Char)
  | entryHere
  | keyHere
  | valueHere
  | notAName (c : Char)
  | notDigitOrDot (c : Char)
  | notDigitOrSpace (c : Char)
  | notDigit (c : Char)
  | notSpace (c : Char)
  | notCommentOrBreak (c : Char)
  | notTagEnd (c : Char)
  | notTagMark (c : Char)
  | notUri (c : Char)
  | notUriEscape (c : Char)
  | uriBytes (fault : Utf8Fault)
  | zeroIndent
  | notIndicator (c : Char)
  | notHex (count : Nat) (c : Char)
  | unknownEscape (c : Char)
  | endOfText
  | divider
  | undefinedHandle (handle : String)
  | noContent (token : String)
  | noBlockEnd (token : String)
  | noSequenceEnd (token : String)
  | noMappingEnd (token : String)
  | duplicateVersion
  | foreignVersion
  | duplicateHandle (handle : String)
  | noDocumentStart (token : String)
  | undefinedAlias (name : String)
  | secondOccurrence
  | secondDocument
  | unknownTag (tag : String)
  | notScalar (kind : String)
  | notSequence (kind : String)
  | notMapping (kind : String)
  | unhashableKey
  | notMergeable (kind : String)
  | notMergeableList (kind : String)
  | pairsOf (kind : String)
  | pairOf (kind : String)
  | pairCount (count : Nat)
  | nonAscii (c : Char) (position : Nat)
  | nonAsciiRun (first last : Nat)
  | base64Padding
  | base64Length (count : Nat)
deriving DecidableEq, Repr

private def shown (c : Char) : String := quote (String.singleton c)

private def escaped (c : Char) : String :=
  if c.toNat ≤ 0xff then "\\x" ++ String.ofList (hexDigits 2 c.toNat)
  else if c.toNat ≤ 0xffff then "\\u" ++ String.ofList (hexDigits 4 c.toNat)
  else "\\U" ++ String.ofList (hexDigits 8 c.toNat)

private def asciiFault (where_ : String) : String :=
  "failed to convert base64 data into ascii: 'ascii' codec can't encode " ++ where_ ++
    ": ordinal not in range(128)"

def Problem.text : Problem → String
  | noColon => "could not find expected ':'"
  | noToken c => "found character " ++ shown c ++ " that cannot start any token"
  | entryHere => "sequence entries are not allowed here"
  | keyHere => "mapping keys are not allowed here"
  | valueHere => "mapping values are not allowed here"
  | notAName c => "expected alphabetic or numeric character, but found " ++ shown c
  | notDigitOrDot c => "expected a digit or '.', but found " ++ shown c
  | notDigitOrSpace c => "expected a digit or ' ', but found " ++ shown c
  | notDigit c => "expected a digit, but found " ++ shown c
  | notSpace c => "expected ' ', but found " ++ shown c
  | notCommentOrBreak c => "expected a comment or a line break, but found " ++ shown c
  | notTagEnd c => "expected '>', but found " ++ shown c
  | notTagMark c => "expected '!', but found " ++ shown c
  | notUri c => "expected URI, but found " ++ shown c
  | notUriEscape c =>
    "expected URI escape sequence of 2 hexadecimal numbers, but found " ++ shown c
  | uriBytes f => f.message
  | zeroIndent => "expected indentation indicator in the range 1-9, but found 0"
  | notIndicator c => "expected chomping or indentation indicators, but found " ++ shown c
  | notHex n c =>
    "expected escape sequence of " ++ Nat.repr n ++ " hexadecimal numbers, but found " ++ shown c
  | unknownEscape c => "found unknown escape character " ++ shown c
  | endOfText => "found unexpected end of stream"
  | divider => "found unexpected document separator"
  | undefinedHandle h => "found undefined tag handle " ++ quote h
  | noContent t => "expected the node content, but found " ++ quote t
  | noBlockEnd t => "expected <block end>, but found " ++ quote t
  | noSequenceEnd t => "expected ',' or ']', but got " ++ quote t
  | noMappingEnd t => "expected ',' or '\x7d', but got " ++ quote t
  | duplicateVersion => "found duplicate YAML directive"
  | foreignVersion => "found incompatible YAML document (version 1.* is required)"
  | duplicateHandle h => "duplicate tag handle " ++ quote h
  | noDocumentStart t => "expected '<document start>', but found " ++ quote t
  | undefinedAlias n => "found undefined alias " ++ quote n
  | secondOccurrence => "second occurrence"
  | secondDocument => "but found another document"
  | unknownTag t => "could not determine a constructor for the tag " ++ quote t
  | notScalar k => "expected a scalar node, but found " ++ k
  | notSequence k => "expected a sequence node, but found " ++ k
  | notMapping k => "expected a mapping node, but found " ++ k
  | unhashableKey => "found unhashable key"
  | notMergeable k => "expected a mapping for merging, but found " ++ k
  | notMergeableList k => "expected a mapping or list of mappings for merging, but found " ++ k
  | pairsOf k => "expected a sequence, but found " ++ k
  | pairOf k => "expected a mapping of length 1, but found " ++ k
  | pairCount n => "expected a single mapping item, but found " ++ Nat.repr n ++ " items"
  | nonAscii c position =>
    asciiFault ("character '" ++ escaped c ++ "' in position " ++ Nat.repr position)
  | nonAsciiRun first last =>
    asciiFault ("characters in position " ++ Nat.repr first ++ "-" ++ Nat.repr last)
  | base64Padding => "failed to decode base64 data: Incorrect padding"
  | base64Length n =>
    "failed to decode base64 data: Invalid base64-encoded string: number of data characters (" ++
      Nat.repr n ++ ") cannot be 1 more than a multiple of 4"

/-- A problem, with what was being read since where. -/
structure Notice where
  stage : Stage
  activity : Option Activity
  since : Option Cursor
  problem : Problem
  at_ : Cursor
deriving DecidableEq, Repr

/-- The lines of a notice. The place where an activity began is left out when it is the place of the
problem. -/
def Notice.message (n : Notice) : String :=
  let sinceLines := match n.since with
    | some m => if m.line = n.at_.line && m.column = n.at_.column then [] else [m.describe]
    | none => []
  String.intercalate "\n"
    ((n.activity.map Activity.text).toList ++ sinceLines ++ [n.problem.text, n.at_.describe])

/-- Why a scalar has no value. -/
inductive ScalarFault where
  /-- A whole number in a base. -/
  | integer (base : Nat) (text : String)
  | integerTooLong (digits : Nat)
  | real (text : String)
  | calendar (fault : CalendarFault)
  /-- A number whose sign or digits are missing altogether. -/
  | emptyNumber
  /-- A truth value that is none of the words for one. -/
  | unknownFlag (word : String)
  /-- A date that does not look like one. -/
  | noDate
  /-- A date that is written as the value key of a mapping. -/
  | noDateText
  /-- A number to base sixty with so many digits that the place of one is no number with a point. -/
  | placeSize
  /-- An escape beyond the last character. -/
  | codePoint
  /-- An escape beyond the range of numbers for characters. -/
  | codePointSize
deriving DecidableEq, Repr

def ScalarFault.message : ScalarFault → String
  | integer base s =>
    "invalid literal for int() with base " ++ Nat.repr base ++ ": " ++
      String.ofList ((quote s).toList.take 200)
  | integerTooLong n => Number.tooLongMessage n
  | real s => "could not convert string to float: " ++ quote s
  | calendar f => f.message
  | emptyNumber => "string index out of range"
  | unknownFlag w => quote w
  | noDate => "'NoneType' object has no attribute 'groupdict'"
  | noDateText => "expected string or bytes-like object, got 'list'"
  | placeSize => "int too large to convert to float"
  | codePoint => "chr() arg not in range(0x110000)"
  | codePointSize => "Python int too large to convert to C int"

inductive Fault where
  | unacceptable (c : Char) (position : Nat)
  | notice (n : Notice)
  | scalar (f : ScalarFault)
deriving DecidableEq, Repr

private def atLeastFourHex (n : Nat) : String :=
  let ds := (Nat.toDigits 16 n)
  String.ofList (List.replicate (4 - ds.length) '0' ++ ds)

def Fault.message : Fault → String
  | unacceptable c position =>
    "unacceptable character #x" ++ atLeastFourHex c.toNat ++
      ": special characters are not allowed\n  in \"<unicode string>\", position " ++
      Nat.repr position
  | notice n => n.message
  | scalar f => f.message

/-- A notice about the tokens of the text. -/
def tokenFault (activity : Activity) (since : Cursor) (problem : Problem) (at_ : Cursor) : Fault :=
  .notice ⟨.tokens, some activity, some since, problem, at_⟩

/-- A notice about the structure of the text. -/
def structureFault (activity : Activity) (since : Cursor) (problem : Problem) (at_ : Cursor) :
    Fault :=
  .notice ⟨.structure_, some activity, some since, problem, at_⟩

/-- A notice about a value. -/
def valueFault (problem : Problem) (at_ : Cursor) : Fault :=
  .notice ⟨.values, none, none, problem, at_⟩

end ApiDrift.Yaml
