import ApiDrift.Text.CharClass

/-!
# Tags

The kinds of scalars and collections by their addresses, and the kind that a bare scalar has by its
spelling alone: truth values, whole numbers in four notations and to base sixty, numbers with a
point, nothing, dates and moments, the merge key and the value key. Everything else is a text. One
line feed at the end of a scalar is looked through.
-/

namespace ApiDrift.Yaml

open ApiDrift.Text

namespace Tag

/-- The address under which the common kinds are defined. -/
def common (name : String) : String := "tag:yaml.org,2002:" ++ name

def str := common "str"
def seq := common "seq"
def map := common "map"
def null := common "null"
def bool := common "bool"
def int := common "int"
def float := common "float"
def timestamp := common "timestamp"
def merge := common "merge"
def value := common "value"
def binary := common "binary"
def omap := common "omap"
def pairs := common "pairs"
def set := common "set"
def markup := common "yaml"

end Tag

/-- A text without a sign in front of it. -/
def unsigned (cs : List Char) : List Char :=
  match cs with
  | '-' :: rest => rest
  | '+' :: rest => rest
  | _ => cs

private def isDigitOrLow (c : Char) : Bool := isAsciiDigit c || c == '_'

/-- One digit, or two of which the first is at most five. -/
private def isSixtieth (cs : List Char) : Bool :=
  match cs with
  | [a] => isAsciiDigit a
  | [a, b] => '0' ≤ a && a ≤ '5' && isAsciiDigit b
  | _ => false

/-- The parts of a text between a mark. -/
def splitAt (mark : Char) : List Char → List (List Char)
  | [] => [[]]
  | c :: rest =>
    if c = mark then [] :: splitAt mark rest
    else
      match splitAt mark rest with
      | [] => [[c]]
      | p :: ps => (c :: p) :: ps

/-- A whole number of the decimal, binary, octal or hexadecimal notation, or to base sixty. -/
def isWhole (cs : List Char) : Bool :=
  match unsigned cs with
  | ['0'] => true
  | '0' :: 'b' :: rest => !rest.isEmpty && rest.all fun c => c == '0' || c == '1' || c == '_'
  | '0' :: 'x' :: rest => !rest.isEmpty && rest.all fun c => (hexValue? c).isSome || c == '_'
  | '0' :: rest => rest.all fun c => ('0' ≤ c && c ≤ '7') || c == '_'
  | c :: rest =>
    isAsciiDigit c &&
      match splitAt ':' rest with
      | first :: parts => first.all isDigitOrLow && parts.all isSixtieth
      | [] => true
  | [] => false

private def isExponent (cs : List Char) : Bool :=
  match cs with
  | [] => true
  | e :: sign :: rest =>
    (e == 'e' || e == 'E') && (sign == '-' || sign == '+') && !rest.isEmpty && rest.all isAsciiDigit
  | _ => false

private def startsWithDigit (cs : List Char) : Bool :=
  match cs with
  | c :: _ => isAsciiDigit c
  | [] => false

/-- A number with a point, an infinity, or what is no number. -/
def isReal (cs : List Char) : Bool :=
  let body := unsigned cs
  let whole := body.takeWhile (· != '.')
  match body.dropWhile (· != '.') with
  | [] => false
  | _ :: fraction =>
    let afterPlaces := fraction.dropWhile isDigitOrLow
    if whole.isEmpty then
      (body.length = cs.length && startsWithDigit fraction && isExponent afterPlaces) ||
        ["inf", "Inf", "INF"].contains (String.ofList fraction) ||
        (body.length = cs.length && ["nan", "NaN", "NAN"].contains (String.ofList fraction))
    else
      startsWithDigit whole &&
        match splitAt ':' whole with
        | [first] => first.all isDigitOrLow && isExponent afterPlaces
        | first :: parts => first.all isDigitOrLow && parts.all isSixtieth && afterPlaces.isEmpty
        | [] => false

/-- Digits at the front, at least and at most so many. -/
def takeDigits? (least most : Nat) (cs : List Char) : Option (Nat × List Char) :=
  let ds := (cs.take most).takeWhile isAsciiDigit
  if ds.length < least then none
  else some (ds.foldl (fun n d => n * 10 + (d.toNat - 48)) 0, cs.drop ds.length)

/-- What follows a character, if it stands in front. -/
def dropChar? (c : Char) (cs : List Char) : Option (List Char) :=
  match cs with
  | d :: rest => if d = c then some rest else none
  | [] => none

/-- The parts of a date as it is written. -/
structure DateParts where
  year : Nat
  month : Nat
  day : Nat
deriving DecidableEq, Repr

/-- The offset that stands after a time: universal time, or hours and minutes ahead or behind. -/
inductive Zone where
  | universal
  | shifted (negative : Bool) (hours minutes : Nat)
deriving DecidableEq, Repr

/-- The parts of a time as it is written. -/
structure TimeParts where
  hour : Nat
  minute : Nat
  second : Nat
  fraction : List Char
  zone : Option Zone
deriving DecidableEq, Repr

/-- A date whose month and day have at least so many digits. -/
private def dateParts? (least : Nat) (cs : List Char) : Option (DateParts × List Char) := do
  let (year, cs) ← takeDigits? 4 4 cs
  let cs ← dropChar? '-' cs
  let (month, cs) ← takeDigits? least 2 cs
  let cs ← dropChar? '-' cs
  let (day, cs) ← takeDigits? least 2 cs
  return (⟨year, month, day⟩, cs)

private def isTimeBlank (c : Char) : Bool := c == ' ' || c == '\t'

private def zoneParts? (cs : List Char) : Option (Option Zone) :=
  match cs.dropWhile isTimeBlank with
  | [] => if cs.isEmpty then some none else none
  | ['Z'] => some (some .universal)
  | c :: rest =>
    if c = '-' || c = '+' then do
      let (hours, rest) ← takeDigits? 1 2 rest
      match rest with
      | [] => return some (.shifted (c == '-') hours 0)
      | ':' :: rest =>
        let (minutes, rest) ← takeDigits? 2 2 rest
        if rest.isEmpty then return some (.shifted (c == '-') hours minutes) else none
      | _ => none
    else none

private def timeParts? (cs : List Char) : Option TimeParts := do
  let cs ←
    match cs with
    | c :: rest =>
      if c = 't' || c = 'T' then some rest
      else if isTimeBlank c then some (rest.dropWhile isTimeBlank) else none
    | [] => none
  let (hour, cs) ← takeDigits? 1 2 cs
  let cs ← dropChar? ':' cs
  let (minute, cs) ← takeDigits? 2 2 cs
  let cs ← dropChar? ':' cs
  let (second, cs) ← takeDigits? 2 2 cs
  let (fraction, cs) :=
    match cs with
    | '.' :: rest => (rest.takeWhile isAsciiDigit, rest.dropWhile isAsciiDigit)
    | _ => ([], cs)
  let zone ← zoneParts? cs
  return ⟨hour, minute, second, fraction, zone⟩

private def dropFinalBreak (cs : List Char) : List Char :=
  match cs.reverse with
  | '\n' :: rest => rest.reverse
  | _ => cs

/-- A date, alone or with a time. -/
def momentParts? (s : String) : Option (DateParts × Option TimeParts) := do
  let (date, rest) ← dateParts? 1 (dropFinalBreak s.toList)
  if rest.isEmpty then return (date, none)
  else return (date, some (← timeParts? rest))

/-- A date that is recognised by its spelling; alone, it has two digits for month and day. -/
private def isMoment (cs : List Char) : Bool :=
  match momentParts? (String.ofList cs) with
  | some (_, some _) => true
  | some (_, none) =>
    match dateParts? 2 cs with
    | some (_, rest) => rest.isEmpty
    | none => false
  | none => false

def flagWords : List String :=
  ["yes", "Yes", "YES", "no", "No", "NO", "true", "True", "TRUE", "false", "False", "FALSE", "on",
   "On", "ON", "off", "Off", "OFF"]

def nullWords : List String := ["~", "null", "Null", "NULL", ""]

/-- The tag that a scalar has by its spelling. -/
def implicitTag (s : String) : String :=
  let cs := dropFinalBreak s.toList
  let word := String.ofList cs
  if flagWords.contains word then Tag.bool
  else if isReal cs then Tag.float
  else if isWhole cs then Tag.int
  else if word == "<<" then Tag.merge
  else if nullWords.contains word && (!word.isEmpty || s.isEmpty) then Tag.null
  else if isMoment cs then Tag.timestamp
  else if word == "=" then Tag.value
  else if word == "!" || word == "&" || word == "*" then Tag.markup
  else Tag.str

end ApiDrift.Yaml
