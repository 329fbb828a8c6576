import ApiDrift.Document.Display
import ApiDrift.Number.Reading
import ApiDrift.Text.Utf8

/-!
# Checking values against a model

A value either fits or has flaws; all flaws of a model are collected, in the order of its fields.
A flaw says where it is, which rule is broken and by which value. Long values are shown by their
first 25 and last 24 bytes, each cut back to whole characters.
-/

namespace ApiDrift.Checking

open ApiDrift.Text

/-- The rules that a value can break. -/
inductive Rule where
  | text
  | textBytes
  | list
  | missing
  | choice (names : List String)
  | model (name : String)
  | flag
  | flagValue
  | integer
  | integerText
  | integerSize
  | whole
  | finite
  | atLeast (n : Int)
  | atMost (n : Int)
deriving DecidableEq, Repr

/-- A broken rule, its place from the outermost field in, and the value that breaks it. -/
structure Flaw where
  place : List String
  rule : Rule
  value : Document

/-- The flaws of a value of one model. -/
structure Report where
  model : String
  flaws : List Flaw

/-- A value that fits, or its flaws. -/
def Checked (α : Type) := Except (List Flaw) α

namespace Checked

/-- The outcome of a function check and an argument check: the flaws of both, or the value. -/
def both {α β : Type} (f : Checked (α → β)) (a : Checked α) : Checked β :=
  match f, a with
  | .ok f, .ok a => .ok (f a)
  | .ok _, .error es => .error es
  | .error es, .ok _ => .error es
  | .error es, .error es' => .error (es ++ es')

instance : Applicative Checked where
  pure a := .ok a
  seq f a := both f (a ())

end Checked

private def flaw {α : Type} (rule : Rule) (value : Document) : Checked α :=
  .error [⟨[], rule, value⟩]

/-- Puts a field or index in front of the places of all flaws. -/
def inside {α : Type} (field : String) (c : Checked α) : Checked α :=
  match c with
  | .ok a => .ok a
  | .error es => .error (es.map fun e => { e with place := field :: e.place })

/-- A text; bytes are taken as UTF-8. -/
def text (v : Document) : Checked String :=
  match v with
  | .text s => .ok s
  | .bytes bs =>
    match decodeUtf8 bs with
    | .ok cs => .ok (String.ofList cs)
    | .error _ => flaw .textBytes v
  | _ => flaw .text v

/-- A value that may be absent. -/
def nullable {α : Type} (check : Document → Checked α) (v : Document) : Checked (Option α) :=
  match v with
  | .null => .ok none
  | _ => some <$> check v

/-- Any value at all. -/
def anything (v : Document) : Checked Document := .ok v

private def falseWords : List String := ["0", "off", "f", "false", "n", "no"]

private def trueWords : List String := ["1", "on", "t", "true", "y", "yes"]

private def asciiLower (s : String) : String :=
  String.ofList (s.toList.map fun c => if 'A' ≤ c && c ≤ 'Z' then Char.ofNat (c.toNat + 32) else c)

private def flagWord (v : Document) (s : String) : Checked Bool :=
  let w := asciiLower s
  if falseWords.contains w then .ok false
  else if trueWords.contains w then .ok true
  else flaw .flagValue v

/-- A truth value: itself, one of its words, or the number zero or one. -/
def flag (v : Document) : Checked Bool :=
  match v with
  | .bool b => .ok b
  | .text s => flagWord v s
  | .bytes bs =>
    match decodeUtf8 bs with
    | .ok cs => flagWord v (String.ofList cs)
    | .error _ => flaw .flagValue v
  | .int n => if n = 0 then .ok false else if n = 1 then .ok true else flaw .flagValue v
  | .float x =>
    match x.toInt? with
    | some n => if n = 0 then .ok false else if n = 1 then .ok true else flaw .flagValue v
    | none => flaw .flag v
  | _ => flaw .flag v

/-- Digits with single low lines between them. -/
private def plainDigits? (cs : List Char) : Option Nat :=
  let (value, count, rest) := Number.readDigits 10 0 0 false cs
  if 0 < count && rest.isEmpty && cs.all (fun c => isAsciiDigit c || c == '_') then some value
  else none

/-- A whole number as text: blanks around it, a sign, and zeros after a point are allowed. -/
private def integerWord? (s : String) : Option Int :=
  let (negative, body) := Number.splitSign (trim s.toList)
  let whole := body.takeWhile (· != '.')
  let zeros := (body.dropWhile (· != '.')).drop 1
  if zeros.all (· == '0') then
    (plainDigits? whole).map fun n => if negative then -(n : Int) else n
  else none

private def integerText (v : Document) (s : String) : Checked Int :=
  if Number.digitLimit < s.length then flaw .integerSize v
  else
    match integerWord? s with
    | some n => .ok n
    | none => flaw .integerText v

/-- A whole number, also from a truth value, from floating point without a fraction, or from text.
-/
def integer (v : Document) : Checked Int :=
  match v with
  | .int n => .ok n
  | .bool b => .ok (if b then 1 else 0)
  | .float x =>
    match x with
    | .finite .. =>
      match x.toInt? with
      | some n => .ok n
      | none => flaw .whole v
    | _ => flaw .finite v
  | .text s => integerText v s
  | .bytes bs =>
    match decodeUtf8 bs with
    | .ok cs => integerText v (String.ofList cs)
    | .error _ => flaw .integerText v
  | _ => flaw .integer v

/-- A whole number from zero to a hundred. -/
def percentage (v : Document) : Checked Nat :=
  match integer v with
  | .error es => .error es
  | .ok n =>
    if n < 0 then flaw (.atLeast 0) v
    else if 100 < n then flaw (.atMost 100) v
    else .ok n.toNat

/-- One of several named values. -/
def choice {α : Type} (name : α → String) (all : List α) (v : Document) : Checked α :=
  let found? := match v with
    | .text s => all.find? fun a => name a == s
    | _ => none
  match found? with
  | some a => .ok a
  | none => flaw (.choice (all.map name)) v

/-- The members of a sequence, each checked at its index. -/
def itemsFrom {α : Type} (check : Document → Checked α) (i : Nat) : List Document → Checked (List α)
  | [] => .ok []
  | v :: vs => List.cons <$> inside (Nat.repr i) (check v) <*> itemsFrom check (i + 1) vs

/-- A sequence of values that are checked alike. -/
def list {α : Type} (check : Document → Checked α) (v : Document) : Checked (List α) :=
  match v with
  | .seq items => itemsFrom check 0 items
  | .tuple items => itemsFrom check 0 items
  | .set items => itemsFrom check 0 items
  | _ => flaw .list v

/-- A field by its name in exchanged data and by its plain name. -/
structure FieldName where
  camel : String
  plain : String
deriving DecidableEq, Repr

/-- The value of a field under either name, with the name under which it was found. -/
def find? (entries : Document.Entries) (field : FieldName) : Option (String × Document) :=
  match Document.get? entries field.camel with
  | some v => some (field.camel, v)
  | none => (Document.get? entries field.plain).map fun v => (field.plain, v)

/-- A field that must be there. -/
def must {α : Type} (entries : Document.Entries) (field : FieldName)
    (check : Document → Checked α) : Checked α :=
  match find? entries field with
  | some (name, v) => inside name (check v)
  | none => .error [⟨[field.camel], .missing, .map entries⟩]

/-- A field that has a default. -/
def may {α : Type} (entries : Document.Entries) (field : FieldName) (default : α)
    (check : Document → Checked α) : Checked α :=
  match find? entries field with
  | some (name, v) => inside name (check v)
  | none => .ok default

/-- A value of a model, from a mapping of its fields. -/
def model {α : Type} (name : String) (fields : Document.Entries → Checked α) (v : Document) :
    Checked α :=
  match v with
  | .map entries => fields entries
  | _ => flaw (.model name) v

/-- A whole value of a model, or the report on it. -/
def report {α : Type} (name : String) (c : Checked α) : Except Report α :=
  match c with
  | .ok a => .ok a
  | .error es => .error ⟨name, es⟩

/-- Alternatives between quotation marks, with a word before the last. -/
def alternatives : List String → String
  | [] => ""
  | [a] => a
  | [a, b] => a ++ " or " ++ b
  | a :: rest => a ++ ", " ++ alternatives rest

namespace Rule

/-- The short name of a rule. -/
def name : Rule → String
  | text => "string_type"
  | textBytes => "string_unicode"
  | list => "list_type"
  | missing => "missing"
  | choice _ => "enum"
  | model _ => "model_type"
  | flag => "bool_type"
  | flagValue => "bool_parsing"
  | integer => "int_type"
  | integerText => "int_parsing"
  | integerSize => "int_parsing_size"
  | whole => "int_from_float"
  | finite => "finite_number"
  | atLeast _ => "greater_than_equal"
  | atMost _ => "less_than_equal"

/-- What a rule demands. -/
def demand : Rule → String
  | text => "Input should be a valid string"
  | textBytes => "Input should be a valid string, unable to parse raw data as a unicode string"
  | list => "Input should be a valid list"
  | missing => "Field required"
  | choice names => "Input should be " ++ alternatives (names.map fun n => "'" ++ n ++ "'")
  | model n => "Input should be a valid dictionary or instance of " ++ n
  | flag => "Input should be a valid boolean"
  | flagValue => "Input should be a valid boolean, unable to interpret input"
  | integer => "Input should be a valid integer"
  | integerText => "Input should be a valid integer, unable to parse string as an integer"
  | integerSize =>
    "Unable to parse input string as an integer, exceeded maximum size"
  | whole => "Input should be a valid integer, got a number with a fractional part"
  | finite => "Input should be a finite number"
  | atLeast n => "Input should be greater than or equal to " ++ toString n
  | atMost n => "Input should be less than or equal to " ++ toString n

end Rule

/-- The longest part of the front that fits into a number of bytes. -/
def takeBytes (budget : Nat) : List Char → List Char
  | [] => []
  | c :: rest => if utf8Width c ≤ budget then c :: takeBytes (budget - utf8Width c) rest else []

/-- A shown value, cut in the middle when it is longer than 50 bytes. -/
def abridge (s : String) : String :=
  if s.utf8ByteSize ≤ 50 then s
  else
    String.ofList (takeBytes 25 s.toList) ++ "..." ++
      String.ofList (takeBytes 24 s.toList.reverse).reverse

/-- The value of a flaw as it is shown. -/
def Flaw.shownValue (f : Flaw) : String :=
  if f.value.isShowable then abridge f.value.display
  else "<unprintable " ++ f.value.typeName ++ " object>"

private def Flaw.lines (f : Flaw) : List String :=
  (if f.place.isEmpty then [] else [String.intercalate "." f.place]) ++
    ["  " ++ f.rule.demand ++ " [type=" ++ f.rule.name ++ ", input_value=" ++
        f.shownValue ++ ", input_type=" ++ f.value.typeName ++ "]",
      "    For further information visit https://errors.pydantic.dev/2.14/v/" ++ f.rule.name]

/-- The report as it is shown to the user. -/
def Report.message (r : Report) : String :=
  let n := r.flaws.length
  String.intercalate "\n"
    ((Nat.repr n ++ " validation error" ++ (if n = 1 then "" else "s") ++ " for " ++ r.model) ::
      r.flaws.flatMap Flaw.lines)

end ApiDrift.Checking
