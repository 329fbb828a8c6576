import ApiDrift.Calendar
import ApiDrift.Number.Binary64

/-!
# Document trees

What a decoded document is made of. Mappings keep the order in which their keys came first, and
hold the value that came last. A whole number, a number of floating point and a truth value that
are equal as numbers are one and the same key.

A sequence or mapping that contains itself is represented by `cycle` at the place where it recurs.
There it counts as something, but none of its items or entries are seen.
-/

namespace ApiDrift

/-- The two kinds of container that can contain themselves. -/
inductive Shape where
  | sequence
  | mapping
deriving DecidableEq, Repr

inductive Document where
  | null
  | bool (b : Bool)
  | int (n : Int)
  | float (x : Binary64)
  | text (s : String)
  | bytes (bs : List UInt8)
  | date (d : Date)
  | moment (t : Moment)
  | seq (items : List Document)
  | tuple (items : List Document)
  | set (items : List Document)
  | map (entries : List (Document × Document))
  | cycle (shape : Shape)

namespace Document

/-- The entries of a mapping. -/
abbrev Entries := List (Document × Document)

/-- A truth value or whole number as a whole number, also when it is of floating point. -/
def integer? : Document → Option Int
  | bool b => some (if b then 1 else 0)
  | int n => some n
  | float x => x.toInt?
  | _ => none

mutual

/-- Whether two values are the same key or member. -/
def same : Document → Document → Bool
  | null, null => true
  | text s, text t => s == t
  | bytes a, bytes b => a == b
  | date d, date e => d == e
  | moment t, moment u => t.same u
  | float x, float y => x.sameNumber y
  | tuple xs, tuple ys => sameAll xs ys
  | a, b =>
    match a.integer?, b.integer? with
    | some m, some n => m == n
    | _, _ => false

def sameAll : List Document → List Document → Bool
  | [], [] => true
  | x :: xs, y :: ys => same x y && sameAll xs ys
  | _, _ => false

end

/-- The value of a key. -/
def lookup (entries : Entries) (key : Document) : Option Document :=
  (entries.find? fun e => e.1.same key).map (·.2)

/-- Gives a key a value: in its place if it is there, at the end if it is new. -/
def put (entries : Entries) (key value : Document) : Entries :=
  match entries with
  | [] => [(key, value)]
  | e :: rest => if e.1.same key then (e.1, value) :: rest else e :: put rest key value

/-- The mapping that a list of pairs writes. -/
def ofPairs (pairs : Entries) : Entries := pairs.foldl (fun es p => put es p.1 p.2) []

/-- The value of a key that is a text. -/
def get? (entries : Entries) (key : String) : Option Document := lookup entries (.text key)

/-- The value of a key that is a text, or nothing. -/
def get (entries : Entries) (key : String) : Document := (get? entries key).getD .null

/-- Whether a value counts as something: not zero, not empty, not nothing. -/
def isTruthy : Document → Bool
  | null => false
  | bool b => b
  | int n => n != 0
  | float x => !x.isZero
  | text s => !s.isEmpty
  | bytes bs => !bs.isEmpty
  | date _ => true
  | moment _ => true
  | seq items => !items.isEmpty
  | tuple items => !items.isEmpty
  | set items => !items.isEmpty
  | map entries => !entries.isEmpty
  | cycle _ => true

/-- The entries of a mapping; no other value has any. -/
def entries : Document → Entries
  | map es => es
  | _ => []

/-- Whether a value is a mapping. -/
def isMap : Document → Bool
  | map _ => true
  | cycle .mapping => true
  | _ => false

/-- The name of a value's type, as it is shown to the user. -/
def typeName : Document → String
  | null => "NoneType"
  | bool _ => "bool"
  | int _ => "int"
  | float _ => "float"
  | text _ => "str"
  | bytes _ => "bytes"
  | date _ => "date"
  | moment _ => "datetime"
  | seq _ => "list"
  | tuple _ => "tuple"
  | set _ => "set"
  | map _ => "dict"
  | cycle .sequence => "list"
  | cycle .mapping => "dict"

end Document
end ApiDrift
