import ApiDrift.Document
import ApiDrift.Number.Reading
import ApiDrift.Number.Shortest
import ApiDrift.Text.Quoted

/-!
# Showing document values

`display` shows a value with its quotation marks and brackets; `toText` shows a text, a date or a
moment bare and everything else as `display` does. A container that contains itself is shown as an
ellipsis in its brackets. Whole numbers beyond the limit of digits are not meant to be shown.
-/

namespace ApiDrift.Document

open ApiDrift.Text

private def commas : List String → String := String.intercalate ", "

mutual

/-- A value with quotation marks and brackets. -/
def display : Document → String
  | null => "None"
  | bool b => if b then "True" else "False"
  | int n => toString n
  | float x => x.text
  | text s => quote s
  | bytes bs => quoteBytes bs
  | date d => d.display
  | moment t => t.display
  | seq items => "[" ++ commas (displayAll items) ++ "]"
  | tuple items => "(" ++ commas (displayAll items) ++ (if items.length = 1 then ",)" else ")")
  | set items => if items.isEmpty then "set()" else "\x7b" ++ commas (displayAll items) ++ "\x7d"
  | map entries => "\x7b" ++ commas (displayEntries entries) ++ "\x7d"
  | cycle .sequence => "[...]"
  | cycle .mapping => "\x7b...\x7d"

def displayAll : List Document → List String
  | [] => []
  | x :: xs => display x :: displayAll xs

def displayEntries : List (Document × Document) → List String
  | [] => []
  | (k, v) :: es => (display k ++ ": " ++ display v) :: displayEntries es

end

/-- The first whole number whose digits exceed the limit. -/
def textLimit : Nat := Number.powerOfTen Number.digitLimit

mutual

/-- Whether no whole number inside a value has more digits than texts may have. -/
def isShowable : Document → Bool
  | int n => n.natAbs < textLimit
  | seq items => allShowable items
  | tuple items => allShowable items
  | set items => allShowable items
  | map entries => entriesShowable entries
  | _ => true

def allShowable : List Document → Bool
  | [] => true
  | x :: xs => isShowable x && allShowable xs

def entriesShowable : List (Document × Document) → Bool
  | [] => true
  | (k, v) :: es => isShowable k && isShowable v && entriesShowable es

end

/-- A value as plain text. -/
def toText : Document → String
  | text s => s
  | date d => d.text
  | moment t => t.text
  | v => v.display

end ApiDrift.Document
