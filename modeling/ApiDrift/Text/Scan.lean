import ApiDrift.Text.CharClass

/-!
# Recognising parts of a text

A recogniser takes the characters that are left and gives what it recognised with the characters
after it. `findAll` tries one at every place from left to right and goes on behind each success.
-/

namespace ApiDrift.Text

/-- What is recognised at the front of a text, and the rest. -/
abbrev Recogniser (α : Type) := List Char → Option (α × List Char)

/-- The rest after a fixed word. -/
def literal? (word : String) (cs : List Char) : Option (List Char) :=
  if word.toList.isPrefixOf cs then some (cs.drop word.toList.length) else none

/-- The longest word at the front. -/
def word? : Recogniser (List Char) := fun cs =>
  let w := cs.takeWhile isWordChar
  if w.isEmpty then none else some (w, cs.dropWhile isWordChar)

def skipBlanks (cs : List Char) : List Char := cs.dropWhile isBlank

/-- The rest after at least one blank. -/
def blanks? (cs : List Char) : Option (List Char) :=
  match cs with
  | c :: _ => if isBlank c then some (skipBlanks cs) else none
  | [] => none

/-- The rest after a character. -/
def char? (c : Char) (cs : List Char) : Option (List Char) :=
  match cs with
  | d :: rest => if d = c then some rest else none
  | [] => none

/-- A word after at least one blank. -/
def blankWord? : Recogniser (List Char) := fun cs => do
  let rest ← blanks? cs
  word? rest

/-- What stands in braces: at least one character, and none of them a closing brace. -/
def braced? : Recogniser (List Char) := fun cs => do
  let rest ← char? '\x7b' cs
  let body := rest.takeWhile (· != '\x7d')
  let after ← char? '\x7d' (rest.dropWhile (· != '\x7d'))
  if body.isEmpty then none else some (body, after)

/-- Passes over `skip` characters, then tries the recogniser at every place. -/
def findFrom {α : Type} (r : Recogniser α) (skip : Nat) : List Char → List α
  | [] => []
  | c :: rest =>
    match skip with
    | skip + 1 => findFrom r skip rest
    | 0 =>
      match r (c :: rest) with
      | some (a, after) => a :: findFrom r (rest.length - after.length) rest
      | none => findFrom r 0 rest

/-- Everything that a recogniser finds, from left to right and without overlaps. -/
def findAll {α : Type} (r : Recogniser α) (cs : List Char) : List α := findFrom r 0 cs

end ApiDrift.Text
