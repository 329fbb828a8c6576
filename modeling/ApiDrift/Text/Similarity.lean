/-!
# Similar texts

Two texts are matched by the longest block that they share, and by the blocks on both sides of it in
the same way. Of several longest blocks the one counts that comes first in the first text, and then
in the second. Texts are similar when at least three fifths of their characters are matched.
-/

namespace ApiDrift.Text

/-- The length of the front that two texts share. -/
def commonFront : List Char → List Char → Nat
  | a :: as, b :: bs => if a = b then commonFront as bs + 1 else 0
  | _, _ => 0

/-- A block that two texts share: where it starts in each, and its length. -/
structure SharedBlock where
  first : Nat
  second : Nat
  length : Nat
deriving DecidableEq, Repr

/-- The longer of two blocks, the one at hand where they are equally long. -/
def SharedBlock.orLonger (a b : SharedBlock) : SharedBlock := if a.length < b.length then b else a

/-- The longest block that starts at the front of the first text, and from `j` on in the second. -/
def longestFrom (i j : Nat) (as : List Char) : List Char → SharedBlock
  | [] => ⟨i, j, 0⟩
  | b :: bs => SharedBlock.orLonger ⟨i, j, commonFront as (b :: bs)⟩ (longestFrom i (j + 1) as bs)

/-- The longest block that two texts share, the first of them starting at `i`. -/
def longestBlock (i : Nat) (as bs : List Char) : SharedBlock :=
  match as with
  | [] => ⟨i, 0, 0⟩
  | a :: rest =>
    SharedBlock.orLonger (longestFrom i 0 (a :: rest) bs) (longestBlock (i + 1) rest bs)

/-- The number of matched characters; the first argument bounds the number of blocks. -/
def matchedWithin : Nat → List Char → List Char → Nat
  | 0, _, _ => 0
  | fuel + 1, as, bs =>
    let block := longestBlock 0 as bs
    if block.length = 0 then 0
    else
      block.length + matchedWithin fuel (as.take block.first) (bs.take block.second) +
        matchedWithin fuel (as.drop (block.first + block.length))
          (bs.drop (block.second + block.length))

/-- The number of characters by which two texts match. -/
def matched (a b : String) : Nat := matchedWithin (a.length + 1) a.toList b.toList

/-- Whether two texts are similar. -/
def isSimilar (a b : String) : Bool := 3 * (a.length + b.length) ≤ 10 * matched a b

/-- The names that are similar to a word. -/
def similarNames (word : String) (names : List String) : List String :=
  names.filter fun name => isSimilar name word

end ApiDrift.Text
