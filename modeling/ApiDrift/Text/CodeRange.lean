/-!
# Ranges of code points

The tables of character properties are lists of closed ranges; a lower-case run also carries the
step between its members and the distance to the small letter.
-/

namespace ApiDrift.Text

/-- First and last code point of a closed range. -/
abbrev CodeRange := Nat × Nat

/-- First code point, last code point, step, and distance to the lower-case form. -/
abbrev CaseRun := Nat × Nat × Nat × Int

/-- Whether a code point lies in one of the ranges. -/
def inRanges (rs : List CodeRange) (n : Nat) : Bool :=
  rs.any fun r => r.1 ≤ n && n ≤ r.2

/-- The distance of the run a code point belongs to. -/
def runDistance? (rs : List CaseRun) (n : Nat) : Option Int :=
  (rs.find? fun r => r.1 ≤ n && n ≤ r.2.1 && (n - r.1) % r.2.2.1 == 0).map (·.2.2.2)

end ApiDrift.Text
