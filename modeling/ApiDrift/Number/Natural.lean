/-!
# Powers and totals

The powers of two and ten, and the total of a list of whole numbers.
-/

namespace ApiDrift.Number

def powerOfTwo (n : Nat) : Nat := Nat.pow 2 n

def powerOfTen (n : Nat) : Nat := Nat.pow 10 n

/-- The sum of all members. -/
def total : List Nat → Nat
  | [] => 0
  | n :: ns => n + total ns

end ApiDrift.Number
