/-!
# Widths of integers

Which integers a word of so many bits holds.
-/

namespace EntityQuery

def fitsSigned (bits : Nat) (n : Int) : Bool :=
  let half : Nat := 1 <<< (bits - 1)
  n < half && -half ≤ n

def fitsUnsigned (bits : Nat) (n : Int) : Bool :=
  let count : Nat := 1 <<< bits
  0 ≤ n && n < count

end EntityQuery
