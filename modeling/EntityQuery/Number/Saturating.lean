/-!
# Saturating counts

Counts of rows and pages are words of sixty-four bits.  A sum or product that does not fit is the
largest word, and a difference below zero is zero.
-/

namespace EntityQuery.Saturating

def limit : Nat := (1 <<< 64) - 1

/-- The natural number, cut off at the largest word. -/
def ofNat (n : Nat) : UInt64 :=
  UInt64.ofNat (min n limit)

def add (a b : UInt64) : UInt64 :=
  ofNat (a.toNat + b.toNat)

def mul (a b : UInt64) : UInt64 :=
  ofNat (a.toNat * b.toNat)

def sub (a b : UInt64) : UInt64 :=
  ofNat (a.toNat - b.toNat)

/-- The quotient rounded up. -/
def divUp (a b : UInt64) : UInt64 :=
  ofNat ((a.toNat + b.toNat - 1) / b.toNat)

@[simp]
theorem toNat_ofNat (n : Nat) : (ofNat n).toNat = min n limit := by
  unfold ofNat limit
  rw [UInt64.toNat_ofNat']
  exact Nat.mod_eq_of_lt (by omega)

theorem toNat_le (a : UInt64) : a.toNat ≤ limit := by
  have := a.toNat_lt
  unfold limit
  omega

end EntityQuery.Saturating
