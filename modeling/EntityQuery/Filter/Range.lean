import EntityQuery.Number.Binary64

/-!
# Ranges

A pair of bounds, each included, excluded or absent.  Membership is decided by the four
comparisons of the element type, which need not belong to an order.
-/

namespace EntityQuery

inductive Bound (α : Type) where
  | unbounded
  | included (value : α)
  | excluded (value : α)
deriving DecidableEq, Inhabited

structure Range (α : Type) where
  lower : Bound α
  upper : Bound α
deriving DecidableEq, Inhabited

/-- The four comparisons, the left argument compared with the right one. -/
structure Comparisons (α : Type) where
  less : α → α → Bool
  lessOrEqual : α → α → Bool
  greater : α → α → Bool
  greaterOrEqual : α → α → Bool

namespace Comparisons

def integers : Comparisons Int where
  less a b := a < b
  lessOrEqual a b := a ≤ b
  greater a b := b < a
  greaterOrEqual a b := b ≤ a

/-- No comparison with the undefined number holds. -/
def numbers : Comparisons Binary64 where
  less a b := a.less b
  lessOrEqual a b := a.lessOrEqual b
  greater a b := b.less a
  greaterOrEqual a b := b.lessOrEqual a

/-- Texts compare by their code points, which is the order of their bytes. -/
def texts : Comparisons String where
  less a b := a < b
  lessOrEqual a b := !(b < a)
  greater a b := b < a
  greaterOrEqual a b := !(a < b)

end Comparisons

namespace Bound

def map (f : α → β) : Bound α → Bound β
  | .unbounded => .unbounded
  | .included value => .included (f value)
  | .excluded value => .excluded (f value)

def admitsAbove (comparisons : Comparisons α) (value : α) : Bound α → Bool
  | .unbounded => true
  | .included bound => comparisons.greaterOrEqual value bound
  | .excluded bound => comparisons.greater value bound

def admitsBelow (comparisons : Comparisons α) (value : α) : Bound α → Bool
  | .unbounded => true
  | .included bound => comparisons.lessOrEqual value bound
  | .excluded bound => comparisons.less value bound

def isUnbounded : Bound α → Bool
  | .unbounded => true
  | _ => false

end Bound

namespace Range

def closed (first last : α) : Range α := ⟨.included first, .included last⟩

def exclusive (first last : α) : Range α := ⟨.excluded first, .excluded last⟩

def rightOpen (first last : α) : Range α := ⟨.included first, .excluded last⟩

def leftOpen (first last : α) : Range α := ⟨.excluded first, .included last⟩

def lowerBounded (bound : Bound α) : Range α := ⟨bound, .unbounded⟩

def upperBounded (bound : Bound α) : Range α := ⟨.unbounded, bound⟩

def unbounded : Range α := ⟨.unbounded, .unbounded⟩

def isUnbounded (range : Range α) : Bool :=
  range.lower.isUnbounded && range.upper.isUnbounded

def map (f : α → β) (range : Range α) : Range β :=
  ⟨range.lower.map f, range.upper.map f⟩

def contains (comparisons : Comparisons α) (range : Range α) (value : α) : Bool :=
  range.lower.admitsAbove comparisons value && range.upper.admitsBelow comparisons value

end Range

end EntityQuery
