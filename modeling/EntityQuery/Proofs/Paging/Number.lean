import EntityQuery.Proofs.Paging.Window
import Mathlib.Algebra.Order.Floor.Div

/-!
# Numbers of pages

Pages are numbered from zero on.  As long as the rows before a page are fewer than the largest word
its offset is not cut off.  It has a next page exactly if rows are left behind it, and no sum or
product that is cut off changes that.
-/

namespace EntityQuery

open Saturating

namespace PageRequest

/-- The request for the page with a number, of the same size and sorting. -/
def numbered (request : PageRequest) (number : Nat) : PageRequest :=
  request.withPage (Saturating.ofNat number)

variable (request : PageRequest) {number : Nat}

theorem size_pos : 0 < request.size.toNat := by
  rw [Nat.pos_iff_ne_zero]
  exact fun hzero => request.size_ne_zero (UInt64.toNat_inj.mp hzero)

theorem numbered_zero (hpage : request.page = 0) : request.numbered 0 = request := by
  cases request
  cases hpage
  rfl

theorem le_mul_size (number : Nat) : number ≤ number * request.size.toNat :=
  Nat.le_mul_of_pos_right number request.size_pos

theorem toNat_page_numbered (h : number ≤ Saturating.limit) :
    (request.numbered number).page.toNat = number := by
  change (Saturating.ofNat number).toNat = number
  rw [toNat_ofNat, Nat.min_eq_left h]

theorem toNat_offset_numbered (h : number * request.size.toNat ≤ Saturating.limit) :
    (request.numbered number).offset.toNat = number * request.size.toNat := by
  have hnumber := request.toNat_page_numbered (Nat.le_trans (request.le_mul_size number) h)
  rw [offset, Saturating.mul, toNat_ofNat, hnumber]
  exact Nat.min_eq_left h

theorem next_numbered (h : number ≤ Saturating.limit) :
    (request.numbered number).next = request.numbered (number + 1) := by
  have hpage : Saturating.add (request.numbered number).page 1 = Saturating.ofNat (number + 1) := by
    rw [Saturating.add, request.toNat_page_numbered h]
    rfl
  rw [next, hpage]
  rfl

end PageRequest

/-- A quotient of words that is rounded up is a word. -/
theorem Saturating.toNat_divUp {a b : UInt64} (hpos : 0 < b.toNat) :
    (Saturating.divUp a b).toNat = a.toNat ⌈/⌉ b.toNat := by
  have hle : a.toNat ⌈/⌉ b.toNat ≤ Saturating.limit := by
    rw [ceilDiv_le_iff_le_mul hpos]
    exact Nat.le_trans (toNat_le a) (Nat.le_mul_of_pos_left _ hpos)
  rw [divUp, toNat_ofNat, ← Nat.ceilDiv_eq_add_pred_div, Nat.min_eq_left hle]

namespace Page

variable {α : Type} {page : Page α} {request : PageRequest} {boundary : Option Boundary}

theorem toNat_totalPages (hpageable : page.pageable = .paged request boundary) :
    page.totalPages.toNat = page.total.toNat ⌈/⌉ request.size.toNat := by
  simp only [totalPages, hpageable, Pageable.request?]
  exact Saturating.toNat_divUp request.size_pos

/-- There is a next page exactly if the rows up to the end of this one are not all rows. -/
theorem hasNext_iff (hpageable : page.pageable = .paged request boundary) :
    page.hasNext = true ↔
      (request.page.toNat + 1) * request.size.toNat < page.total.toNat := by
  have hnumber : page.number = request.page := by
    simp only [number, hpageable, Pageable.request?]
  have hnext : (Saturating.add request.page 1).toNat =
      min (request.page.toNat + 1) Saturating.limit := toNat_ofNat _
  have hbehind : page.total.toNat ⌈/⌉ request.size.toNat ≤ request.page.toNat + 1 ↔
      page.total.toNat ≤ (request.page.toNat + 1) * request.size.toNat := by
    rw [ceilDiv_le_iff_le_mul request.size_pos, Nat.mul_comm]
  -- There are no more pages than words, so the page with the largest number has no next one.
  have hpages := toNat_le page.totalPages
  have hpage := toNat_le request.page
  rw [toNat_totalPages hpageable] at hpages
  rw [hasNext, decide_eq_true_eq, UInt64.lt_iff_toNat_lt, hnumber, hnext,
    toNat_totalPages hpageable]
  omega

end Page

end EntityQuery
