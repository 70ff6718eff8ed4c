import EntityQuery.Proofs.Result
import EntityQuery.Template
import Mathlib.Algebra.Group.Nat.Defs
import Mathlib.Data.List.Basic

/-!
# Windows of rows

A page asks for the rows from its offset on, as many as its size.  Where there are fewer than two to
the power of sixty-three rows, no saturation is seen in them: a total that stands for their number
is not corrected, and a page that shows where the rows end pins their number.
-/

namespace EntityQuery

variable {α : Type}

namespace Query

/-- What is left of the rows between the offset and the limit. -/
def window (query : Query) (rows : List α) : List α :=
  match query.limit with
  | some limit => (rows.drop query.offset.toNat).take limit.toNat
  | none => rows.drop query.offset.toNat

def bounded (query : Query) : Option Boundary → Query
  | some boundary => query.withBoundary boundary
  | none => query

end Query

/-- The rows of one page. -/
def PageRequest.window (request : PageRequest) (rows : List α) : List α :=
  (rows.drop request.offset.toNat).take request.size.toNat

theorem Query.sortBy?_eq_ok {query sorted : Query} {sorting : Sorting} :
    query.sortBy? sorting = .ok sorted ↔
      (∀ order ∈ sorting.orders, order.ignoreCase = false) ∧
        { query with sorting := query.sorting.and sorting } = sorted := by
  unfold sortBy?
  cases hfound : sorting.orders.find? Order.ignoreCase with
  | some order =>
      constructor
      · intro h
        cases h
      · rintro ⟨hcase, -⟩
        have hfalse := hcase order (List.mem_of_find?_eq_some hfound)
        rw [List.find?_some hfound] at hfalse
        cases hfalse
  | none =>
      have hcase : ∀ order ∈ sorting.orders, order.ignoreCase = false := fun order horder =>
        Bool.eq_false_iff.mpr (List.find?_eq_none.mp hfound order horder)
      constructor
      · intro h
        exact ⟨hcase, Except.ok.inj h⟩
      · rintro ⟨-, h⟩
        exact congrArg Except.ok h

theorem Query.paged?_eq (query : Query) (request : PageRequest) (boundary : Option Boundary) :
    query.paged? (.paged request boundary) = (do
      let sorted ← (query.bounded boundary).sortBy? request.sorting
      return (sorted.withLimit request.size).withOffset request.offset) := by
  cases boundary <;> rfl

/-- Paging changes the sorting and the window of the bounded query, and it fails for an order that
ignores case only. -/
theorem Query.paged?_eq_ok {query paged : Query} {request : PageRequest}
    {boundary : Option Boundary} :
    query.paged? (.paged request boundary) = .ok paged ↔
      (∀ order ∈ request.sorting.orders, order.ignoreCase = false) ∧
        { query.bounded boundary with
          sorting := (query.bounded boundary).sorting.and request.sorting
          limit := some request.size
          offset := request.offset } = paged := by
  rw [paged?_eq, Result.bind_eq_ok]
  simp only [sortBy?_eq_ok, Result.pure_eq_ok]
  constructor
  · rintro ⟨_, ⟨hcase, rfl⟩, h⟩
    exact ⟨hcase, h⟩
  · rintro ⟨hcase, h⟩
    exact ⟨_, ⟨hcase, rfl⟩, h⟩

theorem Query.window_of_paged {query paged : Query} {request : PageRequest}
    {boundary : Option Boundary} (h : query.paged? (.paged request boundary) = .ok paged)
    (rows : List α) : paged.window rows = request.window rows := by
  rw [← (paged?_eq_ok.mp h).2]
  rfl

/-! ### Totals -/

section Totals

open Saturating

variable {request : PageRequest} {rows : List α}

theorem PageRequest.length_window (request : PageRequest) (rows : List α) :
    (request.window rows).length =
      min request.size.toNat (rows.length - request.offset.toNat) := by
  rw [window, List.length_take, List.length_drop]

theorem PageRequest.length_window_le (request : PageRequest) (rows : List α) :
    (request.window rows).length ≤ rows.length := by
  rw [length_window]
  omega

theorem Page.toNat_contentLength {content : List α} (h : content.length ≤ Saturating.limit) :
    (contentLength content).toNat = content.length := by
  rw [contentLength, toNat_ofNat, Nat.min_eq_left h]

variable (hrows : rows.length < 2 ^ 63)

include hrows

theorem PageRequest.toNat_contentLength_window :
    (Page.contentLength (request.window rows)).toNat = (request.window rows).length := by
  refine Page.toNat_contentLength ?_
  have := request.length_window_le rows
  unfold Saturating.limit
  omega

theorem Template.pinsTotal_window_iff :
    pinsTotal request (request.window rows) = true ↔
      (request.window rows).length < request.size.toNat ∧
        (request.offset = 0 ∨ request.window rows ≠ []) := by
  rw [pinsTotal, Bool.and_eq_true, Bool.or_eq_true, decide_eq_true_eq, decide_eq_true_eq,
    UInt64.lt_iff_toNat_lt, PageRequest.toNat_contentLength_window hrows, Bool.not_eq_true',
    List.isEmpty_eq_false_iff]

/-- A page that shows where the rows end gives their number. -/
theorem Template.toNat_pinnedTotal (h : pinsTotal request (request.window rows) = true) :
    (Saturating.add request.offset (Page.contentLength (request.window rows))).toNat =
      rows.length := by
  obtain ⟨hshort, hshows⟩ := (pinsTotal_window_iff hrows).mp h
  rw [Saturating.add, toNat_ofNat, PageRequest.toNat_contentLength_window hrows]
  have hlength := request.length_window rows
  have hsum : request.offset.toNat + (request.window rows).length = rows.length := by
    rcases hshows with hzero | hne
    · rw [hzero] at hlength ⊢
      rw [UInt64.toNat_zero] at hlength ⊢
      omega
    · have hpos := List.length_pos_iff.mpr hne
      omega
  unfold Saturating.limit
  omega

/-- The number of all rows is not corrected. -/
theorem Page.toNat_total_of {total : UInt64} (htotal : total.toNat = rows.length)
    (boundary : Option Boundary) :
    (Page.of (request.window rows) (.paged request boundary) total).total.toNat =
      rows.length := by
  dsimp only [Page.of, correctedTotal, Pageable.request?]
  by_cases hempty : (request.window rows).isEmpty = true
  · rw [if_pos hempty]
    exact htotal
  · rw [if_neg hempty]
    have hne : request.window rows ≠ [] := fun hnil => hempty (List.isEmpty_iff.mpr hnil)
    have hpos := List.length_pos_iff.mpr hne
    have hlength := request.length_window rows
    have hleast : (Saturating.add request.offset
        (contentLength (request.window rows))).toNat =
          request.offset.toNat + (request.window rows).length := by
      rw [Saturating.add, toNat_ofNat, PageRequest.toNat_contentLength_window hrows]
      unfold Saturating.limit
      omega
    split
    · rename_i hshort
      rw [UInt64.lt_iff_toNat_lt, PageRequest.toNat_contentLength_window hrows] at hshort
      rw [hleast]
      omega
    · rw [UInt64.toNat_max, hleast, htotal]
      omega

end Totals

end EntityQuery
