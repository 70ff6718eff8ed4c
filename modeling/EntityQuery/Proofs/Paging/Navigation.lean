import EntityQuery.Proofs.Paging.Number

/-!
# Going from page to page

A pageable is built once and then led from page to page.  Whatever the way, its size and its sorting
stay, and so does the boundary until another one is attached; the number of its page is counted, and
the count stops at the largest word.  A page that is shown on the way has a next one exactly if it
is full or empty and rows are left behind it: sums and products that are cut off do not change that.
-/

namespace EntityQuery

open Saturating

namespace PageRequest

/-- A way to another page. -/
inductive Move where
  | toPage (page : UInt64)
  | next
  | previousOrFirst
  | first

namespace Move

def perform (request : PageRequest) : Move → PageRequest
  | toPage page => request.withPage page
  | next => request.next
  | previousOrFirst => request.previousOrFirst
  | first => request.first

/-- The number of the page that a move leads to. -/
def number (page : Nat) : Move → Nat
  | toPage page => page.toNat
  | next => min (page + 1) (2 ^ 64 - 1)
  | previousOrFirst => page - 1
  | first => 0

end Move

/-- The request asks for the page with this number, of this size and with this sorting. -/
structure Asks (request : PageRequest) (size : UInt64) (sorting : Sorting) (page : Nat) :
    Prop where
  size_eq : request.size = size
  sorting_eq : request.sorting = sorting
  page_eq : request.page.toNat = page

variable {request : PageRequest} {size : UInt64} {sorting : Sorting} {page : Nat}

theorem Asks.perform (h : request.Asks size sorting page) (move : Move) :
    (move.perform request).Asks size sorting (move.number page) := by
  obtain ⟨rfl, rfl, rfl⟩ := h
  refine ⟨?_, ?_, ?_⟩
  · cases move <;> rfl
  · cases move <;> rfl
  · cases move with
    | toPage page => rfl
    | next => exact toNat_ofNat _
    | previousOrFirst =>
        have hpage := toNat_le request.page
        exact (toNat_ofNat _).trans (Nat.min_eq_left (by omega))
    | first => rfl

theorem Asks.performAll (h : request.Asks size sorting page) (moves : List Move) :
    (moves.foldl Move.perform request).Asks size sorting (moves.foldl Move.number page) := by
  induction moves generalizing request page with
  | nil => exact h
  | cons move moves ih => exact ih (h.perform move)

end PageRequest

namespace Pageable

inductive Step where
  | next
  | previousOrFirst
  | first
  | withBoundary (boundary : Boundary)
  /-- The request is taken out, moved by itself, and paged again. -/
  | again (moves : List PageRequest.Move)

namespace Step

def perform (pageable : Pageable) : Step → Pageable
  | next => pageable.next
  | previousOrFirst => pageable.previousOrFirst
  | first => pageable.first
  | withBoundary boundary => pageable.withBoundary boundary
  | again moves =>
      match pageable.request? with
      | none => pageable
      | some request => .paged (moves.foldl PageRequest.Move.perform request) none

/-- The moves of a step, which are all that it does to the number of the page. -/
def moves : Step → List PageRequest.Move
  | next => [.next]
  | previousOrFirst => [.previousOrFirst]
  | first => [.first]
  | withBoundary _ => []
  | again moves => moves

/-- The boundary behind a step: a request alone has none, and a move changes none. -/
def boundary (attached : Option Boundary) : Step → Option Boundary
  | next | previousOrFirst | first => attached
  | withBoundary boundary => some boundary
  | again _ => none

theorem perform_paged (step : Step) (request : PageRequest) (attached : Option Boundary) :
    step.perform (.paged request attached) =
      .paged (step.moves.foldl PageRequest.Move.perform request) (step.boundary attached) := by
  cases step <;> rfl

theorem perform_unpaged (step : Step) : step.perform .unpaged = .unpaged := by
  cases step <;> rfl

end Step

def run (pageable : Pageable) (steps : List Step) : Pageable :=
  steps.foldl Step.perform pageable

theorem run_unpaged (steps : List Step) : unpaged.run steps = .unpaged := by
  induction steps with
  | nil => rfl
  | cons step steps ih =>
      rw [run, List.foldl_cons, step.perform_unpaged]
      exact ih

theorem run_paged (steps : List Step) (request : PageRequest) (attached : Option Boundary) :
    run (.paged request attached) steps =
      .paged ((steps.flatMap Step.moves).foldl PageRequest.Move.perform request)
        (steps.foldl Step.boundary attached) := by
  induction steps generalizing request attached with
  | nil => rfl
  | cons step steps ih =>
      rw [run, List.foldl_cons, step.perform_paged, List.flatMap_cons, List.foldl_append,
        List.foldl_cons]
      exact ih _ _

theorem of?_eq_ok_iff {page size : UInt64} {sorting : Sorting} {pageable : Pageable} :
    of? page size sorting = .ok pageable ↔
      ∃ hsize : size ≠ 0, .paged ⟨page, size, sorting, hsize⟩ none = pageable := by
  rw [of?, Result.bind_eq_ok]
  simp only [Result.pure_eq_ok]
  unfold PageRequest.of?
  by_cases hsize : size = 0
  · rw [dif_pos hsize]
    constructor
    · rintro ⟨_, ⟨⟩, -⟩
    · exact fun h => absurd hsize h.1
  · rw [dif_neg hsize]
    constructor
    · rintro ⟨_, ⟨⟩, rfl⟩
      exact ⟨hsize, rfl⟩
    · rintro ⟨-, rfl⟩
      exact ⟨_, rfl, rfl⟩

end Pageable

/-! ### Pages on the way -/

namespace Page

variable {α : Type} {content : List α} {request : PageRequest}

theorem toNat_least (hcontent : content.length ≤ request.size.toNat) :
    (Saturating.add request.offset (contentLength content)).toNat =
      min (request.page.toNat * request.size.toNat + content.length) Saturating.limit := by
  have hlength := toNat_contentLength (Nat.le_trans hcontent (toNat_le request.size))
  rw [Saturating.add, toNat_ofNat, hlength, PageRequest.offset, Saturating.mul, toNat_ofNat]
  omega

/-- A page that is neither full nor empty shows that it is the last one, and a full one shows no
rows behind it. -/
theorem hasNext_of_iff (hcontent : content.length ≤ request.size.toNat)
    (boundary : Option Boundary) (total : UInt64) :
    (Page.of content (.paged request boundary) total).hasNext = true ↔
      (content.length = 0 ∨ content.length = request.size.toNat) ∧
        (request.page.toNat + 1) * request.size.toNat < total.toNat := by
  have hleast := toNat_least hcontent
  have hlength := toNat_contentLength (Nat.le_trans hcontent (toNat_le request.size))
  have hbehind : (request.page.toNat + 1) * request.size.toNat =
      request.page.toNat * request.size.toNat + request.size.toNat := Nat.succ_mul _ _
  have hpageable : (Page.of content (.paged request boundary) total).pageable =
    .paged request boundary := rfl
  rw [hasNext_iff hpageable]
  change _ < (correctedTotal content (.paged request boundary) total).toNat ↔ _
  dsimp only [correctedTotal, Pageable.request?]
  by_cases hempty : content = []
  · subst hempty
    simp
  · have hne : content.length ≠ 0 := fun hzero => hempty (List.length_eq_zero_iff.mp hzero)
    rw [if_neg (by rwa [List.isEmpty_iff])]
    by_cases hshort : content.length < request.size.toNat
    · rw [if_pos (by rwa [UInt64.lt_iff_toNat_lt, hlength]), hleast]
      omega
    · rw [if_neg (by rwa [UInt64.lt_iff_toNat_lt, hlength]), UInt64.toNat_max, hleast]
      omega

end Page

/-- Only a size of zero is refused.  A pageable that is not keeps its size and its sorting on any
way, with the boundary that was attached last, and its pages are counted up to the largest word.
Of the pages that are shown on the way, with as many rows as they have room for at most, those have
a next one that are full or empty and do not reach the last row. -/
theorem Pageable.run_hasNext_iff {page size : UInt64} {sorting : Sorting} {start : Pageable}
    (hstart : of? page size sorting = .ok start) (steps : List Step) :
    of? page 0 sorting = .error .pageWithoutSize ∧ run .unpaged steps = .unpaged ∧
    ∃ request, start.run steps = .paged request (steps.foldl Step.boundary none) ∧
      1 ≤ request.size.toNat ∧
      request.Asks size sorting
        ((steps.flatMap Step.moves).foldl PageRequest.Move.number page.toNat) ∧
      ∀ {α : Type} (content : List α) (total : UInt64), content.length ≤ size.toNat →
        let shown := Page.of content (start.run steps) total
        shown.totalPages.toNat = shown.total.toNat ⌈/⌉ size.toNat ∧
        (shown.hasNext = true ↔ (content.length = 0 ∨ content.length = size.toNat) ∧
          (request.page.toNat + 1) * size.toNat < total.toNat) ∧
        (0 < content.length → content.length < size.toNat → shown.isLast = true) := by
  obtain ⟨hsize, rfl⟩ := of?_eq_ok_iff.mp hstart
  have hasks : (PageRequest.mk page size sorting hsize).Asks size sorting page.toNat :=
    ⟨rfl, rfl, rfl⟩
  have hreached := hasks.performAll (steps.flatMap Step.moves)
  have hrun := run_paged steps ⟨page, size, sorting, hsize⟩ none
  set request := (steps.flatMap Step.moves).foldl PageRequest.Move.perform
    ⟨page, size, sorting, hsize⟩
  refine ⟨rfl, run_unpaged steps, request, hrun, request.size_pos, hreached, ?_⟩
  intro α content total hcontent
  rw [hrun]
  rw [← hreached.size_eq] at hcontent ⊢
  have hnext := Page.hasNext_of_iff hcontent (steps.foldl Step.boundary none) total
  refine ⟨Page.toNat_totalPages rfl, hnext, fun hsome hshort => ?_⟩
  have hfalse : (Page.of content (.paged request (steps.foldl Step.boundary none)) total).hasNext =
      false := by
    rw [Bool.eq_false_iff, Ne, hnext]
    omega
  rw [Page.isLast, hfalse]
  rfl

/-- The count stops at the largest page, and no page is behind it; the boundary stays on the way
back to the first one, which has a next page if it is full and is the last one if it is short. -/
theorem Pageable.run_hasNext_of_largest_page :
    let boundary : Boundary := ⟨[⟨"age", ⟨.included (.integer 5), .excluded (.integer 10)⟩⟩]⟩
    let start := Pageable.paged ⟨18446744073709551614, 2, .unsorted, by decide⟩ none
    let steps := [Step.withBoundary boundary, .next, .next]
    of? 18446744073709551614 2 .unsorted = .ok start ∧
    (∃ request, start.run steps = .paged request (some boundary) ∧
      request.page.toNat = 18446744073709551615 ∧
      (Page.of ["a", "b"] (start.run steps) 18446744073709551615).hasNext = false) ∧
    (∃ request, start.run (steps ++ [.first]) = .paged request (some boundary) ∧
      request.page.toNat = 0 ∧
      (Page.of ["a", "b"] (start.run (steps ++ [.first])) 3).hasNext = true ∧
      (Page.of ["a"] (start.run (steps ++ [.first])) 3).isLast = true) := by
  intro boundary start steps
  have hstart : of? 18446744073709551614 2 .unsorted = .ok start := rfl
  refine ⟨hstart, ?_, ?_⟩
  · obtain ⟨-, -, request, hrun, -, hasks, hshown⟩ := run_hasNext_iff hstart steps
    obtain ⟨-, hnext, -⟩ := hshown ["a", "b"] 18446744073709551615 (by decide)
    have hpage : request.page.toNat = 18446744073709551615 := hasks.page_eq.trans (by decide)
    refine ⟨request, hrun, hpage, ?_⟩
    rw [Bool.eq_false_iff, Ne, hnext, hpage]
    decide
  · obtain ⟨-, -, request, hrun, -, hasks, hshown⟩ := run_hasNext_iff hstart (steps ++ [.first])
    obtain ⟨-, hnext, -⟩ := hshown ["a", "b"] 3 (by decide)
    obtain ⟨-, -, hlast⟩ := hshown ["a"] 3 (by decide)
    have hpage : request.page.toNat = 0 := hasks.page_eq.trans (by decide)
    refine ⟨request, hrun, hpage, hnext.mpr ?_, hlast (by decide) (by decide)⟩
    rw [hpage]
    decide

end EntityQuery
