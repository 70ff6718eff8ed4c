import EntityQuery.Filter.Boundary
import EntityQuery.Number.Saturating
import EntityQuery.Sorting

/-!
# Pages

A page request asks for one page of a given size; a page holds the rows of one request and the
number of all rows.  Page numbers start at zero, and arithmetic on them stops at the largest word.
-/

namespace EntityQuery

structure PageRequest where
  page : UInt64
  size : UInt64
  sorting : Sorting
  size_ne_zero : size ≠ 0
deriving DecidableEq

namespace PageRequest

def of? (page size : UInt64) (sorting : Sorting) : Result PageRequest :=
  if h : size = 0 then .error .pageWithoutSize else .ok ⟨page, size, sorting, h⟩

/-- The number of rows before this page. -/
def offset (request : PageRequest) : UInt64 :=
  Saturating.mul request.page request.size

def withPage (request : PageRequest) (page : UInt64) : PageRequest :=
  { request with page }

def next (request : PageRequest) : PageRequest :=
  request.withPage (Saturating.add request.page 1)

def previousOrFirst (request : PageRequest) : PageRequest :=
  request.withPage (Saturating.sub request.page 1)

def first (request : PageRequest) : PageRequest :=
  request.withPage 0

def hasPrevious (request : PageRequest) : Bool :=
  0 < request.page

end PageRequest

inductive Pageable where
  /-- All rows, in no particular order. -/
  | unpaged
  /-- The boundary restricts the rows before they are paged. -/
  | paged (request : PageRequest) (boundary : Option Boundary)
deriving Inhabited

namespace Pageable

def of? (page size : UInt64) (sorting : Sorting) : Result Pageable := do
  return .paged (← PageRequest.of? page size sorting) none

def request? : Pageable → Option PageRequest
  | .unpaged => none
  | .paged request _ => some request

def boundary? : Pageable → Option Boundary
  | .unpaged => none
  | .paged _ boundary => boundary

def isPaged (pageable : Pageable) : Bool :=
  pageable.request?.isSome

def withBoundary (boundary : Boundary) : Pageable → Pageable
  | .unpaged => .unpaged
  | .paged request _ => .paged request (some boundary)

def sorting (pageable : Pageable) : Sorting :=
  match pageable.request? with
  | some request => request.sorting
  | none => .unsorted

def mapRequest (f : PageRequest → PageRequest) : Pageable → Pageable
  | .unpaged => .unpaged
  | .paged request boundary => .paged (f request) boundary

def next (pageable : Pageable) : Pageable :=
  pageable.mapRequest PageRequest.next

def previousOrFirst (pageable : Pageable) : Pageable :=
  pageable.mapRequest PageRequest.previousOrFirst

def first (pageable : Pageable) : Pageable :=
  pageable.mapRequest PageRequest.first

end Pageable

structure Page (α : Type) where
  content : List α
  pageable : Pageable
  total : UInt64

namespace Page

def contentLength (content : List α) : UInt64 :=
  Saturating.ofNat content.length

/-- The total as the content shows it: a short page that holds rows is the last one, and a full one
proves that there are at least the rows up to its end. -/
def correctedTotal (content : List α) (pageable : Pageable) (total : UInt64) : UInt64 :=
  match pageable.request? with
  | none => max total (contentLength content)
  | some request =>
      if content.isEmpty then total
      else
        let least := Saturating.add request.offset (contentLength content)
        if contentLength content < request.size then least else max total least

def of (content : List α) (pageable : Pageable) (total : UInt64) : Page α :=
  ⟨content, pageable, correctedTotal content pageable total⟩

def number (page : Page α) : UInt64 :=
  match page.pageable.request? with
  | some request => request.page
  | none => 0

def size (page : Page α) : UInt64 :=
  match page.pageable.request? with
  | some request => request.size
  | none => contentLength page.content

def totalPages (page : Page α) : UInt64 :=
  match page.pageable.request? with
  | some request => Saturating.divUp page.total request.size
  | none => 1

def hasNext (page : Page α) : Bool :=
  Saturating.add page.number 1 < page.totalPages

def isLast (page : Page α) : Bool :=
  !page.hasNext

def hasPrevious (page : Page α) : Bool :=
  0 < page.number

def map (f : α → β) (page : Page α) : Page β :=
  ⟨page.content.map f, page.pageable, page.total⟩

end Page

end EntityQuery
