import EntityQuery.Proofs.Filter.Boundary
import EntityQuery.Proofs.Paging.Window

/-!
# Queries in steps

A query is built in steps from the empty one, or from one with a criteria.  It records what each of
them adds or writes: what is added stands in the order of the steps, and what is written replaces
what was written before.  Only an order that ignores case makes a step fail.
-/

namespace EntityQuery

inductive QueryStep where
  | selectNames (names : List String)
  | select (columns : List Identifier)
  | sortBy (sorting : Sorting)
  | withLimit (limit : UInt64)
  | withOffset (offset : UInt64)
  | paged (pageable : Pageable)
  | withBoundary (boundary : Boundary)
  | andCriteria (criteria : Criteria)
  | groupBy (groups : Groups)
  | joining (joins : List Join)

namespace QueryStep

def perform? (query : Query) : QueryStep → Result Query
  | selectNames names => .ok (query.selectNames names)
  | select columns => .ok (query.select columns)
  | sortBy sorting => query.sortBy? sorting
  | withLimit limit => .ok (query.withLimit limit)
  | withOffset offset => .ok (query.withOffset offset)
  | paged pageable => query.paged? pageable
  | withBoundary boundary => .ok (query.withBoundary boundary)
  | andCriteria criteria => .ok (query.andCriteria criteria)
  | groupBy groups => .ok (query.groupBy groups)
  | joining joins => .ok (query.joining joins)

/-! ### What a step adds -/

@[simp]
def columns : QueryStep → List Identifier
  | selectNames names => names.map .plain
  | select columns => columns
  | _ => []

@[simp]
def orders : QueryStep → List Order
  | sortBy sorting => sorting.orders
  | paged (.paged request _) => request.sorting.orders
  | _ => []

@[simp]
def criteria? : QueryStep → Option Criteria
  | andCriteria criteria => some criteria
  | withBoundary boundary => boundary.criteria?
  | paged (.paged _ boundary) => boundary.bind Boundary.criteria?
  | _ => none

/-- The conditions of a criteria, or one for each bound of a boundary, scope by scope. -/
@[simp]
def conditions : QueryStep → List Condition
  | andCriteria criteria => criteria.conditions
  | withBoundary boundary | paged (.paged _ (some boundary)) =>
      boundary.scopes.flatMap Scope.conditions
  | _ => []

/-- What has to hold: a criteria as a whole, unless it holds no condition, and each condition of a
boundary. -/
@[simp]
def requirements : QueryStep → List (Formula Condition)
  | andCriteria criteria => Criteria.meanings [criteria]
  | withBoundary boundary | paged (.paged _ (some boundary)) =>
      (boundary.scopes.flatMap Scope.conditions).map .atom
  | _ => []

/-! ### What a step writes -/

@[simp]
def limit? : QueryStep → Option UInt64
  | withLimit limit => some limit
  | paged (.paged request _) => some request.size
  | _ => none

@[simp]
def offset? : QueryStep → Option UInt64
  | withOffset offset => some offset
  | paged (.paged request _) =>
      some (UInt64.ofNat (min (request.page.toNat * request.size.toNat) (2 ^ 64 - 1)))
  | _ => none

@[simp]
def groups? : QueryStep → Option Groups
  | groupBy groups => some groups
  | _ => none

@[simp]
def joins? : QueryStep → Option (List Join)
  | joining joins => some joins
  | _ => none

end QueryStep

namespace Query

/-- What a query is built from. -/
def initial : Option Criteria → Query
  | some criteria => ofCriteria criteria
  | none => empty

/-- Runs the steps one after another. -/
def run? (query : Query) (steps : List QueryStep) : Result Query :=
  steps.foldlM QueryStep.perform? query

def including (query : Query) : Option Criteria → Query
  | some criteria => query.andCriteria criteria
  | none => query

/-- What is added stands behind what was there, and what is written takes its place. -/
def recording (query : Query) (step : QueryStep) : Query where
  criteria := (query.including step.criteria?).criteria
  columns := query.columns ++ step.columns
  joins := step.joins?.or query.joins
  groups := step.groups?.or query.groups
  sorting := ⟨query.sorting.orders ++ step.orders⟩
  limit := step.limit?.or query.limit
  offset := step.offset?.getD query.offset

theorem withBoundary_eq_including (query : Query) (boundary : Boundary) :
    query.withBoundary boundary = query.including boundary.criteria? := by
  unfold withBoundary including
  cases boundary.criteria? <;> rfl

/-- Nothing but the criteria is changed. -/
theorem including_eq (query : Query) (added : Option Criteria) :
    query.including added = { query with criteria := (query.including added).criteria } := by
  cases added <;> rfl

theorem bounded_eq_including (query : Query) (boundary : Option Boundary) :
    query.bounded boundary = query.including (boundary.bind Boundary.criteria?) := by
  cases boundary with
  | none => rfl
  | some boundary => exact query.withBoundary_eq_including boundary

end Query

namespace QueryStep

open Query

/-- A step records its data, unless one of its orders ignores case. -/
theorem perform?_eq (query : Query) (step : QueryStep) :
    step.perform? query =
      match step.orders.find? Order.ignoreCase with
      | some order => .error (.ignoreCaseOrder order.property)
      | none => .ok (query.recording step) := by
  match step with
  | sortBy sorting =>
      rw [perform?, sortBy?, orders]
      cases sorting.orders.find? Order.ignoreCase with
      | some order => rfl
      | none => simp [recording, including, Sorting.and]
  | paged (.paged request boundary) =>
      rw [perform?, paged?_eq, bounded_eq_including, sortBy?, orders, including_eq]
      cases request.sorting.orders.find? Order.ignoreCase with
      | some order => rfl
      | none =>
          have hoffset : request.offset = UInt64.ofNat
              (min (request.page.toNat * request.size.toNat) (2 ^ 64 - 1)) := rfl
          simp [recording, Sorting.and, Query.withLimit, Query.withOffset, hoffset]
  | withBoundary boundary =>
      rw [perform?, withBoundary_eq_including, including_eq]
      simp [recording]
  | paged .unpaged | selectNames _ | select _ | withLimit _ | withOffset _ | andCriteria _
  | groupBy _ | joining _ =>
      simp [perform?, recording, including, paged?, Query.selectNames, Query.select,
        Query.withLimit, Query.withOffset, Query.andCriteria, Query.groupBy, Query.joining]

theorem perform?_of_find? {query : Query} {step : QueryStep} {order : Order}
    (h : step.orders.find? Order.ignoreCase = some order) :
    step.perform? query = .error (.ignoreCaseOrder order.property) := by
  rw [perform?_eq, h]

theorem perform?_eq_ok_iff {query other : Query} {step : QueryStep} :
    step.perform? query = .ok other ↔
      (∀ order ∈ step.orders, order.ignoreCase = false) ∧ query.recording step = other := by
  have hcase : step.orders.find? Order.ignoreCase = none ↔
      ∀ order ∈ step.orders, order.ignoreCase = false := by
    simp only [List.find?_eq_none, Bool.not_eq_true]
  rw [perform?_eq, ← hcase]
  cases step.orders.find? Order.ignoreCase with
  | some order => simp
  | none => simp

theorem conditions_criteria? (step : QueryStep) :
    step.criteria?.toList.flatMap Criteria.conditions = step.conditions := by
  match step with
  | andCriteria criteria => exact List.flatMap_singleton Criteria.conditions criteria
  | withBoundary boundary => exact boundary.conditions_criteria?
  | paged (.paged _ (some boundary)) => exact boundary.conditions_criteria?
  | paged (.paged _ none) | paged .unpaged | selectNames _ | select _ | sortBy _ | withLimit _
  | withOffset _ | groupBy _ | joining _ => rfl

theorem requirements_agrees (step : QueryStep) :
    (Formula.all (Criteria.meanings step.criteria?.toList)).Agrees (.all step.requirements) := by
  match step with
  | andCriteria criteria => exact .refl _
  | withBoundary boundary => exact boundary.meanings_criteria?_agrees
  | paged (.paged _ (some boundary)) => exact boundary.meanings_criteria?_agrees
  | paged (.paged _ none) | paged .unpaged | selectNames _ | select _ | sortBy _ | withLimit _
  | withOffset _ | groupBy _ | joining _ => exact .refl _

/-- A criteria is added even if it holds no condition, a boundary only if it has a bound. -/
theorem criteria?_eq_none_iff (step : QueryStep) :
    step.criteria? = none ↔ step.conditions = [] ∧ ∀ criteria, step ≠ .andCriteria criteria := by
  have hboundary : ∀ boundary : Boundary,
      boundary.criteria? = none ↔ boundary.scopes.flatMap Scope.conditions = [] := by
    intro boundary
    rw [boundary.criteria?_eq_none_iff, List.flatMap_eq_nil_iff]
    exact forall₂_congr fun scope _ => scope.conditions_eq_nil_iff.symm
  match step with
  | andCriteria criteria => simp
  | withBoundary boundary => simp [hboundary]
  | paged (.paged _ (some boundary)) => simp [hboundary]
  | paged (.paged _ none) | paged .unpaged | selectNames _ | select _ | sortBy _ | withLimit _
  | withOffset _ | groupBy _ | joining _ => simp

end QueryStep

namespace Query

variable {start middle query : Query}

/-! ### Criteria that are added -/

theorem conditions_including (query : Query) (added : Option Criteria) :
    (query.including added).criteria.toList.flatMap Criteria.conditions =
      (query.criteria.toList ++ added.toList).flatMap Criteria.conditions := by
  cases added with
  | none => rw [including, Option.toList_none, List.append_nil]
  | some criteria =>
      rw [including, andCriteria]
      cases query.criteria with
      | none => rfl
      | some existing =>
          simp [Criteria.andWith, Criteria.conditions_combine]

/-- What is added is required besides what was required before. -/
theorem meanings_including_agrees (query : Query) (added : Option Criteria) :
    (Formula.all (Criteria.meanings (query.including added).criteria.toList)).Agrees
      (.all (Criteria.meanings (query.criteria.toList ++ added.toList))) := by
  cases added with
  | none =>
      rw [including, Option.toList_none, List.append_nil]
      exact .refl _
  | some criteria =>
      rw [including, andCriteria, Criteria.meanings_append]
      cases query.criteria with
      | none => exact .refl _
      | some existing => exact Criteria.meanings_combine_agrees .and existing criteria

/-! ### Records -/

/-- What a query is after some steps, by what it was before them. -/
structure Records (start : Query) (steps : List QueryStep) (query : Query) : Prop where
  columns_eq : query.columns = start.columns ++ steps.flatMap QueryStep.columns
  orders_eq : query.sorting.orders = start.sorting.orders ++ steps.flatMap QueryStep.orders
  limit_eq : query.limit = (steps.filterMap QueryStep.limit?).getLast?.or start.limit
  offset_eq : query.offset = (steps.filterMap QueryStep.offset?).getLast?.getD start.offset
  groups_eq : query.groups = (steps.filterMap QueryStep.groups?).getLast?.or start.groups
  joins_eq : query.joins = (steps.filterMap QueryStep.joins?).getLast?.or start.joins
  criteria_eq_none_iff : query.criteria = none ↔ start.criteria = none ∧
    ∀ step ∈ steps, step.conditions = [] ∧ ∀ criteria, step ≠ .andCriteria criteria
  conditions_eq : query.criteria.toList.flatMap Criteria.conditions =
    start.criteria.toList.flatMap Criteria.conditions ++ steps.flatMap QueryStep.conditions
  meaning_agrees : (Formula.all (Criteria.meanings query.criteria.toList)).Agrees
    (.all (Criteria.meanings start.criteria.toList ++ steps.flatMap QueryStep.requirements))

namespace Records

theorem refl (query : Query) : Records query [] query where
  columns_eq := (List.append_nil _).symm
  orders_eq := (List.append_nil _).symm
  limit_eq := rfl
  offset_eq := rfl
  groups_eq := rfl
  joins_eq := rfl
  criteria_eq_none_iff := by simp
  conditions_eq := (List.append_nil _).symm
  meaning_agrees := by
    rw [List.flatMap_nil, List.append_nil]
    exact .refl _

theorem recording (query : Query) (step : QueryStep) :
    Records query [step] (query.recording step) where
  columns_eq := by rw [List.flatMap_singleton, Query.recording]
  orders_eq := by rw [List.flatMap_singleton, Query.recording]
  limit_eq := by
    rw [Query.recording, List.filterMap_cons]
    cases step.limit? <;> rfl
  offset_eq := by
    rw [Query.recording, List.filterMap_cons]
    cases step.offset? <;> rfl
  groups_eq := by
    rw [Query.recording, List.filterMap_cons]
    cases step.groups? <;> rfl
  joins_eq := by
    rw [Query.recording, List.filterMap_cons]
    cases step.joins? <;> rfl
  criteria_eq_none_iff := by
    rw [List.forall_mem_singleton, ← step.criteria?_eq_none_iff, Query.recording]
    cases step.criteria? <;> simp [including, andCriteria]
  conditions_eq := by
    rw [List.flatMap_singleton, ← step.conditions_criteria?, ← List.flatMap_append]
    exact query.conditions_including step.criteria?
  meaning_agrees := by
    refine (query.meanings_including_agrees step.criteria?).trans ?_
    rw [List.flatMap_singleton, Criteria.meanings_append]
    change (Formula.combined .and _).Agrees (Formula.combined .and _)
    exact .combined_append (.refl _) step.requirements_agrees

theorem append {steps more : List QueryStep} (h : Records start steps middle)
    (hmore : Records middle more query) : Records start (steps ++ more) query where
  columns_eq := by
    rw [hmore.columns_eq, h.columns_eq, List.flatMap_append, List.append_assoc]
  orders_eq := by
    rw [hmore.orders_eq, h.orders_eq, List.flatMap_append, List.append_assoc]
  limit_eq := by
    rw [hmore.limit_eq, h.limit_eq, List.filterMap_append, List.getLast?_append, Option.or_assoc]
  offset_eq := by
    rw [hmore.offset_eq, h.offset_eq, List.filterMap_append, List.getLast?_append,
      Option.getD_or]
  groups_eq := by
    rw [hmore.groups_eq, h.groups_eq, List.filterMap_append, List.getLast?_append, Option.or_assoc]
  joins_eq := by
    rw [hmore.joins_eq, h.joins_eq, List.filterMap_append, List.getLast?_append, Option.or_assoc]
  criteria_eq_none_iff := by
    rw [hmore.criteria_eq_none_iff, h.criteria_eq_none_iff, List.forall_mem_append, and_assoc]
  conditions_eq := by
    rw [hmore.conditions_eq, h.conditions_eq, List.flatMap_append, List.append_assoc]
  meaning_agrees := by
    refine hmore.meaning_agrees.trans ?_
    rw [List.flatMap_append, ← List.append_assoc]
    change (Formula.combined .and _).Agrees (Formula.combined .and _)
    exact .combined_append h.meaning_agrees (.refl _)

end Records

theorem run?_append (start : Query) (steps more : List QueryStep) :
    start.run? (steps ++ more) = start.run? steps >>= fun query => query.run? more :=
  List.foldlM_append

theorem records_of_run? {steps : List QueryStep} (h : start.run? steps = .ok query) :
    Records start steps query := by
  induction steps generalizing start with
  | nil =>
      cases h
      exact .refl _
  | cons step steps ih =>
      rw [run?, List.foldlM_cons, Result.bind_eq_ok] at h
      obtain ⟨middle, hstep, hsteps⟩ := h
      obtain ⟨-, rfl⟩ := QueryStep.perform?_eq_ok_iff.mp hstep
      exact (Records.recording start step).append (ih hsteps)

theorem succeeds_run?_iff (start : Query) (steps : List QueryStep) :
    Result.Succeeds (start.run? steps) ↔
      ∀ step ∈ steps, ∀ order ∈ step.orders, order.ignoreCase = false := by
  induction steps generalizing start with
  | nil => simp [run?]
  | cons step steps ih =>
      rw [run?, List.foldlM_cons, Result.succeeds_bind, List.forall_mem_cons]
      simp only [QueryStep.perform?_eq_ok_iff]
      constructor
      · rintro ⟨middle, ⟨hcase, -⟩, hsteps⟩
        exact ⟨hcase, (ih middle).mp hsteps⟩
      · rintro ⟨hcase, hsteps⟩
        exact ⟨_, ⟨hcase, rfl⟩, (ih _).mpr hsteps⟩

theorem orders_initial (criteria : Option Criteria) : (initial criteria).sorting.orders = [] := by
  cases criteria <;> rfl

/-- A run fails at the first step with an order that ignores case, and nowhere else.  The query that
any other run ends with records its steps, no order of it ignores case, and it is continued by
further steps as if they had been taken at once. -/
theorem run?_initial_records (criteria : Option Criteria) (steps : List QueryStep) :
    (Result.Succeeds ((initial criteria).run? steps) ↔
      ∀ step ∈ steps, ∀ order ∈ step.orders, order.ignoreCase = false) ∧
    (∀ before step after order, steps = before ++ step :: after →
      (∀ earlier ∈ before, ∀ other ∈ earlier.orders, other.ignoreCase = false) →
      step.orders.find? Order.ignoreCase = some order →
        ∃ query, (initial criteria).run? before = .ok query ∧
          step.perform? query = .error (.ignoreCaseOrder order.property) ∧
          (initial criteria).run? steps = .error (.ignoreCaseOrder order.property) ∧
          (Error.ignoreCaseOrder order.property).kind = .invalidArgument) ∧
    ∀ query, (initial criteria).run? steps = .ok query →
      Records (initial criteria) steps query ∧
      (∀ order ∈ query.sorting.orders, order.ignoreCase = false) ∧
      ∀ more, (initial criteria).run? (steps ++ more) = query.run? more := by
  refine ⟨succeeds_run?_iff _ _, ?_, ?_⟩
  · rintro before step after order rfl hbefore horder
    obtain ⟨query, hquery⟩ := (succeeds_run?_iff (initial criteria) before).mpr hbefore
    have hstep : step.perform? query = .error (.ignoreCaseOrder order.property) :=
      QueryStep.perform?_of_find? horder
    refine ⟨query, hquery, hstep, ?_, rfl⟩
    rw [run?_append, hquery]
    change (step.perform? query >>= _) = _
    rw [hstep]
    rfl
  · intro query hquery
    have hrecords := records_of_run? hquery
    refine ⟨hrecords, ?_, ?_⟩
    · intro order horder
      rw [hrecords.orders_eq, orders_initial, List.nil_append, List.mem_flatMap] at horder
      obtain ⟨step, hstep, horder⟩ := horder
      exact (succeeds_run?_iff _ _).mp ⟨query, hquery⟩ step hstep order horder
    · intro more
      rw [run?_append, hquery]
      rfl

/-- A boundary of two properties, one of them without a bound, then a criteria that holds no
condition, and a page with a boundary of its own. -/
theorem run?_initial_records_of_boundaries :
    let boundary := Boundary.mk [⟨"age", .rightOpen (.integer 18) (.integer 65)⟩,
      ⟨"name", .unbounded⟩]
    let request := PageRequest.mk 2 10 ⟨[.of .ascending "id"]⟩ (by decide)
    let steps := [QueryStep.withBoundary boundary, .andCriteria (.group .or []),
      .paged (.paged request (some ⟨[⟨"id", .lowerBounded (.excluded (.integer 4))⟩]⟩))]
    let conditions := [Condition.compare .gte "age" (.integer 18),
      .compare .lt "age" (.integer 65), .compare .gt "id" (.integer 4)]
    ∃ query, (initial none).run? steps = .ok query ∧ query.limit = some 10 ∧ query.offset = 20 ∧
      query.sorting.orders = [.of .ascending "id"] ∧
      query.criteria.toList.flatMap Criteria.conditions = conditions ∧
      (Formula.all (Criteria.meanings query.criteria.toList)).Agrees
        (.all (conditions.map .atom)) := by
  intro boundary request steps conditions
  obtain ⟨hsucceeds, -, hrecords⟩ := run?_initial_records none steps
  obtain ⟨query, hquery⟩ := hsucceeds.mpr (by decide)
  obtain ⟨hrecords, -, -⟩ := hrecords query hquery
  exact ⟨query, hquery, hrecords.limit_eq, hrecords.offset_eq, hrecords.orders_eq,
    hrecords.conditions_eq, hrecords.meaning_agrees⟩

end Query

end EntityQuery
