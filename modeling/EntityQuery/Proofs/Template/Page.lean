import EntityQuery.Proofs.Paging.Window
import EntityQuery.Proofs.Schema.Registration
import EntityQuery.Proofs.Statement.Source

/-!
# One page

A page is a select statement and, if its rows do not show where all rows end, a count statement.
Both are written around the same clauses, although the one is rendered from the paged query and the
other from the bounded one; so an executor that serves a database gives the rows of the page and the
number of all rows.
-/

namespace EntityQuery

variable {n : Nat} {ρ : Type}

/-- In the selection, the executor answers as a database does that finds these rows for a source:
with their window for a select statement and with their number for a count statement. -/
structure Executor.Serves (executor : Executor ρ) (database : Statement → List ρ)
    (renderer : Renderer) (selection : Selection) : Prop where
  fetchAll : ∀ source content, renderer.source selection = .ok source →
    renderer.select selection = .ok content →
      executor.fetchAll content = .ok (selection.query.window (database source))
  fetchCount : ∀ source counted, renderer.source selection = .ok source →
    counted.Counts source → executor.fetchCount counted = .ok (database source).length
  length_lt : ∀ source, renderer.source selection = .ok source →
    (database source).length < 2 ^ 63

/-! ### Sessions -/

theorem Session.bind_eq {α β : Type} {session : Session n α} {next : α → Session n β}
    {context after : Context n} {calls : List Call} {value : α}
    (h : session context = ⟨after, calls, .ok value⟩) :
    (session >>= next) context =
      ⟨(next value after).context, calls ++ (next value after).calls,
        (next value after).result⟩ := by
  change Session.bind session next context = _
  unfold Session.bind
  rw [h]

namespace Template

def renderer (template : Template n ρ) (context : Context n) : Renderer :=
  ⟨template.dialect, context.schema⟩

end Template

def Entity.selection (entity : Entity) (query : Query) : Selection :=
  (Selection.ofEntity entity).withQuery query

namespace Template

section Steps

variable {template : Template n ρ} {context registered : Context n} {type : Fin n}
  {entity : Entity} (hentity : context.entity? template.catalog type = .ok (entity, registered))

include hentity

/-- Every statement is rendered after the type is registered. -/
theorem statement_eq (render : Renderer → Selection → Result Statement) (query : Query) :
    template.statement render type query context =
      ⟨registered, [], render (template.renderer registered) (entity.selection query)⟩ := by
  have hsession : Session.entity template.catalog type context = ⟨registered, [], .ok entity⟩ := by
    rw [Session.entity, Context.entity?_eq_ok_iff.mp hentity]
  have hselection : template.selection type query context =
      ⟨registered, [], .ok (entity.selection query)⟩ := Session.bind_eq hsession
  exact Session.bind_eq hselection

theorem select_eq {query : Query} {content : Statement} {rows : List ρ}
    (hcontent : (template.renderer registered).select (entity.selection query) = .ok content)
    (hfetch : template.executor.fetchAll content = .ok rows) :
    template.select type query context = ⟨registered, [.fetchAll content], .ok rows⟩ := by
  have hstatement := statement_eq hentity Renderer.select query
  rw [hcontent] at hstatement
  rw [select, Session.bind_eq hstatement, Session.fetchAll, hfetch]
  rfl

theorem count_eq {query : Query} {counted : Statement} {total : Nat}
    (hcounted : (template.renderer registered).count (entity.selection query) = .ok counted)
    (hfetch : template.executor.fetchCount counted = .ok total) :
    template.count type query context =
      ⟨registered, [.fetchCount counted], .ok (UInt64.ofNat total)⟩ := by
  have hstatement := statement_eq hentity Renderer.count query
  rw [hcounted] at hstatement
  have hcall : Session.fetchCount template.executor counted registered =
      ⟨registered, [.fetchCount counted], .ok (total : Int)⟩ := by
    rw [Session.fetchCount, hfetch]
  rw [count, Session.bind_eq hstatement, Session.bind_eq hcall,
    if_neg (Int.not_lt.mpr (Int.natCast_nonneg total))]
  rfl

/-- The calls of one page and its content, where `total` stands for the number of all rows. -/
theorem page_eq {query paged : Query} {request : PageRequest} {boundary : Option Boundary}
    {content counted : Statement} {rows : List ρ}
    (hpaged : query.paged? (.paged request boundary) = .ok paged)
    (hcontent : (template.renderer registered).select (entity.selection paged) = .ok content)
    (hfetchAll : template.executor.fetchAll content = .ok (request.window rows))
    (hcounted : (template.renderer registered).count (entity.selection (query.bounded boundary)) =
      .ok counted)
    (hfetchCount : template.executor.fetchCount counted = .ok rows.length)
    (hrows : rows.length < 2 ^ 63) :
    ∃ total : UInt64, total.toNat = rows.length ∧
      template.page type query (.paged request boundary) context =
        ⟨registered, .fetchAll content ::
            (if pinsTotal request (request.window rows) then [] else [.fetchCount counted]),
          .ok (Page.of (request.window rows) (.paged request boundary) total)⟩ := by
  have hquery : (Session.ofResult (query.paged? (.paged request boundary)) : Session n Query)
      context = ⟨context, [], .ok paged⟩ := by
    rw [Session.ofResult, hpaged]
  have hselect := select_eq hentity hcontent hfetchAll
  by_cases hpins : pinsTotal request (request.window rows) = true
  · refine ⟨_, toNat_pinnedTotal hrows hpins, ?_⟩
    rw [page, Session.bind_eq hquery, Session.bind_eq hselect]
    dsimp only
    rw [if_pos hpins, if_pos hpins]
    rfl
  · have hcount := count_eq (Context.entity?_idem hentity) hcounted hfetchCount
    refine ⟨UInt64.ofNat rows.length, ?_, ?_⟩
    · rw [UInt64.toNat_ofNat']
      omega
    rw [page, Session.bind_eq hquery, Session.bind_eq hselect]
    dsimp only
    rw [if_neg hpins, if_neg hpins]
    cases boundary with
    | none =>
        change template.count type query registered = _ at hcount
        rw [Session.bind_eq hcount]
        rfl
    | some boundary =>
        change template.count type (query.withBoundary boundary) registered = _ at hcount
        rw [Session.bind_eq hcount]
        rfl

end Steps

theorem pinsTotal_eq_false_iff {request : PageRequest} {rows : List ρ}
    (hrows : rows.length < 2 ^ 63) :
    pinsTotal request (request.window rows) = false ↔
      (request.window rows).length = request.size.toNat ∨
        request.window rows = [] ∧ request.offset ≠ 0 := by
  have hle : (request.window rows).length ≤ request.size.toNat := by
    rw [PageRequest.length_window]
    exact Nat.min_le_left _ _
  rw [← Bool.not_eq_true, pinsTotal_window_iff hrows, not_and_or, not_or, not_not, Nat.not_lt,
    and_comm]
  exact or_congr ⟨fun hge => Nat.le_antisymm hle hge, fun heq => Nat.le_of_eq heq.symm⟩ Iff.rfl

/-- The count of the bounded query has the source of the paged query. -/
theorem exists_counted {renderer : Renderer} {selection : Selection} {query paged : Query}
    {request : PageRequest} {boundary : Option Boundary} {source : Statement}
    (hpaged : query.paged? (.paged request boundary) = .ok paged)
    (hsource : renderer.source (selection.withQuery paged) = .ok source) :
    ∃ counted, renderer.count (selection.withQuery (query.bounded boundary)) = .ok counted ∧
      counted.Counts source := by
  have hsame : renderer.source (selection.withQuery (query.bounded boundary)) = .ok source := by
    rw [← hsource, ← (Query.paged?_eq_ok.mp hpaged).2]
    exact Renderer.source_withQuery_congr rfl rfl rfl
  obtain ⟨counted, hcounted⟩ := Renderer.succeeds_count_iff.mpr ⟨source, hsame⟩
  exact ⟨counted, hcounted, Renderer.counts_source hcounted hsame⟩

section Serves

variable {template : Template n ρ} {context registered : Context n} {type : Fin n}
  {entity : Entity} {query paged : Query} {request : PageRequest} {boundary : Option Boundary}
  {content : Statement} {database : Statement → List ρ}
  (hentity : context.entity? template.catalog type = .ok (entity, registered))
  (hpaged : query.paged? (.paged request boundary) = .ok paged)
  (hcontent : (template.renderer registered).select (entity.selection paged) = .ok content)
  (hserves : template.executor.Serves database (template.renderer registered)
    (entity.selection paged))

include hentity hpaged hcontent hserves

theorem exists_page {source : Statement}
    (hsource : (template.renderer registered).source (entity.selection paged) = .ok source) :
    ∃ counted, counted.Counts source ∧ ∃ total : UInt64,
      total.toNat = (database source).length ∧
      template.page type query (.paged request boundary) context =
        ⟨registered, .fetchAll content ::
            (if pinsTotal request (request.window (database source)) then []
              else [.fetchCount counted]),
          .ok (Page.of (request.window (database source)) (.paged request boundary) total)⟩ := by
  obtain ⟨counted, hcounted, hcounts⟩ := exists_counted hpaged hsource
  have hfetchAll := hserves.fetchAll source content hsource hcontent
  have hwindow : (entity.selection paged).query.window (database source) =
      request.window (database source) := Query.window_of_paged hpaged _
  rw [hwindow] at hfetchAll
  exact ⟨counted, hcounts, page_eq hentity hpaged hcontent hfetchAll hcounted
    (hserves.fetchCount source counted hsource hcounts) (hserves.length_lt source hsource)⟩

end Serves

/-- Served by a database, a page has the rows of its window and the exact number of all rows.  They
are counted only behind a full page and behind an empty one that is not the first, and then with the
clauses and the values of the rows. -/
theorem page_of_serves {template : Template n ρ} {context registered : Context n} {type : Fin n}
    {entity : Entity} {query paged : Query} {request : PageRequest} {boundary : Option Boundary}
    {content : Statement} {database : Statement → List ρ}
    (hentity : context.entity? template.catalog type = .ok (entity, registered))
    (hpaged : query.paged? (.paged request boundary) = .ok paged)
    (hcontent : (template.renderer registered).select (entity.selection paged) = .ok content)
    (hserves : template.executor.Serves database (template.renderer registered)
      (entity.selection paged)) :
    ∃ source counted page,
      (template.renderer registered).source (entity.selection paged) = .ok source ∧
      content.Selects source (Renderer.windowClause
        (template.dialect.limitClause? (some request.size) request.offset)) ∧
      counted.Counts source ∧
      (template.page type query (.paged request boundary) context).result = .ok page ∧
      page.content = request.window (database source) ∧
      page.total.toNat = (database source).length ∧
      page.pageable = .paged request boundary ∧
      (template.page type query (.paged request boundary) context).calls =
        .fetchAll content ::
          if page.content.length = request.size.toNat ∨ page.content = [] ∧ request.offset ≠ 0
          then [.fetchCount counted] else [] := by
  obtain ⟨source, hsource⟩ := Renderer.succeeds_source_of_select ⟨content, hcontent⟩
  have hrows := hserves.length_lt source hsource
  obtain ⟨counted, hcounts, total, htotal, hpage⟩ :=
    exists_page hentity hpaged hcontent hserves hsource
  rw [hpage]
  have hselects := Renderer.selects_source hcontent hsource
  rw [← (Query.paged?_eq_ok.mp hpaged).2] at hselects
  refine ⟨source, counted, _, hsource, hselects, hcounts, rfl, rfl,
    Page.toNat_total_of hrows htotal boundary, rfl, ?_⟩
  have hfalse := @pinsTotal_eq_false_iff ρ request _ hrows
  cases hpins : pinsTotal request (request.window (database source)) with
  | true =>
      rw [if_pos rfl, if_neg]
      exact fun hneeded => absurd (hfalse.mpr hneeded) (by rw [hpins]; exact Bool.noConfusion)
  | false =>
      rw [if_neg Bool.false_ne_true, if_pos]
      exact hfalse.mp hpins

set_option maxRecDepth 4096 in
/-- The second page of five grouped rows is full, so that the groups are counted. -/
theorem page_of_serves_second_page :
    let entity := Entity.mk 0 "Person" (.plain "person") [] none
    let context : Context 1 := ⟨⟨⟨.standard, [entity]⟩, [(0, 0)]⟩, .empty⟩
    let query := (Query.ofCriteria (.compare .gt "age" (.integer 6))).groupBy ⟨["city"]⟩
    let boundary := Boundary.mk [⟨"name", ⟨.included (.text "A"), .unbounded⟩⟩]
    let request := PageRequest.mk 1 2 ⟨[.of .ascending "city"]⟩ (by decide)
    let content := Statement.mk
      ("SELECT person.* FROM person WHERE person.age > $1 AND person.name >= $2 " ++
        "GROUP BY person.city ORDER BY person.city ASC LIMIT 2 OFFSET 2")
      [⟨0, "$1", .integer 6⟩, ⟨1, "$2", .text "A"⟩]
    let executor : Executor Nat :=
      { fetchAll := fun statement => .ok (if statement.sql = content.sql then [3, 4] else [])
        fetchCount := fun _ => .ok 5 }
    let template : Template 1 Nat := ⟨.postgres, fun _ => ⟨"Person", none, []⟩, executor⟩
    let paged : Query := { query.withBoundary boundary with
      sorting := request.sorting, limit := some 2, offset := 2 }
    query.paged? (.paged request (some boundary)) = .ok paged ∧
      (template.renderer context).select (entity.selection paged) = .ok content ∧
      executor.Serves (fun _ => [1, 2, 3, 4, 5]) (template.renderer context)
        (entity.selection paged) ∧
      (∃ page, (template.page 0 query (.paged request (some boundary)) context).result = .ok page ∧
        page.content = [3, 4] ∧ page.total.toNat = 5) ∧
      ∃ counted, counted.bindings = content.bindings ∧
        (template.page 0 query (.paged request (some boundary)) context).calls =
          [.fetchAll content, .fetchCount counted] := by
  intro entity context query boundary request content executor template paged
  have hentity : context.entity? template.catalog 0 = .ok (entity, context) := rfl
  have hpaged : query.paged? (.paged request (some boundary)) = .ok paged := rfl
  have hcontent : (template.renderer context).select (entity.selection paged) = .ok content := by
    with_unfolding_all rfl
  have hserves : executor.Serves (fun _ => [1, 2, 3, 4, 5]) (template.renderer context)
      (entity.selection paged) := by
    refine ⟨fun _ other _ hother => ?_, fun _ _ _ _ => rfl, fun _ _ => by decide⟩
    rw [← Except.ok.inj (hcontent.symm.trans hother)]
    rfl
  obtain ⟨source, counted, page, -, hselects, hcounts, hpage, hwindow, htotal, -, hcalls⟩ :=
    page_of_serves hentity hpaged hcontent hserves
  have hrows : page.content = [3, 4] := hwindow
  refine ⟨hpaged, hcontent, hserves, ⟨page, hpage, hrows, htotal⟩, counted, ?_, ?_⟩
  · rw [hcounts.1, hselects.1]
  · rw [hcalls, hrows]
    rfl

end Template

end EntityQuery
