import EntityQuery.Proofs.Paging.Number
import EntityQuery.Proofs.Statement.Window
import EntityQuery.Proofs.Template.Page

/-!
# From page to page

Whoever starts at the first page and follows the next request while there is a next page sees every
row once and in order.  The walk is by induction on the rows that are left: every page but the last
one takes as many of them as its size.
-/

namespace EntityQuery

variable {n : Nat} {ρ : Type}

/-! ### Pages that cover rows -/

/-- Together the pages hold the rows once and in order.  Only the last one says that it is the last
one, and only that one may hold fewer rows than its size. -/
structure Page.Cover (size : Nat) (rows : List ρ) (pages : List (Page ρ)) : Prop where
  flatMap_content : pages.flatMap Page.content = rows
  length_eq : pages.length = max 1 (rows.length ⌈/⌉ size)
  length_content : ∀ page ∈ pages.dropLast, page.content.length = size
  isLast_of_mem_dropLast : ∀ page ∈ pages.dropLast, page.isLast = false
  isLast_of_getLast? : ∀ page ∈ pages.getLast?, page.isLast = true

namespace Page.Cover

variable {size : Nat} {rows : List ρ} {page : Page ρ}

theorem single (hsize : 0 < size) (hrows : rows.length ≤ size) (hcontent : page.content = rows)
    (hlast : page.isLast = true) : Cover size rows [page] where
  flatMap_content := by rw [List.flatMap_singleton, hcontent]
  length_eq := by
    have hone : rows.length ⌈/⌉ size ≤ 1 := by
      rw [ceilDiv_le_iff_le_mul hsize, Nat.mul_one]
      exact hrows
    rw [Nat.max_eq_left hone, List.length_singleton]
  length_content := fun _ hmem => absurd hmem List.not_mem_nil
  isLast_of_mem_dropLast := fun _ hmem => absurd hmem List.not_mem_nil
  isLast_of_getLast? := by
    rintro _ ⟨⟩
    exact hlast

theorem length_pos {pages : List (Page ρ)} (hcover : Cover size rows pages) :
    0 < pages.length := by
  rw [hcover.length_eq]
  exact Nat.lt_of_lt_of_le Nat.one_pos (Nat.le_max_left _ _)

/-- A full page before the pages of the rows behind it. -/
theorem cons {pages : List (Page ρ)} (hsize : 0 < size) (hrows : size < rows.length)
    (hcontent : page.content = rows.take size) (hnext : page.isLast = false)
    (hcover : Cover size (rows.drop size) pages) : Cover size rows (page :: pages) := by
  have hne : pages ≠ [] := List.length_pos_iff.mp hcover.length_pos
  refine ⟨?_, ?_, ?_, ?_, ?_⟩
  · rw [List.flatMap_cons, hcover.flatMap_content, hcontent, List.take_append_drop]
  · have hleft : 1 ≤ (rows.length - size) ⌈/⌉ size := by
      rw [Nat.one_le_iff_ne_zero, ← Nat.pos_iff_ne_zero, ← Nat.not_le,
        ceilDiv_le_iff_le_mul hsize]
      omega
    have hall : rows.length ⌈/⌉ size = (rows.length - size) ⌈/⌉ size + 1 := by
      rw [Nat.ceilDiv_eq_add_pred_div, Nat.ceilDiv_eq_add_pred_div, ← Nat.add_div_right _ hsize]
      congr 1
      omega
    rw [List.length_cons, hcover.length_eq, List.length_drop, Nat.max_eq_right hleft, hall,
      Nat.max_eq_right (Nat.le_add_left 1 _)]
  · rw [List.dropLast_cons_of_ne_nil hne, List.forall_mem_cons]
    refine ⟨?_, hcover.length_content⟩
    rw [hcontent, List.length_take_of_le hrows.le]
  · rw [List.dropLast_cons_of_ne_nil hne, List.forall_mem_cons]
    exact ⟨hnext, hcover.isLast_of_mem_dropLast⟩
  · rw [List.getLast?_cons_of_ne_nil hne]
    exact hcover.isLast_of_getLast?

end Page.Cover

/-! ### Walks -/

namespace Template

/-- The pages that are seen from a request on, as long as there is a next page. -/
inductive Walk (template : Template n ρ) (type : Fin n) (query : Query) :
    Context n → Pageable → List (Page ρ) → Prop
  | last {context : Context n} {pageable : Pageable} {page : Page ρ}
      (hpage : (template.page type query pageable context).result = .ok page)
      (hlast : page.hasNext = false) : Walk template type query context pageable [page]
  | next {context : Context n} {pageable : Pageable} {page : Page ρ} {rest : List (Page ρ)}
      (hpage : (template.page type query pageable context).result = .ok page)
      (hnext : page.hasNext = true)
      (hrest : Walk template type query (template.page type query pageable context).context
        page.pageable.next rest) : Walk template type query context pageable (page :: rest)

variable {template : Template n ρ} {type : Fin n} {query : Query}

/-- A walk has no choice. -/
theorem Walk.unique {context : Context n} {pageable : Pageable} {pages others : List (Page ρ)}
    (hpages : template.Walk type query context pageable pages)
    (hothers : template.Walk type query context pageable others) : pages = others := by
  induction hpages generalizing others with
  | last hpage hlast =>
      cases hothers with
      | last hother _ => rw [Except.ok.inj (hpage.symm.trans hother)]
      | next hother hnext _ =>
          rw [← Except.ok.inj (hpage.symm.trans hother), hlast] at hnext
          cases hnext
  | next hpage hnext _ ih =>
      cases hothers with
      | last hother hlast =>
          rw [← Except.ok.inj (hpage.symm.trans hother), hnext] at hlast
          cases hlast
      | next hother _ hrest =>
          obtain rfl := Except.ok.inj (hpage.symm.trans hother)
          rw [ih hrest]

end Template

/-! ### Pages of one query -/

/-- Of the pages of a query only the offsets differ. -/
theorem Query.paged?_numbered {query paged : Query} {request : PageRequest}
    {boundary : Option Boundary} (h : query.paged? (.paged request boundary) = .ok paged)
    (number : Nat) :
    query.paged? (.paged (request.numbered number) boundary) =
      .ok (paged.withOffset (request.numbered number).offset) := by
  obtain ⟨hcase, rfl⟩ := paged?_eq_ok.mp h
  exact paged?_eq_ok.mpr ⟨hcase, rfl⟩

namespace Template

section Pages

variable {template : Template n ρ} {context registered : Context n} {type : Fin n}
  {entity : Entity} {query paged : Query} {request : PageRequest} {boundary : Option Boundary}
  {source : Statement} {database : Statement → List ρ}
  (hentity : context.entity? template.catalog type = .ok (entity, registered))
  (hpaged : query.paged? (.paged request boundary) = .ok paged)
  (hrendered : Result.Succeeds ((template.renderer registered).select (entity.selection paged)))
  (hserves : ∀ offset, template.executor.Serves database (template.renderer registered)
    (entity.selection (paged.withOffset offset)))
  (hsource : (template.renderer registered).source (entity.selection paged) = .ok source)

include hentity hpaged hrendered hserves hsource

/-- The page with a number, if the rows before it are not more than all rows. -/
theorem page_numbered {number : Nat}
    (hnumber : number * request.size.toNat ≤ (database source).length) :
    (database source).length < 2 ^ 63 ∧ ∃ page,
      (template.page type query (.paged (request.numbered number) boundary) context).result =
        .ok page ∧
      (template.page type query (.paged (request.numbered number) boundary) context).context =
        registered ∧
      page.content =
        ((database source).drop (number * request.size.toNat)).take request.size.toNat ∧
      page.pageable.next = .paged (request.numbered (number + 1)) boundary ∧
      (page.hasNext = true ↔ (number + 1) * request.size.toNat < (database source).length) := by
  obtain ⟨content, hcontent⟩ :=
    Renderer.succeeds_select_withOffset hrendered (request.numbered number).offset
  have hsame : (template.renderer registered).source
      (entity.selection (paged.withOffset (request.numbered number).offset)) = .ok source := by
    rw [← hsource]
    exact Renderer.source_withQuery_congr rfl rfl rfl
  have hrows := (hserves (request.numbered number).offset).length_lt source hsame
  have hlimit : (database source).length < Saturating.limit := by
    unfold Saturating.limit
    omega
  have hoffset := request.toNat_offset_numbered (Nat.le_trans hnumber hlimit.le)
  have hpageLimit : number < Saturating.limit :=
    Nat.lt_of_le_of_lt (Nat.le_trans (request.le_mul_size number) hnumber) hlimit
  have hpage := request.toNat_page_numbered hpageLimit.le
  obtain ⟨counted, -, total, htotal, hrun⟩ :=
    exists_page hentity (Query.paged?_numbered hpaged number) hcontent (hserves _) hsame
  set page := Page.of ((request.numbered number).window (database source))
    (.paged (request.numbered number) boundary) total
  have hpageable : page.pageable = .paged (request.numbered number) boundary := rfl
  have hall : page.total.toNat = (database source).length :=
    Page.toNat_total_of hrows htotal boundary
  rw [hrun]
  refine ⟨hrows, page, rfl, rfl, ?_, ?_, ?_⟩
  · change ((database source).drop (request.numbered number).offset.toNat).take _ = _
    rw [hoffset]
    rfl
  · rw [hpageable, ← request.next_numbered hpageLimit.le]
    rfl
  · have hnext := Page.hasNext_iff hpageable
    rw [hpage, hall] at hnext
    exact hnext

/-- By induction on the rows that are left: before the last page they are more than its size. -/
theorem exists_walk (number : Nat)
    (hnumber : number = 0 ∨ number * request.size.toNat < (database source).length) :
    ∃ pages, template.Walk type query context (.paged (request.numbered number) boundary) pages ∧
      Page.Cover request.size.toNat
        ((database source).drop (number * request.size.toNat)) pages := by
  have hpos := request.size_pos
  induction hleft : (database source).length - number * request.size.toNat
    using Nat.strong_induction_on generalizing number context with
  | h left ih =>
      have hle : number * request.size.toNat ≤ (database source).length := by
        rcases hnumber with rfl | hlt
        · rw [Nat.zero_mul]
          exact Nat.zero_le _
        · exact hlt.le
      obtain ⟨-, page, hpage, hcontext, hcontent, hnextRequest, hnext⟩ :=
        page_numbered hentity hpaged hrendered hserves hsource hle
      rw [Nat.succ_mul] at hnext
      have hlength := @List.length_drop ρ (number * request.size.toNat) (database source)
      by_cases hmore : number * request.size.toNat + request.size.toNat < (database source).length
      · have hsmaller : (database source).length - (number + 1) * request.size.toNat < left := by
          rw [Nat.succ_mul]
          omega
        obtain ⟨pages, hwalk, hcover⟩ := ih _ hsmaller (Context.entity?_idem hentity) (number + 1)
          (.inr (by rwa [Nat.succ_mul])) rfl
        have htrue := hnext.mpr hmore
        refine ⟨page :: pages, .next hpage htrue ?_, .cons hpos (by omega) hcontent ?_ ?_⟩
        · rw [hcontext, hnextRequest]
          exact hwalk
        · rw [Page.isLast, htrue]
          rfl
        · rw [List.drop_drop, ← Nat.succ_mul]
          exact hcover
      · have hfalse : page.hasNext = false := Bool.eq_false_iff.mpr (mt hnext.mp hmore)
        refine ⟨[page], .last hpage hfalse, .single hpos (by omega) ?_ ?_⟩
        · rw [hcontent, List.take_of_length_le (by omega)]
        · rw [Page.isLast, hfalse]
          rfl

end Pages

/-- Served by a database, the walk from the first page on ends, and its pages cover the rows. -/
theorem walk_covers_rows {template : Template n ρ} {context registered : Context n} {type : Fin n}
    {entity : Entity} {query paged : Query} {request : PageRequest} {boundary : Option Boundary}
    {database : Statement → List ρ}
    (hentity : context.entity? template.catalog type = .ok (entity, registered))
    (hfirst : request.page = 0)
    (hpaged : query.paged? (.paged request boundary) = .ok paged)
    (hrendered : Result.Succeeds ((template.renderer registered).select (entity.selection paged)))
    (hserves : ∀ offset, template.executor.Serves database (template.renderer registered)
      (entity.selection (paged.withOffset offset))) :
    ∃ source pages,
      (template.renderer registered).source (entity.selection paged) = .ok source ∧
      template.Walk type query context (.paged request boundary) pages ∧
      (∀ others, template.Walk type query context (.paged request boundary) others →
        others = pages) ∧
      Page.Cover request.size.toNat (database source) pages := by
  obtain ⟨source, hsource⟩ := Renderer.succeeds_source_of_select hrendered
  obtain ⟨pages, hwalk, hcover⟩ :=
    exists_walk hentity hpaged hrendered hserves hsource 0 (.inl rfl)
  rw [request.numbered_zero hfirst] at hwalk
  rw [Nat.zero_mul, List.drop_zero] at hcover
  exact ⟨source, pages, hsource, hwalk, fun others hothers => hothers.unique hwalk, hcover⟩

set_option maxRecDepth 4096 in
/-- Three rows are seen on two pages. -/
theorem walk_covers_three_rows :
    let entity := Entity.mk 0 "Person" (.plain "person") [] none
    let context : Context 1 := ⟨⟨⟨.standard, [entity]⟩, [(0, 0)]⟩, .empty⟩
    let request := PageRequest.mk 0 2 .unsorted (by decide)
    let text := "SELECT person.* FROM person LIMIT 2"
    let executor : Executor Nat :=
      { fetchAll := fun statement => .ok <|
          if statement.sql = text then [1, 2]
          else if statement.sql = text ++ " OFFSET 1" then [2, 3]
          else if statement.sql = text ++ " OFFSET 2" then [3]
          else []
        fetchCount := fun _ => .ok 3 }
    let template : Template 1 Nat := ⟨.postgres, fun _ => ⟨"Person", none, []⟩, executor⟩
    let paged := Query.empty.withLimit 2
    Query.empty.paged? (.paged request none) = .ok paged ∧
      (∀ offset, executor.Serves (fun _ => [1, 2, 3]) (template.renderer context)
        (entity.selection (paged.withOffset offset))) ∧
      ∃ pages, template.Walk 0 .empty context (.paged request none) pages ∧
        pages.flatMap Page.content = [1, 2, 3] ∧ pages.length = 2 := by
  intro entity context request text executor template paged
  have hentity : context.entity? template.catalog 0 = .ok (entity, context) := rfl
  have hpaged : Query.empty.paged? (.paged request none) = .ok paged := rfl
  have hzero : (template.renderer context).select (entity.selection (paged.withOffset 0)) =
      .ok ⟨text, []⟩ := by with_unfolding_all rfl
  have hone : (template.renderer context).select (entity.selection (paged.withOffset 1)) =
      .ok ⟨text ++ " OFFSET 1", []⟩ := by with_unfolding_all rfl
  have htwo : (template.renderer context).select (entity.selection (paged.withOffset 2)) =
      .ok ⟨text ++ " OFFSET 2", []⟩ := by with_unfolding_all rfl
  have hserves : ∀ offset, executor.Serves (fun _ => [1, 2, 3]) (template.renderer context)
      (entity.selection (paged.withOffset offset)) := by
    intro offset
    refine ⟨fun _ content _ hcontent => ?_, fun _ _ _ _ => rfl, fun _ _ => by decide⟩
    have hlimit : paged.limit = some 2 := rfl
    have hfirst := Renderer.sql_select_withOffset_inj hlimit hcontent hzero
    have hsecond := Renderer.sql_select_withOffset_inj hlimit hcontent hone
    have hthird := Renderer.sql_select_withOffset_inj hlimit hcontent htwo
    dsimp only [executor]
    split
    · rename_i h
      obtain rfl := hfirst.mp h
      rfl
    rename_i hfirstNe
    split
    · rename_i h
      obtain rfl := hsecond.mp h
      rfl
    rename_i hsecondNe
    split
    · rename_i h
      obtain rfl := hthird.mp h
      rfl
    rename_i hthirdNe
    have hbehind : [1, 2, 3].length ≤ offset.toNat := by
      have hzeroNe : offset.toNat ≠ 0 := fun h => hfirstNe (hfirst.mpr (UInt64.toNat_inj.mp h))
      have honeNe : offset.toNat ≠ 1 := fun h => hsecondNe (hsecond.mpr (UInt64.toNat_inj.mp h))
      have htwoNe : offset.toNat ≠ 2 := fun h => hthirdNe (hthird.mpr (UInt64.toNat_inj.mp h))
      change 3 ≤ offset.toNat
      omega
    have hwindow : ([1, 2, 3].drop offset.toNat).take 2 = [] := by
      rw [List.drop_of_length_le hbehind, List.take_nil]
    exact congrArg Except.ok hwindow.symm
  obtain ⟨_, pages, -, hwalk, -, hcover⟩ :=
    walk_covers_rows hentity rfl hpaged ⟨_, hzero⟩ hserves
  exact ⟨hpaged, hserves, pages, hwalk, hcover.flatMap_content, hcover.length_eq.trans (by decide)⟩

end Template

end EntityQuery
