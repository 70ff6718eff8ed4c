import EntityQuery.Proofs.Statement.Clauses
import EntityQuery.Proofs.Text.Digits

/-!
# Windows of statements

The offset of a query is written in the window clause and nowhere else.  So the statements for the
pages of one query succeed together, and two of them are the same text only if they start at the
same row.
-/

namespace EntityQuery

/-- A limit is always written. -/
theorem Dialect.isSome_limitClause? (dialect : Dialect) (limit offset : UInt64) :
    (dialect.limitClause? (some limit) offset).isSome = true := by
  cases dialect with
  | postgres =>
      dsimp only [limitClause?]
      split <;> rfl
  | mysql =>
      dsimp only [limitClause?]
      split <;> rfl
  | sqlserver => rfl

theorem toString_word_inj {first second : UInt64} :
    toString first = toString second ↔ first = second :=
  toString_nat_inj.trans UInt64.toNat_inj

/-- A clause that leaves rows out is not the one that leaves none out. -/
theorem Dialect.limitClause?_ne_zero {dialect : Dialect} {limit offset : UInt64}
    (hoffset : offset ≠ 0) :
    dialect.limitClause? (some limit) offset ≠ dialect.limitClause? (some limit) 0 := by
  intro h
  cases dialect with
  | postgres =>
      rw [limitClause?, limitClause?, if_neg hoffset, if_pos rfl] at h
      have hlength := congrArg String.length (Option.some.inj h)
      have hword : " OFFSET ".length = 8 := rfl
      simp only [String.length_append] at hlength
      omega
  | mysql =>
      rw [limitClause?, limitClause?, if_neg hoffset, if_pos rfl] at h
      have hlength := congrArg String.length (Option.some.inj h)
      have hcomma : ", ".length = 2 := rfl
      simp only [String.length_append] at hlength
      omega
  | sqlserver =>
      have hclause := Option.some.inj h
      rw [String.append_left_inj, String.append_left_inj, String.append_left_inj,
        String.append_right_inj] at hclause
      exact hoffset (toString_word_inj.mp hclause)

theorem Dialect.limitClause?_inj {dialect : Dialect} {limit first second : UInt64} :
    dialect.limitClause? (some limit) first = dialect.limitClause? (some limit) second ↔
      first = second := by
  refine ⟨fun h => ?_, fun h => h ▸ rfl⟩
  by_cases hfirst : first = 0
  · subst hfirst
    by_contra hne
    exact limitClause?_ne_zero (Ne.symm hne) h.symm
  by_cases hsecond : second = 0
  · subst hsecond
    exact absurd h (limitClause?_ne_zero hfirst)
  cases dialect with
  | postgres =>
      rw [limitClause?, limitClause?, if_neg hfirst, if_neg hsecond] at h
      have hclause := Option.some.inj h
      exact toString_word_inj.mp ((String.append_right_inj _).mp hclause)
  | mysql =>
      rw [limitClause?, limitClause?, if_neg hfirst, if_neg hsecond] at h
      have hclause := Option.some.inj h
      rw [String.append_left_inj, String.append_left_inj, String.append_right_inj] at hclause
      exact toString_word_inj.mp hclause
  | sqlserver =>
      have hclause := Option.some.inj h
      rw [String.append_left_inj, String.append_left_inj, String.append_left_inj,
        String.append_right_inj] at hclause
      exact toString_word_inj.mp hclause

namespace Renderer

variable {renderer : Renderer} {selection : Selection} {query : Query}

theorem windowClause_some_inj {first second : String} :
    windowClause (some first) = windowClause (some second) ↔ first = second :=
  String.append_right_inj _

theorem succeeds_select_withOffset
    (h : Result.Succeeds (renderer.select (selection.withQuery query))) (offset : UInt64) :
    Result.Succeeds (renderer.select (selection.withQuery (query.withOffset offset))) := by
  have hrender : Result.Succeeds (renderer.render .select (selection.withQuery query)) := h
  change Result.Succeeds (renderer.render .select (selection.withQuery (query.withOffset offset)))
  rw [succeeds_render_iff, succeeds_opening_iff, succeeds_ending_iff] at hrender ⊢
  exact hrender

/-- The offset of a limited query is seen in the window clause only. -/
theorem exists_sql_select_withOffset {limit : UInt64} (hlimit : query.limit = some limit)
    (hrendered : Result.Succeeds (renderer.select (selection.withQuery query))) :
    ∃ head, ∀ offset content,
      renderer.select (selection.withQuery (query.withOffset offset)) = .ok content →
        content.sql =
          head ++ windowClause (renderer.dialect.limitClause? (some limit) offset) := by
  obtain ⟨statement, hstatement⟩ := hrendered
  obtain ⟨projection, filter, groups, order, hprojection, hfilter, hgroups, horder, -⟩ :=
    select_eq_ok.mp hstatement
  have hwindow : ∀ offset, renderer.window? (selection.withQuery (query.withOffset offset)) =
      renderer.dialect.limitClause? (some limit) offset := by
    intro offset
    rw [← hlimit]
    rfl
  have hwindowed : (renderer.window? (selection.withQuery query)).isSome = true := by
    change (renderer.dialect.limitClause? query.limit query.offset).isSome = true
    rw [hlimit]
    exact Dialect.isSome_limitClause? _ _ _
  rw [hwindowed] at horder
  refine ⟨"SELECT " ++ (if selection.distinct then "DISTINCT " else "") ++ projection ++ " " ++
    renderer.sourceSql (selection.withQuery query) (renderer.filterSql filter) groups ++ order, ?_⟩
  intro offset content hcontent
  obtain ⟨_, _, _, _, hsameProjection, hsameFilter, hsameGroups, hsameOrder, rfl⟩ :=
    select_eq_ok.mp hcontent
  rw [hwindow, Dialect.isSome_limitClause?] at hsameOrder
  obtain rfl := Except.ok.inj (hprojection.symm.trans hsameProjection)
  obtain rfl := Except.ok.inj (hfilter.symm.trans hsameFilter)
  obtain rfl := Except.ok.inj (hgroups.symm.trans hsameGroups)
  obtain rfl := Except.ok.inj (horder.symm.trans hsameOrder)
  rw [hwindow]
  rfl

/-- The statements for two pages are one text only if they are one page. -/
theorem sql_select_withOffset_inj {limit first second : UInt64} (hlimit : query.limit = some limit)
    {content other : Statement}
    (hcontent : renderer.select (selection.withQuery (query.withOffset first)) = .ok content)
    (hother : renderer.select (selection.withQuery (query.withOffset second)) = .ok other) :
    content.sql = other.sql ↔ first = second := by
  obtain ⟨head, hhead⟩ := exists_sql_select_withOffset hlimit
    (succeeds_select_withOffset ⟨content, hcontent⟩ query.offset)
  rw [hhead first content hcontent, hhead second other hother, String.append_right_inj]
  obtain ⟨clause, hclause⟩ :=
    Option.isSome_iff_exists.mp (renderer.dialect.isSome_limitClause? limit first)
  obtain ⟨otherClause, hotherClause⟩ :=
    Option.isSome_iff_exists.mp (renderer.dialect.isSome_limitClause? limit second)
  rw [hclause, hotherClause, windowClause_some_inj, ← Option.some_inj, ← hclause, ← hotherClause]
  exact Dialect.limitClause?_inj

end Renderer

end EntityQuery
