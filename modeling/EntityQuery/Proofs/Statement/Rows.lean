import EntityQuery.Proofs.Statement.Clauses
import EntityQuery.Proofs.Text.Lexemes
import Mathlib.Algebra.Group.Nat.Defs

/-!
# The rows behind a window clause

Each dialect has a grammar of its own for a window of rows: which of the two numbers comes first,
and how one of them is left out.  Read by these grammars, the clauses of a limit and an offset let
through the same rows.  Where the clause needs an order, it stands right behind one.
-/

namespace EntityQuery

open Text

/-- So many rows are left out, and of the others so many are taken at most. -/
structure RowWindow where
  skipped : Nat
  limit : Option Nat
deriving DecidableEq

def RowWindow.rows (window : RowWindow) (rows : List α) : List α :=
  match window.limit with
  | some limit => (rows.drop window.skipped).take limit
  | none => rows.drop window.skipped

namespace Dialect

/-- The grammars of a window clause. -/
def window? : Dialect → List Lexeme → Option RowWindow
  | .postgres, [.word "LIMIT", .number limit] => some ⟨0, some limit⟩
  | .postgres, [.word "LIMIT", .number limit, .word "OFFSET", .number offset] =>
      some ⟨offset, some limit⟩
  | .postgres, [.word "OFFSET", .number offset] => some ⟨offset, none⟩
  | .mysql, [.word "LIMIT", .number limit] => some ⟨0, some limit⟩
  | .mysql, [.word "LIMIT", .number offset, .sign ',', .number limit] => some ⟨offset, some limit⟩
  | .sqlserver, [.word "OFFSET", .number offset, .word "ROWS"] => some ⟨offset, none⟩
  | .sqlserver, [.word "OFFSET", .number offset, .word "ROWS", .word "FETCH", .word "NEXT",
      .number limit, .word "ROWS", .word "ONLY"] => some ⟨offset, some limit⟩
  | _, _ => none

/-- The rows that a statement with this clause gives; without a clause it gives all of them. -/
def rows? (dialect : Dialect) (clause : Option String) (rows : List α) : Option (List α) :=
  match clause with
  | none => some rows
  | some clause => (dialect.window? (lexemes clause)).map fun window => window.rows rows

theorem limitClause?_eq_none_iff {dialect : Dialect} {limit : Option UInt64} {offset : UInt64} :
    dialect.limitClause? limit offset = none ↔ limit = none ∧ offset = 0 := by
  cases limit with
  | none => cases dialect <;> by_cases hoffset : offset = 0 <;> simp [limitClause?, hoffset]
  | some limit => cases dialect <;> by_cases hoffset : offset = 0 <;> simp [limitClause?, hoffset]

theorem window?_postgres {limit : Option UInt64} {offset : UInt64} {clause : String}
    (h : postgres.limitClause? limit offset = some clause) :
    postgres.window? (lexemes clause) = some ⟨offset.toNat, limit.map UInt64.toNat⟩ := by
  have hlimit : lexemes "LIMIT " = [.word "LIMIT"] := by decide
  have hoffset : lexemes "OFFSET " = [.word "OFFSET"] := by decide
  have hbetween : lexemes " OFFSET " = [.word "OFFSET"] := by decide
  have hblank := any_getLast?_append (show " OFFSET " ≠ "" by decide) (by decide)
  by_cases hzero : offset = 0
  · subst hzero
    cases limit with
    | none => cases h
    | some limit =>
        cases h
        rw [lexemes_append_toString limit (by decide), hlimit]
        rfl
  · cases limit with
    | none =>
        simp only [limitClause?, if_neg hzero, Option.some.injEq] at h
        rw [← h, lexemes_append_toString offset (by decide), hoffset]
        rfl
    | some limit =>
        simp only [limitClause?, if_neg hzero, Option.some.injEq] at h
        rw [← h, lexemes_append_toString offset (hblank _),
          lexemes_append_toString_append limit (by decide) (by decide), hlimit, hbetween]
        rfl

/-- Where an offset needs a limit, the largest one stands for none. -/
theorem window?_mysql {limit : Option UInt64} {offset : UInt64} {clause : String}
    (h : mysql.limitClause? limit offset = some clause) :
    mysql.window? (lexemes clause) =
      some ⟨offset.toNat, some ((limit.map UInt64.toNat).getD (2 ^ 64 - 1))⟩ := by
  have hlimit : lexemes "LIMIT " = [.word "LIMIT"] := by decide
  have hbetween : lexemes ", " = [.sign ','] := by decide
  have hblank := any_getLast?_append (show ", " ≠ "" by decide) (by decide)
  have hlargest : lexemes ", 18446744073709551615" = [.sign ',', .number (2 ^ 64 - 1)] := by decide
  by_cases hzero : offset = 0
  · subst hzero
    cases limit with
    | none => cases h
    | some limit =>
        cases h
        rw [lexemes_append_toString limit (by decide), hlimit]
        rfl
  · cases limit with
    | none =>
        simp only [limitClause?, if_neg hzero, Option.some.injEq] at h
        rw [← h, lexemes_append_toString_append offset (by decide) (by decide), hlimit, hlargest]
        rfl
    | some limit =>
        simp only [limitClause?, if_neg hzero, Option.some.injEq] at h
        rw [← h, lexemes_append_toString limit (hblank _),
          lexemes_append_toString_append offset (by decide) (by decide), hlimit, hbetween]
        rfl

theorem window?_sqlserver {limit : Option UInt64} {offset : UInt64} {clause : String}
    (h : sqlserver.limitClause? limit offset = some clause) :
    sqlserver.window? (lexemes clause) = some ⟨offset.toNat, limit.map UInt64.toNat⟩ := by
  have hoffset : lexemes "OFFSET " = [.word "OFFSET"] := by decide
  have hrows : lexemes " ROWS" = [.word "ROWS"] := by decide
  have hbetween : lexemes " ROWS FETCH NEXT " = [.word "ROWS", .word "FETCH", .word "NEXT"] := by
    decide
  have hblank := any_getLast?_append (show " ROWS FETCH NEXT " ≠ "" by decide) (by decide)
  have honly : lexemes " ROWS ONLY" = [.word "ROWS", .word "ONLY"] := by decide
  cases limit with
  | none =>
      by_cases hzero : offset = 0
      · subst hzero
        cases h
      · simp only [limitClause?, if_neg hzero, Option.some.injEq] at h
        rw [← h, lexemes_append_toString_append offset (by decide) (by decide), hoffset, hrows]
        rfl
  | some limit =>
      simp only [limitClause?, Option.some.injEq] at h
      rw [← h, lexemes_append_toString_append limit (hblank _) (by decide),
        lexemes_append_toString_append offset (by decide) (by decide), hoffset, hbetween, honly]
      rfl

/-- Read by its grammar, a clause stands for the window that it was written for. -/
theorem rows?_limitClause? (dialect : Dialect) (limit : Option UInt64) (offset : UInt64)
    {rows : List α} (hrows : rows.length < 2 ^ 64) :
    dialect.rows? (dialect.limitClause? limit offset) rows =
      some (RowWindow.rows ⟨offset.toNat, limit.map UInt64.toNat⟩ rows) := by
  cases hclause : dialect.limitClause? limit offset with
  | none =>
      obtain ⟨rfl, rfl⟩ := limitClause?_eq_none_iff.mp hclause
      rfl
  | some clause =>
      rw [rows?]
      cases dialect with
      | postgres => rw [window?_postgres hclause, Option.map_some]
      | sqlserver => rw [window?_sqlserver hclause, Option.map_some]
      | mysql =>
          rw [window?_mysql hclause, Option.map_some]
          cases limit with
          | some limit => rfl
          | none =>
              have hlength : (rows.drop offset.toNat).length ≤ 2 ^ 64 - 1 := by
                rw [List.length_drop]
                omega
              exact congrArg some (List.take_of_length_le hlength)

end Dialect

namespace Renderer

variable {renderer : Renderer} {selection : Selection} {statement : Statement}

/-- What stands behind the keyword of an order clause that has to be there: the orders of the
selection, or a constant if it has none. -/
inductive IsOrder (renderer : Renderer) (selection : Selection) : String → Prop
  | constant (horders : selection.query.sorting.orders = []) :
      IsOrder renderer selection "(SELECT 1)"
  | orders {written : List String} (horders : selection.query.sorting.orders ≠ [])
      (hwritten : List.Forall₂ (fun order text =>
        order.sql renderer.dialect (renderer.scope selection) = .ok text)
          selection.query.sorting.orders written) :
      IsOrder renderer selection (", ".intercalate written)

theorem exists_isOrder {order : String} (hneeded : renderer.dialect.windowNeedsOrder = true)
    (h : renderer.orderClause selection true = .ok order) :
    ∃ text, order = " ORDER BY " ++ text ∧ renderer.IsOrder selection text := by
  dsimp only [orderClause] at h
  by_cases hempty : selection.query.sorting.orders.isEmpty = true
  · rw [if_pos hempty, hneeded] at h
    cases h
    exact ⟨"(SELECT 1)", by decide, .constant (List.isEmpty_iff.mp hempty)⟩
  · rw [if_neg hempty, Result.bind_eq_ok] at h
    obtain ⟨written, hwritten, h⟩ := h
    cases h
    exact ⟨_, rfl, .orders (mt List.isEmpty_iff.mpr hempty) (Result.mapM_eq_ok.mp hwritten)⟩

theorem exists_sql_select_of_window {clause : String}
    (hneeded : renderer.dialect.windowNeedsOrder = true)
    (hrender : renderer.select selection = .ok statement)
    (hwindow : renderer.window? selection = some clause) :
    ∃ head order, statement.sql = head ++ " ORDER BY " ++ order ++ " " ++ clause ∧
      renderer.IsOrder selection order := by
  obtain ⟨projection, filter, groups, order, -, -, -, horder, rfl⟩ := select_eq_ok.mp hrender
  rw [hwindow] at horder
  obtain ⟨text, rfl, htext⟩ := exists_isOrder hneeded horder
  refine ⟨"SELECT " ++ (if selection.distinct then "DISTINCT " else "") ++ projection ++ " " ++
    renderer.sourceSql selection (renderer.filterSql filter) groups, text, ?_, htext⟩
  rw [hwindow]
  simp only [selectSql, windowClause, String.append_assoc]

theorem exists_sql_exists? (hdialect : renderer.dialect = .sqlserver)
    (hrender : renderer.exists? selection = .ok statement) :
    ∃ head clause, Dialect.limitClause? .sqlserver (some 1) 0 = some clause ∧
      statement.sql = head ++ " ORDER BY " ++ "(SELECT 1)" ++ " " ++ clause := by
  obtain ⟨filter, -, rfl⟩ := exists?_eq_ok.mp hrender
  have hrow : Dialect.firstRow .sqlserver =
      " ORDER BY " ++ ("(SELECT 1)" ++ (" " ++ "OFFSET 0 ROWS FETCH NEXT 1 ROWS ONLY")) := by
    decide
  refine ⟨"SELECT 1 " ++ renderer.fromClause selection ++ renderer.filterSql filter,
    "OFFSET 0 ROWS FETCH NEXT 1 ROWS ONLY", by decide, ?_⟩
  rw [hdialect, hrow]
  simp only [String.append_assoc]

end Renderer

/-- The dialects let the same rows through, and write no clause only where no row is left out.  In
statements for SQL Server a window stands right behind an order: the orders of the selection, or a
constant if it has none.  The test for a row is not sorted, so that the constant is all it has. -/
theorem Dialect.rows?_limitClause?_and_order {α : Type} (limit : Option UInt64) (offset : UInt64)
    {rows : List α} (hrows : rows.length < 2 ^ 64) :
    (∀ dialect : Dialect,
      (dialect.limitClause? limit offset = none ↔ limit = none ∧ offset = 0) ∧
      dialect.rows? (dialect.limitClause? limit offset) rows =
        some (RowWindow.rows ⟨offset.toNat, limit.map UInt64.toNat⟩ rows)) ∧
    ∀ (schema : Schema) (selection : Selection) (statement : Statement),
      let renderer := Renderer.mk .sqlserver schema
      (renderer.select selection = .ok statement → ∀ clause,
        limitClause? .sqlserver selection.query.limit selection.query.offset = some clause →
          ∃ head order, statement.sql = head ++ " ORDER BY " ++ order ++ " " ++ clause ∧
            renderer.IsOrder selection order) ∧
      (renderer.exists? selection = .ok statement →
        ∃ head clause, limitClause? .sqlserver (some 1) 0 = some clause ∧
          statement.sql = head ++ " ORDER BY " ++ "(SELECT 1)" ++ " " ++ clause) := by
  refine ⟨fun dialect => ⟨limitClause?_eq_none_iff, rows?_limitClause? dialect limit offset hrows⟩,
    fun schema selection statement => ⟨fun hrender clause hwindow => ?_, fun hrender => ?_⟩⟩
  · exact Renderer.exists_sql_select_of_window rfl hrender hwindow
  · exact Renderer.exists_sql_exists? rfl hrender

set_option maxRecDepth 4096 in
/-- One row of three is left out in three ways, and a window of the other two is sorted. -/
theorem Dialect.rows?_limitClause?_of_three_rows :
    let rows := ["a", "b", "c"]
    let selection := (Selection.ofTable ⟨.plain "users", none⟩).withQuery
      { Query.empty with sorting := ⟨[.of .descending "age"]⟩, limit := some 2, offset := 1 }
    let clause := "OFFSET 1 ROWS FETCH NEXT 2 ROWS ONLY"
    rows.length < 2 ^ 64 ∧
    limitClause? .postgres none 1 = some "OFFSET 1" ∧
    limitClause? .mysql none 1 = some "LIMIT 1, 18446744073709551615" ∧
    limitClause? .sqlserver none 1 = some "OFFSET 1 ROWS" ∧
    (∀ dialect : Dialect, dialect.rows? (dialect.limitClause? none 1) rows = some ["b", "c"]) ∧
    ∃ statement head order,
      (Renderer.mk .sqlserver (.empty .standard)).select selection = .ok statement ∧
      statement.sql = head ++ " ORDER BY " ++ order ++ " " ++ clause := by
  intro rows selection clause
  have hrows : rows.length < 2 ^ 64 := by decide
  obtain ⟨hdialects, hstatements⟩ := rows?_limitClause?_and_order none 1 hrows
  have hrender : (Renderer.mk .sqlserver (.empty .standard)).select selection = .ok ⟨_, _⟩ := rfl
  obtain ⟨head, order, hsql, -⟩ := (hstatements (.empty .standard) selection _).1 hrender clause
    (by decide)
  exact ⟨hrows, by decide, by decide, by decide, fun dialect => (hdialects dialect).2,
    _, head, order, hrender, hsql⟩

end EntityQuery
