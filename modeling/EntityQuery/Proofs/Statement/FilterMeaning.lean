import EntityQuery.Proofs.Statement.FilterText
import Mathlib.Data.Fintype.Order

/-!
# What the WHERE clause means

The text of the clause, read with the precedence of SQL, is true exactly when the criteria of the
selection and those of all its joins are.  Parts of a group become factors one after the other, so
that the number of a marker depends on the values of the parts before; the factors are collected
once, for the parts of a group and for the filters of a clause alike.
-/

namespace EntityQuery

open Text

/-- The pieces of conditions, each in the scope of its field. -/
def conditionPieces (entries : List (ColumnScope × Condition)) : Result (List Pieces) :=
  entries.mapM fun entry => entry.2.pieces entry.1

theorem conditionPieces_append_eq_ok {left right : List (ColumnScope × Condition)}
    {rendered : List Pieces} :
    conditionPieces (left ++ right) = .ok rendered ↔
      ∃ first second, conditionPieces left = .ok first ∧ conditionPieces right = .ok second ∧
        first ++ second = rendered := by
  unfold conditionPieces
  rw [List.mapM_append]
  simp only [Result.bind_eq_ok, Result.pure_eq_ok]
  constructor
  · rintro ⟨first, hfirst, second, hsecond, h⟩
    exact ⟨first, second, hfirst, hsecond, h⟩
  · rintro ⟨first, second, hfirst, hsecond, h⟩
    exact ⟨first, hfirst, second, hsecond, h⟩

theorem values_conditionPieces {entries : List (ColumnScope × Condition)}
    {rendered : List Pieces} (h : conditionPieces entries = .ok rendered) :
    rendered.flatMap Pieces.values = entries.flatMap fun entry => entry.2.boundValues := by
  rw [conditionPieces, Result.mapM_eq_ok] at h
  induction h with
  | nil => rfl
  | cons hentry _ ih =>
      rw [List.flatMap_cons, List.flatMap_cons, Condition.values_pieces hentry, ih]

/-! ### Parts that are rendered one after the other -/

section Parts

variable {ι : Type} {render : ι → Result Pieces} {entries : ι → List (ColumnScope × Condition)}
  {P : Excerpt → Prop} (meaning : ι → Formula Condition) (style : MarkerStyle)

theorem exists_excerpts {parts : List ι} {outputs rendered : List Pieces}
    (hvalues : ∀ part ∈ parts, ∀ output, render part = .ok output →
      output.values = (entries part).flatMap fun entry => entry.2.boundValues)
    (hexcerpt : ∀ part ∈ parts, ∀ output leaves index, render part = .ok output →
      conditionPieces (entries part) = .ok leaves →
        P ⟨output.sqlFrom style index, Pieces.textsFrom style index leaves, meaning part⟩)
    (houtputs : parts.mapM render = .ok outputs)
    (hrendered : conditionPieces (parts.flatMap entries) = .ok rendered) (index : Nat) :
    ∃ excerpts : List Excerpt, excerpts.length = parts.length ∧ (∀ excerpt ∈ excerpts, P excerpt) ∧
      ∀ combinator, Excerpt.joined combinator excerpts =
        ⟨(Pieces.separated combinator.sql outputs).sqlFrom style index,
          Pieces.textsFrom style index rendered, .combined combinator (parts.map meaning)⟩ := by
  suffices hlists : ∃ excerpts : List Excerpt, (∀ excerpt ∈ excerpts, P excerpt) ∧
      excerpts.map Excerpt.text = Pieces.textsFrom style index outputs ∧
      excerpts.flatMap Excerpt.conditions = Pieces.textsFrom style index rendered ∧
      excerpts.map Excerpt.meaning = parts.map meaning by
    obtain ⟨excerpts, hexcerpts, htexts, hconditions, hmeanings⟩ := hlists
    refine ⟨excerpts, ?_, hexcerpts, fun combinator => ?_⟩
    · have hlength := congrArg List.length hmeanings
      rwa [List.length_map, List.length_map] at hlength
    · rw [Excerpt.joined, htexts, hconditions, hmeanings, Pieces.sqlFrom_separated]
  rw [Result.mapM_eq_ok] at houtputs
  induction houtputs generalizing index rendered with
  | nil =>
      cases hrendered
      exact ⟨[], by simp, rfl, rfl, rfl⟩
  | @cons part output rest others houtput _ ih =>
      rw [List.flatMap_cons, conditionPieces_append_eq_ok] at hrendered
      obtain ⟨first, second, hfirst, hsecond, rfl⟩ := hrendered
      obtain ⟨hpartValues, hrestValues⟩ := List.forall_mem_cons.mp hvalues
      obtain ⟨hpart, hrest⟩ := List.forall_mem_cons.mp hexcerpt
      have hcount : output.values = first.flatMap Pieces.values := by
        rw [hpartValues output houtput, values_conditionPieces hfirst]
      obtain ⟨excerpts, hexcerpts, htexts, hconditions, hmeanings⟩ :=
        ih hrestValues hrest hsecond (index + output.values.length)
      refine ⟨_ :: excerpts, List.forall_mem_cons.mpr
        ⟨hpart output first index houtput hfirst, hexcerpts⟩, ?_, ?_, ?_⟩
      · rw [List.map_cons, htexts, Pieces.textsFrom]
      · rw [List.flatMap_cons, hconditions, Pieces.textsFrom_append, ← hcount]
      · rw [List.map_cons, List.map_cons, hmeanings]

end Parts

/-! ### Criteria -/

section Criteria

variable {scope : ColumnScope} (hscope : scope.IsPlain) (dialect : Dialect)

namespace Criteria

/-- The parts of a group are factors if each part in itself is one. -/
theorem exists_factors {parts : List Criteria} {outputs rendered : List Pieces}
    (hnormal : ∀ part ∈ parts, part.IsNormal)
    (hfactor : ∀ part ∈ parts, ∀ output leaves index, part.pieces scope true = .ok output →
      conditionPieces (part.conditions.map (Prod.mk scope)) = .ok leaves →
        Excerpt.IsFactor ⟨output.sqlFrom dialect.markerStyle index,
          Pieces.textsFrom dialect.markerStyle index leaves, part.meaning⟩)
    (houtputs : parts.mapM (pieces scope true) = .ok outputs)
    (hrendered : conditionPieces ((parts.flatMap conditions).map (Prod.mk scope)) = .ok rendered)
    (index : Nat) (combinator : Combinator) :
    ∃ factors : List Excerpt, factors.length = parts.length ∧
      (∀ factor ∈ factors, factor.IsFactor) ∧ Excerpt.joined combinator factors =
        ⟨(Pieces.separated combinator.sql outputs).sqlFrom dialect.markerStyle index,
          Pieces.textsFrom dialect.markerStyle index rendered,
          (group combinator parts).meaning⟩ := by
  have hvalues : ∀ part ∈ parts, ∀ output, part.pieces scope true = .ok output →
      output.values = (part.conditions.map (Prod.mk scope)).flatMap
        fun entry => entry.2.boundValues := by
    intro part _ output houtput
    rw [values_pieces houtput, List.flatMap_map]
  rw [List.map_flatMap] at hrendered
  obtain ⟨factors, hlength, hfactors, hjoined⟩ :=
    exists_excerpts meaning dialect.markerStyle hvalues hfactor houtputs hrendered index
  refine ⟨factors, hlength, hfactors, ?_⟩
  rw [hjoined, meaning, meanings_eq_map fun part hpart => (hnormal part hpart).isEmpty_eq_false]

include hscope

theorem isFactor_pieces {criteria : Criteria} (hnormal : criteria.IsNormal)
    (hfields : ∀ leaf ∈ criteria.conditions, Balanced leaf.field.toList) {output : Pieces}
    {leaves : List Pieces} (houtput : criteria.pieces scope true = .ok output)
    (hleaves : conditionPieces (criteria.conditions.map (Prod.mk scope)) = .ok leaves)
    (index : Nat) :
    Excerpt.IsFactor ⟨output.sqlFrom dialect.markerStyle index,
      Pieces.textsFrom dialect.markerStyle index leaves, criteria.meaning⟩ := by
  induction hnormal generalizing output leaves index with
  | condition leaf =>
      rw [pieces_condition] at houtput
      have hleaf : leaves = [output] := by
        rw [conditions_condition, List.map_singleton, conditionPieces, List.mapM_cons,
          houtput, List.mapM_nil] at hleaves
        exact (Except.ok.inj hleaves).symm
      rw [conditions_condition, List.forall_mem_singleton] at hfields
      rw [hleaf, meaning]
      exact Condition.isFactor hscope hfields houtput dialect index
  | group combinator parts hlength hparts ih =>
      obtain ⟨outputs, houtputs, rfl⟩ := pieces_group_eq_ok.mp houtput
      rw [conditions_group] at hfields hleaves
      obtain ⟨factors, hfactorsLength, hfactors, hjoined⟩ :=
        exists_factors dialect hparts
          (fun part hpart output leaves index houtput hleaves => ih part hpart
            (fun leaf hleaf => hfields leaf (List.mem_flatMap_of_mem hpart hleaf))
            houtput hleaves index)
          houtputs hleaves index combinator
      have hne : factors ≠ [] := by
        rintro rfl
        rw [List.length_nil] at hfactorsLength
        omega
      have hmany : (true && decide (1 < parts.length)) = true := by
        rw [Bool.true_and, decide_eq_true_eq]
        exact hlength
      have hfilter := Excerpt.isFilter_joined combinator hne hfactors
      rw [hjoined] at hfilter
      rw [if_pos hmany, Pieces.sqlFrom_enclosed]
      exact hfilter.enclosed

/-- A group that is not part of another one stands without parentheses. -/
theorem exists_factors_pieces {combinator : Combinator} {parts : List Criteria}
    (hnormal : (group combinator parts).IsNormal)
    (hfields : ∀ leaf ∈ (group combinator parts).conditions, Balanced leaf.field.toList)
    {output : Pieces} {leaves : List Pieces}
    (houtput : (group combinator parts).pieces scope false = .ok output)
    (hleaves : conditionPieces ((group combinator parts).conditions.map (Prod.mk scope)) =
      .ok leaves) (index : Nat) :
    ∃ factors : List Excerpt, factors ≠ [] ∧ (∀ factor ∈ factors, factor.IsFactor) ∧
      Excerpt.joined combinator factors = ⟨output.sqlFrom dialect.markerStyle index,
        Pieces.textsFrom dialect.markerStyle index leaves, (group combinator parts).meaning⟩ := by
  obtain ⟨outputs, houtputs, rfl⟩ := pieces_group_eq_ok.mp houtput
  rw [conditions_group] at hfields hleaves
  cases hnormal with
  | group _ _ hlength hparts =>
      obtain ⟨factors, hfactorsLength, hfactors, hjoined⟩ :=
        exists_factors dialect hparts
          (fun part hpart output leaves index houtput hleaves =>
            isFactor_pieces hscope dialect (hparts part hpart)
              (fun leaf hleaf => hfields leaf (List.mem_flatMap_of_mem hpart hleaf))
              houtput hleaves index)
          houtputs hleaves index combinator
      refine ⟨factors, ?_, hfactors, hjoined⟩
      rintro rfl
      rw [List.length_nil] at hfactorsLength
      omega

end Criteria

namespace ScopedFilter

variable {filter : ScopedFilter} {output : Pieces} {leaves : List Pieces}

/-- A filter of its own. -/
theorem isFilter_pieces (hscope : filter.scope.IsPlain) (hnormal : filter.criteria.IsNormal)
    (hfields : ∀ leaf ∈ filter.criteria.conditions, Balanced leaf.field.toList)
    (houtput : filter.pieces false = .ok output)
    (hleaves : conditionPieces filter.conditions = .ok leaves) (index : Nat) :
    Excerpt.IsFilter ⟨output.sqlFrom dialect.markerStyle index,
      Pieces.textsFrom dialect.markerStyle index leaves, filter.criteria.meaning⟩ := by
  obtain ⟨scope, criteria⟩ := filter
  rw [pieces, Result.bind_eq_ok] at houtput
  obtain ⟨inner, hinner, houtput⟩ := houtput
  obtain rfl : inner = output := Result.pure_eq_ok.mp houtput
  cases criteria with
  | condition leaf =>
      rw [Criteria.pieces_condition, ← Criteria.pieces_condition _ true] at hinner
      exact (Criteria.isFactor_pieces hscope dialect hnormal hfields hinner hleaves
        index).isConjunction.isFilter
  | group combinator parts =>
      obtain ⟨factors, hne, hfactors, hjoined⟩ :=
        Criteria.exists_factors_pieces hscope dialect hnormal hfields hinner hleaves index
      rw [← hjoined]
      exact Excerpt.isFilter_joined combinator hne hfactors

/-- A filter that is combined with others. -/
theorem isConjunction_pieces (hscope : filter.scope.IsPlain) (hnormal : filter.criteria.IsNormal)
    (hfields : ∀ leaf ∈ filter.criteria.conditions, Balanced leaf.field.toList)
    (houtput : filter.pieces true = .ok output)
    (hleaves : conditionPieces filter.conditions = .ok leaves) (index : Nat) :
    Excerpt.IsConjunction ⟨output.sqlFrom dialect.markerStyle index,
      Pieces.textsFrom dialect.markerStyle index leaves, filter.criteria.meaning⟩ := by
  obtain ⟨scope, criteria⟩ := filter
  rw [pieces, Result.bind_eq_ok] at houtput
  obtain ⟨inner, hinner, houtput⟩ := houtput
  have houtput := Result.pure_eq_ok.mp houtput
  cases criteria with
  | condition leaf =>
      obtain rfl : inner = output := houtput
      rw [Criteria.pieces_condition, ← Criteria.pieces_condition _ true] at hinner
      exact (Criteria.isFactor_pieces hscope dialect hnormal hfields hinner hleaves
        index).isConjunction
  | group combinator parts =>
      obtain ⟨factors, hne, hfactors, hjoined⟩ :=
        Criteria.exists_factors_pieces hscope dialect hnormal hfields hinner hleaves index
      cases combinator with
      | and =>
          obtain rfl : inner = output := houtput
          rw [← hjoined]
          exact ⟨factors, hne, hfactors, rfl, rfl, .refl _⟩
      | or =>
          obtain rfl : Pieces.enclosed inner = output := houtput
          have hfilter := Excerpt.isFilter_joined .or hne hfactors
          rw [hjoined] at hfilter
          rw [Pieces.sqlFrom_enclosed]
          exact hfilter.enclosed.isConjunction

end ScopedFilter

end Criteria

/-! ### Selections -/

/-- A selection from a plain table: no entity is behind the table, and the name that its columns are
qualified with is a single word, as every checked name is. -/
structure Selection.IsPlain (selection : Selection) : Prop where
  entity : selection.entity = none
  reference : ∀ c ∈ selection.table.reference.name.toList, c ≠ ' ' ∧ c ≠ '(' ∧ c ≠ ')'
  joins : ∀ join ∈ selection.query.joins.getD [], join.Built

namespace Selection

/-- The conjunction of the criteria of the selection and of all its joins. -/
def meaning (selection : Selection) : Formula Condition :=
  .all (Criteria.meanings selection.criteria)

theorem forall_mem_of_isIdentifier {name : String} (h : Name.IsIdentifier name) :
    ∀ c ∈ name.toList, c ≠ ' ' ∧ c ≠ '(' ∧ c ≠ ')' := by
  intro c hc
  have hpart := h.parts c hc
  refine ⟨?_, ?_, ?_⟩ <;>
  · rintro rfl
    revert hpart
    decide

theorem isPlain_ofTable {table : Table} (htable : table.Named) {query : Query}
    (hjoins : ∀ join ∈ query.joins.getD [], join.Built) :
    ((Selection.ofTable table).withQuery query).IsPlain := by
  obtain ⟨name, hname, hchecked⟩ := htable.reference
  refine ⟨rfl, ?_, hjoins⟩
  rw [withQuery, ofTable, hname]
  exact forall_mem_of_isIdentifier hchecked

theorem atoms_meaning (selection : Selection) :
    selection.meaning.atoms = selection.conditions := by
  have hatoms := Formula.atoms_combined .and (Criteria.meanings selection.criteria)
  rw [Criteria.flatMap_atoms_meanings fun criteria _ => criteria.atoms_meaning] at hatoms
  exact hatoms

variable {schema : Schema} {dialect : Dialect} {selection : Selection}

theorem isPlain_scope (hplain : selection.IsPlain) :
    (selection.scope schema dialect.nameStyle).IsPlain := by
  refine ⟨hplain.entity, fun c hc => ?_⟩
  refine ⟨?_, ?_, ?_⟩ <;>
  · rintro rfl
    have hmem := Dialect.mem_of_mem_sql (by decide) (by decide) (by decide) hc
    exact absurd (hplain.reference _ hmem) (by decide)

theorem isPlain_joinScope {join : Join} (hjoin : join.Built) (style : NameStyle) :
    (join.scope schema style).IsPlain :=
  ⟨rfl, forall_mem_of_isIdentifier hjoin.checked.reference⟩

theorem isPlain_scope_of_mem_filters (hplain : selection.IsPlain) {filter : ScopedFilter}
    (h : filter ∈ selection.filters schema dialect.nameStyle) : filter.scope.IsPlain := by
  rcases scope_of_mem_filters h with hscope | ⟨join, hjoin, hscope⟩
  · rw [hscope]
    exact isPlain_scope hplain
  · rw [hscope]
    exact isPlain_joinScope (hplain.joins join hjoin) dialect.nameStyle

theorem isNormal_of_mem_filters {style : NameStyle} {filter : ScopedFilter}
    (h : filter ∈ selection.filters schema style) : filter.criteria.IsNormal := by
  rw [filters_eq] at h
  obtain ⟨source, -, hsimple⟩ := List.mem_filterMap.mp h
  obtain ⟨criteria, hcriteria, rfl⟩ := Option.map_eq_some_iff.mp hsimple
  exact Criteria.isNormal_simplify? hcriteria

theorem mem_conditions_of_mem_filters {style : NameStyle} {filter : ScopedFilter}
    (h : filter ∈ selection.filters schema style) {leaf : Condition}
    (hleaf : leaf ∈ filter.criteria.conditions) : leaf ∈ selection.conditions := by
  have hentry : (filter.scope, leaf) ∈ selection.scopedConditions schema style := by
    rw [← flatMap_conditions_filters]
    exact List.mem_flatMap.mpr ⟨filter, h, List.mem_map_of_mem hleaf⟩
  exact (mem_scopedConditions hentry).1

theorem map_criteria_filters (schema : Schema) (style : NameStyle) (selection : Selection) :
    (selection.filters schema style).map ScopedFilter.criteria =
      selection.criteria.filterMap Criteria.simplify? := by
  rw [filters_eq, ← map_criteria_sources schema style, List.map_filterMap, List.filterMap_map]
  refine List.filterMap_congr fun filter _ => ?_
  rw [ScopedFilter.simplify?, Option.map_map]
  exact Option.map_id'

theorem meaning_filters_agrees (schema : Schema) (style : NameStyle) (selection : Selection) :
    (Formula.combined .and ((selection.filters schema style).map fun filter =>
      filter.criteria.meaning)).Agrees selection.meaning := by
  have hmeanings : ((selection.filters schema style).map fun filter => filter.criteria.meaning) =
      (selection.criteria.filterMap Criteria.simplify?).map Criteria.meaning := by
    rw [← map_criteria_filters schema style, List.map_map]
    rfl
  rw [hmeanings]
  exact .combined .and (Criteria.meanings_agree fun _ _ _ hsimple =>
    Criteria.meaning_simplify?_agrees hsimple)

/-- The text behind the keyword is a filter that means the criteria. -/
theorem isFilter_wherePieces (hplain : selection.IsPlain)
    (hfields : ∀ leaf ∈ selection.conditions, Balanced leaf.field.toList) {rendered : List Pieces}
    (hrendered : conditionPieces (selection.scopedConditions schema dialect.nameStyle) =
      .ok rendered) {outputs : List Pieces}
    (hne : selection.filters schema dialect.nameStyle ≠ [])
    (houtputs : (selection.filters schema dialect.nameStyle).mapM (ScopedFilter.pieces
      (1 < (selection.filters schema dialect.nameStyle).length)) = .ok outputs) :
    Excerpt.IsFilter ⟨(Pieces.separated " AND " outputs).sqlFrom dialect.markerStyle 0,
      Pieces.textsFrom dialect.markerStyle 0 rendered, selection.meaning⟩ := by
  have hagrees := meaning_filters_agrees schema dialect.nameStyle selection
  have hscope : ∀ filter ∈ selection.filters schema dialect.nameStyle, filter.scope.IsPlain :=
    fun filter => isPlain_scope_of_mem_filters hplain
  have hnormal : ∀ filter ∈ selection.filters schema dialect.nameStyle,
      filter.criteria.IsNormal := fun filter => isNormal_of_mem_filters
  have hleaves : ∀ filter ∈ selection.filters schema dialect.nameStyle,
      ∀ leaf ∈ filter.criteria.conditions, Balanced leaf.field.toList :=
    fun filter hfilter leaf hleaf =>
      hfields leaf (mem_conditions_of_mem_filters hfilter hleaf)
  rw [← flatMap_conditions_filters] at hrendered
  generalize selection.filters schema dialect.nameStyle = filters at *
  rcases filters with _ | ⟨filter, _ | ⟨next, rest⟩⟩
  · exact absurd rfl hne
  · rw [List.flatMap_singleton] at hrendered
    obtain ⟨output, houtput, rfl⟩ : ∃ output, filter.pieces false = .ok output ∧
        [output] = outputs := by
      rw [List.mapM_cons, List.mapM_nil, Result.bind_eq_ok] at houtputs
      obtain ⟨output, houtput, houtputs⟩ := houtputs
      exact ⟨output, houtput, Result.pure_eq_ok.mp houtputs⟩
    rw [List.map_singleton] at hagrees
    exact (ScopedFilter.isFilter_pieces dialect (hscope filter List.mem_cons_self)
      (hnormal filter List.mem_cons_self) (hleaves filter List.mem_cons_self) houtput hrendered
      0).of_agrees ((Formula.combined_singleton_agrees .and _).symm.trans hagrees)
  · have hmany : decide (1 < (filter :: next :: rest).length) = true := by simp
    rw [hmany] at houtputs
    obtain ⟨excerpts, hlength, hconjunctions, hjoined⟩ :=
      exists_excerpts (P := Excerpt.IsConjunction) (fun filter => filter.criteria.meaning)
        dialect.markerStyle
        (fun filter _ output houtput => ScopedFilter.values_pieces houtput)
        (fun filter hfilter output leaves index houtput hleaf =>
          ScopedFilter.isConjunction_pieces dialect (hscope filter hfilter)
            (hnormal filter hfilter) (hleaves filter hfilter) houtput hleaf index)
        houtputs hrendered 0
    have hnonempty : excerpts ≠ [] := by
      rintro rfl
      cases hlength
    have hfilter := (Excerpt.isConjunction_joined hnonempty hconjunctions).isFilter
    rw [hjoined] at hfilter
    exact hfilter.of_agrees hagrees

end Selection

/-- In the text of a statement the filter stands between what comes before and what comes behind.
There is none exactly if there is no condition; else its atoms are the rendered conditions in their
order, and it is as true as the criteria, whatever the truth values of the conditions are. -/
theorem Renderer.read_where_agrees {renderer : Renderer} {kind : StatementKind}
    {selection : Selection} {statement : Statement}
    (hrender : renderer.render kind selection = .ok statement) (hplain : selection.IsPlain)
    (hfields : ∀ leaf ∈ selection.conditions, Text.Balanced leaf.field.toList) :
    ∃ opening clause ending rendered, renderer.opening selection kind = .ok opening ∧
      renderer.ending selection kind = .ok ending ∧
      statement.sql = opening ++ clause ++ ending ∧
      conditionPieces (selection.scopedConditions renderer.schema renderer.dialect.nameStyle) =
        .ok rendered ∧
      (selection.scopedConditions renderer.schema renderer.dialect.nameStyle).map Prod.snd =
        selection.meaning.atoms ∧
      (clause = "" ↔ selection.conditions = []) ∧
      (selection.conditions ≠ [] → ∃ body, clause = " WHERE " ++ body ∧
        (Formula.read body).atoms =
          Pieces.textsFrom renderer.dialect.markerStyle 0 rendered ∧
        ∀ (τ : Type) [Lattice τ] [BoundedOrder τ] (assigned : Nat → τ),
          (Formula.read body).truth assigned 0 = selection.meaning.truth assigned 0) := by
  obtain ⟨opening, filter, ending, hopening, hfilter, hending, rfl⟩ := render_eq_ok.mp hrender
  obtain ⟨rendered, hrendered⟩ : Result.Succeeds (conditionPieces
      (selection.scopedConditions renderer.schema renderer.dialect.nameStyle)) :=
    Result.succeeds_mapM.mpr (Selection.succeeds_wherePieces_iff.mp ⟨filter, hfilter⟩)
  refine ⟨opening, filter.sqlFrom renderer.dialect.markerStyle 0, ending, rendered, hopening,
    hending, sql_finish renderer opening ending filter, hrendered, ?_, ?_⟩
  · rw [Selection.map_snd_scopedConditions, Selection.atoms_meaning]
  have hempty := selection.filters_eq_nil_iff renderer.schema renderer.dialect.nameStyle
  rcases Selection.wherePieces_eq_ok.mp hfilter with ⟨hnil, rfl⟩ | ⟨hne, outputs, houtputs, rfl⟩
  · exact ⟨iff_of_true rfl (hempty.mp hnil), fun hne => absurd (hempty.mp hnil) hne⟩
  · have hread := (Selection.isFilter_wherePieces hplain hfields hrendered hne houtputs).read
    refine ⟨iff_of_false ?_ (hempty.not.mp hne), fun _ => ⟨_, rfl, hread.atoms_eq, ?_⟩⟩
    · rw [Pieces.sqlFrom, String.append_eq_empty_iff]
      exact fun hboth => absurd hboth.1 (by decide)
    · intro τ _ _ assigned
      exact hread.agrees.truth_eq τ assigned 0

set_option maxRecDepth 4096 in
/-- Alternatives of the selection and of a join, with a nested group and a group that is empty. -/
theorem Renderer.read_where_of_joined_alternatives :
    let renderer := Renderer.mk .postgres (.empty .standard)
    let criteria := Criteria.group .or [
      .group .and [.compare .gt "age" (.integer 6), .group .or []],
      .group .and [.compare .eq "name" .null, .compare .ne "city" (.text "B")]]
    let join := (Join.mk .cross "orders" none .absent none).withCriteria
      (.group .or [.compare .eq "paid" (.boolean true), .condition (.test .isTrue "free")])
    let selection := (Selection.ofTable ⟨.plain "users", none⟩).withQuery
      ((Query.ofCriteria criteria).joining [join])
    let body := "(users.age > $1 OR (users.name IS NULL AND users.city != $2)) AND " ++
      "(orders.paid = $3 OR orders.free IS TRUE)"
    let statement := Statement.mk ("SELECT users.* FROM users CROSS JOIN orders WHERE " ++ body)
      [⟨0, "$1", .integer 6⟩, ⟨1, "$2", .text "B"⟩, ⟨2, "$3", .boolean true⟩]
    renderer.render .select selection = .ok statement ∧ selection.IsPlain ∧
      (∀ leaf ∈ selection.conditions, Text.Balanced leaf.field.toList) ∧
      ∀ assigned : Nat → Bool,
        (Formula.read body).truth assigned 0 = selection.meaning.truth assigned 0 := by
  intro renderer criteria join selection body statement
  have hrender : renderer.render .select selection = .ok statement := by
    rw [render, select_eq]
    rfl
  have hjoins : ∀ other ∈ [join], other.Built :=
    List.forall_mem_singleton.mpr
      (.withCriteria (.cross (show Join.cross? "orders" = .ok _ from rfl)) _)
  have hplain : selection.IsPlain :=
    Selection.isPlain_ofTable (.ofName (show Table.ofName? "users" = .ok _ from rfl)) hjoins
  have hfields : ∀ leaf ∈ selection.conditions, Text.Balanced leaf.field.toList := by
    have hnames : ∀ name ∈ selection.conditions.map Condition.field,
        Text.Balanced name.toList := by decide
    exact fun leaf hleaf => hnames leaf.field (List.mem_map_of_mem hleaf)
  refine ⟨hrender, hplain, hfields, fun assigned => ?_⟩
  obtain ⟨opening, clause, ending, _, hopening, hending, hsql, -, -, -, hbody⟩ :=
    read_where_agrees hrender hplain hfields
  obtain ⟨read, rfl, -, htruth⟩ := hbody (by decide)
  have hopening' : renderer.opening selection .select =
      .ok "SELECT users.* FROM users CROSS JOIN orders" := rfl
  have hending' : renderer.ending selection .select = .ok "" := rfl
  obtain rfl := Except.ok.inj (hopening'.symm.trans hopening)
  obtain rfl := Except.ok.inj (hending'.symm.trans hending)
  have hread : body = read := by
    have htext : "SELECT users.* FROM users CROSS JOIN orders WHERE " =
        "SELECT users.* FROM users CROSS JOIN orders" ++ " WHERE " := by decide
    rw [String.append_empty, ← String.append_assoc, ← htext] at hsql
    exact (String.append_right_inj _).mp hsql
  rw [hread]
  exact htruth Bool assigned

end EntityQuery
