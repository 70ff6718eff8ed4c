import EntityQuery.Proofs.Path.Reach
import EntityQuery.Proofs.Statement.Parting
import EntityQuery.Proofs.Statement.Spelling
import EntityQuery.Proofs.Statement.Success
import EntityQuery.Proofs.Text.Casing

/-!
# Markers and bindings agree

A statement is run by handing over its bound values in order, so each marker in the text has to be
the one of the value at its place.  The text is read from left to right here, without knowledge of
how it was made, and what is found are the markers of the bindings.
-/

namespace EntityQuery

namespace Dialect

/-- The character that a marker starts with. -/
def markerLead : Dialect → Char
  | .postgres => '$'
  | .mysql => '?'
  | .sqlserver => '@'

/-- The marker of the value at a position. -/
def markerAt : Dialect → Nat → String
  | .postgres, index => "$" ++ toString (index + 1)
  | .mysql, _ => "?"
  | .sqlserver, index => "@P" ++ toString index

/-- Whether a marker goes on with this character.  An anonymous marker is a single character. -/
def continuesMarker : Dialect → Char → Bool
  | .mysql, _ => false
  | .postgres, c | .sqlserver, c => Name.isPart c

/-- The markers in a text, from left to right: wherever one starts, it is read as far as it goes
on. -/
def placeholders (dialect : Dialect) : List Char → List String
  | [] => []
  | c :: rest =>
      if c = dialect.markerLead then
        String.ofList (c :: rest.takeWhile dialect.continuesMarker) :: dialect.placeholders rest
      else dialect.placeholders rest

theorem marker_markerStyle (dialect : Dialect) (index : Nat) :
    dialect.markerStyle.marker index = dialect.markerAt index := by
  cases dialect with
  | postgres => rw [markerStyle, MarkerStyle.marker, markerAt, Nat.add_comm]
  | mysql => rfl
  | sqlserver => rw [markerStyle, MarkerStyle.marker, markerAt, Nat.zero_add]

theorem isSyntax_ne_markerLead (dialect : Dialect) (c : Char) (h : Name.isSyntax c = true) :
    c ≠ dialect.markerLead := by
  rintro rfl
  cases dialect <;> revert h <;> decide

/-- A marker is its lead and characters that it goes on with. -/
theorem exists_toList_markerAt (dialect : Dialect) (index : Nat) :
    ∃ tail, (dialect.markerAt index).toList = dialect.markerLead :: tail ∧
      (∀ c ∈ tail, dialect.continuesMarker c = true) ∧ dialect.markerLead ∉ tail := by
  have hdigits : ∀ n : Nat, ∀ c ∈ (toString n).toList, Name.isPart c = true := fun _ _ =>
    Text.isPart_of_mem_toString
  cases dialect with
  | postgres =>
      refine ⟨(toString (index + 1)).toList, ?_, hdigits _, ?_⟩
      · rw [markerAt, String.toList_append]
        rfl
      · intro hlead
        exact absurd (hdigits _ _ hlead) (by decide)
  | mysql => exact ⟨[], by rw [markerAt]; decide, by simp, by simp⟩
  | sqlserver =>
      refine ⟨'P' :: (toString index).toList, ?_, ?_, ?_⟩
      · rw [markerAt, String.toList_append]
        rfl
      · exact List.forall_mem_cons.mpr ⟨by decide, hdigits _⟩
      · intro hlead
        rcases List.mem_cons.mp hlead with hlead | hlead
        · exact absurd hlead (by decide)
        · exact absurd (hdigits _ _ hlead) (by decide)

/-! ### Reading -/

variable (dialect : Dialect)

theorem placeholders_append_of_notMem {text rest : List Char} (h : dialect.markerLead ∉ text) :
    dialect.placeholders (text ++ rest) = dialect.placeholders rest := by
  induction text with
  | nil => rfl
  | cons c text ih =>
      rw [List.mem_cons, not_or] at h
      rw [List.cons_append, placeholders, if_neg (Ne.symm h.1), ih h.2]

theorem takeWhile_continuesMarker_append {tail rest : List Char}
    (htail : ∀ c ∈ tail, dialect.continuesMarker c = true)
    (hrest : ∀ c ∈ rest.head?, Name.isPart c = false) :
    (tail ++ rest).takeWhile dialect.continuesMarker = tail := by
  rw [List.takeWhile_append_of_pos htail]
  cases rest with
  | nil => rw [List.takeWhile_nil, List.append_nil]
  | cons c rest =>
      have hstop : dialect.continuesMarker c = false := by
        have hpart := hrest c rfl
        cases dialect <;> first | exact hpart | rfl
      rw [List.takeWhile_cons_of_neg (by simp [hstop]), List.append_nil]

theorem placeholders_marker_append (index : Nat) {rest : String} (hrest : Text.OpensApart rest) :
    dialect.placeholders (dialect.markerAt index ++ rest).toList =
      dialect.markerAt index :: dialect.placeholders rest.toList := by
  obtain ⟨tail, htail, hgoes, hlead⟩ := dialect.exists_toList_markerAt index
  rw [String.toList_append, htail, List.cons_append, placeholders, if_pos rfl,
    takeWhile_continuesMarker_append dialect hgoes hrest, ← htail, String.ofList_toList,
    placeholders_append_of_notMem dialect hlead]

theorem placeholders_sqlFrom {pieces : Pieces} (hspelled : pieces.Spelled (· ≠ dialect.markerLead))
    (hparted : pieces.Parted dialect.markerStyle) (index : Nat) :
    dialect.placeholders (pieces.sqlFrom dialect.markerStyle index).toList =
      (pieces.bindingsFrom dialect.markerStyle index).map Binding.marker := by
  induction pieces generalizing index with
  | nil => rfl
  | cons piece rest ih =>
      cases piece with
      | text content =>
          obtain ⟨hcontent, hrest⟩ := Pieces.spelled_text_cons.mp hspelled
          have hlead : dialect.markerLead ∉ content.toList := fun hmem => hcontent _ hmem rfl
          rw [Pieces.sqlFrom, String.toList_append, placeholders_append_of_notMem dialect hlead,
            Pieces.bindingsFrom, ih hrest hparted]
      | value content =>
          have hrest := Pieces.spelled_value_cons.mp hspelled
          rw [Pieces.sqlFrom, marker_markerStyle,
            placeholders_marker_append dialect index (hparted.1 (index + 1)), Pieces.bindingsFrom,
            List.map_cons, ih hrest hparted.2, marker_markerStyle]

theorem consists_sql {identifier : Identifier} (h : dialect.markerLead ∉ identifier.name.toList) :
    Text.Consists (· ≠ dialect.markerLead) (identifier.sql dialect.nameStyle) := by
  rintro c hc rfl
  refine h (mem_of_mem_sql ?_ ?_ ?_ hc) <;> cases dialect <;> decide

end Dialect

/-! ### The names that no check restricts -/

/-- The character is in no name that gets into a statement unchecked: neither in those of the table
and of the projection, nor in a column or a lead of the entities that can be reached.  Joins are
built by their constructors, which check names. -/
structure Selection.Omits (c : Char) (schema : Schema) (selection : Selection) : Prop where
  table : c ∉ selection.table.name.name.toList
  aliasName : ∀ identifier, selection.table.aliasName = some identifier →
    c ∉ identifier.name.toList
  projection : ∀ column ∈ selection.query.columns, c ∉ column.name.toList
  columns : ∀ root entity, selection.entity = some root → schema.Reaches root entity →
    ∀ property ∈ entity.properties, c ∉ property.column.name.toList
  leads : ∀ root entity, selection.entity = some root → schema.Reaches root entity →
    ∀ property ∈ entity.properties, ∀ lead, property.shape.lead? = some lead → c ∉ lead.toList
  joins : ∀ join ∈ selection.query.joins.getD [], join.Built

theorem Selection.Omits.notMem_columnName {c : Char} {schema : Schema} {selection : Selection}
    (h : selection.Omits c schema) {root : Entity} (hroot : selection.entity = some root)
    {name : String} {path : Path} {column : Identifier}
    (hpath : schema.resolve root name = .ok path) (hcolumn : path.columnName = .ok column) :
    c ∉ column.name.toList := by
  intro hc
  obtain ⟨segment, hsegment, hfound⟩ := Path.mem_columnName hcolumn hc
  obtain ⟨hreached, hproperty⟩ := Schema.resolve_reaches hpath segment hsegment
  rcases hfound with hname | ⟨lead, hlead, hc⟩
  · exact h.columns root _ hroot hreached _ hproperty hname
  · exact h.leads root _ hroot hreached _ hproperty lead hlead hc

theorem Selection.Omits.spelled {dialect : Dialect} {schema : Schema} {selection : Selection}
    (h : selection.Omits dialect.markerLead schema) :
    selection.Spelled (· ≠ dialect.markerLead) schema dialect.nameStyle where
  table := by
    unfold Table.sql
    cases halias : selection.table.aliasName with
    | none => exact dialect.consists_sql h.table
    | some identifier =>
        rw [Text.consists_append, Text.consists_append]
        exact ⟨⟨dialect.consists_sql h.table,
          Text.consists_of_isSyntax dialect.isSyntax_ne_markerLead (by decide)⟩,
          dialect.consists_sql (h.aliasName identifier halias)⟩
  scope := by
    refine ⟨dialect.consists_sql ?_, ?_⟩
    · unfold Table.reference
      cases halias : selection.table.aliasName with
      | none => exact h.table
      | some identifier => exact h.aliasName identifier halias
    · intro root hroot name path column hpath hcolumn
      exact dialect.consists_sql (h.notMem_columnName hroot hpath hcolumn)
  projection := fun column hcolumn => dialect.consists_sql (h.projection column hcolumn)
  identifier := by
    intro property hproperty
    obtain ⟨root, hroot, hproperty⟩ := Option.bind_eq_some_iff.mp hproperty
    obtain ⟨index, -, hproperty⟩ := Option.bind_eq_some_iff.mp hproperty
    exact dialect.consists_sql
      (h.columns root root hroot .root property (List.mem_of_getElem? hproperty))
  joins := fun join hjoin => (h.joins join hjoin).checked

/-! ### Whole statements -/

theorem Renderer.values_of_render {renderer : Renderer} {kind : StatementKind}
    {selection : Selection} {statement : Statement}
    (hrender : renderer.render kind selection = .ok statement) :
    statement.values = selection.boundValues := by
  obtain ⟨opening, filter, ending, -, hfilter, -, rfl⟩ := render_eq_ok.mp hrender
  rw [← Selection.values_wherePieces hfilter, Statement.values, bindings_finish]
  exact Pieces.values_toStatement _ filter

end EntityQuery
