import EntityQuery.Proofs.Result
import EntityQuery.Query

/-!
# Names that passed a check

What the two checks of names accept, and what follows for the parts of a query that check names
when they are built: a join holds accepted names only, and so do the columns to group by and a table
that is named in a query.
-/

namespace EntityQuery

namespace Name

/-- What `checkName` accepts. -/
structure IsIdentifier (name : String) : Prop where
  ne_empty : name ≠ ""
  size_le : name.utf8ByteSize ≤ maxLength
  start : name.toList.head?.any isStart = true
  parts : ∀ c ∈ name.toList, isPart c = true

/-- What `checkExpression` accepts. -/
structure IsExpression (name : String) : Prop where
  ne_empty : name ≠ ""
  parts : ∀ c ∈ name.toList, isExpressionPart c = true

theorem isExpressionPart_of_isPart {c : Char} (h : isPart c = true) :
    isExpressionPart c = true := by
  simp only [isExpressionPart, h, Bool.true_or]

theorem IsIdentifier.isExpression {name : String} (h : IsIdentifier name) : IsExpression name :=
  ⟨h.ne_empty, fun c hc => isExpressionPart_of_isPart (h.parts c hc)⟩

end Name

open Name

theorem checkExpression_eq_ok_iff {context name : String} :
    checkExpression context name = .ok () ↔ IsExpression name := by
  unfold checkExpression Name.checkExpression
  by_cases hempty : name = ""
  · rw [if_pos hempty]
    constructor
    · intro hok
      cases hok
    · intro hname
      exact absurd hempty hname.ne_empty
  · rw [if_neg hempty]
    by_cases hparts : name.toList.all isExpressionPart = true
    · rw [hparts]
      constructor
      · intro _
        exact ⟨hempty, List.all_eq_true.mp hparts⟩
      · intro _
        rfl
    · rw [Bool.not_eq_true] at hparts
      rw [hparts]
      constructor
      · intro hok
        cases hok
      · intro hname
        rw [List.all_eq_true.mpr hname.parts] at hparts
        cases hparts

theorem Name.checkIdentifier_eq_ok_iff {name : String} :
    checkIdentifier name = .ok () ↔ IsIdentifier name := by
  unfold checkIdentifier
  constructor
  · intro hok
    by_cases hempty : name = ""
    · rw [if_pos hempty] at hok
      cases hok
    rw [if_neg hempty] at hok
    by_cases hlong : maxLength < name.utf8ByteSize
    · rw [if_pos hlong] at hok
      cases hok
    rw [if_neg hlong] at hok
    cases hstart : name.toList.head?.any isStart with
    | false =>
        rw [hstart] at hok
        cases hok
    | true =>
        rw [hstart] at hok
        cases hparts : name.toList.all isPart with
        | false =>
            rw [hparts] at hok
            cases hok
        | true => exact ⟨hempty, Nat.not_lt.mp hlong, hstart, List.all_eq_true.mp hparts⟩
  · intro hname
    rw [if_neg hname.ne_empty, if_neg (Nat.not_lt.mpr hname.size_le), hname.start,
      List.all_eq_true.mpr hname.parts]
    rfl

theorem checkName_eq_ok_iff {name : String} : checkName name = .ok () ↔ IsIdentifier name :=
  Result.mapError_eq_ok.trans checkIdentifier_eq_ok_iff

/-! ### Joins -/

/-- The joins that can be built: by one of the three constructors, and extended by further
equalities, aliases and filters. -/
inductive Join.Built : Join → Prop
  | on {kind : JoinKind} {table left right : String} {join : Join}
      (hjoin : Join.on? kind table left right = .ok join) : Built join
  | shared {kind : JoinKind} {table : String} {columns : List String} {join : Join}
      (hjoin : Join.using? kind table columns = .ok join) : Built join
  | cross {table : String} {join : Join} (hjoin : Join.cross? table = .ok join) : Built join
  | andOn {join extended : Join} {left right : String} (hbuilt : Built join)
      (hjoin : join.andOn? left right = .ok extended) : Built extended
  | withAlias {join aliased : Join} {name : String} (hbuilt : Built join)
      (hjoin : join.withAlias? name = .ok aliased) : Built aliased
  | withCriteria {join : Join} (hbuilt : Built join) (criteria : Criteria) :
      Built (join.withCriteria criteria)

def JoinCondition.Checked : JoinCondition → Prop
  | .on pairs => pairs ≠ [] ∧ ∀ pair ∈ pairs, IsExpression pair.1 ∧ IsExpression pair.2
  | .shared columns => columns ≠ [] ∧ ∀ column ∈ columns, IsIdentifier column
  | .absent => True

structure Join.Checked (join : Join) : Prop where
  table : IsIdentifier join.table
  aliasName : ∀ name, join.aliasName = some name → IsIdentifier name
  condition : join.condition.Checked

theorem checkPair_eq_ok_iff {left right : String} :
    Join.checkPair left right = .ok () ↔ IsExpression left ∧ IsExpression right := by
  unfold Join.checkPair
  rw [Result.bind_eq_ok, ← checkExpression_eq_ok_iff, ← checkExpression_eq_ok_iff]
  constructor
  · rintro ⟨_, hleft, hright⟩
    exact ⟨hleft, hright⟩
  · rintro ⟨hleft, hright⟩
    exact ⟨(), hleft, hright⟩

theorem checkNames_eq_ok_iff {names : List String} :
    Join.checkNames names = .ok () ↔ ∀ name ∈ names, IsIdentifier name := by
  induction names with
  | nil => simp [Join.checkNames]
  | cons name rest ih =>
      rw [Join.checkNames, Result.bind_eq_ok, List.forall_mem_cons, ← ih, ← checkName_eq_ok_iff]
      constructor
      · rintro ⟨_, hname, hrest⟩
        exact ⟨hname, hrest⟩
      · rintro ⟨hname, hrest⟩
        exact ⟨(), hname, hrest⟩

theorem Join.Built.checked {join : Join} (h : join.Built) : join.Checked := by
  induction h with
  | on hjoin =>
      simp only [Join.on?, Result.bind_eq_ok, Result.pure_eq_ok] at hjoin
      obtain ⟨_, htable, _, hpair, rfl⟩ := hjoin
      refine ⟨checkName_eq_ok_iff.mp htable, by simp, by simp, ?_⟩
      intro pair hmem
      rw [List.mem_singleton.mp hmem]
      exact checkPair_eq_ok_iff.mp hpair
  | @shared kind table columns join hjoin =>
      simp only [Join.using?, Result.bind_eq_ok] at hjoin
      obtain ⟨_, htable, hjoin⟩ := hjoin
      by_cases hempty : columns.isEmpty = true
      · rw [if_pos hempty] at hjoin
        cases hjoin
      · rw [if_neg hempty] at hjoin
        simp only [Result.bind_eq_ok, Result.pure_eq_ok] at hjoin
        obtain ⟨_, hcolumns, rfl⟩ := hjoin
        refine ⟨checkName_eq_ok_iff.mp htable, by simp, ?_, checkNames_eq_ok_iff.mp hcolumns⟩
        exact fun hnil => hempty (List.isEmpty_iff.mpr hnil)
  | cross hjoin =>
      simp only [Join.cross?, Result.bind_eq_ok, Result.pure_eq_ok] at hjoin
      obtain ⟨_, htable, rfl⟩ := hjoin
      exact ⟨checkName_eq_ok_iff.mp htable, by simp, trivial⟩
  | @andOn join extended left right _ hjoin ih =>
      simp only [Join.andOn?, Result.bind_eq_ok] at hjoin
      obtain ⟨_, hpair, hjoin⟩ := hjoin
      cases hcondition : join.condition with
      | on pairs =>
          rw [hcondition] at hjoin
          rw [← Result.pure_eq_ok.mp hjoin]
          refine ⟨ih.table, ih.aliasName, by simp, ?_⟩
          have hpairs := ih.condition
          rw [hcondition] at hpairs
          intro pair hmem
          rcases List.mem_append.mp hmem with hold | hnew
          · exact hpairs.2 pair hold
          · rw [List.mem_singleton.mp hnew]
            exact checkPair_eq_ok_iff.mp hpair
      | shared columns =>
          rw [hcondition] at hjoin
          cases hjoin
      | absent =>
          rw [hcondition] at hjoin
          cases hjoin
  | withAlias _ hjoin ih =>
      simp only [Join.withAlias?, Result.bind_eq_ok, Result.pure_eq_ok] at hjoin
      obtain ⟨_, hname, rfl⟩ := hjoin
      refine ⟨ih.table, ?_, ih.condition⟩
      intro name hsome
      rw [← Option.some.inj hsome]
      exact checkName_eq_ok_iff.mp hname
  | withCriteria _ criteria ih => exact ⟨ih.table, ih.aliasName, ih.condition⟩

theorem Join.Checked.reference {join : Join} (h : join.Checked) : IsIdentifier join.reference := by
  unfold Join.reference
  cases halias : join.aliasName with
  | none => exact h.table
  | some name => exact h.aliasName name halias

/-! ### Columns to group by -/

/-- The groups that can be built: none, those of a list of columns, and groups with a further
column. -/
inductive Groups.Built : Groups → Prop
  | empty : Built .empty
  | of {columns : List String} {groups : Groups} (hgroups : Groups.of? columns = .ok groups) :
      Built groups
  | and {groups extended : Groups} {column : String} (hbuilt : Built groups)
      (hgroups : groups.and? column = .ok extended) : Built extended

def Groups.Checked (groups : Groups) : Prop :=
  ∀ column ∈ groups.columns, IsExpression column

theorem Groups.Checked.and {groups extended : Groups} {column : String} (h : groups.Checked)
    (hextended : groups.and? column = .ok extended) : extended.Checked := by
  simp only [Groups.and?, Result.bind_eq_ok, Result.pure_eq_ok] at hextended
  obtain ⟨_, hcolumn, rfl⟩ := hextended
  intro other hother
  rcases List.mem_append.mp hother with hold | hnew
  · exact h other hold
  · rw [List.mem_singleton.mp hnew]
    exact checkExpression_eq_ok_iff.mp hcolumn

theorem Groups.Checked.foldlM {columns : List String} {groups extended : Groups}
    (h : groups.Checked) (hextended : columns.foldlM Groups.and? groups = .ok extended) :
    extended.Checked := by
  induction columns generalizing groups with
  | nil => rwa [← Result.pure_eq_ok.mp hextended]
  | cons column columns ih =>
      rw [List.foldlM_cons, Result.bind_eq_ok] at hextended
      obtain ⟨next, hnext, hrest⟩ := hextended
      exact ih (h.and hnext) hrest

theorem Groups.Built.checked {groups : Groups} (h : groups.Built) : groups.Checked := by
  have hempty : Groups.empty.Checked := fun _ hcolumn => absurd hcolumn List.not_mem_nil
  induction h with
  | empty => exact hempty
  | of hgroups => exact hempty.foldlM hgroups
  | and _ hgroups ih => exact ih.and hgroups

/-! ### Tables that are named in a query -/

/-- The tables that a query can name itself: by a checked name, and then by checked aliases. -/
inductive Table.Named : Table → Prop
  | ofName {name : String} {table : Table} (htable : Table.ofName? name = .ok table) : Named table
  | withAlias {table aliased : Table} {name : String} (hnamed : Named table)
      (htable : table.withAlias? name = .ok aliased) : Named aliased

theorem Table.Named.checked {table : Table} (h : table.Named) :
    ∃ name, table.name = .plain name ∧ IsIdentifier name ∧
      ∀ identifier, table.aliasName = some identifier →
        ∃ other, identifier = .plain other ∧ IsIdentifier other := by
  induction h with
  | ofName htable =>
      simp only [Table.ofName?, Result.bind_eq_ok, Result.pure_eq_ok] at htable
      obtain ⟨_, hname, rfl⟩ := htable
      exact ⟨_, rfl, checkName_eq_ok_iff.mp hname, by simp [Table.ofIdentifier]⟩
  | withAlias _ htable ih =>
      simp only [Table.withAlias?, Result.bind_eq_ok, Result.pure_eq_ok] at htable
      obtain ⟨_, halias, rfl⟩ := htable
      obtain ⟨name, hname, hchecked, -⟩ := ih
      refine ⟨name, hname, hchecked, ?_⟩
      intro identifier hsome
      exact ⟨_, (Option.some.inj hsome).symm, checkName_eq_ok_iff.mp halias⟩

theorem Table.Named.reference {table : Table} (h : table.Named) :
    ∃ name, table.reference = .plain name ∧ IsIdentifier name := by
  obtain ⟨name, hname, hchecked, halias⟩ := h.checked
  unfold Table.reference
  cases hsome : table.aliasName with
  | none => exact ⟨name, hname, hchecked⟩
  | some identifier => exact halias identifier hsome

end EntityQuery
