import EntityQuery.Proofs.Checked
import EntityQuery.Statement.Column

/-!
# What a name is written as

The cases of a resolved name.  Whether a name can be resolved depends on the schema and the entity
of the scope only, not on the text that columns are qualified with nor on how names are quoted.
-/

namespace EntityQuery.ColumnScope

variable {scope : ColumnScope} {name column : String} {path : Path}

theorem storedColumn_eq_ok :
    scope.storedColumn name path = .ok column ↔
      path.isEntity = false ∧ ∃ owner identifier, scope.schema.tableOwner path = .ok owner ∧
        owner.isRoot = true ∧ path.columnName = .ok identifier ∧
        scope.qualified (identifier.sql scope.style) = column := by
  unfold storedColumn
  cases path.isEntity with
  | true =>
      rw [if_pos rfl]
      constructor
      · intro h
        cases h
      · rintro ⟨h, -⟩
        cases h
  | false =>
      rw [if_neg Bool.false_ne_true]
      simp only [true_and]
      cases scope.schema.tableOwner path with
      | error error =>
          constructor
          · intro h
            cases h
          · rintro ⟨owner, identifier, howner, -⟩
            cases howner
      | ok owner =>
          change (if (!owner.isRoot) = true then _ else _) = Except.ok column ↔ _
          cases hroot : owner.isRoot with
          | false =>
              constructor
              · intro h
                cases h
              · rintro ⟨other, identifier, howner, hother, -⟩
                cases howner
                rw [hroot] at hother
                cases hother
          | true =>
              rw [Bool.not_true, if_neg Bool.false_ne_true, Result.bind_eq_ok]
              constructor
              · rintro ⟨identifier, hidentifier, h⟩
                exact ⟨owner, identifier, rfl, hroot, hidentifier, Result.pure_eq_ok.mp h⟩
              · rintro ⟨_, identifier, -, -, hidentifier, h⟩
                exact ⟨identifier, hidentifier, Result.pure_eq_ok.mpr h⟩

/-- Everything that a name can be resolved to. -/
theorem resolve_cases (h : scope.resolve name = .ok column) :
    column = name ∧ '(' ∈ name.toList ∨ column = scope.allColumns ∨
      column = scope.unmapped name ∧ '(' ∉ name.toList ∨
      ∃ entity path, scope.entity = some entity ∧ scope.schema.resolve entity name = .ok path ∧
        scope.storedColumn name path = .ok column := by
  unfold resolve at h
  by_cases hcall : name.toList.contains '(' = true
  · rw [if_pos hcall] at h
    cases h
    exact .inl ⟨rfl, List.contains_iff_mem.mp hcall⟩
  have hcall' : '(' ∉ name.toList := fun hmem => hcall (List.contains_iff_mem.mpr hmem)
  rw [if_neg hcall] at h
  by_cases hall : name = "*"
  · rw [if_pos hall] at h
    cases h
    exact .inr (.inl rfl)
  rw [if_neg hall] at h
  cases hentity : scope.entity with
  | none =>
      rw [hentity] at h
      cases h
      exact .inr (.inr (.inl ⟨rfl, hcall'⟩))
  | some entity =>
      rw [hentity] at h
      cases hpath : scope.schema.resolve entity name with
      | ok path =>
          simp only [hpath] at h
          exact .inr (.inr (.inr ⟨entity, path, rfl, hpath, h⟩))
      | error error =>
          simp only [hpath] at h
          split at h
          · cases h
            exact .inr (.inr (.inl ⟨rfl, hcall'⟩))
          · cases h

theorem resolveChecked_eq_ok {context : String} :
    scope.resolveChecked context name = .ok column ↔
      Name.IsExpression name ∧ scope.resolve name = .ok column := by
  rw [resolveChecked, Result.bind_eq_ok, ← @checkExpression_eq_ok_iff context]
  constructor
  · rintro ⟨_, hcheck, hresolve⟩
    exact ⟨hcheck, hresolve⟩
  · rintro ⟨hcheck, hresolve⟩
    exact ⟨(), hcheck, hresolve⟩

/-! ### Success -/

section Success

variable {other : ColumnScope} (hschema : scope.schema = other.schema)
  (hentity : scope.entity = other.entity)

include hschema in
theorem succeeds_storedColumn_congr :
    Result.Succeeds (scope.storedColumn name path) ↔
      Result.Succeeds (other.storedColumn name path) := by
  unfold Result.Succeeds
  simp only [storedColumn_eq_ok, hschema]
  constructor
  · rintro ⟨_, hpath, owner, identifier, howner, hroot, hidentifier, -⟩
    exact ⟨_, hpath, owner, identifier, howner, hroot, hidentifier, rfl⟩
  · rintro ⟨_, hpath, owner, identifier, howner, hroot, hidentifier, -⟩
    exact ⟨_, hpath, owner, identifier, howner, hroot, hidentifier, rfl⟩

include hschema hentity

theorem succeeds_resolve_congr :
    Result.Succeeds (scope.resolve name) ↔ Result.Succeeds (other.resolve name) := by
  unfold resolve
  rw [hentity, hschema]
  split
  · simp
  · split
    · simp
    · split
      · simp
      · split
        · exact succeeds_storedColumn_congr hschema
        · split <;> simp

theorem succeeds_resolveChecked_congr {context : String} :
    Result.Succeeds (scope.resolveChecked context name) ↔
      Result.Succeeds (other.resolveChecked context name) := by
  unfold Result.Succeeds
  simp only [resolveChecked_eq_ok, exists_and_left]
  exact and_congr Iff.rfl (succeeds_resolve_congr hschema hentity)

end Success

end EntityQuery.ColumnScope
