import EntityQuery.Proofs.Context.History
import EntityQuery.Proofs.Statement.Failure

/-!
# Columns that names stand for

Over a context with any history, a name in the criteria, the order or the groups of a selection
stands for a column of the table of the entity exactly if the property is stored there.
-/

namespace EntityQuery

namespace ColumnScope

variable {scope : ColumnScope} {entity : Entity} {name : String}

/-- A name without a call is resolved against the entity. -/
theorem resolve_of_isExpression (hscope : scope.entity = some entity)
    (hname : Name.IsExpression name) (hcall : '(' ∉ name.toList) :
    scope.resolve name =
      match scope.schema.resolve entity name with
      | .ok path => scope.storedColumn name path
      | .error error =>
          if error.kind = .invalidArgument then .ok (scope.unmapped name) else .error error := by
  have hstar : name ≠ "*" := by
    rintro rfl
    have hpart := hname.parts '*' (by decide)
    revert hpart
    decide
  have hnotCall : ¬ name.toList.contains '(' = true := by
    rw [List.contains_iff_mem]
    exact hcall
  rw [resolve, if_neg hnotCall, if_neg hstar]
  generalize scope.entity = found at hscope
  subst hscope
  rfl

theorem resolveChecked_of_isExpression (label : String) (hname : Name.IsExpression name) :
    scope.resolveChecked label name = scope.resolve name := by
  rw [resolveChecked, checkExpression_eq_ok_iff.mpr hname]
  rfl

section Registered

variable (hwell : scope.schema.WellFormed) (hscope : scope.entity = some entity)
  (hentity : scope.schema.entity? entity.id = some entity) (hname : Name.IsExpression name)
  (hcall : '(' ∉ name.toList)

include hwell hscope hentity hname hcall

/-- The name of a property stands for its column if it is stored with the entity, and else for
nothing. -/
theorem resolve_of_property {path : Path} (hpath : scope.schema.resolve entity name = .ok path) :
    ∃ earlier leaf, path.segments = earlier ++ [leaf] ∧
      (leaf.property.shape.isSimple = true ∧
          (∀ segment ∈ earlier, segment.property.shape.isEmbedded = true) →
        scope.resolve name =
          .ok (scope.qualified ((Path.leadColumn leaf earlier).sql scope.style))) ∧
      (¬ (leaf.property.shape.isSimple = true ∧
          ∀ segment ∈ earlier, segment.property.shape.isEmbedded = true) →
        scope.resolve name = .error (.notStored name scope.reference)) := by
  have hhas := (Schema.hasPath_resolve hentity hpath).1
  obtain ⟨earlier, leaf, hclimb, hsegments⟩ :=
    Path.exists_segments_eq (Schema.isRoot_resolve hpath hname.ne_empty)
  have hstored := Path.isStored_iff hclimb
  simp only [List.mem_reverse] at hstored
  have hresolve : scope.resolve name = scope.storedColumn name path := by
    rw [resolve_of_isExpression hscope hname hcall, hpath]
  refine ⟨earlier, leaf, hsegments, fun h => ?_, fun h => ?_⟩
  · rw [hresolve, storedColumn_of_isStored name hwell hhas (hstored.mpr h) hclimb,
      List.reverse_reverse]
  · rw [hresolve, storedColumn_of_not_isStored name hwell hhas fun hyes => h (hstored.mp hyes)]

theorem resolve_of_no_property (hnone : ∀ path, scope.schema.resolve entity name ≠ .ok path) :
    scope.resolve name = .ok (if '.' ∈ name.toList then name else scope.qualified name) := by
  rw [resolve_of_isExpression hscope hname hcall]
  cases hresult : scope.schema.resolve entity name with
  | ok path => exact absurd hresult (hnone path)
  | error error =>
      have hkind := hwell.failsAs_resolve name hentity error hresult
      simp only [hkind, if_true, unmapped, List.contains_iff_mem]

end Registered

end ColumnScope

namespace Inquiry

/-- In conditions, orders and groups of the selection the name is written as this column, or fails
with this error.  Conditions and orders have the column in front, unless a condition is decided
without it. -/
structure Writes {n : Nat} (context : Context n) (renderer : Renderer) (selection : Selection)
    (name : String) (column : Result String) : Prop where
  condition : ∀ (condition : Condition) (binder : Binder), condition.field = name →
    ((condition.render checkedColumn (renderer.scope selection)).run binder).answer? context =
      some (column >>= fun column => (condition.renderOn column).run binder)
  order : ∀ order : Order, order.property = name →
    (orderSql renderer selection order).answer? context =
      some (column.map (order.sqlOn renderer.dialect))
  group : (checkedColumn (renderer.scope selection) "Group column" name).answer? context =
    some column
  conditionFront : ∀ (condition : Condition) (binder behind : Binder) (text : String),
    condition.field = name → condition.writesField = true →
      ((condition.render checkedColumn (renderer.scope selection)).run binder).answer? context =
          some (.ok (text, behind)) →
        ∃ written rest, column = .ok written ∧ text = written ++ " " ++ rest
  orderFront : ∀ (order : Order) (text : String), order.property = name →
    (orderSql renderer selection order).answer? context = some (.ok text) →
      ∃ written rest, column = .ok written ∧ text = written ++ " " ++ rest

end Inquiry

namespace History

open Inquiry

variable {n : Nat} {catalog : Catalog n} {naming : Naming} {memoised : Bool}
  {operations : List (Operation n)} {history : History n} {entity : Entity}
  {selection : Selection} {name : String}

namespace Sound

variable (h : history.Sound catalog naming)

include h

theorem matches_self (dialect : Dialect) (hentity : entity ∈ history.context.schema.entities)
    (hselection : selection.entity = some entity) :
    Matches history.context.registry ⟨dialect, history.context.schema⟩
      ⟨dialect, history.context.schema⟩ selection selection := by
  refine Inquiry.matches_self h.wellFormed fun other hother => ?_
  obtain rfl : entity = other := Option.some.inj (hselection.symm.trans hother)
  exact h.wellFormed.entity?_of_mem hentity

theorem writes_resolve {dialect : Dialect} {column : Result String}
    (hentity : entity ∈ history.context.schema.entities)
    (hselection : selection.entity = some entity)
    (hname : Name.IsExpression name)
    (hcolumn : (Renderer.scope ⟨dialect, history.context.schema⟩ selection).resolve name = column) :
    Writes history.context ⟨dialect, history.context.schema⟩ selection name column := by
  have hmatches := h.matches_self dialect hentity hselection
  have hcondition : ∀ (condition : Condition) (binder : Binder), condition.field = name →
      ((condition.render checkedColumn (Renderer.scope ⟨dialect, history.context.schema⟩
          selection)).run binder).answer? history.context =
        some (column >>= fun column => (condition.renderOn column).run binder) := by
    rintro condition binder rfl
    rw [h.answer? (renders_condition hmatches.scope condition binder), Condition.render,
      ColumnScope.resolveChecked_of_isExpression _ hname, hcolumn]
    cases column <;> rfl
  have horder : ∀ order : Order, order.property = name →
      (orderSql ⟨dialect, history.context.schema⟩ selection order).answer? history.context =
        some (column.map (order.sqlOn dialect)) := by
    rintro order rfl
    rw [h.answer? (hmatches.orderSql order), Order.sql,
      ColumnScope.resolveChecked_of_isExpression _ hname, hcolumn]
    cases column <;> rfl
  refine ⟨hcondition, horder, ?_, ?_, ?_⟩
  · rw [h.answer? (gives_checkedColumn hmatches.scope _ name),
      ColumnScope.resolveChecked_of_isExpression _ hname, hcolumn]
  · intro condition binder behind text hfield hwrites htext
    rw [hcondition condition binder hfield, Option.some.injEq, Result.bind_eq_ok] at htext
    obtain ⟨written, hwritten, htext⟩ := htext
    obtain ⟨rest, hrest⟩ := Condition.exists_eq_append_of_renderOn hwrites htext
    exact ⟨written, rest, hwritten, hrest⟩
  · intro order text hproperty htext
    rw [horder order hproperty, Option.some.injEq] at htext
    cases column with
    | error error => cases htext
    | ok written =>
        obtain rfl := Except.ok.inj htext
        exact ⟨written, _, rfl, String.append_assoc ..⟩

/-- A statement fails for its arguments if it uses a name that stands for nothing. -/
theorem render_of_uses {dialect : Dialect} {kind : StatementKind} {cause : Error}
    (hentity : entity ∈ history.context.schema.entities)
    (hselection : selection.entity = some entity)
    (hname : Name.IsExpression name) (huses : selection.Uses kind name)
    (hcause : (Renderer.scope ⟨dialect, history.context.schema⟩ selection).resolve name =
      .error cause) :
    ∃ error, (render dialect kind selection).answer? history.context = some (.error error) ∧
      error.kind = .invalidArgument := by
  have hmatches := h.matches_self dialect hentity hselection
  have hnot : ¬ Result.Succeeds
      (Renderer.render ⟨dialect, history.context.schema⟩ kind selection) := by
    refine Renderer.not_succeeds_render huses fun label => ?_
    rw [ColumnScope.resolveChecked_of_isExpression label hname, hcause]
    exact Result.not_succeeds_error cause
  obtain ⟨error, herror⟩ := Result.exists_eq_error hnot
  refine ⟨error, (h.answer? (gives_render hmatches)).trans (congrArg some herror), ?_⟩
  refine Renderer.failsAs_render ?_ kind error herror
  exact ColumnScope.blames_of_some h.wellFormed hselection (h.wellFormed.entity?_of_mem hentity)

end Sound

/-- A name that leads to a property is written as the column of the property, behind the leads of
the properties before it, if the property is simple and all before it are embedded.  If not, every
statement that uses the name fails for its arguments.  A name that leads to no property is a column
of the table, or qualified already. -/
theorem column_of_name
    (hrun : (start (Context.fresh naming memoised)).run catalog operations = some history)
    (hentity : entity ∈ history.context.schema.entities)
    (hselection : selection.entity = some entity) (hname : Name.IsExpression name)
    (hcall : '(' ∉ name.toList) (dialect : Dialect) :
    let renderer : Renderer := ⟨dialect, history.context.schema⟩
    let reference := selection.table.reference.sql dialect.nameStyle
    (∀ path, history.context.schema.resolve entity name = .ok path →
      ∃ earlier leaf, path.segments = earlier ++ [leaf] ∧
        (leaf.property.shape.isSimple = true ∧
            (∀ segment ∈ earlier, segment.property.shape.isEmbedded = true) →
          Writes history.context renderer selection name
            (.ok (reference ++ "." ++ (Path.leadColumn leaf earlier).sql dialect.nameStyle))) ∧
        (¬ (leaf.property.shape.isSimple = true ∧
            ∀ segment ∈ earlier, segment.property.shape.isEmbedded = true) →
          Writes history.context renderer selection name (.error (.notStored name reference)) ∧
            ∀ kind, selection.Uses kind name →
              ∃ error, (render dialect kind selection).answer? history.context =
                some (.error error) ∧ error.kind = .invalidArgument)) ∧
    ((∀ path, history.context.schema.resolve entity name ≠ .ok path) →
      Writes history.context renderer selection name
        (.ok (if '.' ∈ name.toList then name else reference ++ "." ++ name))) := by
  intro renderer reference
  obtain ⟨same, hsame, hsound⟩ := exists_run catalog naming memoised operations
  obtain rfl : history = same := Option.some.inj (hrun.symm.trans hsame)
  have hregistered := hsound.wellFormed.entity?_of_mem hentity
  constructor
  · intro path hpath
    obtain ⟨earlier, leaf, hsegments, hstored, hother⟩ :=
      @ColumnScope.resolve_of_property (renderer.scope selection) entity name hsound.wellFormed
        hselection hregistered hname hcall path hpath
    refine ⟨earlier, leaf, hsegments, fun h => ?_, fun h => ⟨?_, fun kind huses => ?_⟩⟩
    · exact hsound.writes_resolve hentity hselection hname (hstored h)
    · exact hsound.writes_resolve hentity hselection hname (hother h)
    · exact hsound.render_of_uses hentity hselection hname huses (hother h)
  · intro hnone
    exact hsound.writes_resolve hentity hselection hname
      (@ColumnScope.resolve_of_no_property (renderer.scope selection) entity name hsound.wellFormed
        hselection hregistered hname hcall hnone)

/-- A home is part of the row of the person, the home of a friend is not. -/
theorem column_of_street :
    let person : EntityDeclaration (Fin 2) := ⟨"Person", some "person",
      [⟨"friend", .reference 0, some "friend", none, none, false⟩,
        ⟨"home", .embedded 1 "home_", some "home", none, none, false⟩]⟩
    let address : EntityDeclaration (Fin 2) := ⟨"Address", some "address",
      [⟨"street", .simple, some "street", none, none, false⟩]⟩
    let catalog : Catalog 2 := fun type => if type = 0 then person else address
    ∃ history entity, (start (Context.fresh .standard true)).run catalog [.register 0] =
        some history ∧ entity ∈ history.context.schema.entities ∧
      Writes history.context ⟨.postgres, history.context.schema⟩ (.ofEntity entity) "home.street"
        (.ok "person.home_street") ∧
      Writes history.context ⟨.postgres, history.context.schema⟩ (.ofEntity entity)
        "friend.home.street" (.error (.notStored "friend.home.street" "person")) := by
  intro person address catalog
  have htypes : catalog.discover [] [] [0] = [0, 1] := by cbv
  have hvalid : ∀ other ∈ ([0, 1] : List (Fin 2)), (catalog other).check = .ok () := by decide
  let root := Registry.entityOf catalog .standard [0, 1] 0
  let place := Registry.entityOf catalog .standard [0, 1] 1
  let history : History 2 := ⟨⟨⟨⟨.standard, [root, place]⟩, [(0, 0), (1, 1)]⟩, .empty⟩, []⟩
  have hrun : (start (Context.fresh .standard true)).run catalog [.register 0] = some history :=
    run_register (Context.entity?_fresh htypes hvalid)
  have hroot : root ∈ history.context.schema.entities := List.mem_cons_self
  let home : Segment := ⟨root, root.properties[1]⟩
  let street : Segment := ⟨place, place.properties[0]⟩
  let friend : Segment := ⟨root, root.properties[0]⟩
  have hhome : history.context.schema.resolve root "home.street" = .ok ⟨root, [street, home]⟩ := by
    have hpieces : Text.pieces '.' "home.street" = ["home", "street"] := by cbv
    rw [Schema.resolve, if_neg (by decide), hpieces]
    rfl
  have hfriend : history.context.schema.resolve root "friend.home.street" =
      .ok ⟨root, [street, home, friend]⟩ := by
    have hpieces : Text.pieces '.' "friend.home.street" = ["friend", "home", "street"] := by cbv
    rw [Schema.resolve, if_neg (by decide), hpieces]
    rfl
  have hstreet : Name.IsExpression "home.street" :=
    ⟨by decide, List.all_eq_true.mp (by decide)⟩
  have hlong : Name.IsExpression "friend.home.street" :=
    ⟨by decide, List.all_eq_true.mp (by decide)⟩
  obtain ⟨earlier, leaf, hsegments, hstored, -⟩ :=
    (@column_of_name 2 catalog .standard true [.register 0] history root (.ofEntity root)
      "home.street" hrun hroot rfl hstreet (by decide) .postgres).1 _ hhome
  obtain ⟨others, last, hlonger, -, hother⟩ :=
    (@column_of_name 2 catalog .standard true [.register 0] history root (.ofEntity root)
      "friend.home.street" hrun hroot rfl hlong (by decide) .postgres).1 _ hfriend
  obtain ⟨rfl, hleaf⟩ : [home] = earlier ∧ [street] = [leaf] := List.append_inj' hsegments rfl
  obtain ⟨rfl, hlast⟩ : [friend, home] = others ∧ [street] = [last] := List.append_inj' hlonger rfl
  obtain rfl : street = leaf := List.head_eq_of_cons_eq hleaf
  have hembedded : ∀ segment ∈ [home], segment.property.shape.isEmbedded = true := by decide
  refine ⟨history, root, hrun, hroot, hstored ⟨rfl, hembedded⟩, (hother ?_).1⟩
  rintro ⟨-, hembedded⟩
  cases hembedded friend List.mem_cons_self

end History

end EntityQuery
