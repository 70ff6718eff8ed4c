import EntityQuery.Proofs.Derive.Field

/-!
# Items

Which items declare an entity, and which entity it is: that of the fields that are stored, in their
order.
-/

namespace EntityQuery.SourceItem

/-- Fields that are marked as transient are left out. -/
def stored (item : SourceItem) : List SourceField :=
  item.fields.filter fun field => !field.isMarked "transient"

/-- The entity is what the item says. -/
structure Declares (item : SourceItem) (entity : EntityDeclaration Tokens) : Prop where
  name_eq : entity.name = plainName item.name
  table_eq : entity.table = (item.attributes.flatMap (Attribute.texts ["table"] "name")).getLast?
  properties : List.Forall₂ SourceField.Declares item.stored entity.properties

/-- An entity can be derived from the item. -/
structure IsDerivable (item : SourceItem) : Prop where
  shape_eq : item.shape = .namedFields
  parameters : item.parameters = [] ∨ item.parameters = ["<", ">"]
  table : ∀ mark ∈ item.attributes, mark.key = "table" → mark.options.AreFor .table
  fields : ∀ field ∈ item.stored, field.IsDerivable
  identifier : item.stored.countP (·.isMarked "id") ≤ 1

variable {item : SourceItem}

/-! ### The table -/

theorem exists_tableName?_iff :
    (∃ table, item.tableName? = .ok table) ↔
      ∀ mark ∈ item.attributes, mark.key = "table" → mark.options.AreFor .table := by
  have hnames : (∃ table, item.tableName? = .ok table) ↔
      ∃ names, (item.attributes.filter (·.key == "table")).mapM
        (fun mark => Attribute.names .table mark.options) = .ok names := by
    unfold tableName?
    simp only [Result.bind_eq_ok]
    constructor
    · rintro ⟨_, names, hnames, -⟩
      exact ⟨names, hnames⟩
    · rintro ⟨names, hnames⟩
      exact ⟨_, names, hnames, rfl⟩
  rw [hnames, Result.exists_mapM_iff]
  simp only [Attribute.exists_names_iff, List.mem_filter, beq_iff_eq, and_imp]

theorem given_flatten {marks : List Attribute} {names : List (List (Role × String))}
    (h : (marks.filter (·.key == "table")).mapM (fun mark => Attribute.names .table mark.options) =
      .ok names) :
    Attribute.given .table names.flatten =
      marks.flatMap (Attribute.texts ["table"] "name") := by
  induction marks generalizing names with
  | nil =>
      cases h
      rfl
  | cons mark marks ih =>
      rw [List.flatMap_cons, Attribute.texts]
      by_cases hkey : mark.key = "table"
      · rw [List.filter_cons, if_pos (beq_iff_eq.mpr hkey), List.mapM_cons] at h
        obtain ⟨first, hfirst, h⟩ := Result.bind_eq_ok.mp h
        obtain ⟨rest, hrest, h⟩ := Result.bind_eq_ok.mp h
        cases h
        rw [List.flatten_cons, Attribute.given_append, ih hrest, Attribute.given_of_names hfirst,
          hkey]
        rfl
      · rw [List.filter_cons, if_neg (by simpa using hkey)] at h
        rw [ih h, if_neg (by simpa using hkey), List.nil_append]

theorem tableName?_eq {table : Option String} (h : item.tableName? = .ok table) :
    table = (item.attributes.flatMap (Attribute.texts ["table"] "name")).getLast? := by
  unfold tableName? at h
  obtain ⟨names, hnames, h⟩ := Result.bind_eq_ok.mp h
  cases h
  rw [Attribute.name?_eq, given_flatten hnames]

/-! ### The entity -/

theorem isGeneric_eq_false_iff :
    item.isGeneric = false ↔ item.parameters = [] ∨ item.parameters = ["<", ">"] := by
  unfold isGeneric
  by_cases hnone : item.parameters = []
  · simp [hnone]
  · simp [hnone]

theorem entity?_eq_ok_iff {entity : EntityDeclaration Tokens} :
    item.entity? = .ok entity ↔
      item.isGeneric = false ∧ item.shape = .namedFields ∧
        ∃ table, item.tableName? = .ok table ∧
          ∃ properties, item.stored.mapM SourceField.property? = .ok properties ∧
            properties.countP (·.isIdentifier) ≤ 1 ∧
            ⟨plainName item.name, table, properties⟩ = entity := by
  unfold entity?
  by_cases hgeneric : item.isGeneric = true
  · rw [if_pos hgeneric, hgeneric]
    constructor
    · intro h
      cases h
    · rintro ⟨⟨⟩, -⟩
  by_cases hshape : item.shape = .namedFields
  · rw [if_neg hgeneric, if_neg (not_not.mpr hshape),
      and_iff_right (Bool.eq_false_iff.mpr hgeneric), and_iff_right hshape, Result.bind_eq_ok]
    refine exists_congr fun table => and_congr_right fun _ => ?_
    change (item.stored.mapM SourceField.property? >>= _) = _ ↔ _
    rw [Result.bind_eq_ok]
    refine exists_congr fun properties => and_congr_right fun _ => ?_
    by_cases hseveral : 1 < properties.countP (·.isIdentifier)
    · rw [if_pos hseveral]
      constructor
      · intro h
        cases h
      · exact fun h => absurd h.1 (Nat.not_le.mpr hseveral)
    · rw [if_neg hseveral, and_iff_right (Nat.not_lt.mp hseveral)]
      exact Result.pure_eq_ok
  · rw [if_neg hgeneric, if_pos hshape]
    constructor
    · intro h
      cases h
    · exact fun h => absurd h.2.1 hshape

theorem forall₂_declares {properties : List (PropertyDeclaration Tokens)}
    (h : item.stored.mapM SourceField.property? = .ok properties) :
    List.Forall₂ SourceField.Declares item.stored properties :=
  (Result.mapM_eq_ok.mp h).imp fun _ _ => SourceField.declares_of_property?

theorem countP_isIdentifier {fields : List SourceField}
    {properties : List (PropertyDeclaration Tokens)}
    (h : List.Forall₂ SourceField.Declares fields properties) :
    properties.countP (·.isIdentifier) = fields.countP (·.isMarked "id") := by
  induction h with
  | nil => rfl
  | cons hdeclares _ ih => rw [List.countP_cons, List.countP_cons, ih, hdeclares.isIdentifier_eq]

theorem exists_entity?_iff : (∃ entity, item.entity? = .ok entity) ↔ item.IsDerivable := by
  simp only [entity?_eq_ok_iff, isGeneric_eq_false_iff]
  constructor
  · rintro ⟨entity, hparameters, hshape, table, htable, properties, hproperties, hcount, -⟩
    refine ⟨hshape, hparameters, exists_tableName?_iff.mp ⟨table, htable⟩,
      fun field hfield => ?_, ?_⟩
    · exact SourceField.exists_property?_iff.mp
        (Result.exists_mapM_iff.mp ⟨properties, hproperties⟩ field hfield)
    · rwa [← countP_isIdentifier (forall₂_declares hproperties)]
  · rintro ⟨hshape, hparameters, htable, hfields, hidentifier⟩
    obtain ⟨table, htable⟩ := exists_tableName?_iff.mpr htable
    obtain ⟨properties, hproperties⟩ := Result.exists_mapM_iff.mpr fun field hfield =>
      SourceField.exists_property?_iff.mpr (hfields field hfield)
    rw [← countP_isIdentifier (forall₂_declares hproperties)] at hidentifier
    exact ⟨_, hparameters, hshape, table, htable, properties, hproperties, hidentifier, rfl⟩

theorem declares_of_entity? {entity : EntityDeclaration Tokens} (h : item.entity? = .ok entity) :
    item.Declares entity := by
  obtain ⟨-, -, table, htable, properties, hproperties, -, rfl⟩ := entity?_eq_ok_iff.mp h
  exact ⟨rfl, tableName?_eq htable, forall₂_declares hproperties⟩

end EntityQuery.SourceItem
