import EntityQuery.Proofs.Derive.Evaluation
import EntityQuery.Proofs.Derive.Item

/-!
# Derived code

An entity is derived from the items that keep to the grammar, and from no others.  It is what the
item says, and so is what its code is evaluated to.
-/

namespace EntityQuery

theorem SourceField.HasShape.isWhole_target {type : Tokens} {marks : List Attribute}
    {shape : Shape Tokens} (h : HasShape type marks shape) (htype : type.IsWhole) :
    ∀ target, shape.target? = some target → target.IsWhole := by
  cases h with
  | simple =>
      rintro _ ⟨⟩
  | reference _ htarget | embedded _ htarget =>
      rintro _ ⟨⟩
      exact htarget.isWhole htype
  | collection _ helement =>
      rintro _ ⟨⟩
      obtain ⟨target, inner, -, hcollection, hinner⟩ := helement
      exact hinner.isWhole hcollection.isWhole

namespace SourceItem

variable {item : SourceItem} {entity : EntityDeclaration Tokens}

theorem isWhole_target_of_entity? (h : item.entity? = .ok entity)
    (hwhole : ∀ field ∈ item.stored, field.type.IsWhole) :
    ∀ property ∈ entity.properties, ∀ target, property.shape.target? = some target →
      target.IsWhole := by
  intro property hproperty
  obtain ⟨-, -, table, -, properties, hproperties, -, rfl⟩ := entity?_eq_ok_iff.mp h
  obtain ⟨field, hfield, hderived⟩ := Result.exists_of_mem_mapM hproperties hproperty
  exact (SourceField.declares_of_property? hderived).shape.isWhole_target (hwhole field hfield)

/-- An entity is derived exactly from the items that keep to the grammar.  Then it is what the item
says, and its code describes it: if every type closes its own brackets only, this is what the calls
in the code are evaluated to, one after another. -/
theorem entity?_derives (item : SourceItem) :
    ((∃ entity, item.entity? = .ok entity) ↔ item.IsDerivable) ∧
    ∀ entity, item.entity? = .ok entity →
      item.Declares entity ∧
      ((∀ field ∈ item.stored, field.type.IsWhole) →
        EntityDeclaration.reader (entity.code item.name) = some ((item.name, entity), [])) := by
  refine ⟨exists_entity?_iff, fun entity hentity => ?_⟩
  refine ⟨declares_of_entity? hentity, fun hwhole => ?_⟩
  have htargets := isWhole_target_of_entity? hentity hwhole
  have hreads := EntityDeclaration.reads_code htargets item.name []
  rwa [List.append_nil] at hreads

/-- A person with a raw name, whose home has two prefixes: the last one counts.  The wrappers around
the employer and around the phones are taken off. -/
theorem entity?_derives_person :
    let number : SourceField := ⟨"id", ["i64"], [⟨"id", .bare⟩]⟩
    let home : SourceField := ⟨"home", ["Address"],
      [⟨"embedded", .list [⟨"prefix", .text ""⟩, ⟨"prefix", .text "home_"⟩]⟩]⟩
    let employer : SourceField := ⟨"employer", ["Option", "<", "Box", "<", "Company", ">", ">"],
      [⟨"reference", .list [⟨"reverse_column", .text "employee"⟩]⟩]⟩
    let phones : SourceField := ⟨"phones",
      ["std", "::", "HashMap", "<", "String", ",", "Option", "<", "Phone", ">", ">"],
      [⟨"collection", .list [⟨"key_column", .text "label"⟩]⟩]⟩
    let scratch : SourceField := ⟨"scratch", ["String"], [⟨"transient", .bare⟩]⟩
    let item : SourceItem := ⟨"r#Person", .namedFields, [],
      [⟨"table", .list [⟨"name", .text "people"⟩]⟩], [number, home, employer, phones, scratch]⟩
    let entity : EntityDeclaration Tokens := ⟨"Person", some "people",
      [⟨"id", .simple, none, none, none, true⟩,
        ⟨"home", .embedded ["Address"] "home_", none, none, none, false⟩,
        ⟨"employer", .reference ["Company"], none, some "employee", none, false⟩,
        ⟨"phones", .collection .map ["Phone"], none, none, some "label", false⟩]⟩
    item.entity? = .ok entity ∧ item.Declares entity ∧
      EntityDeclaration.reader (entity.code "r#Person") = some (("r#Person", entity), []) := by
  intro number home employer phones scratch item entity
  have hentity : item.entity? = .ok entity := by decide +kernel
  have hstored : item.stored = [number, home, employer, phones] := rfl
  have hwhole : ∀ field ∈ item.stored, field.type.IsWhole := by
    rw [hstored]
    simp only [List.forall_mem_cons]
    exact ⟨rfl, rfl, rfl, rfl, List.forall_mem_nil _⟩
  obtain ⟨hdeclares, hreads⟩ := (entity?_derives item).2 entity hentity
  exact ⟨hentity, hdeclares, hreads hwhole⟩

end SourceItem

end EntityQuery
