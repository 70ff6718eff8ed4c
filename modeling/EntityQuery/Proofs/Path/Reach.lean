import EntityQuery.Path.Column
import EntityQuery.Proofs.Result

/-!
# Entities that a path passes

A path that is resolved from a root takes properties of entities that can be reached from it, so
whatever holds of the columns and leads of all those entities holds of the column of the path.
-/

namespace EntityQuery

namespace Schema

/-- The entities that lead on from the root by properties that refer to registered entities. -/
inductive Reaches (schema : Schema) (root : Entity) : Entity → Prop
  | root : Reaches schema root root
  | step {entity target : Entity} {property : Property} {id : EntityId}
      (hentity : Reaches schema root entity) (hproperty : property ∈ entity.properties)
      (hid : property.shape.target? = some id) (htarget : schema.entity? id = some target) :
      Reaches schema root target

variable {schema : Schema}

theorem required_eq_ok_iff {id : EntityId} {entity : Entity} :
    schema.required id = .ok entity ↔ schema.entity? id = some entity := by
  unfold required
  cases schema.entity? id <;> simp

theorem mem_properties_of_property? {entity : Entity} {name : String} {property : Property}
    (h : entity.property? name = some property) : property ∈ entity.properties :=
  List.mem_of_find?_eq_some h

/-- A name is taken by the property of that name, and further names by the entity it leads to. -/
theorem walk_cons_eq_ok {entity : Entity} {whole name : String} {names : List String}
    {segments : List Segment} (h : schema.walk whole entity (name :: names) = .ok segments) :
    ∃ property, entity.property? name = some property ∧
      (names = [] ∧ segments = [⟨entity, property⟩] ∨
        ∃ id related rest, property.shape.target? = some id ∧ schema.entity? id = some related ∧
          schema.walk whole related names = .ok rest ∧ segments = ⟨entity, property⟩ :: rest) := by
  rw [walk.eq_def] at h
  cases hproperty : entity.property? name with
  | none =>
      simp only [hproperty] at h
      cases h
  | some property =>
      refine ⟨property, rfl, ?_⟩
      simp only [hproperty] at h
      cases names with
      | nil =>
          cases h
          exact .inl ⟨rfl, rfl⟩
      | cons next names =>
          cases htarget : property.shape.target? with
          | none =>
              simp only [htarget] at h
              cases h
          | some id =>
              simp only [htarget, Result.bind_eq_ok, Result.pure_eq_ok] at h
              obtain ⟨related, hrelated, rest, hrest, rfl⟩ := h
              exact .inr ⟨id, related, rest, rfl, required_eq_ok_iff.mp hrelated, hrest, rfl⟩

theorem walk_reaches {root entity : Entity} {whole : String} {names : List String}
    {segments : List Segment} (hentity : schema.Reaches root entity)
    (hwalk : schema.walk whole entity names = .ok segments) :
    ∀ segment ∈ segments,
      schema.Reaches root segment.owner ∧ segment.property ∈ segment.owner.properties := by
  induction names generalizing entity segments with
  | nil =>
      cases hwalk
      simp
  | cons name names ih =>
      obtain ⟨property, hproperty, hrest⟩ := walk_cons_eq_ok hwalk
      have hmem := mem_properties_of_property? hproperty
      rcases hrest with ⟨-, rfl⟩ | ⟨id, related, rest, hid, hrelated, hrest, rfl⟩
      · exact List.forall_mem_singleton.mpr ⟨hentity, hmem⟩
      · have hreached := Reaches.step hentity hmem hid hrelated
        exact List.forall_mem_cons.mpr ⟨⟨hentity, hmem⟩, ih hreached hrest⟩

theorem resolve_reaches {root : Entity} {text : String} {path : Path}
    (hresolve : schema.resolve root text = .ok path) :
    ∀ segment ∈ path.climb,
      schema.Reaches root segment.owner ∧ segment.property ∈ segment.owner.properties := by
  unfold resolve at hresolve
  by_cases hempty : text = ""
  · rw [if_pos hempty] at hresolve
    cases hresolve
    simp [Path.ofRoot]
  · rw [if_neg hempty] at hresolve
    simp only [Result.bind_eq_ok, Result.pure_eq_ok] at hresolve
    obtain ⟨segments, hwalk, rfl⟩ := hresolve
    intro segment hsegment
    exact walk_reaches .root hwalk segment (List.mem_reverse.mp hsegment)

end Schema

namespace Path

/-- The leads stand before the name in the order of the path. -/
theorem foldl_lead (leads : List String) (name : String) :
    leads.foldl (fun column lead => lead ++ column) name = String.join leads.reverse ++ name := by
  induction leads generalizing name with
  | nil => simp
  | cons lead leads ih =>
      rw [List.foldl_cons, ih, List.reverse_cons, String.join_append, String.append_assoc]
      simp

theorem exists_of_mem_enclosingLeads {parents : List Segment} {lead : String}
    (h : lead ∈ enclosingLeads parents) :
    ∃ segment ∈ parents, segment.property.shape.lead? = some lead := by
  induction parents with
  | nil => simp [enclosingLeads] at h
  | cons segment parents ih =>
      rw [enclosingLeads] at h
      cases hlead : segment.property.shape.lead? with
      | none => simp [hlead] at h
      | some own =>
          simp only [hlead, List.mem_cons] at h
          rcases h with rfl | h
          · exact ⟨segment, List.mem_cons_self, hlead⟩
          · obtain ⟨parent, hparent, hown⟩ := ih h
            exact ⟨parent, List.mem_cons_of_mem _ hparent, hown⟩

/-- Every character of the column of a path comes from the column of a property on it or from the
lead of one. -/
theorem mem_columnName {path : Path} {column : Identifier} {c : Char}
    (hcolumn : path.columnName = .ok column) (hc : c ∈ column.name.toList) :
    ∃ segment ∈ path.climb, c ∈ segment.property.column.name.toList ∨
      ∃ lead, segment.property.shape.lead? = some lead ∧ c ∈ lead.toList := by
  unfold columnName at hcolumn
  cases hclimb : path.climb with
  | nil =>
      rw [hclimb] at hcolumn
      cases hcolumn
  | cons leaf parents =>
      rw [hclimb] at hcolumn
      cases hcolumn
      rw [Identifier.name_map, foldl_lead, String.toList_append, List.mem_append,
        String.toList_join, List.mem_flatMap] at hc
      rcases hc with ⟨lead, hlead, hc⟩ | hc
      · obtain ⟨segment, hsegment, hown⟩ :=
          exists_of_mem_enclosingLeads (List.mem_reverse.mp hlead)
        exact ⟨segment, List.mem_cons_of_mem _ hsegment, .inr ⟨lead, hown, hc⟩⟩
      · exact ⟨leaf, List.mem_cons_self, .inl hc⟩

end Path

end EntityQuery
