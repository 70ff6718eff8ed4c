import EntityQuery.Proofs.Context.Rendering
import EntityQuery.Proofs.Schema.Calls

/-!
# Inquiries that register

A question about a type registers it first, with all types that can be reached, and is then a
question to the registry behind the call.  If the call fails, its error is the answer and the
registry is as before.
-/

namespace EntityQuery

variable {n : Nat} {catalog : Catalog n} {registry : Registry n}

namespace Registry

namespace Settled

variable (hsettled : registry.Settled catalog)

include hsettled

theorem entity?_of_mem {type : Fin n} (h : type ∈ registry.types) :
    registry.schema.entity? (registry.types.idxOf type) =
      some (entityOf catalog registry.schema.naming registry.types type) :=
  hsettled.entity?_eq_some_iff.mpr ⟨type, List.getElem?_idxOf h, rfl⟩

theorem entity?_of_call {type : Fin n} {entity : Entity}
    (h : registry.call catalog type = .ok entity) :
    (registry.after catalog type).schema.entity? entity.id = some entity := by
  rw [(call_eq_ok h).2]
  exact (hsettled.after type).entity?_of_mem (hsettled.mem_types_of_call h)

/-- What a call leaves is what was there, with entities added behind. -/
theorem isPrefix_after (type : Fin n) :
    registry.schema.entities <+: (registry.after catalog type).schema.entities := by
  obtain hsame | ⟨id, hregister⟩ := after_cases catalog registry type
  · simp only [hsame, List.prefix_refl]
  · exact hsettled.entities_of_register? hregister

theorem naming_after (type : Fin n) :
    (registry.after catalog type).schema.naming = registry.schema.naming := by
  obtain hsame | ⟨id, hregister⟩ := after_cases catalog registry type
  · rw [hsame]
  · obtain ⟨-, ⟨-, hsame⟩ | ⟨-, -, hextended⟩⟩ := hsettled.register?_eq_ok_iff.mp hregister
    · rw [hsame]
    · rw [hextended]
      rfl

end Settled

end Registry

/-- Paths that are kept stay so when entities are registered behind those that are there. -/
theorem Schema.Keeps.of_isPrefix {schema larger : Schema} {paths : Memo PathKey Path}
    (h : schema.Keeps paths) (hlarger : schema.entities <+: larger.entities) : larger.Keeps paths :=
  fun entry hentry => ⟨(h entry hentry).1, (h entry hentry).2.of_isPrefix hlarger⟩

namespace Inquiry

variable (hsettled : registry.Settled catalog) (type : Fin n)

include hsettled

theorem leads_entity :
    Leads registry (registry.after catalog type) (entity catalog type)
      (registry.call catalog type) := by
  intro paths hkeeps
  refine ⟨paths, hkeeps.of_isPrefix (hsettled.isPrefix_after type), ?_⟩
  exact congrArg some (@Context.entity_eq n catalog ⟨registry, paths⟩ hsettled type)

theorem leads_resolve (text : String) :
    Leads registry (registry.after catalog type) (resolve catalog type text)
      (registry.call catalog type >>= fun root =>
        (registry.after catalog type).schema.resolve root text) := by
  have hwell := (hsettled.after type).schema_wellFormed
  have hresolve : (resolve catalog type text : Inquiry n Path) = entity catalog type >>= fun root =>
      of fun context => context.answer (context.schema.resolve root text) := by
    funext context
    rw [bind_apply]
    simp only [resolve, entity, of, Context.resolve]
    obtain ⟨_ | _, _⟩ := context.entity catalog type <;> rfl
  rw [hresolve]
  refine (leads_entity hsettled type).bind fun root hroot => ?_
  refine gives_answer hwell (fun _ => rfl) fun path hpath => ?_
  exact (Schema.hasPath_resolve (hsettled.entity?_of_call hroot) hpath).1

theorem hasPath_of_call {root : Entity} {text : String} {path : Path}
    (hroot : registry.call catalog type = .ok root)
    (hpath : (registry.after catalog type).schema.resolve root text = .ok path) :
    (registry.after catalog type).schema.HasPath path :=
  (Schema.hasPath_resolve (hsettled.entity?_of_call hroot) hpath).1

theorem leads_pathReport (text : String) :
    Leads registry (registry.after catalog type) (pathReport catalog type text)
      (registry.call catalog type >>= fun root => do
        let path ← (registry.after catalog type).schema.resolve root text
        return (registry.after catalog type).schema.report path) := by
  rw [← bind_assoc]
  refine (leads_resolve hsettled type text).bind fun path hpath => ?_
  obtain ⟨root, hroot, hpath⟩ := Result.bind_eq_ok.mp hpath
  exact gives_report (hsettled.after type).schema_wellFormed
    (hasPath_of_call hsettled type hroot hpath)

/-- A statement about a type is a statement about the entity that a call for the type finds. -/
theorem leads_statement_entity {dialect : Dialect} {kind : StatementKind} {query : Query}
    {distinct : Bool} :
    Leads registry (registry.after catalog type)
      (statement catalog dialect kind (.entity type) query distinct)
      (registry.call catalog type >>= fun entity =>
        Renderer.render ⟨dialect, (registry.after catalog type).schema⟩ kind
          { Selection.ofEntity entity with query, distinct }) := by
  have hwell := (hsettled.after type).schema_wellFormed
  unfold statement selection
  rw [bind_assoc]
  refine (leads_entity hsettled type).bind fun entity hentity => ?_
  rw [pure_bind]
  refine gives_render (matches_self hwell fun other hother => ?_)
  obtain rfl : entity = other := Option.some.inj hother
  exact hsettled.entity?_of_call hentity

omit type in
theorem gives_statement_table {dialect : Dialect} {kind : StatementKind} {table : Table}
    {query : Query} {distinct : Bool} :
    Gives registry (statement catalog dialect kind (.table table) query distinct)
      (Renderer.render ⟨dialect, registry.schema⟩ kind
        { Selection.ofTable table with query, distinct }) := by
  unfold statement selection
  rw [pure_bind]
  refine gives_render (matches_self hsettled.schema_wellFormed fun other hother => ?_)
  cases hother

end Inquiry

end EntityQuery
