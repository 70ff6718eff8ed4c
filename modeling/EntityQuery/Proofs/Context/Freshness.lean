import EntityQuery.Proofs.Context.History
import EntityQuery.Proofs.Context.Renaming

/-!
# Answers without a history

What was done with a context before shows in the numbers of its entities and in what its memo holds,
and in nothing else.  A type has the same faults wherever it is registered, since known types have
none and are left out of the checks; and its entities are those of a context of its own, under other
numbers.  So every answer is the answer of a fresh context.
-/

namespace EntityQuery

variable {n : Nat} {catalog : Catalog n} {naming : Naming} {type : Fin n}

/-! ### The same faults -/

namespace Catalog

/-- What the checks of these types say, all in all: the first fault, if there is one. -/
def verdict (catalog : Catalog n) (types : List (Fin n)) : Result Unit :=
  (types.mapM fun other => (catalog other).check).map fun _ => ()

theorem mapM_check_map {α : Type} (types : List (Fin n)) (value : α) :
    ((types.mapM fun other => (catalog other).check).map fun _ => value) =
      (catalog.verdict types).map fun _ => value := by
  unfold verdict
  cases types.mapM fun other => (catalog other).check <;> rfl

theorem verdict_cons (types : List (Fin n)) :
    catalog.verdict (type :: types) = (catalog type).check >>= fun _ => catalog.verdict types := by
  unfold verdict
  rw [List.mapM_cons]
  cases (catalog type).check with
  | error error => rfl
  | ok value =>
      change Except.map _ (types.mapM (fun other => (catalog other).check) >>= _) = Except.map _ _
      cases types.mapM fun other => (catalog other).check <;> rfl

/-- Known types pass the checks, so that leaving them out makes no difference. -/
theorem verdict_unknown {known : List (Fin n)}
    (hknown : ∀ other ∈ known, (catalog other).check = .ok ()) (types : List (Fin n)) :
    catalog.verdict (unknown known types) = catalog.verdict types := by
  induction types with
  | nil => rfl
  | cons other types ih =>
      by_cases hother : other ∈ known
      · rw [unknown_cons_of_mem hother, verdict_cons, hknown other hother, ih]
        rfl
      · rw [unknown_cons_of_notMem hother, verdict_cons, verdict_cons, ih]

end Catalog

namespace EntityDeclaration

variable {ε δ γ : Type}

theorem map_map (declaration : EntityDeclaration ε) (f : ε → δ) (g : δ → γ) :
    (declaration.map f).map g = declaration.map (g ∘ f) := by
  have hshape : ∀ shape : Shape ε, (shape.map f).map g = shape.map (g ∘ f) := by
    intro shape
    cases shape <;> rfl
  simp [EntityDeclaration.map, PropertyDeclaration.map, hshape]

theorem entity_rename (declaration : EntityDeclaration EntityId) (id : EntityId)
    (f : EntityId → EntityId) :
    (declaration.entity naming id).rename f = (declaration.map f).entity naming (f id) := by
  have hproperties : (declaration.properties.mapIdx (PropertyDeclaration.property naming id)).map
      (Property.rename f) =
        (declaration.properties.map (PropertyDeclaration.map f)).mapIdx
          (PropertyDeclaration.property naming (f id)) := by
    apply List.ext_getElem
    · simp
    · intro index _ _
      simp [PropertyDeclaration.property, PropertyDeclaration.map, Property.rename]
  have hidentifier : declaration.properties.findIdx? PropertyDeclaration.isIdentifier =
      (declaration.properties.map (PropertyDeclaration.map f)).findIdx?
        PropertyDeclaration.isIdentifier := by
    rw [List.findIdx?_map]
    rfl
  simp only [Entity.rename, entity, EntityDeclaration.map, hproperties, hidentifier]
  rfl

end EntityDeclaration

namespace Registry

variable {registry small large : Registry n}

/-- Whether a call succeeds, and its error if not, depends on the type alone. -/
theorem Settled.call_eq (hsettled : registry.Settled catalog) (type : Fin n) :
    registry.call catalog type =
      (catalog.verdict (catalog.discover [] [] [type])).map fun _ =>
        entityOf catalog (registry.after catalog type).schema.naming
          (registry.after catalog type).types type := by
  have hclosed : catalog.Closed ([] : List (Fin n)) := fun _ hmem => absurd hmem List.not_mem_nil
  have hvalid : ∀ other ∈ registry.types, (catalog other).check = .ok () :=
    fun other hother => EntityDeclaration.check_eq_ok_iff.mpr (hsettled.valid other hother)
  by_cases hmem : type ∈ registry.types
  · obtain ⟨values, hvalues⟩ : Result.Succeeds
        ((catalog.discover [] [] [type]).mapM fun other => (catalog other).check) := by
      refine Result.succeeds_mapM.mpr fun other hother => ⟨(), hvalid other ?_⟩
      exact hsettled.closed.mem_of_reaches hmem ((Catalog.mem_discover_iff hclosed).mp hother).1
    rw [call, hsettled.register?_of_mem hmem, Catalog.verdict, hvalues]
    rfl
  · have hsame : catalog.verdict (catalog.discover registry.types [] [type]) =
        catalog.verdict (catalog.discover [] [] [type]) := by
      have hnothing : Catalog.unknown registry.types [] = [] := rfl
      rw [← Catalog.verdict_unknown hvalid (catalog.discover [] [] [type]),
        Catalog.unknown_discover hsettled.closed, hnothing]
    rw [call, hsettled.register?_of_notMem hmem, Catalog.mapM_check_map, hsame]
    cases catalog.verdict (catalog.discover [] [] [type]) <;> rfl

/-! ### Other numbers -/

/-- The number in the large registry of the type with this number in the small one. -/
def translate (small large : Registry n) (id : EntityId) : EntityId :=
  match small.types[id]? with
  | some type => large.types.idxOf type
  | none => id

theorem translate_idxOf (h : type ∈ small.types) :
    small.translate large (small.types.idxOf type) = large.types.idxOf type := by
  rw [translate, List.getElem?_idxOf h]

theorem entityOf_rename (hclosed : catalog.Closed small.types) (h : type ∈ small.types) :
    (entityOf catalog naming small.types type).rename (small.translate large) =
      entityOf catalog naming large.types type := by
  have hshapes : ((catalog type).map small.types.idxOf).map (small.translate large) =
      (catalog type).map large.types.idxOf := by
    rw [EntityDeclaration.map_map]
    exact EntityDeclaration.map_congr fun target htarget =>
      translate_idxOf (hclosed type h target htarget)
  rw [entityOf, entityOf, EntityDeclaration.entity_rename, hshapes, translate_idxOf h]

/-- A settled registry embeds in every other that has its types. -/
theorem Settled.embeds (hsmall : small.Settled catalog) (hlarge : large.Settled catalog)
    (hnaming : large.schema.naming = small.schema.naming)
    (htypes : ∀ type ∈ small.types, type ∈ large.types) :
    Schema.Embeds (small.translate large) small.schema large.schema where
  naming := hnaming
  entity := by
    intro id entity hentity
    obtain ⟨type, htype, rfl⟩ := hsmall.entity?_eq_some_iff.mp hentity
    have hmem := List.mem_of_getElem? htype
    have hid := hsmall.idxOf_eq htype
    change _ = some (Entity.rename _ (((catalog type).map small.types.idxOf).entity _ id))
    rw [← hid]
    change _ = some ((entityOf catalog small.schema.naming small.types type).rename _)
    rw [entityOf_rename hsmall.closed hmem, translate_idxOf hmem, ← hnaming]
    exact hlarge.entity?_of_mem (htypes type hmem)

/-- What a call finds is what it finds in an empty registry, under other numbers. -/
theorem Settled.call_eq_rename (hsettled : registry.Settled catalog)
    (hnaming : registry.schema.naming = naming) {root : Entity}
    (h : (empty naming).call catalog type = .ok root) :
    ∃ f, Schema.Embeds f ((empty naming).after catalog type).schema
        (registry.after catalog type).schema ∧
      registry.call catalog type = .ok (root.rename f) := by
  have hempty : (empty naming : Registry n).Settled catalog := settled_empty naming
  have hsmall := hempty.after type
  have hlarge := hsettled.after type
  have hnamings : (registry.after catalog type).schema.naming =
      ((empty naming : Registry n).after catalog type).schema.naming := by
    rw [hsettled.naming_after, hempty.naming_after, hnaming]
    rfl
  have hchecks : registry.call catalog type = .ok (entityOf catalog
      (registry.after catalog type).schema.naming (registry.after catalog type).types type) := by
    rw [hempty.call_eq] at h
    rw [hsettled.call_eq]
    cases hverdict : catalog.verdict (catalog.discover [] [] [type]) with
    | error error =>
        rw [hverdict] at h
        cases h
    | ok _ => rfl
  have htypes : ∀ other ∈ ((empty naming).after catalog type).types,
      other ∈ (registry.after catalog type).types := by
    intro other hother
    have hreaches := (hempty.mem_types_after hother).resolve_left List.not_mem_nil
    exact hlarge.closed.mem_of_reaches (hsettled.mem_types_of_call hchecks) hreaches
  refine ⟨_, hsmall.embeds hlarge hnamings htypes, ?_⟩
  rw [hchecks, (call_eq_ok h).2, entityOf_rename hsmall.closed (hempty.mem_types_of_call h),
    hnamings]

/-- What a call fails with is what it fails with in an empty registry. -/
theorem Settled.call_eq_error (hsettled : registry.Settled catalog) {error : Error}
    (h : (empty naming).call catalog type = .error error) :
    registry.call catalog type = .error error := by
  rw [(settled_empty naming).call_eq] at h
  rw [hsettled.call_eq]
  cases hverdict : catalog.verdict (catalog.discover [] [] [type]) with
  | error cause =>
      rw [hverdict] at h
      cases h
      rfl
  | ok _ =>
      rw [hverdict] at h
      cases h

end Registry

/-! ### Answers -/

namespace Catalog

/-- What a context of its own tells about a path of the type. -/
def report (catalog : Catalog n) (naming : Naming) (type : Fin n) (text : String) :
    Result PathReport := do
  let root ← (Registry.empty naming).call catalog type
  let path ← ((Registry.empty naming).after catalog type).schema.resolve root text
  return ((Registry.empty naming).after catalog type).schema.report path

/-- The statement that a context of its own renders. -/
def statement (catalog : Catalog n) (naming : Naming) (dialect : Dialect) (kind : StatementKind)
    (query : Query) (distinct : Bool) : Inquiry.Subject n → Result Statement
  | .entity type => do
      let entity ← (Registry.empty naming).call catalog type
      Renderer.render ⟨dialect, ((Registry.empty naming).after catalog type).schema⟩ kind
        { Selection.ofEntity entity with query, distinct }
  | .table table =>
      Renderer.render ⟨dialect, .empty naming⟩ kind { Selection.ofTable table with query, distinct }

end Catalog

namespace Inquiry

variable {registry : Registry n} (hsettled : registry.Settled catalog)
  (hnaming : registry.schema.naming = naming)

include hsettled

include hnaming in
theorem leads_report (text : String) :
    Leads registry (registry.after catalog type) (pathReport catalog type text)
      (catalog.report naming type text) := by
  have hreport := leads_pathReport hsettled type text
  unfold Catalog.report
  cases hcall : (Registry.empty naming : Registry n).call catalog type with
  | error error =>
      rw [hsettled.call_eq_error hcall] at hreport
      exact hreport
  | ok root =>
      have hempty : (Registry.empty naming : Registry n).Settled catalog :=
        Registry.settled_empty naming
      have hwell := (hempty.after type).schema_wellFormed
      have hroot := hempty.entity?_of_call hcall
      obtain ⟨f, hembeds, hcalled⟩ := hsettled.call_eq_rename hnaming hcall
      rw [hcalled] at hreport
      change Leads _ _ _ (Schema.resolve _ (root.rename f) text >>= _) at hreport
      rw [hembeds.resolve hwell text hroot] at hreport
      change Leads _ _ _ (Schema.resolve _ root text >>= _)
      cases hpath :
        ((Registry.empty naming : Registry n).after catalog type).schema.resolve root text with
      | error error =>
          rw [hpath] at hreport
          exact hreport
      | ok path =>
          rw [hpath] at hreport
          change Leads _ _ _ (.ok (Schema.report _ (path.rename f))) at hreport
          rw [hembeds.report hwell (hsettled.after type).schema_wellFormed
            (Schema.hasPath_resolve hroot hpath).1] at hreport
          exact hreport

include hnaming in
theorem leads_statement_entity_alone {dialect : Dialect} {kind : StatementKind} {query : Query}
    {distinct : Bool} :
    Leads registry (registry.after catalog type)
      (statement catalog dialect kind (.entity type) query distinct)
      (catalog.statement naming dialect kind query distinct (.entity type)) := by
  have hentity := leads_entity hsettled type
  unfold statement selection Catalog.statement
  dsimp only
  rw [bind_assoc]
  cases hcall : (Registry.empty naming : Registry n).call catalog type with
  | error error =>
      rw [hsettled.call_eq_error hcall] at hentity
      exact hentity.bind_error
  | ok root =>
      have hempty : (Registry.empty naming : Registry n).Settled catalog :=
        Registry.settled_empty naming
      obtain ⟨f, hembeds, hcalled⟩ := hsettled.call_eq_rename hnaming hcall
      rw [hcalled] at hentity
      refine hentity.bind_ok ?_
      rw [pure_bind]
      exact gives_render (hembeds.matches_rename (hempty.after type).schema_wellFormed
        (hsettled.after type).schema_wellFormed rfl (hempty.entity?_of_call hcall))

theorem gives_statement_table_alone {dialect : Dialect} {kind : StatementKind} {table : Table}
    {query : Query} {distinct : Bool} :
    Gives registry (statement catalog dialect kind (.table table) query distinct)
      (catalog.statement naming dialect kind query distinct (.table table)) := by
  unfold statement selection
  rw [pure_bind]
  exact gives_render (matches_of_none hsettled.schema_wellFormed rfl)

end Inquiry

namespace History.Sound

variable {history : History n} (h : history.Sound catalog naming)

include h

theorem answer?_pathReport (type : Fin n) (text : String) :
    (Inquiry.pathReport catalog type text).answer? history.context =
      some (catalog.report naming type text) :=
  (Inquiry.leads_report h.settled h.naming text).answer? h.keeps

theorem answer?_statement (dialect : Dialect) (kind : StatementKind) (subject : Inquiry.Subject n)
    (query : Query) (distinct : Bool) :
    (Inquiry.statement catalog dialect kind subject query distinct).answer? history.context =
      some (catalog.statement naming dialect kind query distinct subject) := by
  cases subject with
  | entity type => exact (Inquiry.leads_statement_entity_alone h.settled h.naming).answer? h.keeps
  | table table => exact (Inquiry.gives_statement_table_alone h.settled).answer? h.keeps

end History.Sound

/-- What is told about the paths of a type, and which statements are rendered, does not depend on
what was done with a context before, nor on whether paths are memoised: the answers are those of a
fresh context that names things alike.  They always come. -/
theorem History.answers_eq_fresh (catalog : Catalog n) (naming : Naming) (memoised other : Bool)
    (operations : List (Operation n)) :
    ∃ history, (start (Context.fresh naming memoised)).run catalog operations = some history ∧
      (∀ type text, ∃ report,
        (Inquiry.pathReport catalog type text).answer? history.context = some report ∧
          (Inquiry.pathReport catalog type text).answer? (Context.fresh naming other) =
            some report) ∧
      ∀ dialect kind subject query distinct, ∃ statement,
        (Inquiry.statement catalog dialect kind subject query distinct).answer? history.context =
            some statement ∧
          (Inquiry.statement catalog dialect kind subject query distinct).answer?
            (Context.fresh naming other) = some statement := by
  obtain ⟨history, hrun, hsound⟩ := exists_run catalog naming memoised operations
  have hfresh := sound_start catalog naming other
  refine ⟨history, hrun, fun type text => ?_, fun dialect kind subject query distinct => ?_⟩
  · exact ⟨_, hsound.answer?_pathReport type text, hfresh.answer?_pathReport type text⟩
  · exact ⟨_, hsound.answer?_statement dialect kind subject query distinct,
      hfresh.answer?_statement dialect kind subject query distinct⟩

end EntityQuery
