import EntityQuery.Context.History
import EntityQuery.Proofs.Context.Registering

/-!
# Histories

Each step that is done with a context ends, and keeps what every question relies on: the registry is
settled, and the memo and the paths handed out hold paths of the schema.  So all that is true of a
sound context is true after any history that began with nothing registered.
-/

namespace EntityQuery

variable {n : Nat} {catalog : Catalog n} {naming : Naming}

/-- A context with nothing registered. -/
def Context.fresh (naming : Naming) (memoised : Bool) : Context n :=
  ⟨.empty naming, if memoised then .empty else .disabled⟩

/-- The first type that is registered brings all types that can be reached, in the order in which
they are found. -/
theorem Context.entity?_fresh {memoised : Bool} {type : Fin n} {types : List (Fin n)}
    (htypes : catalog.discover [] [] [type] = types)
    (hvalid : ∀ other ∈ types, (catalog other).check = .ok ()) :
    (Context.fresh naming memoised).entity? catalog type =
      .ok (Registry.entityOf catalog naming types type,
        ⟨⟨⟨naming, types.map (Registry.entityOf catalog naming types)⟩, types.zipIdx⟩,
          (Context.fresh naming memoised : Context n).paths⟩) := by
  have hsettled : (Registry.empty naming : Registry n).Settled catalog :=
    Registry.settled_empty naming
  obtain ⟨values, hvalues⟩ : Result.Succeeds (types.mapM fun other => (catalog other).check) :=
    Result.succeeds_mapM.mpr fun other hother => ⟨(), hvalid other hother⟩
  have hfound : catalog.discover (Registry.empty naming : Registry n).types [] [type] = types :=
    htypes
  have hregister := hsettled.register?_of_notMem (List.not_mem_nil : type ∉ _)
  rw [hfound, hvalues] at hregister
  rw [Context.entity?_eq hsettled]
  change Except.map _ (Registry.call catalog (Registry.empty naming) type) = _
  rw [Registry.call, hregister, fresh, Registry.after_of_ok hregister, Registry.types_extend]
  rfl

namespace History

structure Sound (catalog : Catalog n) (naming : Naming) (history : History n) : Prop where
  settled : history.context.registry.Settled catalog
  naming : history.context.schema.naming = naming
  keeps : history.context.schema.Keeps history.context.paths
  paths : ∀ path ∈ history.paths, history.context.schema.HasPath path

theorem sound_start (catalog : Catalog n) (naming : Naming) (memoised : Bool) :
    (start (Context.fresh naming memoised)).Sound catalog naming where
  settled := Registry.settled_empty naming
  naming := rfl
  keeps := by
    intro entry hentry
    cases memoised <;> cases hentry
  paths := by
    intro path hpath
    cases hpath

/-- A path that was handed out, or that can be resolved from a registered entity. -/
def Knows (history : History n) (path : Path) : Prop :=
  path ∈ history.paths ∨ ∃ root ∈ history.context.schema.entities, ∃ text,
    history.context.schema.resolve root text = .ok path

theorem knows_of_walk {history : History n} {root : Entity} {text : String} {names : List String}
    {climb : List Segment} (hroot : root ∈ history.context.schema.entities) (htext : text ≠ "")
    (hpieces : Text.pieces '.' text = names)
    (hwalk : history.context.schema.walk text root names = .ok climb.reverse) :
    history.Knows ⟨root, climb⟩ := by
  refine .inr ⟨root, hroot, text, ?_⟩
  rw [Schema.resolve, if_neg htext, hpieces, hwalk]
  exact congrArg Except.ok (congrArg (Path.mk root) climb.reverse_reverse)

theorem run_register {history : History n} {type : Fin n} {entity : Entity} {context : Context n}
    (h : history.context.entity? catalog type = .ok (entity, context)) :
    history.run catalog [.register type] = some ⟨context, history.paths⟩ := by
  simp only [run, List.foldlM_cons, List.foldlM_nil, perform, ask, Inquiry.entity, Inquiry.of,
    Context.entity?_eq_ok_iff.mp h, Option.map_some]
  rfl

namespace Sound

variable {history : History n} (h : history.Sound catalog naming)

include h

theorem wellFormed : history.context.schema.WellFormed :=
  h.settled.schema_wellFormed

theorem hasPath {path : Path} (hknows : history.Knows path) :
    history.context.schema.HasPath path := by
  rcases hknows with hhanded | ⟨root, hroot, text, hresolve⟩
  · exact h.paths path hhanded
  · exact (Schema.hasPath_resolve (h.wellFormed.entity?_of_mem hroot) hresolve).1

theorem answer? {α : Type} {inquiry : Inquiry n α} {result : Result α}
    (hgives : Inquiry.Gives history.context.registry inquiry result) :
    inquiry.answer? history.context = some result :=
  hgives.answer? h.keeps

/-- An inquiry keeps a history sound if it adds entities behind those that are there and answers
with paths of the schema. -/
theorem ask {α : Type} {registered : Registry n} {inquiry : Inquiry n α} {result : Result α}
    {kept : α → List Path}
    (hleads : Inquiry.Leads history.context.registry registered inquiry result)
    (hsettled : registered.Settled catalog) (hnaming : registered.schema.naming = naming)
    (hentities : history.context.schema.entities <+: registered.schema.entities)
    (hkept : ∀ answer, result = .ok answer → ∀ path ∈ kept answer, registered.schema.HasPath path) :
    ∃ next, history.ask inquiry kept = some next ∧ next.Sound catalog naming := by
  obtain ⟨after, hafter, hrun⟩ := hleads history.context.paths h.keeps
  have hpaths : ∀ path ∈ history.paths, registered.schema.HasPath path :=
    fun path hpath => (h.paths path hpath).of_isPrefix hentities
  cases result with
  | error error =>
      refine ⟨⟨⟨registered, after⟩, history.paths⟩, ?_, ⟨hsettled, hnaming, hafter, hpaths⟩⟩
      simp only [History.ask, hrun, Option.map_some]
  | ok answer =>
      refine ⟨⟨⟨registered, after⟩, kept answer ++ history.paths⟩, ?_,
        ⟨hsettled, hnaming, hafter, ?_⟩⟩
      · simp only [History.ask, hrun, Option.map_some]
      · exact List.forall_mem_append.mpr ⟨hkept answer rfl, hpaths⟩

/-- Nothing is registered by most inquiries. -/
theorem ask_gives {α : Type} {inquiry : Inquiry n α} {result : Result α} {kept : α → List Path}
    (hgives : Inquiry.Gives history.context.registry inquiry result)
    (hkept : ∀ answer, result = .ok answer →
      ∀ path ∈ kept answer, history.context.schema.HasPath path) :
    ∃ next, history.ask inquiry kept = some next ∧ next.Sound catalog naming :=
  h.ask hgives h.settled h.naming List.prefix_rfl hkept

theorem ask_registering {α : Type} {type : Fin n} {inquiry : Inquiry n α} {result : Result α}
    {kept : α → List Path}
    (hleads : Inquiry.Leads history.context.registry (history.context.registry.after catalog type)
      inquiry result)
    (hkept : ∀ answer, result = .ok answer → ∀ path ∈ kept answer,
      (history.context.registry.after catalog type).schema.HasPath path) :
    ∃ next, history.ask inquiry kept = some next ∧ next.Sound catalog naming :=
  h.ask hleads (h.settled.after type) ((h.settled.naming_after type).trans h.naming)
    (h.settled.isPrefix_after type) hkept

theorem askAt {α : Type} {place : Nat} {inquiry : Path → Inquiry n α} {kept : α → List Path}
    (hask : ∀ path, history.context.schema.HasPath path →
      ∃ next, history.ask (inquiry path) kept = some next ∧ next.Sound catalog naming) :
    ∃ next, history.askAt place inquiry kept = some next ∧ next.Sound catalog naming := by
  unfold History.askAt
  cases hplace : history.paths[place]? with
  | none => exact ⟨history, rfl, h⟩
  | some path => exact hask path (h.paths path (List.mem_of_getElem? hplace))

/-- A question about a path that was handed out, whose answer is a path. -/
theorem askAt_path {place : Nat} {inquiry : Path → Inquiry n Path} {result : Path → Result Path}
    (hgives : ∀ path, history.context.schema.HasPath path →
      Inquiry.Gives history.context.registry (inquiry path) (result path))
    (hresult : ∀ path, history.context.schema.HasPath path → ∀ answer, result path = .ok answer →
      history.context.schema.HasPath answer) :
    ∃ next, history.askAt place inquiry (fun path => [path]) = some next ∧
      next.Sound catalog naming := by
  refine h.askAt fun path hpath => h.ask_gives (hgives path hpath) fun answer hanswer => ?_
  exact List.forall_mem_singleton.mpr (hresult path hpath answer hanswer)

/-- One step ends and keeps the history sound. -/
theorem perform (operation : Operation n) :
    ∃ next, history.perform catalog operation = some next ∧ next.Sound catalog naming := by
  have hwell := h.wellFormed
  cases operation with
  | register type =>
      exact h.ask_registering (Inquiry.leads_entity h.settled type) fun _ _ => by simp
  | rootPath id =>
      refine h.ask_gives (Inquiry.gives_rootPath hwell id) fun path hpath => ?_
      exact List.forall_mem_singleton.mpr (Schema.hasPath_rootPath hwell hpath)
  | resolve type text =>
      refine h.ask_registering (Inquiry.leads_resolve h.settled type text) fun path hpath => ?_
      obtain ⟨root, hroot, hpath⟩ := Result.bind_eq_ok.mp hpath
      exact List.forall_mem_singleton.mpr (Inquiry.hasPath_of_call h.settled type hroot hpath)
  | above place steps =>
      refine h.askAt_path (fun path hpath => Inquiry.gives_handOut hwell (hpath.above steps)) ?_
      rintro path hpath _ ⟨⟩
      exact hpath.above steps
  | append place name =>
      exact h.askAt_path (fun path hpath => Inquiry.gives_append hwell hpath name)
        fun path hpath answer hanswer => Schema.hasPath_append hpath hanswer
  | parent place =>
      exact h.askAt_path (fun path hpath => Inquiry.gives_parent hwell hpath)
        fun path hpath answer hanswer => hwell.hasPath_parent hpath hanswer
  | identifierParent place =>
      exact h.askAt_path (fun path hpath => Inquiry.gives_identifierParent hwell hpath)
        fun path hpath answer hanswer => hwell.hasPath_identifierParent hpath hanswer
  | tableOwner place =>
      exact h.askAt_path (fun path hpath => Inquiry.gives_tableOwner hwell hpath)
        fun path hpath answer hanswer => hwell.hasPath_tableOwner hpath hanswer
  | report place =>
      refine h.askAt fun path hpath => h.ask_gives (Inquiry.gives_report hwell hpath) ?_
      exact fun _ _ => by simp
  | statement dialect kind subject query distinct =>
      cases subject with
      | entity type =>
          exact h.ask_registering (Inquiry.leads_statement_entity h.settled type) fun _ _ => by simp
      | table table =>
          exact h.ask_gives (Inquiry.gives_statement_table h.settled) fun _ _ => by simp

theorem run (operations : List (Operation n)) :
    ∃ next, history.run catalog operations = some next ∧ next.Sound catalog naming := by
  induction operations generalizing history with
  | nil => exact ⟨history, rfl, h⟩
  | cons operation operations ih =>
      obtain ⟨middle, hperform, hmiddle⟩ := h.perform operation
      obtain ⟨next, hrun, hnext⟩ := ih hmiddle
      refine ⟨next, ?_, hnext⟩
      rw [History.run, List.foldlM_cons, hperform]
      exact hrun

end Sound

/-- Whatever is done with a fresh context comes to an end, and leaves a sound one. -/
theorem exists_run (catalog : Catalog n) (naming : Naming) (memoised : Bool)
    (operations : List (Operation n)) :
    ∃ history, (start (Context.fresh naming memoised)).run catalog operations = some history ∧
      history.Sound catalog naming :=
  (sound_start catalog naming memoised).run operations

theorem sound_of_run {memoised : Bool} {operations : List (Operation n)} {history : History n}
    (h : (start (Context.fresh naming memoised)).run catalog operations = some history) :
    history.Sound catalog naming := by
  obtain ⟨same, hsame, hsound⟩ := exists_run catalog naming memoised operations
  obtain rfl : history = same := Option.some.inj (h.symm.trans hsame)
  exact hsound

end History

end EntityQuery
