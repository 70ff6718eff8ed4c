import EntityQuery.Context.Inquiry
import EntityQuery.Proofs.Path.Ancestor

/-!
# What an inquiry gives

The memo of a context is transparent: it keeps paths of the schema under their own keys, and a key
determines its path, so that a path that is looked up is the path that was asked for.  An inquiry
then gives what the schema alone tells, whatever the memo holds and whether it is enabled.  That the
climbs from parent to parent end is part of it.
-/

namespace EntityQuery

variable {n : Nat} {α β : Type}

/-- The memo holds paths of the schema, each under its key. -/
def Schema.Keeps (schema : Schema) (paths : Memo PathKey Path) : Prop :=
  ∀ entry ∈ paths.entries, entry.2.key = entry.1 ∧ schema.HasPath entry.2

theorem Schema.Keeps.get? {schema : Schema} {paths : Memo PathKey Path} {key : PathKey}
    {path : Path} (h : schema.Keeps paths) (hget : paths.get? key = some path) :
    path.key = key ∧ schema.HasPath path := by
  obtain ⟨before, behind, hentries, -⟩ := List.lookup_eq_some_iff.mp hget
  have hmem : (key, path) ∈ paths.entries := by
    rw [hentries]
    exact List.mem_append_right _ List.mem_cons_self
  exact h (key, path) hmem

/-- A path is handed out as it is, be it kept or not. -/
theorem Context.handOut_eq {registry : Registry n} {paths : Memo PathKey Path} {path : Path}
    (hwell : registry.schema.WellFormed) (hkeeps : registry.schema.Keeps paths)
    (hpath : registry.schema.HasPath path) :
    ∃ after, registry.schema.Keeps after ∧
      (Context.mk registry paths).handOut path = (path, ⟨registry, after⟩) := by
  unfold Context.handOut Memo.getOrInsert
  cases paths.enabled with
  | false => exact ⟨paths.miss, hkeeps, rfl⟩
  | true =>
      cases hget : paths.get? path.key with
      | some kept =>
          obtain ⟨hkey, hkept⟩ := hkeeps.get? hget
          obtain rfl : kept = path := hwell.path_eq_of_key_eq hkept hpath hkey
          exact ⟨paths.hit, hkeeps, rfl⟩
      | none =>
          refine ⟨paths.miss.insert path.key path, ?_, rfl⟩
          exact List.forall_mem_cons.mpr ⟨⟨rfl, hpath⟩, hkeeps⟩

namespace Inquiry

/-- Whatever the memo holds, the inquiry ends with this result and leaves the second registry. -/
def Leads (registry registered : Registry n) (inquiry : Inquiry n α) (result : Result α) : Prop :=
  ∀ paths, registry.schema.Keeps paths → ∃ after, registered.schema.Keeps after ∧
    inquiry ⟨registry, paths⟩ = some (result, ⟨registered, after⟩)

/-- The inquiry ends with this result and registers nothing. -/
abbrev Gives (registry : Registry n) (inquiry : Inquiry n α) (result : Result α) : Prop :=
  Leads registry registry inquiry result

variable {registry registered : Registry n}

/-! ### Putting inquiries together -/

/-- What follows is put to the context that the first inquiry leaves, unless that failed. -/
theorem bind_apply (first : Inquiry n α) (next : α → Inquiry n β) (context : Context n) :
    (first >>= next) context = (first context).bind fun
      | (.ok value, after) => next value after
      | (.error error, after) => some (.error error, after) := by
  change Option.bind (first context) (fun answer => ExceptT.bindCont next answer.1 answer.2) = _
  congr 1
  funext answer
  obtain ⟨_ | _, _⟩ := answer <;> rfl

theorem Leads.answer? {inquiry : Inquiry n α} {result : Result α} {context : Context n}
    (h : Leads context.registry registered inquiry result)
    (hkeeps : context.schema.Keeps context.paths) :
    inquiry.answer? context = some result := by
  obtain ⟨after, -, hrun⟩ := h context.paths hkeeps
  rw [Inquiry.answer?, hrun, Option.map_some]

theorem gives_of {result : Result α} (ask : Context n → Result α)
    (h : ∀ paths, ask ⟨registry, paths⟩ = result) :
    Gives registry (of fun context => (ask context, context)) result := by
  intro paths hkeeps
  refine ⟨paths, hkeeps, ?_⟩
  rw [← h paths]
  rfl

theorem gives_ofResult (result : Result α) : Gives registry (ofResult result) result :=
  gives_of _ fun _ => rfl

theorem gives_pure (value : α) : Gives registry (pure value) (.ok value) :=
  gives_ofResult (.ok value)

theorem gives_throw (error : Error) : Gives registry (throw error : Inquiry n α) (.error error) :=
  gives_ofResult (.error error)

theorem gives_schema : Gives registry schema (.ok registry.schema) :=
  gives_of _ fun _ => rfl

theorem Leads.bind_error {first : Inquiry n α} {error : Error} {next : α → Inquiry n β}
    (hfirst : Leads registry registered first (.error error)) :
    Leads registry registered (first >>= next) (.error error) := by
  intro paths hkeeps
  obtain ⟨after, hafter, hrun⟩ := hfirst paths hkeeps
  refine ⟨after, hafter, ?_⟩
  rw [bind_apply, hrun]
  rfl

theorem Leads.bind_ok {first : Inquiry n α} {value : α} {next : α → Inquiry n β}
    {result : Result β} (hfirst : Leads registry registered first (.ok value))
    (hnext : Gives registered (next value) result) :
    Leads registry registered (first >>= next) result := by
  intro paths hkeeps
  obtain ⟨middle, hmiddle, hrun⟩ := hfirst paths hkeeps
  obtain ⟨after, hafter, hrest⟩ := hnext middle hmiddle
  refine ⟨after, hafter, ?_⟩
  rw [bind_apply, hrun]
  exact hrest

/-- Inquiries follow each other as their results do. -/
theorem Leads.bind {first : Inquiry n α} {result : Result α} {next : α → Inquiry n β}
    {rest : α → Result β} (hfirst : Leads registry registered first result)
    (hnext : ∀ value, result = .ok value → Gives registered (next value) (rest value)) :
    Leads registry registered (first >>= next) (result >>= rest) := by
  cases result with
  | error error => exact hfirst.bind_error
  | ok value => exact hfirst.bind_ok (hnext value rfl)

theorem Leads.map {inquiry : Inquiry n α} {result : Result α} (f : α → β)
    (h : Gives registry inquiry result) : Gives registry (f <$> inquiry) (f <$> result) := by
  have hbind : Gives registry (inquiry >>= fun value => pure (f value))
      (result >>= fun value => pure (f value)) :=
    h.bind fun value _ => gives_pure (f value)
  rwa [bind_pure_comp, bind_pure_comp] at hbind

theorem Leads.outcome {inquiry : Inquiry n α} {result : Result α}
    (h : Gives registry inquiry result) : Gives registry (outcome inquiry) (.ok result) := by
  intro paths hkeeps
  obtain ⟨after, hafter, hrun⟩ := h paths hkeeps
  refine ⟨after, hafter, ?_⟩
  unfold Inquiry.outcome
  rw [hrun, Option.map_some]

/-! ### Paths -/

section Paths

variable (hwell : registry.schema.WellFormed) {path : Path}

include hwell

theorem gives_handOut (hpath : registry.schema.HasPath path) :
    Gives registry (handOut path) (.ok path) := by
  intro paths hkeeps
  obtain ⟨after, hafter, hrun⟩ := Context.handOut_eq hwell hkeeps hpath
  refine ⟨after, hafter, ?_⟩
  simp only [handOut, of, Context.answer, hrun]

/-- A path that is resolved is handed out, and an error is passed on. -/
theorem gives_answer {ask : Context n → Result Path} {result : Result Path}
    (hask : ∀ paths, ask ⟨registry, paths⟩ = result)
    (hpath : ∀ path, result = .ok path → registry.schema.HasPath path) :
    Gives registry (of fun context => context.answer (ask context)) result := by
  intro paths hkeeps
  simp only [of, hask paths]
  cases result with
  | error error => exact ⟨paths, hkeeps, rfl⟩
  | ok path => exact gives_handOut hwell (hpath path rfl) paths hkeeps

theorem gives_rootPath (id : EntityId) :
    Gives registry (rootPath id) (registry.schema.rootPath id) :=
  gives_answer hwell (fun _ => rfl) fun _ h => Schema.hasPath_rootPath hwell h

theorem gives_append (hpath : registry.schema.HasPath path) (name : String) :
    Gives registry (append path name) (registry.schema.append path name) :=
  gives_answer hwell (fun _ => rfl) fun _ h => Schema.hasPath_append hpath h

theorem gives_parent (hpath : registry.schema.HasPath path) :
    Gives registry (parent path) (registry.schema.parent path) :=
  gives_answer hwell (fun _ => rfl) fun _ h => hwell.hasPath_parent hpath h

/-- Taking parents drops as many segments, down to the root and no further. -/
theorem gives_ancestor (steps : Nat) (hpath : registry.schema.HasPath path) :
    Gives registry (ancestor steps path)
      (if steps ≤ path.length then .ok (path.above steps) else .error .rootWithoutParent) := by
  induction steps generalizing path with
  | zero => exact gives_pure path
  | succ steps ih =>
      have hparent := gives_parent hwell hpath
      rw [ancestor]
      cases hroot : path.isRoot with
      | true =>
          have hlength : path.length = 0 := List.length_eq_zero_iff.mpr (List.isEmpty_iff.mp hroot)
          rw [Schema.WellFormed.parent_of_isRoot hroot] at hparent
          rw [if_neg (by omega)]
          exact hparent.bind_error
      | false =>
          have hlength : 0 < path.length := by
            rw [← Path.above_zero path, Bool.eq_false_iff, Ne, Path.isRoot_above_iff] at hroot
            omega
          have hshorter : (path.above 1).length = path.length - 1 := List.length_drop
          have hrest := ih (hpath.above 1)
          rw [Path.above_above, Nat.add_comm 1 steps, hshorter] at hrest
          rw [hwell.parent_eq hpath hroot] at hparent
          have hsteps : steps + 1 ≤ path.length ↔ steps ≤ path.length - 1 := by omega
          simp only [hsteps]
          exact hparent.bind_ok hrest

theorem gives_identifierParent (hpath : registry.schema.HasPath path) :
    Gives registry (identifierParent path) (registry.schema.identifierParent path) := by
  induction hpath using Schema.HasPath.induction with
  | root path hpath hroot =>
      have hparent := gives_parent hwell hpath
      rw [Schema.WellFormed.parent_of_isRoot hroot] at hparent
      rw [identifierParent, Schema.WellFormed.identifierParent_of_isRoot hroot]
      exact hparent.bind_error
  | step path hpath hroot ih =>
      have hparent := gives_parent hwell hpath
      rw [hwell.parent_eq hpath hroot] at hparent
      rw [identifierParent, hwell.identifierParent_eq hpath hroot]
      refine hparent.bind_ok (gives_schema.bind_ok ?_)
      split
      · exact gives_pure _
      · exact ih

theorem gives_tableOwner (hpath : registry.schema.HasPath path) :
    Gives registry (tableOwner path) (registry.schema.tableOwner path) := by
  induction hpath using Schema.HasPath.induction with
  | root path hpath hroot =>
      have hrows : Schema.storesRows path = true :=
        Schema.storesRows_iff.mpr (Path.hasTable_of_isRoot hroot)
      rw [tableOwner, Schema.isEntity_and_not_isEmbedded, hwell.tableOwner_eq hpath, if_pos hrows,
        if_pos hrows]
      exact gives_pure path
  | step path hpath hroot ih =>
      have hparent := gives_parent hwell hpath
      rw [hwell.parent_eq hpath hroot] at hparent
      rw [tableOwner, Schema.isEntity_and_not_isEmbedded, hwell.tableOwner_eq hpath]
      split
      · exact gives_pure path
      · exact hparent.bind_ok ih

end Paths

end Inquiry

end EntityQuery
