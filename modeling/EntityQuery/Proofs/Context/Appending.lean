import EntityQuery.Proofs.Context.History
import EntityQuery.Proofs.Path.Appending

/-!
# Resolving, appending and printing

Whatever was done with a context before, a dotted path is resolved as its names are appended one
after another, and printing undoes both.
-/

namespace EntityQuery

namespace Inquiry

variable {n : Nat} {catalog : Catalog n} {registry : Registry n}

/-- Appends names one after another, from the root path of a type on. -/
def appended (catalog : Catalog n) (type : Fin n) (names : List String) : Inquiry n Path := do
  names.foldlM append (← resolve catalog type "")

theorem gives_foldlM_append (hwell : registry.schema.WellFormed) {names : List String} {path : Path}
    (hpath : registry.schema.HasPath path) :
    Gives registry (names.foldlM append path) (names.foldlM registry.schema.append path) := by
  induction names generalizing path with
  | nil => exact gives_pure path
  | cons name names ih =>
      rw [List.foldlM_cons, List.foldlM_cons]
      exact (gives_append hwell hpath name).bind fun other hother =>
        ih (Schema.hasPath_append hpath hother)

theorem leads_appended (hsettled : registry.Settled catalog) (type : Fin n) (names : List String) :
    Leads registry (registry.after catalog type) (appended catalog type names)
      (registry.call catalog type >>= fun root =>
        names.foldlM (registry.after catalog type).schema.append (.ofRoot root)) := by
  have hroot : ∀ root : Entity, (registry.after catalog type).schema.resolve root "" =
      .ok (.ofRoot root) := fun root => if_pos rfl
  have hresolve := leads_resolve hsettled type ""
  simp only [hroot] at hresolve
  have hassoc : (registry.call catalog type >>= fun root =>
      names.foldlM (registry.after catalog type).schema.append (.ofRoot root)) =
        (registry.call catalog type >>= fun root => .ok (.ofRoot root)) >>= fun path =>
          names.foldlM (registry.after catalog type).schema.append path := by
    rw [bind_assoc]
    rfl
  rw [hassoc]
  refine hresolve.bind fun path hpath => ?_
  obtain ⟨root, hcall, hok⟩ := Result.bind_eq_ok.mp hpath
  obtain rfl : .ofRoot root = path := Except.ok.inj hok
  exact gives_foldlM_append (hsettled.after type).schema_wellFormed
    (.ofRoot (hsettled.entity?_of_call hcall))

end Inquiry

namespace History

open Inquiry

variable {n : Nat} {catalog : Catalog n} {naming : Naming} {memoised : Bool}
  {operations : List (Operation n)} {history : History n} {type : Fin n} {root : Entity}
  {registered : Context n}

/-- For a type that is registered, or can be, a text that is not empty leads to a path exactly if
its pieces can be appended one after another.  Both give the same path, which is printed as the
text, or fail for their arguments: a property that is found by its name stands at its place, and an
entity that a property refers to is registered.  What is printed of a path leads to it again, if its
names are not empty and hold no point. -/
theorem resolve_agrees_with_appended
    (hrun : (start (Context.fresh naming memoised)).run catalog operations = some history)
    (hroot : entity catalog type history.context = some (.ok root, registered)) :
    (∀ text, text ≠ "" →
      (∃ path, (resolve catalog type text).answer? history.context = some (.ok path) ∧
        (appended catalog type (Text.pieces '.' text)).answer? history.context =
          some (.ok path) ∧ path.dotted = text) ∨
      ∃ error other, (resolve catalog type text).answer? history.context = some (.error error) ∧
        (appended catalog type (Text.pieces '.' text)).answer? history.context =
          some (.error other) ∧
        error.kind = .invalidArgument ∧ other.kind = .invalidArgument) ∧
    (∀ entity ∈ registered.schema.entities, ∀ name property,
      entity.property? name = some property →
        entity.propertyAt? property.index = some property ∧
        ∀ target, property.shape.target? = some target →
          ∃ related, registered.schema.required target = .ok related) ∧
    ∀ names path, (appended catalog type names).answer? history.context = some (.ok path) →
      (∀ name ∈ path.names, name ≠ "" ∧ '.' ∉ name.toList) →
        (resolve catalog type path.dotted).answer? history.context = some (.ok path) := by
  obtain ⟨same, hsame, hsound⟩ := exists_run catalog naming memoised operations
  obtain rfl : history = same := Option.some.inj (hrun.symm.trans hsame)
  have hsettled := hsound.settled
  obtain ⟨paths, hpaths, hentity⟩ := leads_entity hsettled type _ hsound.keeps
  obtain ⟨hcall, rfl⟩ := Prod.mk.inj (Option.some.inj (hentity.symm.trans hroot))
  have hwell := (hsettled.after type).schema_wellFormed
  have hregistered := hsettled.entity?_of_call hcall
  have hresolve : ∀ text, (resolve catalog type text).answer? history.context =
      some ((history.context.registry.after catalog type).schema.resolve root text) := by
    intro text
    have hleads := leads_resolve hsettled type text
    rw [hcall] at hleads
    exact hleads.answer? hsound.keeps
  have happended : ∀ names, (appended catalog type names).answer? history.context =
      some (names.foldlM (history.context.registry.after catalog type).schema.append
        (.ofRoot root)) := by
    intro names
    have hleads := leads_appended hsettled type names
    rw [hcall] at hleads
    exact hleads.answer? hsound.keeps
  refine ⟨fun text htext => ?_, fun entity hentity name property hproperty => ⟨?_, ?_⟩, ?_⟩
  · rw [hresolve, happended]
    obtain ⟨path, hresolved, hfolded⟩ | ⟨error, other, hresolved, hfolded, herror, hother⟩ :=
      (hwell.resolve_agreesAs hregistered htext).cases
    · refine .inl ⟨path, congrArg some hresolved, congrArg some hfolded, ?_⟩
      rw [Schema.dotted_foldlM_append hfolded]
      exact Text.intercalate_pieces '.' text
    · exact .inr ⟨error, other, congrArg some hresolved, congrArg some hfolded, herror, hother⟩
  · exact hwell.propertyAt?_of_property? hentity hproperty
  · intro target htarget
    obtain ⟨related, hrelated⟩ := hwell.exists_target entity.id entity
      (hwell.entity?_of_mem hentity) property (Schema.mem_properties_of_property? hproperty) target
      htarget
    exact ⟨related, Schema.required_eq_ok_iff.mpr hrelated⟩
  · intro names path hpath hnames
    rw [happended] at hpath
    rw [hresolve, hwell.resolve_dotted hregistered (Option.some.inj hpath) hnames]

/-- The street where the home of a friend is, through a person who refers to persons. -/
theorem resolve_agrees_with_appended_street :
    let person : EntityDeclaration (Fin 2) := ⟨"Person", some "person",
      [⟨"friend", .reference 0, some "friend", none, none, false⟩,
        ⟨"home", .embedded 1 "home_", some "home", none, none, false⟩]⟩
    let address : EntityDeclaration (Fin 2) := ⟨"Address", some "address",
      [⟨"street", .simple, some "street", none, none, false⟩]⟩
    let catalog : Catalog 2 := fun type => if type = 0 then person else address
    ∃ history root path,
      (start (Context.fresh .standard true)).run catalog [.register 0] = some history ∧
      entity catalog 0 history.context = some (.ok root, history.context) ∧
      path.names = ["friend", "home", "street"] ∧ path.dotted = "friend.home.street" ∧
      (appended catalog 0 path.names).answer? history.context = some (.ok path) ∧
      (resolve catalog 0 path.dotted).answer? history.context = some (.ok path) := by
  intro person address catalog
  have htypes : catalog.discover [] [] [0] = [0, 1] := by cbv
  have hvalid : ∀ other ∈ ([0, 1] : List (Fin 2)), (catalog other).check = .ok () := by decide
  let root := Registry.entityOf catalog .standard [0, 1] 0
  let place := Registry.entityOf catalog .standard [0, 1] 1
  let history : History 2 := ⟨⟨⟨⟨.standard, [root, place]⟩, [(0, 0), (1, 1)]⟩, .empty⟩, []⟩
  let path : Path := ⟨root, [⟨place, place.properties[0]⟩, ⟨root, root.properties[1]⟩,
    ⟨root, root.properties[0]⟩]⟩
  have hrun : (start (Context.fresh .standard true)).run catalog [.register 0] = some history :=
    run_register (Context.entity?_fresh htypes hvalid)
  have hroot : entity catalog 0 history.context = some (.ok root, history.context) := rfl
  have hnames : path.names = ["friend", "home", "street"] := rfl
  have happended : (appended catalog 0 path.names).answer? history.context = some (.ok path) := rfl
  have hplain : ∀ name ∈ path.names, name ≠ "" ∧ '.' ∉ name.toList := by
    rw [hnames]
    decide
  have hdotted : path.dotted = "friend.home.street" := by
    rw [Path.dotted, hnames]
    rfl
  exact ⟨history, root, path, hrun, hroot, hnames, hdotted, happended,
    (resolve_agrees_with_appended hrun hroot).2.2 path.names path happended hplain⟩

end History

end EntityQuery
