import EntityQuery.Proofs.Context.History

/-!
# Ancestors that a context hands out

Whatever was done with a context before, the ancestors of a path that it hands out are the longest
beginnings of the path that satisfy their tests, and a path starts with another exactly if the other
is among its ancestors.
-/

namespace EntityQuery.History

open Inquiry

variable {n : Nat} {catalog : Catalog n} {naming : Naming} {memoised : Bool}
  {operations : List (Operation n)} {history : History n} {path : Path}

/-- All climbs end.  A parent is the path without its last segment, from the same root, and taking
parents leads to the root in as many steps as there are segments.  The identifying parent is the
longest proper beginning that is the root or leads to an entity with an identifier, and the table
owner the longest beginning, the path included, that is the root or ends in a property that is
neither simple nor embedded. -/
theorem ancestors_of_path
    (hrun : (start (Context.fresh naming memoised)).run catalog operations = some history)
    (hknows : history.Knows path) (hnonempty : path.isRoot = false) :
    ((parent path).answer? history.context = some (.ok (path.above 1)) ∧
      path.dropLeaf? = some (path.above 1) ∧ (path.above 1).root = path.root ∧
      (path.above 1).segments = path.segments.dropLast) ∧
    (∀ steps ≤ path.length,
      (ancestor steps path).answer? history.context = some (.ok (path.above steps)) ∧
        ((path.above steps).isRoot = true ↔ steps = path.length)) ∧
    path.above path.length = .ofRoot path.root ∧
    (∃ steps, (identifierParent path).answer? history.context = some (.ok (path.above steps)) ∧
      IsLeast {steps | 0 < steps ∧ history.context.schema.Identifies (path.above steps)} steps) ∧
    (∃ steps, (tableOwner path).answer? history.context = some (.ok (path.above steps)) ∧
      IsLeast {steps | (path.above steps).HasTable} steps) ∧
    (tableOwner (.ofRoot path.root)).answer? history.context = some (.ok (.ofRoot path.root)) ∧
    ∀ other, history.Knows other →
      (path.startsWith other = true ↔
        ∃ steps, (ancestor steps path).answer? history.context = some (.ok other)) := by
  obtain ⟨same, hsame, hsound⟩ := exists_run catalog naming memoised operations
  obtain rfl : history = same := Option.some.inj (hrun.symm.trans hsame)
  have hwell := hsound.wellFormed
  have hpath := hsound.hasPath hknows
  have hancestor := fun steps => hsound.answer? (gives_ancestor hwell steps hpath)
  refine ⟨⟨?_, Path.dropLeaf?_eq hnonempty, rfl, ?_⟩, ?_, path.above_length, ?_, ?_, ?_, ?_⟩
  · exact (hsound.answer? (gives_parent hwell hpath)).trans
      (congrArg some (hwell.parent_eq hpath hnonempty))
  · rw [Path.segments_above, List.dropLast_eq_take]
    simp [Path.segments, Path.length]
  · intro steps hsteps
    refine ⟨by rw [hancestor, if_pos hsteps], ?_⟩
    rw [Path.isRoot_above_iff]
    omega
  · obtain ⟨steps, hsteps, hleast⟩ := hwell.identifierParent_isLeast hpath hnonempty
    have hanswer := hsound.answer? (gives_identifierParent hwell hpath)
    exact ⟨steps, hanswer.trans (congrArg some hsteps), hleast⟩
  · obtain ⟨steps, hsteps, hleast⟩ := hwell.tableOwner_isLeast hpath
    have hanswer := hsound.answer? (gives_tableOwner hwell hpath)
    exact ⟨steps, hanswer.trans (congrArg some hsteps), hleast⟩
  · have hroot : history.context.schema.HasPath (.ofRoot path.root) := .ofRoot hpath.root
    rw [hsound.answer? (gives_tableOwner hwell hroot)]
    rfl
  · intro other hother
    rw [hwell.startsWith_iff hpath (hsound.hasPath hother)]
    refine exists_congr fun steps => ?_
    rw [hancestor]
    by_cases hsteps : steps ≤ path.length
    · simp [hsteps, eq_comm]
    · simp [hsteps]

/-- The home of a friend is part of the row of the friend, who has an identifier. -/
theorem ancestors_of_street_of_friend :
    let person : EntityDeclaration (Fin 2) := ⟨"Person", some "person",
      [⟨"id", .simple, some "id", none, none, true⟩,
        ⟨"friend", .reference 0, some "friend", none, none, false⟩,
        ⟨"home", .embedded 1 "home_", some "home", none, none, false⟩]⟩
    let address : EntityDeclaration (Fin 2) := ⟨"Address", some "address",
      [⟨"street", .simple, some "street", none, none, false⟩]⟩
    let catalog : Catalog 2 := fun type => if type = 0 then person else address
    ∃ history path, (start (Context.fresh .standard true)).run catalog [.register 0] = some history ∧
      history.Knows path ∧ path.dotted = "friend.home.street" ∧ path.isRoot = false ∧
      (identifierParent path).answer? history.context = some (.ok (path.above 2)) ∧
      (tableOwner path).answer? history.context = some (.ok (path.above 2)) := by
  intro person address catalog
  have htypes : catalog.discover [] [] [0] = [0, 1] := by cbv
  have hvalid : ∀ other ∈ ([0, 1] : List (Fin 2)), (catalog other).check = .ok () := by decide
  let root := Registry.entityOf catalog .standard [0, 1] 0
  let place := Registry.entityOf catalog .standard [0, 1] 1
  let history : History 2 := ⟨⟨⟨⟨.standard, [root, place]⟩, [(0, 0), (1, 1)]⟩, .empty⟩, []⟩
  let path : Path := ⟨root, [⟨place, place.properties[0]⟩, ⟨root, root.properties[2]⟩,
    ⟨root, root.properties[1]⟩]⟩
  have hrun : (start (Context.fresh .standard true)).run catalog [.register 0] = some history :=
    run_register (Context.entity?_fresh htypes hvalid)
  have hknows : history.Knows path := by
    have hpieces : Text.pieces '.' "friend.home.street" = ["friend", "home", "street"] := by cbv
    refine .inr ⟨root, List.mem_cons_self, "friend.home.street", ?_⟩
    rw [Schema.resolve, if_neg (by decide), hpieces]
    rfl
  obtain ⟨-, -, -, ⟨first, hfirst, hidentifies⟩, ⟨second, hsecond, htable⟩, -⟩ :=
    ancestors_of_path hrun hknows rfl
  have hplace : ¬ history.context.schema.Identifies (path.above 1) := by
    rintro (hroot | ⟨entity, hentity, property, hproperty, hidentifier⟩)
    · cases hroot
    · obtain rfl : place = entity := Option.some.inj hentity
      rw [List.mem_singleton.mp hproperty] at hidentifier
      cases hidentifier
  have hfriend : history.context.schema.Identifies (path.above 2) :=
    .inr ⟨root, rfl, root.properties[0], List.mem_cons_self, rfl⟩
  obtain rfl : first = 2 := by
    have hle : first ≤ 2 := hidentifies.2 ⟨by decide, hfriend⟩
    have hpositive : 0 < first := hidentifies.1.1
    have hne : first ≠ 1 := by
      rintro rfl
      exact hplace hidentifies.1.2
    omega
  obtain rfl : second = 2 := by
    have hle : second ≤ 2 := htable.2 (Schema.storesRows_iff.mp rfl)
    have hrows : Schema.storesRows (path.above second) = true := Schema.storesRows_iff.mpr htable.1
    have hzero : second ≠ 0 := by
      rintro rfl
      cases hrows
    have hone : second ≠ 1 := by
      rintro rfl
      cases hrows
    omega
  have hdotted : path.dotted = "friend.home.street" := by
    change ".".intercalate ["friend", "home", "street"] = _
    rfl
  exact ⟨history, path, hrun, hknows, hdotted, rfl, hfirst, hsecond⟩

end EntityQuery.History
