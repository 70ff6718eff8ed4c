import EntityQuery.Proofs.Context.Tables
import EntityQuery.Proofs.Path.Alias

/-!
# Aliases and columns that a context tells

Whatever was done with a context before, the alias of a table is put together from the labels on the
way to it, and the column of a path from the leads behind the table that its parent is stored in.
-/

namespace EntityQuery.History

open Inquiry

variable {n : Nat} {catalog : Catalog n} {naming : Naming} {memoised : Bool}
  {operations : List (Operation n)} {history : History n} {path owner : Path}

/-- The table of the root has no alias.  Any other has the labels up to its owner, in their order, as
a quoted name, and this is not empty if the property that the table is for has a name.  Paths whose
tables have the same owner have the same alias. -/
theorem tableAlias_of_path
    (hrun : (start (Context.fresh naming memoised)).run catalog operations = some history)
    (hknows : history.Knows path) :
    ∃ owner, (tableOwner path).answer? history.context = some (.ok owner) ∧
      (owner.isRoot = true → (tableAlias path).answer? history.context = some (.ok none)) ∧
      (tableAlias path).answer? history.context =
        some (.ok ((Path.aliasFrom "" none owner.segments).map .quoted)) ∧
      (owner.isRoot = false →
        (∀ property, owner.leaf? = some property → property.name ≠ "") →
          ∃ name, name ≠ "" ∧
            (tableAlias path).answer? history.context = some (.ok (some (.quoted name)))) ∧
      ∀ other, history.Knows other → ∀ otherOwner,
        (tableOwner other).answer? history.context = some (.ok otherOwner) →
        otherOwner.same owner = true →
          (tableAlias other).answer? history.context =
            (tableAlias path).answer? history.context := by
  have hsound := sound_of_run hrun
  have hwell := hsound.wellFormed
  have hpath := hsound.hasPath hknows
  obtain ⟨owner, howner⟩ := hwell.exists_tableOwner hpath
  have htold : ∀ {path : Path}, history.context.schema.tableOwner path = .ok owner →
      history.context.schema.tableAlias path =
        .ok ((Path.aliasFrom "" none owner.segments).map .quoted) := by
    intro path howner
    rw [Schema.tableAlias, howner, ← Path.aliasOf_climb]
    rfl
  have hanswer := hsound.answer?_eq (gives_tableAlias hwell hpath) (htold howner)
  refine ⟨owner, hsound.answer?_eq (gives_tableOwner hwell hpath) howner, ?_, hanswer, ?_, ?_⟩
  · intro hroot
    rw [hanswer, Path.segments, List.isEmpty_iff.mp hroot]
    rfl
  · intro hroot hname
    have htable := (hwell.exists_climb_eq hpath howner).2.1
    obtain ⟨name, hne, hname⟩ := Path.exists_aliasOf htable hroot hname
    refine ⟨name, hne, ?_⟩
    rw [hanswer, ← Path.aliasOf_climb, hname]
    rfl
  · intro other hother otherOwner hotherAnswer hsame
    have hotherOwner := hsound.tableOwner_eq_of_same hknows howner hother hotherAnswer hsame
    rw [hanswer]
    exact hsound.answer?_eq (gives_tableAlias hwell (hsound.hasPath hother)) (htold hotherOwner)

/-- The label of an embedded property is put directly before the next one, and a home is without one:
the friend of a visitor is in the table of the two labels behind it. -/
theorem tableAlias_of_friend :
    let friend : Path :=
      ⟨Neighbours.entity 0, [Neighbours.friend, Neighbours.visitors, Neighbours.spot,
        Neighbours.home]⟩
    let street : Path := ⟨Neighbours.entity 0, Neighbours.street :: Neighbours.home :: friend.climb⟩
    let told : Option Identifier := some (.quoted "spot_visitors_friend")
    (start (Context.fresh .standard true)).run Neighbours.catalog [.register 0] =
        some Neighbours.history ∧
      Neighbours.history.Knows friend ∧ Neighbours.history.Knows street ∧
      street.names = ["home", "spot", "visitors", "friend", "home", "street"] ∧
      (tableOwner street).answer? Neighbours.history.context = some (.ok friend) ∧
      (tableAlias street).answer? Neighbours.history.context = some (.ok told) ∧
      (tableAlias friend).answer? Neighbours.history.context = some (.ok told) ∧
      ∃ name, name ≠ "" ∧
        (tableAlias street).answer? Neighbours.history.context =
          some (.ok (some (.quoted name))) := by
  intro friend street told
  have hfriend : Neighbours.history.Knows friend :=
    @Neighbours.knows_of_walk 0 "home.spot.visitors.friend" _ _ (by decide) (by cbv) rfl
  have hstreet : Neighbours.history.Knows street :=
    @Neighbours.knows_of_walk 0 "home.spot.visitors.friend.home.street" _ _ (by decide) (by cbv) rfl
  obtain ⟨owner, howner, -, hlabel, hnamed, hshared⟩ :=
    tableAlias_of_path Neighbours.run_register_person hstreet
  have hsound := sound_of_run Neighbours.run_register_person
  obtain rfl : friend = owner := Except.ok.inj (hsound.tableOwner_eq_of_answer hstreet howner)
  have hown : (tableOwner friend).answer? Neighbours.history.context = some (.ok friend) :=
    hsound.answer?_eq (gives_tableOwner hsound.wellFormed (hsound.hasPath hfriend)) rfl
  have hname : ∀ property, friend.leaf? = some property → property.name ≠ "" := by
    intro property hleaf
    obtain rfl : Neighbours.friend.property = property := Option.some.inj hleaf
    decide
  exact ⟨Neighbours.run_register_person, hfriend, hstreet, rfl, howner, hlabel,
    (hshared friend hfriend friend hown (by decide)).trans hlabel, hnamed rfl hname⟩

namespace Sound

variable (h : history.Sound catalog naming)

include h

theorem gives_tableOwner_parent (hknows : history.Knows path) :
    Gives history.context.registry (parent path >>= tableOwner)
      (history.context.schema.parent path >>= history.context.schema.tableOwner) := by
  have hwell := h.wellFormed
  have hpath := h.hasPath hknows
  exact (gives_parent hwell hpath).bind fun above habove =>
    gives_tableOwner hwell (hwell.hasPath_parent hpath habove)

/-- Where the parent is stored is asked of paths that have one. -/
theorem tableOwner_above_of_answer (hknows : history.Knows path)
    (hanswer : (parent path >>= tableOwner).answer? history.context = some (.ok owner)) :
    path.isRoot = false ∧ history.context.schema.tableOwner (path.above 1) = .ok owner := by
  have hgives := h.answer? (h.gives_tableOwner_parent hknows)
  have hresult := Option.some.inj (hgives.symm.trans hanswer)
  cases hroot : path.isRoot with
  | true =>
      rw [Schema.WellFormed.parent_of_isRoot hroot] at hresult
      cases hresult
  | false =>
      rw [h.wellFormed.parent_eq (h.hasPath hknows) hroot] at hresult
      exact ⟨rfl, hresult⟩

end Sound

/-- The column of a path has the leads of what stands between the table that its parent is stored in
and the leaf, in their order, and these are embedded properties.  Paths that hold the same there
have the same column.  In a list of columns of several tables the alias of the table stands before
it. -/
theorem columnName_of_path
    (hrun : (start (Context.fresh naming memoised)).run catalog operations = some history)
    (hknows : history.Knows path) (hnonempty : path.isRoot = false) :
    ∃ owner between leaf label,
      (parent path >>= tableOwner).answer? history.context = some (.ok owner) ∧
      path.segments = owner.segments ++ (between ++ [leaf]) ∧
      (∀ segment ∈ between, segment.property.shape.isEmbedded = true) ∧
      path.columnName = .ok (Path.leadColumn leaf between) ∧
      (∀ other, history.Knows other → ∀ otherOwner below,
        (parent other >>= tableOwner).answer? history.context = some (.ok otherOwner) →
        other.segments = otherOwner.segments ++ below →
        below.map Segment.key = (between ++ [leaf]).map Segment.key →
          other.columnName = path.columnName) ∧
      (tableAlias path).answer? history.context = some (.ok label) ∧
      (columnAlias path).answer? history.context = some (.ok
        (match label with
        | some label => (Path.leadColumn leaf between).map fun name => label.name ++ "_" ++ name
        | none => Path.leadColumn leaf between)) := by
  have hsound := sound_of_run hrun
  have hwell := hsound.wellFormed
  have hpath := hsound.hasPath hknows
  obtain ⟨owner, howner⟩ := hwell.exists_tableOwner (hpath.above 1)
  obtain ⟨between, leaf, hsegments, hembedded, hcolumn⟩ :=
    hwell.exists_segments_between hpath hnonempty howner
  obtain ⟨label, hlabel⟩ := hwell.succeeds_tableAlias hpath
  refine ⟨owner, between, leaf, label, ?_, hsegments, hembedded, hcolumn, ?_, ?_, ?_⟩
  · refine hsound.answer?_eq (hsound.gives_tableOwner_parent hknows) ?_
    rw [hwell.parent_eq hpath hnonempty]
    exact howner
  · intro other hother otherOwner below hanswer hotherSegments hkeys
    obtain ⟨hotherRoot, hotherOwner⟩ := hsound.tableOwner_above_of_answer hother hanswer
    exact hwell.columnName_eq_of_keys_eq hpath hnonempty howner hsegments (hsound.hasPath hother)
      hotherRoot hotherOwner hotherSegments hkeys
  · exact hsound.answer?_eq (gives_tableAlias hwell hpath) hlabel
  · refine hsound.answer?_eq (gives_columnAlias hwell hpath) ?_
    change history.context.schema.columnAlias path = _
    rw [Schema.columnAlias, hcolumn]
    change (history.context.schema.tableAlias path >>= _) = _
    rw [hlabel]
    cases label <;> rfl

/-- The title of the spot at a home has one column, in the rows of a person and in those of a friend,
and only the latter have an alias. -/
theorem columnName_of_title :
    let title : Path :=
      ⟨Neighbours.entity 0, [Neighbours.title, Neighbours.spot, Neighbours.home,
        Neighbours.friend]⟩
    let ours : Path :=
      ⟨Neighbours.entity 0, [Neighbours.title, Neighbours.spot, Neighbours.home]⟩
    (start (Context.fresh .standard true)).run Neighbours.catalog [.register 0] =
        some Neighbours.history ∧
      Neighbours.history.Knows title ∧ title.isRoot = false ∧ Neighbours.history.Knows ours ∧
      title.names = ["friend", "home", "spot", "title"] ∧
      title.columnName = .ok (.plain "spot_title") ∧
      ours.columnName = .ok (.plain "spot_title") ∧
      (columnAlias title).answer? Neighbours.history.context =
        some (.ok (.plain "friend_spot_title")) := by
  intro title ours
  have htitle : Neighbours.history.Knows title :=
    @Neighbours.knows_of_walk 0 "friend.home.spot.title" _ _ (by decide) (by cbv) rfl
  have hours : Neighbours.history.Knows ours :=
    @Neighbours.knows_of_walk 0 "home.spot.title" _ _ (by decide) (by cbv) rfl
  obtain ⟨owner, between, leaf, label, howner, hsegments, -, hcolumn, hshared, hlabel, halias⟩ :=
    columnName_of_path Neighbours.run_register_person htitle rfl
  have hsound := sound_of_run Neighbours.run_register_person
  have hwell := hsound.wellFormed
  obtain rfl : title.above 3 = owner :=
    Except.ok.inj (hsound.tableOwner_above_of_answer htitle howner).2
  obtain ⟨rfl, hleaf⟩ : [Neighbours.home, Neighbours.spot] = between ∧ [Neighbours.title] = [leaf] :=
    List.append_inj' (@List.append_cancel_left _ [Neighbours.friend] _ _ hsegments) rfl
  obtain rfl := List.singleton_inj.mp hleaf
  have htold : (tableAlias title).answer? Neighbours.history.context =
      some (.ok (some (.quoted "friend"))) :=
    hsound.answer?_eq (gives_tableAlias hwell (hsound.hasPath htitle)) rfl
  obtain rfl : label = some (.quoted "friend") :=
    Except.ok.inj (Option.some.inj (hlabel.symm.trans htold))
  have hothers : (parent ours >>= tableOwner).answer? Neighbours.history.context =
      some (.ok (ours.above 3)) :=
    hsound.answer?_eq (hsound.gives_tableOwner_parent hours) rfl
  have hsame := hshared ours hours (ours.above 3) ours.segments hothers rfl rfl
  exact ⟨Neighbours.run_register_person, htitle, rfl, hours, rfl, hcolumn, hsame.trans hcolumn,
    halias⟩

end EntityQuery.History
