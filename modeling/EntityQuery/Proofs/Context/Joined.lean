import EntityQuery.Proofs.Context.Labels
import EntityQuery.Proofs.Path.Relation

/-!
# Aliases of joined tables

Two tables that are joined to one root have different aliases, whatever was done with the context
before, unless the paths to them part at relations whose names overlap.
-/

namespace EntityQuery.History

open Inquiry

section

variable {n : Nat} {catalog : Catalog n} {naming : Naming} {memoised : Bool}
  {operations : List (Operation n)} {history : History n} {path other : Path}

/-- A path that is the owner of its table has an alias, if its properties have names. -/
theorem Sound.exists_tableAlias (h : history.Sound catalog naming) (hknows : history.Knows path)
    (howner : (tableOwner path).answer? history.context = some (.ok path))
    (hroot : path.isRoot = false) (hnames : "" ∉ path.names) :
    path.HasTable ∧ ∃ name, Path.aliasOf path.climb = some name ∧
      (tableAlias path).answer? history.context = some (.ok (some (.quoted name))) := by
  have hpath := h.hasPath hknows
  have hstored := h.tableOwner_eq_of_answer hknows howner
  have htable := (h.wellFormed.exists_climb_eq hpath hstored).2.1
  have hnamed : ∀ property, path.leaf? = some property → property.name ≠ "" := by
    intro property hleaf hempty
    obtain ⟨leaf, hhead, rfl⟩ := Option.map_eq_some_iff.mp hleaf
    have hmem : leaf ∈ path.segments := List.mem_reverse.mpr (List.mem_of_mem_head? hhead)
    exact hnames (List.mem_map.mpr ⟨leaf, hmem, hempty⟩)
  obtain ⟨name, -, halias⟩ := Path.exists_aliasOf htable hroot hnamed
  have htold : history.context.schema.tableAlias path = .ok (some (.quoted name)) := by
    rw [Schema.tableAlias, hstored]
    exact congrArg (fun label => Except.ok (Option.map Identifier.quoted label)) halias
  exact ⟨htable, name, halias, h.answer?_eq (gives_tableAlias h.wellFormed hpath) htold⟩

/-- Two different paths from one root that own their tables, with names for their properties, have
different aliases unless they part at relations whose names overlap. -/
theorem tableAlias_ne_of_path
    (hrun : (start (Context.fresh naming memoised)).run catalog operations = some history)
    (hknows : history.Knows path) (hother : history.Knows other) (hroots : path.root = other.root)
    (hdifferent : path.same other = false)
    (howner : (tableOwner path).answer? history.context = some (.ok path))
    (hotherOwner : (tableOwner other).answer? history.context = some (.ok other))
    (hroot : path.isRoot = false) (hotherRoot : other.isRoot = false)
    (hnames : "" ∉ path.names) (hotherNames : "" ∉ other.names)
    (hpart : ¬ PartOverlap path.segments other.segments) :
    ∃ name otherName, (tableAlias path).answer? history.context = some (.ok (some (.quoted name))) ∧
      (tableAlias other).answer? history.context = some (.ok (some (.quoted otherName))) ∧
      name ≠ otherName := by
  have hsound := sound_of_run hrun
  obtain ⟨htable, name, halias, hanswer⟩ := hsound.exists_tableAlias hknows howner hroot hnames
  obtain ⟨hotherTable, otherName, hotherAlias, hotherAnswer⟩ :=
    hsound.exists_tableAlias hother hotherOwner hotherRoot hotherNames
  refine ⟨name, otherName, hanswer, hotherAnswer, fun hsame => hpart ?_⟩
  have hsegments : path.segments ≠ other.segments := by
    intro heq
    have hkey : path.key = other.key := by rw [Path.key, Path.key, hroots, heq]
    exact Bool.false_ne_true (hdifferent.symm.trans (beq_iff_eq.mpr hkey))
  exact Path.partOverlap_of_aliasOf_eq (hsound.hasPath hknows) (hsound.hasPath hother) htable
    hotherTable hnames hotherNames hsegments halias (hsame ▸ hotherAlias)

end

/-- The friend and the visitors of a person: these are two relations from the same table. -/
theorem tableAlias_ne_of_visitors :
    let friend : Path := ⟨Neighbours.entity 0, [Neighbours.friend]⟩
    let visitors : Path :=
      ⟨Neighbours.entity 0, [Neighbours.visitors, Neighbours.spot, Neighbours.home]⟩
    (start (Context.fresh .standard true)).run Neighbours.catalog [.register 0] =
        some Neighbours.history ∧
      Neighbours.history.Knows friend ∧ Neighbours.history.Knows visitors ∧
      friend.root = visitors.root ∧ friend.same visitors = false ∧
      (tableOwner friend).answer? Neighbours.history.context = some (.ok friend) ∧
      (tableOwner visitors).answer? Neighbours.history.context = some (.ok visitors) ∧
      friend.isRoot = false ∧ visitors.isRoot = false ∧
      "" ∉ friend.names ∧ "" ∉ visitors.names ∧
      ¬ PartOverlap friend.segments visitors.segments ∧
      ∃ name otherName,
        (tableAlias friend).answer? Neighbours.history.context =
            some (.ok (some (.quoted name))) ∧
          (tableAlias visitors).answer? Neighbours.history.context =
            some (.ok (some (.quoted otherName))) ∧
          name ≠ otherName := by
  intro friend visitors
  have hfriend : Neighbours.history.Knows friend :=
    @Neighbours.knows_of_walk 0 "friend" _ _ (by decide) (by cbv) rfl
  have hvisitors : Neighbours.history.Knows visitors :=
    @Neighbours.knows_of_walk 0 "home.spot.visitors" _ _ (by decide) (by cbv) rfl
  have hsound := sound_of_run Neighbours.run_register_person
  have howner : (tableOwner friend).answer? Neighbours.history.context = some (.ok friend) :=
    hsound.answer?_eq (gives_tableOwner hsound.wellFormed (hsound.hasPath hfriend)) rfl
  have hotherOwner :
      (tableOwner visitors).answer? Neighbours.history.context = some (.ok visitors) :=
    hsound.answer?_eq (gives_tableOwner hsound.wellFormed (hsound.hasPath hvisitors)) rfl
  have hpart : ¬ PartOverlap friend.segments visitors.segments := by
    intro h
    have hnames := (@partOverlap_append_iff friend.segments visitors.segments [] [] (.table rfl)
      (.embedded rfl (.embedded rfl (.table rfl))) (by decide)).mp h
    rcases hnames with ⟨h, -⟩ | ⟨h, -⟩ | ⟨h, -⟩ <;> exact absurd h (by decide)
  exact ⟨Neighbours.run_register_person, hfriend, hvisitors, rfl, by decide, howner, hotherOwner,
    rfl, rfl, by decide, by decide, hpart,
    tableAlias_ne_of_path Neighbours.run_register_person hfriend hvisitors rfl (by decide) howner
      hotherOwner rfl rfl (by decide) (by decide) hpart⟩

/-! ### Friends and bosses

A person has a friend and a boss, and one more person is kept as the boss of a friend. -/

namespace Acquaintances

def catalog : Catalog 1 := fun _ =>
  ⟨"Person", some "person",
    [⟨"id", .simple, some "id", none, none, true⟩,
      ⟨"friend", .reference 0, some "friend", none, none, false⟩,
      ⟨"boss", .reference 0, some "boss", none, none, false⟩,
      ⟨"friend_boss", .reference 0, some "friend_boss", none, none, false⟩]⟩

def person : Entity :=
  Registry.entityOf catalog .standard [0] 0

def history : History 1 :=
  ⟨⟨⟨⟨.standard, [person]⟩, [(0, 0)]⟩, .empty⟩, []⟩

def friendBoss : Path :=
  ⟨person, [⟨person, person.properties[3]⟩]⟩

def bossOfFriend : Path :=
  ⟨person, [⟨person, person.properties[2]⟩, ⟨person, person.properties[1]⟩]⟩

end Acquaintances

open Acquaintances in
/-- An underscore in a name looks like the one between two names. -/
theorem tableAlias_of_friend_boss :
    (start (Context.fresh .standard true)).run catalog [.register 0] = some history ∧
      history.Knows friendBoss ∧ history.Knows bossOfFriend ∧
      friendBoss.root = bossOfFriend.root ∧ friendBoss.same bossOfFriend = false ∧
      friendBoss.names = ["friend_boss"] ∧ bossOfFriend.names = ["friend", "boss"] ∧
      (tableOwner friendBoss).answer? history.context = some (.ok friendBoss) ∧
      (tableOwner bossOfFriend).answer? history.context = some (.ok bossOfFriend) ∧
      (tableAlias friendBoss).answer? history.context = some (.ok (some (.quoted "friend_boss"))) ∧
      (tableAlias bossOfFriend).answer? history.context =
        some (.ok (some (.quoted "friend_boss"))) := by
  have htypes : catalog.discover [] [] [0] = [0] := by cbv
  have hvalid : ∀ type ∈ ([0] : List (Fin 1)), (catalog type).check = .ok () := by decide
  have hrun : (start (Context.fresh .standard true)).run catalog [.register 0] = some history :=
    run_register (Context.entity?_fresh htypes hvalid)
  have hfirst : history.Knows friendBoss :=
    @knows_of_walk _ history _ "friend_boss" _ _ List.mem_cons_self (by decide) (by cbv) rfl
  have hsecond : history.Knows bossOfFriend :=
    @knows_of_walk _ history _ "friend.boss" _ _ List.mem_cons_self (by decide) (by cbv) rfl
  have hsound := sound_of_run hrun
  have hwell := hsound.wellFormed
  refine ⟨hrun, hfirst, hsecond, rfl, by decide, rfl, rfl, ?_, ?_, ?_, ?_⟩
  · exact hsound.answer?_eq (gives_tableOwner hwell (hsound.hasPath hfirst)) rfl
  · exact hsound.answer?_eq (gives_tableOwner hwell (hsound.hasPath hsecond)) rfl
  · exact hsound.answer?_eq (gives_tableAlias hwell (hsound.hasPath hfirst)) rfl
  · exact hsound.answer?_eq (gives_tableAlias hwell (hsound.hasPath hsecond)) rfl

end EntityQuery.History
