import EntityQuery.Proofs.Context.History
import EntityQuery.Proofs.Path.Failure

/-!
# What a context tells about tables

Whatever was done with a context before, what it tells about the table of a path is what it answers
to single questions, and it is the same for all paths with that table.  Each question fails under a
condition of its own, which is one on the path and on the entities that it leads to.
-/

namespace EntityQuery

/-- The inquiry ends, and fails under this condition and no other, as an illegal state. -/
def Inquiry.FailsExactlyIf {n : Nat} {α : Type} (context : Context n) (inquiry : Inquiry n α)
    (condition : Prop) : Prop :=
  ∃ result, inquiry.answer? context = some result ∧
    Result.FailsExactlyIf .illegalState condition result

namespace Inquiry.FailsExactlyIf

variable {n : Nat} {α : Type} {context : Context n} {inquiry : Inquiry n α} {condition : Prop}

theorem exists_error (h : FailsExactlyIf context inquiry condition) (hcondition : condition) :
    ∃ error, inquiry.answer? context = some (.error error) ∧ error.kind = .illegalState := by
  obtain ⟨result, hresult, hkind, hsucceeds⟩ := h
  obtain ⟨error, rfl⟩ := Result.exists_eq_error fun hok => hsucceeds.mp hok hcondition
  exact ⟨error, hresult, hkind error rfl⟩

theorem exists_ok (h : FailsExactlyIf context inquiry condition) (hcondition : ¬ condition) :
    ∃ value, inquiry.answer? context = some (.ok value) := by
  obtain ⟨result, hresult, -, hsucceeds⟩ := h
  obtain ⟨value, rfl⟩ := hsucceeds.mpr hcondition
  exact ⟨value, hresult⟩

end Inquiry.FailsExactlyIf

/-! ### Neighbours

Persons live at addresses, an address has a spot, and a spot has persons as visitors.  The homes and
their spots are parts of the rows of persons. -/

namespace History.Neighbours

def catalog : Catalog 3
  | 0 => ⟨"Person", some "person",
      [⟨"id", .simple, some "id", none, none, true⟩,
        ⟨"friend", .reference 0, some "friend", none, none, false⟩,
        ⟨"home", .embedded 1 "", some "home", none, none, false⟩]⟩
  | 1 => ⟨"Address", some "address",
      [⟨"street", .simple, some "street", none, none, false⟩,
        ⟨"spot", .embedded 2 "spot_", some "spot", none, none, false⟩]⟩
  | 2 => ⟨"Spot", some "spot",
      [⟨"title", .simple, some "title", none, none, false⟩,
        ⟨"visitors", .collection .list 0, some "visitors", none, none, false⟩]⟩

def entity (type : Fin 3) : Entity :=
  Registry.entityOf catalog .standard [0, 1, 2] type

def history : History 3 :=
  ⟨⟨⟨⟨.standard, [0, 1, 2].map entity⟩, [(0, 0), (1, 1), (2, 2)]⟩, .empty⟩, []⟩

def number : Segment := ⟨entity 0, (entity 0).properties[0]⟩

def friend : Segment := ⟨entity 0, (entity 0).properties[1]⟩

def home : Segment := ⟨entity 0, (entity 0).properties[2]⟩

def street : Segment := ⟨entity 1, (entity 1).properties[0]⟩

def spot : Segment := ⟨entity 1, (entity 1).properties[1]⟩

def title : Segment := ⟨entity 2, (entity 2).properties[0]⟩

def visitors : Segment := ⟨entity 2, (entity 2).properties[1]⟩

theorem run_register_person :
    (start (Context.fresh .standard true)).run catalog [.register 0] = some history := by
  have htypes : catalog.discover [] [] [0] = [0, 1, 2] := by cbv
  have hvalid : ∀ type ∈ ([0, 1, 2] : List (Fin 3)), (catalog type).check = .ok () := by decide
  exact run_register (Context.entity?_fresh htypes hvalid)

theorem knows_of_walk {type : Fin 3} {text : String} {names : List String} {climb : List Segment}
    (htext : text ≠ "") (hpieces : Text.pieces '.' text = names)
    (hwalk : history.context.schema.walk text (entity type) names = .ok climb.reverse) :
    history.Knows ⟨entity type, climb⟩ := by
  have hall : ∀ type : Fin 3, type ∈ ([0, 1, 2] : List (Fin 3)) := by decide
  exact History.knows_of_walk (List.mem_map_of_mem (hall type)) htext hpieces hwalk

end History.Neighbours

/-! ### What a sound history answers -/

namespace History

open Inquiry

variable {n : Nat} {α : Type} {catalog : Catalog n} {naming : Naming} {memoised : Bool}
  {operations : List (Operation n)} {history : History n} {path other owner : Path}

namespace Sound

variable (h : history.Sound catalog naming)

include h

theorem failsExactlyIf {inquiry : Inquiry n α} {result : Result α} {condition : Prop}
    (hgives : Gives history.context.registry inquiry result)
    (hfails : Result.FailsExactlyIf .illegalState condition result) :
    FailsExactlyIf history.context inquiry condition :=
  ⟨result, h.answer? hgives, hfails⟩

theorem answer?_eq {inquiry : Inquiry n α} {result told : Result α}
    (hgives : Gives history.context.registry inquiry result) (hresult : result = told) :
    inquiry.answer? history.context = some told := by
  rw [h.answer? hgives, hresult]

theorem toOption_answer? {inquiry : Inquiry n α} {result : Result α} {part : Option α}
    (hgives : Gives history.context.registry inquiry result) (hresult : result.toOption = part) :
    (inquiry.answer? history.context).map Except.toOption = some part := by
  rw [h.answer? hgives, Option.map_some, hresult]

theorem exists_answer {inquiry : Inquiry n α} {result : Result α}
    (hgives : Gives history.context.registry inquiry result) (hresult : result.Succeeds) :
    ∃ value, inquiry.answer? history.context = some (.ok value) := by
  obtain ⟨value, rfl⟩ := hresult
  exact ⟨value, h.answer? hgives⟩

theorem tableOwner_eq_of_answer (hknows : history.Knows path)
    (hanswer : (tableOwner path).answer? history.context = some (.ok owner)) :
    history.context.schema.tableOwner path = .ok owner := by
  have hgives := h.answer? (gives_tableOwner h.wellFormed (h.hasPath hknows))
  exact Option.some.inj (hgives.symm.trans hanswer)

/-- Owners that are the same for the context are one path. -/
theorem tableOwner_eq_of_same (hknows : history.Knows path)
    (howner : history.context.schema.tableOwner path = .ok owner) (hother : history.Knows other)
    {otherOwner : Path}
    (hanswer : (tableOwner other).answer? history.context = some (.ok otherOwner))
    (hsame : otherOwner.same owner = true) :
    history.context.schema.tableOwner other = .ok owner := by
  have hwell := h.wellFormed
  have hotherOwner := h.tableOwner_eq_of_answer hother hanswer
  rwa [(hwell.same_iff (hwell.hasPath_tableOwner (h.hasPath hother) hotherOwner)
    (hwell.hasPath_tableOwner (h.hasPath hknows) howner)).mp hsame] at hotherOwner

end Sound

/-! ### The table of a path -/

/-- Everything that is told about the table of a path is what the questions about the path and about
the owner of the table answer, and a part is open where its question fails.  It is told for the
owner alike, and for every path whose table has the same owner. -/
theorem tableInfo_of_path
    (hrun : (start (Context.fresh naming memoised)).run catalog operations = some history)
    (hknows : history.Knows path) :
    ∃ owner info, (tableOwner path).answer? history.context = some (.ok owner) ∧
      (tableInfo path).answer? history.context = some (.ok info) ∧
      (tableInfo owner).answer? history.context = some (.ok info) ∧
      (table path).answer? history.context = some (.ok info.table) ∧
      (tableAlias path).answer? history.context = some (.ok info.aliasName) ∧
      ((effectiveIdentifier path).answer? history.context).map Except.toOption =
        some info.effectiveIdentifier ∧
      ((reverseColumn owner).answer? history.context).map Except.toOption =
        some info.reverseColumn ∧
      (info.reverseColumn = none ↔ owner.isRoot = true) ∧
      (keyColumn owner).answer? history.context = some (.ok info.keyColumn) ∧
      ((identifierColumn owner).answer? history.context).map Except.toOption =
        some info.identifierColumn ∧
      ∀ other, history.Knows other → ∀ otherOwner,
        (tableOwner other).answer? history.context = some (.ok otherOwner) →
        otherOwner.same owner = true →
          (tableInfo other).answer? history.context = some (.ok info) := by
  have hsound := sound_of_run hrun
  have hwell := hsound.wellFormed
  have hpath := hsound.hasPath hknows
  obtain ⟨owner, howner⟩ := hwell.exists_tableOwner hpath
  have hown := hwell.hasPath_tableOwner hpath howner
  obtain ⟨info, hinfo, htable, hlabel, hreverse, hkey, hidentifier, heffective⟩ :=
    hwell.exists_tableInfo hpath howner
  have hshared : history.context.schema.tableInfo owner = .ok info :=
    (hwell.tableInfo_tableOwner hpath howner).trans hinfo
  refine ⟨owner, info, ?_, ?_, ?_, ?_, ?_, ?_, ?_, ?_, ?_, ?_, ?_⟩
  · exact hsound.answer?_eq (gives_tableOwner hwell hpath) howner
  · exact hsound.answer?_eq (gives_tableInfo hwell hpath) hinfo
  · exact hsound.answer?_eq (gives_tableInfo hwell hown) hshared
  · exact hsound.answer?_eq (gives_table hwell hpath) htable
  · exact hsound.answer?_eq (gives_tableAlias hwell hpath) hlabel
  · exact hsound.toOption_answer? (gives_effectiveIdentifier hwell hpath) heffective
  · exact hsound.toOption_answer? (gives_reverseColumn hwell hown) hreverse
  · rw [← hreverse]
    exact (hwell.failsExactlyIf_reverseColumn hown).toOption_eq_none_iff
  · exact hsound.answer?_eq (gives_keyColumn hwell hown) hkey
  · exact hsound.toOption_answer? (gives_identifierColumn owner) hidentifier
  · intro other hother otherOwner hanswer hsame
    have hotherOwner := hsound.tableOwner_eq_of_same hknows howner hother hanswer hsame
    have hotherPath := hsound.hasPath hother
    have hotherInfo := hwell.tableInfo_tableOwner hotherPath hotherOwner
    exact hsound.answer?_eq (gives_tableInfo hwell hotherPath) (hotherInfo.symm.trans hshared)

/-- The street where a visitor lives and the number of the visitor are in the rows of visitors. -/
theorem tableInfo_of_visitor :
    let street : Path :=
      ⟨Neighbours.entity 0, [Neighbours.street, Neighbours.home, Neighbours.visitors,
        Neighbours.spot, Neighbours.home]⟩
    let number : Path :=
      ⟨Neighbours.entity 0, [Neighbours.number, Neighbours.visitors, Neighbours.spot,
        Neighbours.home]⟩
    let told : TableInfo := ⟨.plain "person", some (.quoted "spot_visitors"),
      some (.plain "person"), some (.plain "person_key"), some (.plain "id"),
      some (.plain "person")⟩
    (start (Context.fresh .standard true)).run Neighbours.catalog [.register 0] =
        some Neighbours.history ∧
      Neighbours.history.Knows street ∧ Neighbours.history.Knows number ∧
      street.names = ["home", "spot", "visitors", "home", "street"] ∧
      (tableInfo street).answer? Neighbours.history.context = some (.ok told) ∧
      (tableInfo number).answer? Neighbours.history.context = some (.ok told) := by
  intro street number told
  have hstreet : Neighbours.history.Knows street :=
    @Neighbours.knows_of_walk 0 "home.spot.visitors.home.street" _ _ (by decide) (by cbv) rfl
  have hnumber : Neighbours.history.Knows number :=
    @Neighbours.knows_of_walk 0 "home.spot.visitors.id" _ _ (by decide) (by cbv) rfl
  obtain ⟨owner, info, howner, hinfo, -, -, -, -, -, -, -, -, hshared⟩ :=
    tableInfo_of_path Neighbours.run_register_person hstreet
  have hsound := sound_of_run Neighbours.run_register_person
  have hwell := hsound.wellFormed
  have hanswer : (tableInfo street).answer? Neighbours.history.context = some (.ok told) :=
    hsound.answer?_eq (gives_tableInfo hwell (hsound.hasPath hstreet)) rfl
  obtain rfl : info = told := Except.ok.inj (Option.some.inj (hinfo.symm.trans hanswer))
  obtain rfl : street.above 2 = owner :=
    Except.ok.inj (hsound.tableOwner_eq_of_answer hstreet howner)
  have hothers : (tableOwner number).answer? Neighbours.history.context =
      some (.ok (street.above 2)) :=
    hsound.answer?_eq (gives_tableOwner hwell (hsound.hasPath hnumber)) rfl
  exact ⟨Neighbours.run_register_person, hstreet, hnumber, rfl, hanswer,
    hshared number hnumber _ hothers (by decide)⟩

/-! ### Questions that fail -/

/-- Every question about a path ends.  What is above a path, refers to it or names its column is not
there for the root; an entity is at the end unless the leaf is simple; an identifier needs an entity
that has one, and the identifier of the rows of the root table needs one of the root.  The owner of
the table and what is told about the table are always there. -/
theorem failures_of_path
    (hrun : (start (Context.fresh naming memoised)).run catalog operations = some history)
    (hknows : history.Knows path) :
    let context := history.context
    (FailsExactlyIf context (parent path) (path.isRoot = true) ∧
      FailsExactlyIf context (identifierParent path) (path.isRoot = true) ∧
      FailsExactlyIf context (reverseColumn path) (path.isRoot = true) ∧
      FailsExactlyIf context (ofResult path.columnName) (path.isRoot = true) ∧
      FailsExactlyIf context (columnAlias path) (path.isRoot = true)) ∧
    FailsExactlyIf context (requiredLeafEntity path) path.IsSimple ∧
    (FailsExactlyIf context (identifierColumn path) (context.schema.EndsUnidentified path) ∧
      FailsExactlyIf context (ofResult (context.schema.requiredIdentifier path))
        (context.schema.EndsUnidentified path)) ∧
    ∃ owner, (tableOwner path).answer? context = some (.ok owner) ∧
      FailsExactlyIf context (effectiveIdentifier path)
        (owner.isRoot = true ∧ path.root.LacksIdentifier) ∧
      (∃ name, (table path).answer? context = some (.ok name)) ∧
      (∃ label, (tableAlias path).answer? context = some (.ok label)) ∧
      (∃ key, (keyColumn path).answer? context = some (.ok key)) ∧
      ∃ info, (tableInfo path).answer? context = some (.ok info) := by
  intro context
  have hsound := sound_of_run hrun
  have hwell := hsound.wellFormed
  have hpath := hsound.hasPath hknows
  obtain ⟨owner, howner⟩ := hwell.exists_tableOwner hpath
  obtain ⟨info, hinfo, -⟩ := hwell.exists_tableInfo hpath howner
  refine ⟨⟨?_, ?_, ?_, ?_, ?_⟩, ?_, ⟨?_, ?_⟩, owner, ?_, ?_, ?_, ?_, ?_, info, ?_⟩
  · exact hsound.failsExactlyIf (gives_parent hwell hpath) (hwell.failsExactlyIf_parent hpath)
  · exact hsound.failsExactlyIf (gives_identifierParent hwell hpath)
      (hwell.failsExactlyIf_identifierParent hpath)
  · exact hsound.failsExactlyIf (gives_reverseColumn hwell hpath)
      (hwell.failsExactlyIf_reverseColumn hpath)
  · exact hsound.failsExactlyIf (gives_ofResult _) Schema.WellFormed.failsExactlyIf_columnName
  · exact hsound.failsExactlyIf (gives_columnAlias hwell hpath)
      (hwell.failsExactlyIf_columnAlias hpath)
  · exact hsound.failsExactlyIf (gives_requiredLeafEntity path)
      (hwell.failsExactlyIf_requiredLeafEntity hpath)
  · exact hsound.failsExactlyIf (gives_identifierColumn path)
      (hwell.failsExactlyIf_identifierColumn hpath)
  · exact hsound.failsExactlyIf (gives_ofResult _) (hwell.failsExactlyIf_requiredIdentifier hpath)
  · exact hsound.answer?_eq (gives_tableOwner hwell hpath) howner
  · exact hsound.failsExactlyIf (gives_effectiveIdentifier hwell hpath)
      (hwell.failsExactlyIf_effectiveIdentifier hpath howner)
  · exact hsound.exists_answer (gives_table hwell hpath) (hwell.succeeds_qualifiedTable hpath)
  · exact hsound.exists_answer (gives_tableAlias hwell hpath) (hwell.succeeds_tableAlias hpath)
  · exact hsound.exists_answer (gives_keyColumn hwell hpath) (hwell.succeeds_keyColumn hpath)
  · exact hsound.answer?_eq (gives_tableInfo hwell hpath) hinfo

/-- An address has no identifier, neither as a root nor as the home of a visitor. -/
theorem failures_of_address :
    let home : Path :=
      ⟨Neighbours.entity 0, [Neighbours.home, Neighbours.visitors, Neighbours.spot,
        Neighbours.home]⟩
    let address : Path := .ofRoot (Neighbours.entity 1)
    let context := Neighbours.history.context
    (start (Context.fresh .standard true)).run Neighbours.catalog [.register 0] =
        some Neighbours.history ∧
      Neighbours.history.Knows home ∧ Neighbours.history.Knows address ∧
      home.names = ["home", "spot", "visitors", "home"] ∧
      (∃ error, (identifierColumn home).answer? context = some (.error error) ∧
        error.kind = .illegalState) ∧
      (∃ column, (effectiveIdentifier home).answer? context = some (.ok column)) ∧
      (∃ error, (effectiveIdentifier address).answer? context = some (.error error) ∧
        error.kind = .illegalState) ∧
      ∃ info, (tableInfo address).answer? context = some (.ok info) := by
  intro home address context
  have hhome : Neighbours.history.Knows home :=
    @Neighbours.knows_of_walk 0 "home.spot.visitors.home" _ _ (by decide) (by cbv) rfl
  have haddress : Neighbours.history.Knows address :=
    .inr ⟨Neighbours.entity 1, List.mem_map_of_mem (by decide), "", rfl⟩
  have hlacks : (Neighbours.entity 1).LacksIdentifier := by
    unfold Entity.LacksIdentifier
    decide
  have hsound := sound_of_run Neighbours.run_register_person
  obtain ⟨-, -, ⟨hidentifier, -⟩, owner, howner, heffective, -⟩ :=
    failures_of_path Neighbours.run_register_person hhome
  obtain ⟨-, -, -, root, hroot, hnone, -, -, -, hinfo⟩ :=
    failures_of_path Neighbours.run_register_person haddress
  obtain rfl : home.above 1 = owner := Except.ok.inj (hsound.tableOwner_eq_of_answer hhome howner)
  obtain rfl : address = root := Except.ok.inj (hsound.tableOwner_eq_of_answer haddress hroot)
  refine ⟨Neighbours.run_register_person, hhome, haddress, rfl, hidentifier.exists_error ?_,
    heffective.exists_ok ?_, hnone.exists_error ⟨rfl, hlacks⟩, hinfo⟩
  · exact .inr ⟨Neighbours.entity 1, rfl, hlacks⟩
  · rintro ⟨hempty, -⟩
    cases hempty

end History

end EntityQuery
