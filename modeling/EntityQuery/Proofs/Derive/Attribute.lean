import EntityQuery.Derive.Entity
import EntityQuery.Proofs.Checked

/-!
# Options of attributes

Which options an attribute takes, and which names they give.  An option gives a name to one thing,
and of the names that are given to it the last one counts.
-/

namespace EntityQuery

/-- What an option of an attribute of this kind is. -/
inductive AttributeOption.IsFor : AttributeKind → AttributeOption → Prop
  | table {name : String} (h : Name.IsIdentifier name) : IsFor .table ⟨"name", .text name⟩
  | column {name : String} (h : Name.IsIdentifier name) : IsFor .column ⟨"name", .text name⟩
  | lead {name : String} (h : name = "" ∨ Name.IsIdentifier name) :
      IsFor .embedded ⟨"prefix", .text name⟩
  | reference {name : String} (h : Name.IsIdentifier name) :
      IsFor .reference ⟨"reverse_column", .text name⟩
  | collection {name : String} (h : Name.IsIdentifier name) :
      IsFor .collection ⟨"reverse_column", .text name⟩
  | key {name : String} (h : Name.IsIdentifier name) :
      IsFor .collection ⟨"key_column", .text name⟩

/-- An attribute has a list of options, or none if it means something without them. -/
inductive AttributeOptions.AreFor (kind : AttributeKind) : AttributeOptions → Prop
  | bare (h : kind = .embedded ∨ kind = .reference ∨ kind = .collection) : AreFor kind .bare
  | list {options : List AttributeOption} (h : ∀ option ∈ options, option.IsFor kind) :
      AreFor kind (.list options)

def OptionValue.text? : OptionValue → Option String
  | .text content => some content
  | _ => none

/-- The texts that an option is given, in order. -/
def AttributeOptions.texts (option : String) : AttributeOptions → List String
  | .list options => options.filterMap fun given =>
      if given.name = option then given.value.text? else none
  | _ => []

theorem AttributeOptions.texts_cons (option label name : String) (options : List AttributeOption) :
    texts option (.list (⟨label, .text name⟩ :: options)) =
      (if label = option then [name] else []) ++ texts option (.list options) := by
  rw [texts, List.filterMap_cons]
  by_cases hlabel : label = option
  · rw [if_pos hlabel, if_pos hlabel]
    rfl
  · rw [if_neg hlabel, if_neg hlabel]
    rfl

namespace Attribute

/-- The names that are given to a role, in order. -/
def given (role : Role) (names : List (Role × String)) : List String :=
  names.filterMap fun entry => if role == entry.1 then some entry.2 else none

theorem given_cons (role : Role) (entry : Role × String) (names : List (Role × String)) :
    given role (entry :: names) =
      (if entry.1 = role then [entry.2] else []) ++ given role names := by
  rw [given, List.filterMap_cons]
  by_cases hrole : entry.1 = role
  · rw [if_pos hrole, hrole, beq_self_eq_true, if_pos rfl]
    rfl
  · rw [if_neg hrole, if_neg (by simpa using Ne.symm hrole)]
    rfl

theorem given_append (role : Role) (names others : List (Role × String)) :
    given role (names ++ others) = given role names ++ given role others :=
  List.filterMap_append

theorem name?_eq (role : Role) (names : List (Role × String)) :
    name? role names = (given role names).getLast? := by
  rw [name?, List.lookup_eq_findSome?, ← List.head?_filterMap, List.filterMap_reverse,
    List.head?_reverse, given]

/-! ### One option -/

theorem role?_eq_some_iff {kind : AttributeKind} {option : String} {role : Role} :
    kind.role? option = some role ↔ role ∈ kind.roles ∧ role.option = option := by
  unfold AttributeKind.role?
  constructor
  · intro h
    have hoption := List.find?_some h
    exact ⟨List.mem_of_find?_eq_some h, beq_iff_eq.mp hoption⟩
  · rintro ⟨hrole, rfl⟩
    cases kind <;> cases role <;> first | rfl | exact absurd hrole (by decide)

theorem isAsciiLetter_eq (c : Char) : Name.isAsciiLetter c = c.isAlpha := by
  have hupper : ('A' ≤ c && c ≤ 'Z') = c.isUpper := (Bool.decide_and ..).symm
  have hlower : ('a' ≤ c && c ≤ 'z') = c.isLower := rfl
  unfold Name.isAsciiLetter
  rw [hupper, hlower, Bool.or_comm]
  rfl

/-- What is accepted for an item is what is accepted for an entity, and the causes are the same. -/
theorem checkIdentifier_eq (name : String) : checkIdentifier name = Name.checkIdentifier name := by
  unfold checkIdentifier Name.checkIdentifier
  cases hname : name.toList with
  | nil => rw [if_pos (String.toList_eq_nil_iff.mp hname)]
  | cons first rest =>
      have hne : name ≠ "" := by
        rintro rfl
        cases hname
      have hstart : (!first.isAlpha && first != '_') = !Name.isStart first := by
        rw [Name.isStart, isAsciiLetter_eq, Bool.not_or]
        rfl
      have hpart : (fun c : Char => c.isAlphanum || c == '_') = Name.isPart := by
        funext c
        rw [Name.isPart, isAsciiLetter_eq]
        rfl
      dsimp only
      rw [if_neg hne, hstart, hpart]
      rfl

theorem checkName_eq_ok_iff {role : Role} {name : String} :
    checkName role name = .ok () ↔ name = "" ∧ role = .lead ∨ Name.IsIdentifier name := by
  have hallows : role.allowsEmpty = true ↔ role = .lead := by
    cases role <;> decide
  rw [checkName, ← hallows]
  by_cases hempty : name = "" ∧ role.allowsEmpty = true
  · rw [if_pos hempty]
    exact iff_of_true rfl (.inl hempty)
  · rw [if_neg hempty, Result.mapError_eq_ok, checkIdentifier_eq, Name.checkIdentifier_eq_ok_iff]
    exact (or_iff_right hempty).symm

theorem named_eq_ok_iff {kind : AttributeKind} {option : AttributeOption} {role : Role}
    {name : String} :
    named kind option = .ok (role, name) ↔
      role ∈ kind.roles ∧ option = ⟨role.option, .text name⟩ ∧
        (name = "" ∧ role = .lead ∨ Name.IsIdentifier name) := by
  obtain ⟨label, value⟩ := option
  rw [AttributeOption.mk.injEq, ← checkName_eq_ok_iff]
  constructor
  · intro h
    unfold named at h
    cases hrole : kind.role? label with
    | none =>
        rw [hrole] at h
        cases h
    | some found =>
        rw [hrole] at h
        cases value with
        | missing => cases h
        | other => cases h
        | text content =>
            obtain ⟨⟨⟩, hcheck, h⟩ := Result.bind_eq_ok.mp h
            cases h
            obtain ⟨hmem, hoption⟩ := role?_eq_some_iff.mp hrole
            exact ⟨hmem, ⟨hoption.symm, rfl⟩, hcheck⟩
  · rintro ⟨hmem, ⟨rfl, rfl⟩, hcheck⟩
    have hrole := role?_eq_some_iff.mpr ⟨hmem, rfl⟩
    simp only [named, hrole, hcheck]
    rfl

theorem exists_named_iff {kind : AttributeKind} {option : AttributeOption} :
    (∃ entry, named kind option = .ok entry) ↔ option.IsFor kind := by
  constructor
  · rintro ⟨⟨role, name⟩, h⟩
    obtain ⟨hrole, rfl, hname⟩ := named_eq_ok_iff.mp h
    have hplain : role ≠ .lead → Name.IsIdentifier name := fun hne =>
      hname.resolve_left fun hempty => hne hempty.2
    cases kind with
    | table =>
        obtain rfl := List.mem_singleton.mp hrole
        exact .table (hplain (by decide))
    | column =>
        obtain rfl := List.mem_singleton.mp hrole
        exact .column (hplain (by decide))
    | embedded =>
        obtain rfl := List.mem_singleton.mp hrole
        exact .lead (hname.imp_left And.left)
    | reference =>
        obtain rfl := List.mem_singleton.mp hrole
        exact .reference (hplain (by decide))
    | collection =>
        obtain rfl | hrole := List.mem_cons.mp hrole
        · exact .collection (hplain (by decide))
        · obtain rfl := List.mem_singleton.mp hrole
          exact .key (hplain (by decide))
  · intro h
    cases h with
    | table h => exact ⟨(.table, _), named_eq_ok_iff.mpr ⟨by decide, rfl, .inr h⟩⟩
    | column h => exact ⟨(.column, _), named_eq_ok_iff.mpr ⟨by decide, rfl, .inr h⟩⟩
    | lead h =>
        exact ⟨(.lead, _), named_eq_ok_iff.mpr ⟨by decide, rfl, h.imp_left (⟨·, rfl⟩)⟩⟩
    | reference h | collection h =>
        exact ⟨(.reverseColumn, _), named_eq_ok_iff.mpr ⟨by decide, rfl, .inr h⟩⟩
    | key h => exact ⟨(.keyColumn, _), named_eq_ok_iff.mpr ⟨by decide, rfl, .inr h⟩⟩

/-! ### All options -/

theorem exists_names_iff {kind : AttributeKind} {options : AttributeOptions} :
    (∃ names, Attribute.names kind options = .ok names) ↔ options.AreFor kind := by
  cases options with
  | bare =>
      have hkind : kind.needsOptions = true ∨
          kind = .embedded ∨ kind = .reference ∨ kind = .collection := by
        cases kind <;> decide
      obtain hneeds | hbare := hkind
      · rw [Attribute.names, if_pos hneeds]
        constructor
        · rintro ⟨_, ⟨⟩⟩
        · rintro (hbare | _)
          obtain rfl | rfl | rfl := hbare <;> cases hneeds
      · refine iff_of_true ⟨[], ?_⟩ (.bare hbare)
        obtain rfl | rfl | rfl := hbare <;> rfl
  | assigned =>
      constructor
      · rintro ⟨_, ⟨⟩⟩
      · rintro ⟨⟩
  | list options =>
      rw [Attribute.names, Result.exists_mapM_iff]
      simp only [exists_named_iff]
      constructor
      · exact .list
      · rintro (_ | h)
        exact h

theorem isIdentifier_of_mem_names {kind : AttributeKind} {options : AttributeOptions}
    {names : List (Role × String)} (h : Attribute.names kind options = .ok names) {role : Role}
    {name : String} (hmem : (role, name) ∈ names) (hrole : role ≠ .lead) :
    Name.IsIdentifier name := by
  cases options with
  | bare =>
      rw [Attribute.names] at h
      split_ifs at h
      cases h
      cases hmem
  | assigned => cases h
  | list options =>
      obtain ⟨option, -, hnamed⟩ := Result.exists_of_mem_mapM h hmem
      obtain ⟨-, -, hname⟩ := named_eq_ok_iff.mp hnamed
      exact hname.resolve_left fun hempty => hrole hempty.2

/-- The names of a role are the texts of its option, in an attribute that has this option. -/
theorem given_of_names {kind : AttributeKind} {options : AttributeOptions}
    {names : List (Role × String)} (h : Attribute.names kind options = .ok names) (role : Role) :
    given role names = if role ∈ kind.roles then options.texts role.option else [] := by
  cases options with
  | bare =>
      rw [Attribute.names] at h
      split_ifs at h
      cases h
      exact (ite_self []).symm
  | assigned => cases h
  | list options =>
      rw [Attribute.names, Result.mapM_eq_ok] at h
      induction h with
      | nil => exact (ite_self []).symm
      | @cons option entry options names hnamed _ ih =>
          obtain ⟨other, name⟩ := entry
          obtain ⟨hother, rfl, -⟩ := named_eq_ok_iff.mp hnamed
          rw [given_cons, ih, AttributeOptions.texts_cons]
          by_cases hrole : role ∈ kind.roles
          · have hsame : other = role ↔ other.option = role.option := by
              refine ⟨congrArg Role.option, fun hoption => ?_⟩
              have hfound := role?_eq_some_iff.mpr ⟨hother, hoption⟩
              rw [role?_eq_some_iff.mpr ⟨hrole, rfl⟩] at hfound
              exact (Option.some.inj hfound).symm
            rw [if_pos hrole, if_pos hrole]
            simp only [hsame]
          · have hne : other ≠ role := fun heq => hrole (heq ▸ hother)
            rw [if_neg hrole, if_neg hrole, if_neg hne]
            rfl

end Attribute

end EntityQuery
