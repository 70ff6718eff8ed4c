import EntityQuery.Proofs.Derive.Attribute
import EntityQuery.Proofs.Derive.Type

/-!
# Fields

Which fields declare a property, and which property it is.  The attributes of a field are read one
after another: what the draft of a property holds is what they have said so far.
-/

namespace EntityQuery

namespace Attribute

/-- The field is not simple; a field has at most one attribute of this sort. -/
def isMapping (mark : Attribute) : Bool :=
  ["embedded", "reference", "collection"].contains mark.key

/-- The texts that an option is given, if the attribute has one of the keys. -/
def texts (keys : List String) (option : String) (mark : Attribute) : List String :=
  if keys.contains mark.key then mark.options.texts option else []

/-- The attribute has the options that its key asks for. -/
def HasOptions (mark : Attribute) : Prop :=
  ∀ entry ∈ [("column", AttributeKind.column), ("embedded", .embedded), ("reference", .reference),
    ("collection", .collection)], mark.key = entry.1 → mark.options.AreFor entry.2

end Attribute

namespace SourceField

def texts (keys : List String) (option : String) (field : SourceField) : List String :=
  field.attributes.flatMap (Attribute.texts keys option)

/-- A wrapped collection of elements, which may be wrapped as well. -/
def IsCollection (type : Tokens) (kind : CollectionKind) (element : Tokens) : Prop :=
  ∃ target inner, type.Strips target ∧ target.IsCollection kind inner ∧ inner.Strips element

/-- How a field of this type is stored. -/
inductive HasShape (type : Tokens) (marks : List Attribute) : Shape Tokens → Prop
  | simple (h : ∀ mark ∈ marks, mark.isMapping = false) : HasShape type marks .simple
  | reference {target : Tokens} (hmark : ∃ mark ∈ marks, mark.key = "reference")
      (htarget : type.Strips target) : HasShape type marks (.reference target)
  | embedded {target : Tokens} (hmark : ∃ mark ∈ marks, mark.key = "embedded")
      (htarget : type.Strips target) :
      HasShape type marks (.embedded target
        ((marks.flatMap (Attribute.texts ["embedded"] "prefix")).getLast?.getD ""))
  | collection {kind : CollectionKind} {element : Tokens}
      (hmark : ∃ mark ∈ marks, mark.key = "collection")
      (helement : IsCollection type kind element) :
      HasShape type marks (.collection kind element)

/-- The property is what the field says. -/
structure Declares (field : SourceField) (property : PropertyDeclaration Tokens) : Prop where
  name_eq : property.name = plainName field.name
  shape : HasShape field.type field.attributes property.shape
  column_eq : property.column = (field.texts ["column"] "name").getLast?
  reverseColumn_eq : property.reverseColumn =
    (field.texts ["reference", "collection"] "reverse_column").getLast?
  keyColumn_eq : property.keyColumn = (field.texts ["collection"] "key_column").getLast?
  isIdentifier_eq : property.isIdentifier = field.isMarked "id"

/-- A property can be derived from the field. -/
structure IsDerivable (field : SourceField) : Prop where
  options : ∀ mark ∈ field.attributes, mark.HasOptions
  mapping : field.attributes.countP Attribute.isMapping ≤ 1
  collection : field.isMarked "collection" = true →
    ∃ kind element, IsCollection field.type kind element
  identifier : field.isMarked "id" = true → ∀ mark ∈ field.attributes, mark.isMapping = false

end SourceField

/-! ### Keys -/

namespace AttributeKind

theorem key_injective : Function.Injective key := by
  intro kind other h
  cases kind <;> cases other <;> first | rfl | exact absurd h (by decide)

theorem ofFieldKey?_eq_some_iff {key : String} {kind : AttributeKind} :
    ofFieldKey? key = some kind ↔ kind ∈ ofField ∧ key = kind.key := by
  constructor
  · intro h
    have hkey := List.find?_some h
    exact ⟨List.mem_of_find?_eq_some h, (beq_iff_eq.mp hkey).symm⟩
  · rintro ⟨hkind, rfl⟩
    cases kind <;> first | rfl | exact absurd hkind (by decide)

theorem ofFieldKey?_eq_none_iff {key : String} :
    ofFieldKey? key = none ↔ ∀ kind ∈ ofField, key ≠ kind.key := by
  unfold ofFieldKey?
  rw [List.find?_eq_none]
  simp only [beq_iff_eq, eq_comm (b := key), ne_eq]

end AttributeKind

namespace Attribute

/-- The keys of the attributes that have an option for this role. -/
def keys : Role → List String
  | .table => ["table"]
  | .column => ["column"]
  | .lead => ["embedded"]
  | .reverseColumn => ["reference", "collection"]
  | .keyColumn => ["collection"]

variable {mark : Attribute} {kind : AttributeKind} {role : Role}

theorem hasOptions_iff :
    mark.HasOptions ↔
      ∀ kind ∈ AttributeKind.ofField, mark.key = kind.key → mark.options.AreFor kind := by
  change (∀ entry ∈ AttributeKind.ofField.map fun kind => (kind.key, kind), _) ↔ _
  rw [List.forall_mem_map]

section Keyed

variable (hkind : AttributeKind.ofFieldKey? mark.key = some kind)

include hkind

theorem isMapping_of_kind : mark.isMapping = kind.isMapping := by
  rw [isMapping, (AttributeKind.ofFieldKey?_eq_some_iff.mp hkind).2]
  cases kind <;> rfl

theorem hasOptions_iff_of_kind : mark.HasOptions ↔ mark.options.AreFor kind := by
  obtain ⟨hfield, hkey⟩ := AttributeKind.ofFieldKey?_eq_some_iff.mp hkind
  rw [hasOptions_iff]
  constructor
  · exact fun h => h kind hfield hkey
  · intro h other _ hother
    rwa [← AttributeKind.key_injective (hkey.symm.trans hother)]

theorem texts_of_names {names : List (Role × String)}
    (h : Attribute.names kind mark.options = .ok names) (role : Role) :
    mark.texts (keys role) role.option = given role names := by
  have hkeys : (keys role).contains kind.key = decide (role ∈ kind.roles) := by
    cases role <;> cases kind <;> rfl
  rw [texts, (AttributeKind.ofFieldKey?_eq_some_iff.mp hkind).2, hkeys, given_of_names h]
  simp only [decide_eq_true_eq]

end Keyed

section Unkeyed

variable (hnone : AttributeKind.ofFieldKey? mark.key = none)

include hnone

theorem isMapping_of_no_kind : mark.isMapping = false := by
  rw [AttributeKind.ofFieldKey?_eq_none_iff] at hnone
  have hkeys : ∀ key ∈ ["embedded", "reference", "collection"],
      ∃ kind ∈ AttributeKind.ofField, key = kind.key := by
    decide
  rw [isMapping, Bool.eq_false_iff, Ne, List.contains_iff_mem]
  intro hmem
  obtain ⟨kind, hkind, hkey⟩ := hkeys mark.key hmem
  exact hnone kind hkind hkey

theorem hasOptions_of_no_kind : mark.HasOptions := by
  rw [AttributeKind.ofFieldKey?_eq_none_iff] at hnone
  exact hasOptions_iff.mpr fun kind hkind hkey => absurd hkey (hnone kind hkind)

theorem texts_of_no_kind (hrole : role ≠ .table) : mark.texts (keys role) role.option = [] := by
  rw [AttributeKind.ofFieldKey?_eq_none_iff] at hnone
  have hkeys : ∀ key ∈ keys role, ∃ kind ∈ AttributeKind.ofField, key = kind.key := by
    cases role <;> first | exact absurd rfl hrole | decide
  rw [texts, if_neg]
  intro hcontains
  obtain ⟨kind, hkind, hkey⟩ := hkeys mark.key (List.contains_iff_mem.mp hcontains)
  exact hnone kind hkind hkey

end Unkeyed

theorem texts_of_isMapping_false (h : mark.isMapping = false) {keys : List String}
    (hkeys : ∀ key ∈ keys, key ∈ ["embedded", "reference", "collection"]) (option : String) :
    mark.texts keys option = [] := by
  rw [texts, if_neg]
  intro hcontains
  have hmem := hkeys mark.key (List.contains_iff_mem.mp hcontains)
  rw [isMapping, List.contains_iff_mem.mpr hmem] at h
  cases h

end Attribute

namespace SourceField

open Attribute

variable {type : Tokens}

theorem isCollection_iff {kind : CollectionKind} {element : Tokens} :
    IsCollection type kind element ↔ type.unwrapped.collection? = some (kind, element) := by
  rw [Tokens.collection?_eq_some_iff]
  constructor
  · rintro ⟨target, inner, htarget, hcollection, hinner⟩
    rw [← htarget.unique type.strips_unwrapped]
    exact ⟨inner, hcollection, inner.strips_unwrapped.unique hinner⟩
  · rintro ⟨inner, hcollection, rfl⟩
    exact ⟨type.unwrapped, inner, type.strips_unwrapped, hcollection, inner.strips_unwrapped⟩

theorem HasShape.append {marks : List Attribute} {shape : Shape Tokens} {mark : Attribute}
    (h : HasShape type marks shape) (hmark : mark.isMapping = false) :
    HasShape type (marks ++ [mark]) shape := by
  have hlonger : ∀ key, (∃ other ∈ marks, other.key = key) →
      ∃ other ∈ marks ++ [mark], other.key = key := fun key ⟨other, hother, hkey⟩ =>
    ⟨other, List.mem_append_left _ hother, hkey⟩
  cases h with
  | simple h =>
      exact .simple (List.forall_mem_append.mpr ⟨h, List.forall_mem_singleton.mpr hmark⟩)
  | reference hmark htarget => exact .reference (hlonger _ hmark) htarget
  | embedded hmarked htarget =>
      have htexts : (marks ++ [mark]).flatMap (Attribute.texts ["embedded"] "prefix") =
          marks.flatMap (Attribute.texts ["embedded"] "prefix") := by
        rw [List.flatMap_append, List.flatMap_singleton,
          texts_of_isMapping_false hmark (by decide), List.append_nil]
      rw [← htexts]
      exact .embedded (hlonger _ hmarked) htarget
  | collection hmark helement => exact .collection (hlonger _ hmark) helement

theorem HasShape.isSimple_iff {marks : List Attribute} {shape : Shape Tokens}
    (h : HasShape type marks shape) :
    shape.isSimple = true ↔ ∀ mark ∈ marks, mark.isMapping = false := by
  have hmarked : ∀ {key}, key ∈ ["embedded", "reference", "collection"] →
      (∃ mark ∈ marks, mark.key = key) → ¬ ∀ mark ∈ marks, mark.isMapping = false := by
    rintro _ hkey ⟨mark, hmark, rfl⟩ hall
    have hmapping := hall mark hmark
    rw [isMapping, List.contains_iff_mem.mpr hkey] at hmapping
    cases hmapping
  cases h with
  | simple hall => exact iff_of_true rfl hall
  | reference hmark _ | embedded hmark _ | collection hmark _ =>
      exact iff_of_false Bool.false_ne_true (hmarked (by decide) hmark)

/-! ### Drafts -/

namespace Draft

variable {draft next : Draft} {mark : Attribute}

/-- An attribute says nothing, or it gives names, or it gives a shape and names. -/
inductive Extends (type : Tokens) (draft : Draft) (mark : Attribute) : Draft → Prop
  | skip (hnone : AttributeKind.ofFieldKey? mark.key = none) : Extends type draft mark draft
  | name {kind : AttributeKind} {names : List (Role × String)}
      (hkind : AttributeKind.ofFieldKey? mark.key = some kind) (hmapping : kind.isMapping = false)
      (hnames : Attribute.names kind mark.options = .ok names) :
      Extends type draft mark { draft with names := draft.names ++ names }
  | shape {kind : AttributeKind} {names : List (Role × String)} {shape : Shape Tokens}
      (hkind : AttributeKind.ofFieldKey? mark.key = some kind) (hmapping : kind.isMapping = true)
      (hfirst : draft.mapping = none) (hnames : Attribute.names kind mark.options = .ok names)
      (hshape : shape? type names kind = .ok shape) :
      Extends type draft mark ⟨some kind, shape, draft.names ++ names⟩

theorem extend?_eq_ok_iff : extend? type draft mark = .ok next ↔ Extends type draft mark next := by
  constructor
  · intro h
    unfold extend? at h
    cases hkind : AttributeKind.ofFieldKey? mark.key with
    | none =>
        rw [hkind] at h
        cases h
        exact .skip hkind
    | some kind =>
        simp only [hkind] at h
        cases hmapping : kind.isMapping with
        | false =>
            simp only [hmapping, if_neg Bool.false_ne_true] at h
            obtain ⟨names, hnames, h⟩ := Result.bind_eq_ok.mp h
            cases h
            exact .name hkind hmapping hnames
        | true =>
            simp only [hmapping, if_true] at h
            cases hfirst : draft.mapping with
            | some previous =>
                rw [hfirst] at h
                cases h
            | none =>
                simp only [hfirst] at h
                obtain ⟨names, hnames, h⟩ := Result.bind_eq_ok.mp h
                obtain ⟨shape, hshape, h⟩ := Result.bind_eq_ok.mp h
                cases h
                exact .shape hkind hmapping hfirst hnames hshape
  · intro h
    cases h with
    | skip hnone => rw [extend?, hnone]
    | name hkind hmapping hnames =>
        simp only [extend?, hkind, hmapping, if_neg Bool.false_ne_true]
        exact Result.bind_eq_ok.mpr ⟨_, hnames, rfl⟩
    | shape hkind hmapping hfirst hnames hshape =>
        simp only [extend?, hkind, hmapping, hfirst, if_true]
        exact Result.bind_eq_ok.mpr ⟨_, hnames, Result.bind_eq_ok.mpr ⟨_, hshape, rfl⟩⟩

theorem shape?_eq_ok_iff {names : List (Role × String)} {kind : AttributeKind}
    {shape : Shape Tokens} (hmapping : kind.isMapping = true) :
    shape? type names kind = .ok shape ↔
      (kind = .embedded ∧
        shape = .embedded type.unwrapped ((Attribute.given .lead names).getLast?.getD "")) ∨
      (kind = .reference ∧ shape = .reference type.unwrapped) ∨
      (kind = .collection ∧ ∃ sort element, IsCollection type sort element ∧
        shape = .collection sort element) := by
  cases kind with
  | table | column => cases hmapping
  | embedded => simp [shape?, name?_eq, eq_comm]
  | reference => simp [shape?, eq_comm]
  | collection =>
      simp only [shape?, isCollection_iff]
      cases type.unwrapped.collection? with
      | none => simp
      | some found =>
          obtain ⟨sort, element⟩ := found
          simp [eq_comm]

theorem exists_shape? {kind : AttributeKind} (hmapping : kind.isMapping = true)
    (hcollection : kind = .collection → ∃ sort element, IsCollection type sort element)
    (names : List (Role × String)) : ∃ shape, shape? type names kind = .ok shape := by
  cases kind with
  | table | column => cases hmapping
  | embedded => exact ⟨_, rfl⟩
  | reference => exact ⟨_, rfl⟩
  | collection =>
      obtain ⟨sort, element, hsort⟩ := hcollection rfl
      exact ⟨_, (shape?_eq_ok_iff hmapping).mpr (.inr (.inr ⟨rfl, sort, element, hsort, rfl⟩))⟩

theorem exists_extends_iff :
    (∃ next, Extends type draft mark next) ↔
      mark.HasOptions ∧ (mark.isMapping = true → draft.mapping = none) ∧
        (mark.key = "collection" → ∃ kind element, IsCollection type kind element) := by
  constructor
  · rintro ⟨next, hnext⟩
    cases hnext with
    | skip hnone =>
        refine ⟨hasOptions_of_no_kind hnone, fun hmapping => ?_, fun hkey => ?_⟩
        · rw [isMapping_of_no_kind hnone] at hmapping
          cases hmapping
        · rw [hkey] at hnone
          cases hnone
    | name hkind hmapping hnames =>
        refine ⟨(hasOptions_iff_of_kind hkind).mpr (exists_names_iff.mp ⟨_, hnames⟩), ?_, ?_⟩
        · intro htrue
          rw [isMapping_of_kind hkind, hmapping] at htrue
          cases htrue
        · intro hkey
          rw [hkey] at hkind
          cases hkind
          cases hmapping
    | shape hkind hmapping hfirst hnames hshape =>
        refine ⟨(hasOptions_iff_of_kind hkind).mpr (exists_names_iff.mp ⟨_, hnames⟩),
          fun _ => hfirst, fun hkey => ?_⟩
        rw [hkey] at hkind
        cases hkind
        obtain ⟨⟨⟩, -⟩ | ⟨⟨⟩, -⟩ | ⟨-, sort, element, hcollection, -⟩ :=
          (shape?_eq_ok_iff hmapping).mp hshape
        exact ⟨sort, element, hcollection⟩
  · rintro ⟨hoptions, hfirst, hcollection⟩
    cases hkind : AttributeKind.ofFieldKey? mark.key with
    | none => exact ⟨draft, .skip hkind⟩
    | some kind =>
        obtain ⟨names, hnames⟩ := exists_names_iff.mpr ((hasOptions_iff_of_kind hkind).mp hoptions)
        cases hmapping : kind.isMapping with
        | false => exact ⟨_, .name hkind hmapping hnames⟩
        | true =>
            have hmark := (isMapping_of_kind hkind).trans hmapping
            have hkey := (AttributeKind.ofFieldKey?_eq_some_iff.mp hkind).2
            obtain ⟨shape, hshape⟩ := exists_shape? hmapping
              (fun hkind => hcollection (hkey.trans (congrArg AttributeKind.key hkind))) names
            exact ⟨_, .shape hkind hmapping (hfirst hmark) hnames hshape⟩

theorem Extends.length_mapping (h : Extends type draft mark next) :
    next.mapping.toList.length =
      draft.mapping.toList.length + if mark.isMapping = true then 1 else 0 := by
  cases h with
  | skip hnone => rw [isMapping_of_no_kind hnone, if_neg Bool.false_ne_true, Nat.add_zero]
  | name hkind hmapping hnames =>
      rw [isMapping_of_kind hkind, hmapping, if_neg Bool.false_ne_true, Nat.add_zero]
  | shape hkind hmapping hfirst hnames hshape =>
      rw [isMapping_of_kind hkind, hmapping, if_pos rfl, hfirst]
      rfl

theorem exists_foldlM_iff {marks : List Attribute} :
    (∃ final, marks.foldlM (extend? type) draft = .ok final) ↔
      (∀ mark ∈ marks, mark.HasOptions) ∧
        draft.mapping.toList.length + marks.countP Attribute.isMapping ≤ 1 ∧
        ∀ mark ∈ marks, mark.key = "collection" →
          ∃ kind element, IsCollection type kind element := by
  induction marks generalizing draft with
  | nil =>
      refine iff_of_true ⟨draft, rfl⟩ ⟨List.forall_mem_nil _, ?_, List.forall_mem_nil _⟩
      cases draft.mapping <;> simp
  | cons mark marks ih =>
      rw [List.foldlM_cons, List.forall_mem_cons, List.forall_mem_cons, List.countP_cons]
      constructor
      · rintro ⟨final, hfold⟩
        obtain ⟨next, hnext, hrest⟩ := Result.bind_eq_ok.mp hfold
        rw [extend?_eq_ok_iff] at hnext
        obtain ⟨hoptions, -, hcollection⟩ := exists_extends_iff.mp ⟨next, hnext⟩
        obtain ⟨hmoreOptions, hcount, hmoreCollections⟩ := ih.mp ⟨final, hrest⟩
        rw [hnext.length_mapping] at hcount
        exact ⟨⟨hoptions, hmoreOptions⟩, by omega, hcollection, hmoreCollections⟩
      · rintro ⟨⟨hoptions, hmoreOptions⟩, hcount, hcollection, hmoreCollections⟩
        have hfirst : mark.isMapping = true → draft.mapping = none := by
          intro hmapping
          rw [if_pos hmapping] at hcount
          have hlength : draft.mapping.toList.length = 0 := by omega
          rwa [List.length_eq_zero_iff, Option.toList_eq_nil_iff] at hlength
        obtain ⟨next, hnext⟩ := exists_extends_iff.mpr ⟨hoptions, hfirst, hcollection⟩
        have hlength := hnext.length_mapping
        obtain ⟨final, hrest⟩ : ∃ final, marks.foldlM (extend? type) next = .ok final :=
          ih.mpr ⟨hmoreOptions, by omega, hmoreCollections⟩
        exact ⟨final, Result.bind_eq_ok.mpr ⟨next, extend?_eq_ok_iff.mpr hnext, hrest⟩⟩

/-! ### What a draft holds -/

/-- The draft of a property is what these attributes say. -/
structure Reads (type : Tokens) (marks : List Attribute) (draft : Draft) : Prop where
  mapping : draft.mapping = none ↔ ∀ mark ∈ marks, mark.isMapping = false
  shape : HasShape type marks draft.shape
  given_eq : ∀ role, role ≠ .table →
    given role draft.names = marks.flatMap (Attribute.texts (keys role) role.option)

theorem reads_empty (type : Tokens) : Reads type [] empty where
  mapping := iff_of_true rfl (List.forall_mem_nil _)
  shape := .simple (List.forall_mem_nil _)
  given_eq _ _ := rfl

variable {marks : List Attribute}

theorem Extends.mapping_eq_none_iff (h : Extends type draft mark next) :
    next.mapping = none ↔ draft.mapping = none ∧ mark.isMapping = false := by
  cases h with
  | skip hnone => rw [and_iff_left (isMapping_of_no_kind hnone)]
  | name hkind hmapping hnames => rw [and_iff_left ((isMapping_of_kind hkind).trans hmapping)]
  | shape hkind hmapping hfirst hnames hshape =>
      rw [isMapping_of_kind hkind, hmapping]
      exact iff_of_false (Option.some_ne_none _) fun h => Bool.false_ne_true h.2.symm

theorem Extends.given_eq (h : Extends type draft mark next) {role : Role} (hrole : role ≠ .table) :
    given role next.names = given role draft.names ++ mark.texts (keys role) role.option := by
  cases h with
  | skip hnone => rw [texts_of_no_kind hnone hrole, List.append_nil]
  | name hkind hmapping hnames | shape hkind hmapping hfirst hnames hshape =>
      rw [given_append, texts_of_names hkind hnames]

/-- The shape that an attribute gives is that of the field, if there was none before it. -/
theorem Extends.hasShape (h : Extends type draft mark next)
    (hbefore : draft.mapping = none → ∀ other ∈ marks, other.isMapping = false)
    (hshape : HasShape type marks draft.shape) : HasShape type (marks ++ [mark]) next.shape := by
  cases h with
  | skip hnone => exact hshape.append (isMapping_of_no_kind hnone)
  | name hkind hmapping hnames => exact hshape.append ((isMapping_of_kind hkind).trans hmapping)
  | @shape kind names shape hkind hmapping hfirst hnames hgiven =>
      have hmarked : ∃ other ∈ marks ++ [mark], other.key = kind.key :=
        ⟨mark, List.mem_append_right _ List.mem_cons_self,
          (AttributeKind.ofFieldKey?_eq_some_iff.mp hkind).2⟩
      obtain ⟨rfl, rfl⟩ | ⟨rfl, rfl⟩ | ⟨rfl, sort, element, hcollection, rfl⟩ :=
        (shape?_eq_ok_iff hmapping).mp hgiven
      · have hnothing : marks.flatMap (Attribute.texts ["embedded"] "prefix") = [] :=
          List.flatMap_eq_nil_iff.mpr fun other hother =>
            texts_of_isMapping_false (hbefore hfirst other hother) (by decide) _
        have htexts : (marks ++ [mark]).flatMap (Attribute.texts ["embedded"] "prefix") =
            given .lead names := by
          rw [List.flatMap_append, List.flatMap_singleton, hnothing, List.nil_append]
          exact texts_of_names hkind hnames .lead
        rw [← htexts]
        exact .embedded hmarked type.strips_unwrapped
      · exact .reference hmarked type.strips_unwrapped
      · exact .collection hmarked hcollection

theorem Reads.extend (h : Reads type marks draft) (hmark : Extends type draft mark next) :
    Reads type (marks ++ [mark]) next where
  mapping := by
    rw [hmark.mapping_eq_none_iff, h.mapping, List.forall_mem_append, List.forall_mem_singleton]
  shape := hmark.hasShape h.mapping.mp h.shape
  given_eq role hrole := by
    rw [hmark.given_eq hrole, h.given_eq role hrole, List.flatMap_append, List.flatMap_singleton]

theorem reads_of_foldlM {rest : List Attribute} {final : Draft} (h : Reads type marks draft)
    (hfold : rest.foldlM (extend? type) draft = .ok final) : Reads type (marks ++ rest) final := by
  induction rest generalizing marks draft with
  | nil =>
      cases hfold
      rwa [List.append_nil]
  | cons mark rest ih =>
      rw [List.foldlM_cons] at hfold
      obtain ⟨next, hnext, hrest⟩ := Result.bind_eq_ok.mp hfold
      have hfinal := ih (h.extend (extend?_eq_ok_iff.mp hnext)) hrest
      rwa [List.append_assoc, List.singleton_append] at hfinal

end Draft

/-! ### Properties -/

variable {field : SourceField} {property : PropertyDeclaration Tokens}

theorem property?_eq_ok_iff :
    field.property? = .ok property ↔
      ∃ draft, field.attributes.foldlM (Draft.extend? field.type) .empty = .ok draft ∧
        (field.isMarked "id" = true → draft.shape.isSimple = true) ∧
        (⟨plainName field.name, draft.shape, Attribute.name? .column draft.names,
          Attribute.name? .reverseColumn draft.names, Attribute.name? .keyColumn draft.names,
          field.isMarked "id"⟩ : PropertyDeclaration Tokens) = property := by
  unfold property?
  rw [Result.bind_eq_ok]
  refine exists_congr fun draft => and_congr_right fun _ => ?_
  change (if (field.isMarked "id" && !draft.shape.isSimple) = true then _ else _) = _ ↔ _
  by_cases hrefused : (field.isMarked "id" && !draft.shape.isSimple) = true
  · rw [if_pos hrefused]
    rw [Bool.and_eq_true, Bool.not_eq_true'] at hrefused
    constructor
    · intro h
      cases h
    · rintro ⟨hsimple, -⟩
      rw [hsimple hrefused.1] at hrefused
      cases hrefused.2
  · rw [if_neg hrefused]
    have hsimple : field.isMarked "id" = true → draft.shape.isSimple = true := by
      simpa using hrefused
    rw [and_iff_right hsimple]
    exact Result.pure_eq_ok

theorem exists_property?_iff :
    (∃ property, field.property? = .ok property) ↔ field.IsDerivable := by
  have hmarked : field.isMarked "collection" = true ↔
      ∃ mark ∈ field.attributes, mark.key = "collection" := by
    simp [isMarked]
  constructor
  · rintro ⟨property, h⟩
    obtain ⟨draft, hfold, hsimple, -⟩ := property?_eq_ok_iff.mp h
    obtain ⟨hoptions, hcount, hcollection⟩ := Draft.exists_foldlM_iff.mp ⟨draft, hfold⟩
    have hreads := Draft.reads_of_foldlM (Draft.reads_empty field.type) hfold
    refine ⟨hoptions, ?_, fun hcollected => ?_, fun hid => ?_⟩
    · simpa [Draft.empty] using hcount
    · obtain ⟨mark, hmark, hkey⟩ := hmarked.mp hcollected
      exact hcollection mark hmark hkey
    · exact hreads.shape.isSimple_iff.mp (hsimple hid)
  · rintro ⟨hoptions, hcount, hcollection, hid⟩
    obtain ⟨draft, hfold⟩ : ∃ final,
        field.attributes.foldlM (Draft.extend? field.type) .empty = .ok final := by
      refine Draft.exists_foldlM_iff.mpr ⟨hoptions, ?_, fun mark hmark hkey => ?_⟩
      · simpa [Draft.empty] using hcount
      · exact hcollection (hmarked.mpr ⟨mark, hmark, hkey⟩)
    have hreads := Draft.reads_of_foldlM (Draft.reads_empty field.type) hfold
    exact ⟨_, property?_eq_ok_iff.mpr ⟨draft, hfold, fun hmarked =>
      hreads.shape.isSimple_iff.mpr (hid hmarked), rfl⟩⟩

theorem declares_of_property? (h : field.property? = .ok property) : field.Declares property := by
  obtain ⟨draft, hfold, -, rfl⟩ := property?_eq_ok_iff.mp h
  have hreads := Draft.reads_of_foldlM (Draft.reads_empty field.type) hfold
  rw [List.nil_append] at hreads
  have hname : ∀ role, role ≠ .table → Attribute.name? role draft.names =
      (field.texts (keys role) role.option).getLast? := by
    intro role hrole
    rw [name?_eq, hreads.given_eq role hrole]
    rfl
  exact ⟨rfl, hreads.shape, hname .column (by decide), hname .reverseColumn (by decide),
    hname .keyColumn (by decide), rfl⟩

end SourceField

end EntityQuery
