import EntityQuery.Proofs.Derive.Field

/-!
# Attributes in any order

The attributes of a field may stand in any order: a field that has the same ones in another order
declares the same property, or none either.  Only of several columns the last one counts.  The other
attributes that map a field exclude each other, so there is never an order among them.
-/

namespace EntityQuery

/-! ### At most one element of a sort -/

section AtMostOne

variable {α β : Type} {p : α → Bool} {l others : List α}

theorem filter_eq_singleton (h : l.countP p ≤ 1) {a : α} (ha : a ∈ l) (hpa : p a = true) :
    l.filter p = [a] := by
  have hmem := List.mem_filter.mpr ⟨ha, hpa⟩
  have hpos := List.length_pos_of_mem hmem
  rw [List.countP_eq_length_filter] at h
  obtain ⟨b, hb⟩ : ∃ b, l.filter p = [b] := List.length_eq_one_iff.mp (by omega)
  rw [hb, List.mem_singleton] at hmem
  rw [hb, hmem]

theorem filter_eq_of_perm (hperm : l.Perm others) (h : l.countP p ≤ 1) :
    l.filter p = others.filter p := by
  have hfilter := hperm.filter p
  rw [List.countP_eq_length_filter] at h
  rcases hone : l.filter p with _ | ⟨a, _ | ⟨b, rest⟩⟩
  · rw [hone] at hfilter
    exact hfilter.symm.eq_nil.symm
  · rw [hone] at hfilter
    exact hfilter.singleton_eq
  · rw [hone, List.length_cons, List.length_cons] at h
    omega

theorem flatMap_filter {f : α → List β} (hf : ∀ a, p a = false → f a = []) (l : List α) :
    (l.filter p).flatMap f = l.flatMap f := by
  induction l with
  | nil => rfl
  | cons a l ih =>
      rw [List.flatMap_cons, ← ih]
      cases hpa : p a with
      | false => rw [List.filter_cons_of_neg (by simp [hpa]), hf a hpa, List.nil_append]
      | true => rw [List.filter_cons_of_pos hpa, List.flatMap_cons]

/-- What a single element gives does not depend on where it stands. -/
theorem flatMap_eq_of_perm {f : α → List β} (hf : ∀ a, p a = false → f a = [])
    (hperm : l.Perm others) (h : l.countP p ≤ 1) : l.flatMap f = others.flatMap f := by
  rw [← flatMap_filter hf l, filter_eq_of_perm hperm h, flatMap_filter hf]

end AtMostOne

namespace SourceField

variable {name : String} {type : Tokens} {marks others : List Attribute}

theorem isMarked_of_perm (hperm : marks.Perm others) (key : String) :
    isMarked key ⟨name, type, marks⟩ = isMarked key ⟨name, type, others⟩ :=
  hperm.any_eq

theorem IsDerivable.of_perm (hperm : marks.Perm others)
    (h : IsDerivable ⟨name, type, marks⟩) : IsDerivable ⟨name, type, others⟩ where
  options mark hmark := h.options mark (hperm.mem_iff.mpr hmark)
  mapping := by rw [← hperm.countP_eq]; exact h.mapping
  collection hmarked := h.collection ((isMarked_of_perm hperm _).trans hmarked)
  identifier hmarked mark hmark :=
    h.identifier ((isMarked_of_perm hperm _).trans hmarked) mark (hperm.mem_iff.mpr hmark)

section Texts

variable (hperm : marks.Perm others) {keys : List String} (option : String)

include hperm

/-- The texts of an option that a single attribute has. -/
theorem texts_of_perm {p : Attribute → Bool}
    (hkeys : ∀ mark : Attribute, mark.key ∈ keys → p mark = true) (h : marks.countP p ≤ 1) :
    marks.flatMap (Attribute.texts keys option) = others.flatMap (Attribute.texts keys option) := by
  refine flatMap_eq_of_perm (fun mark hmark => ?_) hperm h
  rw [Attribute.texts, if_neg]
  intro hcontains
  rw [hkeys mark (List.contains_iff_mem.mp hcontains)] at hmark
  cases hmark

theorem mappingTexts_of_perm (hkeys : ∀ key ∈ keys, key ∈ ["embedded", "reference", "collection"])
    (h : marks.countP Attribute.isMapping ≤ 1) :
    marks.flatMap (Attribute.texts keys option) = others.flatMap (Attribute.texts keys option) :=
  texts_of_perm hperm option
    (fun mark hmark => List.contains_iff_mem.mpr (hkeys mark.key hmark)) h

end Texts

/-- The key of the attribute that gives the shape, if there is one. -/
def shapeKeys : Shape Tokens → List String
  | .simple => []
  | .reference _ => ["reference"]
  | .embedded _ _ => ["embedded"]
  | .collection _ _ => ["collection"]

theorem HasShape.keys_eq {shape : Shape Tokens} (h : HasShape type marks shape)
    (hmapping : marks.countP Attribute.isMapping ≤ 1) :
    (marks.filter Attribute.isMapping).map Attribute.key = shapeKeys shape := by
  have hmarked : ∀ {key}, key ∈ ["embedded", "reference", "collection"] →
      (∃ mark ∈ marks, mark.key = key) →
        (marks.filter Attribute.isMapping).map Attribute.key = [key] := by
    rintro _ hkey ⟨mark, hmark, rfl⟩
    rw [filter_eq_singleton hmapping hmark (List.contains_iff_mem.mpr hkey), List.map_singleton]
  cases h with
  | simple h =>
      have hnone : marks.filter Attribute.isMapping = [] :=
        List.filter_eq_nil_iff.mpr fun mark hmark => Bool.eq_false_iff.mp (h mark hmark)
      rw [hnone]
      rfl
  | reference hmark _ | embedded hmark _ | collection hmark _ => exact hmarked (by decide) hmark

/-- The attribute that maps the field decides about the shape, wherever it stands. -/
theorem HasShape.eq_of_perm {shape other : Shape Tokens} (h : HasShape type marks shape)
    (hother : HasShape type others other) (hperm : marks.Perm others)
    (hmapping : marks.countP Attribute.isMapping ≤ 1) : shape = other := by
  have hkeys : shapeKeys shape = shapeKeys other := by
    rw [← h.keys_eq hmapping, filter_eq_of_perm hperm hmapping,
      hother.keys_eq (by rwa [← hperm.countP_eq])]
  have hleads : marks.flatMap (Attribute.texts ["embedded"] "prefix") =
      others.flatMap (Attribute.texts ["embedded"] "prefix") :=
    mappingTexts_of_perm hperm "prefix" (by decide) hmapping
  cases h with
  | simple _ =>
      cases hother with
      | simple _ => rfl
      | reference _ _ | embedded _ _ | collection _ _ => simp [shapeKeys] at hkeys
  | reference _ htarget =>
      cases hother with
      | reference _ htarget' => rw [htarget.unique htarget']
      | simple _ | embedded _ _ | collection _ _ => simp [shapeKeys] at hkeys
  | embedded _ htarget =>
      cases hother with
      | embedded _ htarget' =>
          rw [htarget.unique htarget']
          rw [hleads]
      | simple _ | reference _ _ | collection _ _ => simp [shapeKeys] at hkeys
  | collection _ helement =>
      cases hother with
      | collection _ helement' =>
          rw [isCollection_iff] at helement helement'
          cases helement.symm.trans helement'
          rfl
      | simple _ | reference _ _ | embedded _ _ => simp [shapeKeys] at hkeys

theorem Declares.eq_of_perm {property other : PropertyDeclaration Tokens}
    (h : Declares ⟨name, type, marks⟩ property) (hother : Declares ⟨name, type, others⟩ other)
    (hperm : marks.Perm others) (hcolumn : marks.countP (·.key == "column") ≤ 1)
    (hmapping : marks.countP Attribute.isMapping ≤ 1) : property = other := by
  have hcolumnTexts : marks.flatMap (Attribute.texts ["column"] "name") =
      others.flatMap (Attribute.texts ["column"] "name") :=
    texts_of_perm hperm "name" (fun _ hmark => beq_iff_eq.mpr (List.mem_singleton.mp hmark)) hcolumn
  have hreverseTexts :
      marks.flatMap (Attribute.texts ["reference", "collection"] "reverse_column") =
        others.flatMap (Attribute.texts ["reference", "collection"] "reverse_column") :=
    mappingTexts_of_perm hperm "reverse_column" (by decide) hmapping
  have hkeyTexts : marks.flatMap (Attribute.texts ["collection"] "key_column") =
      others.flatMap (Attribute.texts ["collection"] "key_column") :=
    mappingTexts_of_perm hperm "key_column" (by decide) hmapping
  have hname : property.name = other.name := h.name_eq.trans hother.name_eq.symm
  have hshape : property.shape = other.shape := h.shape.eq_of_perm hother.shape hperm hmapping
  have hcolumnName : property.column = other.column := by
    rw [h.column_eq, hother.column_eq, texts, texts, hcolumnTexts]
  have hreverseColumn : property.reverseColumn = other.reverseColumn := by
    rw [h.reverseColumn_eq, hother.reverseColumn_eq, texts, texts, hreverseTexts]
  have hkeyColumn : property.keyColumn = other.keyColumn := by
    rw [h.keyColumn_eq, hother.keyColumn_eq, texts, texts, hkeyTexts]
  have hidentifier : property.isIdentifier = other.isIdentifier := by
    rw [h.isIdentifier_eq, hother.isIdentifier_eq, isMarked_of_perm hperm]
  cases property
  cases other
  rw [PropertyDeclaration.mk.injEq]
  exact ⟨hname, hshape, hcolumnName, hreverseColumn, hkeyColumn, hidentifier⟩

/-- The order of attributes does not matter, as long as there is one column. -/
theorem property?_of_perm (name : String) (type : Tokens) (hperm : marks.Perm others)
    (hcolumn : marks.countP (·.key == "column") ≤ 1) :
    ((∃ error, property? ⟨name, type, marks⟩ = .error error) ∧
        ∃ error, property? ⟨name, type, others⟩ = .error error) ∨
      ∃ property, property? ⟨name, type, marks⟩ = .ok property ∧
        property? ⟨name, type, others⟩ = .ok property := by
  cases h : property? ⟨name, type, marks⟩ with
  | ok property =>
      have hderivable := exists_property?_iff.mp ⟨property, h⟩
      obtain ⟨other, hother⟩ := exists_property?_iff.mpr (hderivable.of_perm hperm)
      have hsame := (declares_of_property? h).eq_of_perm (declares_of_property? hother) hperm
        hcolumn hderivable.mapping
      exact .inr ⟨property, rfl, hsame ▸ hother⟩
  | error error =>
      refine .inl ⟨⟨error, rfl⟩, ?_⟩
      cases hother : property? ⟨name, type, others⟩ with
      | error cause => exact ⟨cause, rfl⟩
      | ok other =>
          have hderivable := exists_property?_iff.mp ⟨other, hother⟩
          obtain ⟨property, hproperty⟩ :=
            exists_property?_iff.mpr (hderivable.of_perm hperm.symm)
          rw [h] at hproperty
          cases hproperty

/-- A list that is found behind its columns and before them. -/
theorem property?_of_perm_phones :
    let type : Tokens := ["Option", "<", "Vec", "<", "Phone", ">", ">"]
    let column : Attribute := ⟨"column", .list [⟨"name", .text "phones"⟩]⟩
    let note : Attribute := ⟨"doc", .assigned⟩
    let collection : Attribute :=
      ⟨"collection", .list [⟨"key_column", .text "position"⟩, ⟨"reverse_column", .text "owner"⟩]⟩
    [collection, note, column].Perm [column, collection, note] ∧
      [collection, note, column].countP (·.key == "column") ≤ 1 ∧
      property? ⟨"r#list", type, [column, collection, note]⟩ =
        .ok ⟨"list", .collection .list ["Phone"], some "phones", some "owner", some "position",
          false⟩ := by
  intro type column note collection
  have hperm : [collection, note, column].Perm [column, collection, note] := by decide
  have hcolumn : [collection, note, column].countP (·.key == "column") ≤ 1 := by decide
  have hproperty : property? ⟨"r#list", type, [collection, note, column]⟩ =
      .ok ⟨"list", .collection .list ["Phone"], some "phones", some "owner", some "position",
        false⟩ := by
    decide +kernel
  refine ⟨hperm, hcolumn, ?_⟩
  obtain ⟨⟨error, herror⟩, -⟩ | ⟨property, hfirst, hsecond⟩ :=
    property?_of_perm "r#list" type hperm hcolumn
  · rw [hproperty] at herror
    cases herror
  · rw [hproperty] at hfirst
    rw [hsecond, hfirst]

end SourceField

end EntityQuery
