import EntityQuery.Proofs.Path.Ancestor

/-!
# Aliases of tables

The alias of a table is put together by a recursion from the leaf up to the root.  It is what the
labels of the path give in their order: each stands behind the alias so far, apart from it unless the
segment before is embedded, and empty labels begin nothing.
-/

namespace EntityQuery

/-- What stands between the label of the segment and the next one. -/
def Segment.joint (segment : Segment) : String :=
  if segment.property.shape.isEmbedded then "" else "_"

namespace Path

/-- A label behind an alias, or the first one of an alias. -/
def addLabel (joint : String) (label : String) : Option String → Option String
  | some name => some (name ++ joint ++ label)
  | none => if label = "" then none else some label

/-- The alias that the labels of further segments lead to, where `joint` is put before the first of
them. -/
def aliasFrom (joint : String) (name : Option String) : List Segment → Option String
  | [] => name
  | segment :: rest => aliasFrom segment.joint (addLabel joint segment.label name) rest

theorem aliasFrom_concat (joint : String) (name : Option String) (earlier : List Segment)
    (segment : Segment) :
    aliasFrom joint name (earlier ++ [segment]) =
      addLabel ((earlier.getLast?.map Segment.joint).getD joint) segment.label
        (aliasFrom joint name earlier) := by
  induction earlier generalizing joint name with
  | nil => rfl
  | cons first rest ih =>
      rw [List.cons_append, aliasFrom, aliasFrom, ih, List.getLast?_cons]
      cases rest.getLast? <;> rfl

variable {path : Path} {climb : List Segment} {name : String}

theorem aliasOf_cons (segment : Segment) (parents : List Segment) :
    aliasOf (segment :: parents) =
      addLabel ((parents.head?.map Segment.joint).getD "") segment.label (aliasOf parents) := by
  cases parents with
  | nil => rfl
  | cons parent parents =>
      rw [aliasOf]
      cases aliasOf (parent :: parents) with
      | none => rfl
      | some name =>
          cases hembedded : parent.property.shape.isEmbedded <;>
            simp [addLabel, Segment.joint, hembedded]

/-- From the leaf upwards the same alias is put together as from the root downwards. -/
theorem aliasOf_climb (path : Path) : aliasOf path.climb = aliasFrom "" none path.segments := by
  unfold segments
  -- The recursion takes the leaf off first, which is the last segment of the fold.
  induction path.climb with
  | nil => rfl
  | cons segment parents ih =>
      rw [List.reverse_cons, aliasFrom_concat, aliasOf_cons, ih, List.getLast?_reverse]

/-! ### Aliases that are not empty -/

theorem addLabel_eq_none_iff {joint label : String} {name : Option String} :
    addLabel joint label name = none ↔ name = none ∧ label = "" := by
  cases name with
  | none => simp [addLabel]
  | some name => simp [addLabel]

/-- There is no alias only where all labels are empty. -/
theorem aliasOf_eq_none_iff : aliasOf climb = none ↔ ∀ segment ∈ climb, segment.label = "" := by
  induction climb with
  | nil => simp [aliasOf]
  | cons segment parents ih => rw [aliasOf_cons, addLabel_eq_none_iff, ih, List.forall_mem_cons,
      and_comm]

theorem ne_empty_of_addLabel {joint label : String} {before : Option String}
    (hbefore : ∀ name, before = some name → name ≠ "")
    (h : addLabel joint label before = some name) : name ≠ "" := by
  cases before with
  | none =>
      by_cases hlabel : label = ""
      · simp [addLabel, hlabel] at h
      · rw [addLabel, if_neg hlabel] at h
        cases h
        exact hlabel
  | some other =>
      cases h
      have hother := hbefore other rfl
      simp [hother]

theorem ne_empty_of_aliasOf (h : aliasOf climb = some name) : name ≠ "" := by
  induction climb generalizing name with
  | nil => cases h
  | cons segment parents ih =>
      rw [aliasOf_cons] at h
      exact ne_empty_of_addLabel (fun other hother => ih hother) h

/-- A table that does not belong to the root has an alias, as its own label is the name of the
property that it is for. -/
theorem exists_aliasOf (htable : path.HasTable) (hroot : path.isRoot = false)
    (hname : ∀ property, path.leaf? = some property → property.name ≠ "") :
    ∃ name, name ≠ "" ∧ aliasOf path.climb = some name := by
  cases hclimb : path.climb with
  | nil => simp [isRoot, hclimb] at hroot
  | cons segment parents =>
      have hleaf : path.leaf? = some segment.property := by
        rw [leaf?, hclimb]
        rfl
      have hlabel : segment.label = segment.property.name := by
        have hlead := Bool.eq_false_iff.mp (htable segment.property hleaf).2
        rw [Segment.label, Option.not_isSome_iff_eq_none.mp hlead, Option.getD_none]
      have hsome : aliasOf (segment :: parents) ≠ none := by
        intro hnone
        have hempty := aliasOf_eq_none_iff.mp hnone segment List.mem_cons_self
        exact hname segment.property hleaf (hlabel.symm.trans hempty)
      obtain ⟨name, hsome⟩ := Option.ne_none_iff_exists'.mp hsome
      exact ⟨name, ne_empty_of_aliasOf hsome, hsome⟩

end Path

end EntityQuery
