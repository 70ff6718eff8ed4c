import EntityQuery.Path.Ancestor
import EntityQuery.Proofs.Path.Chain
import Mathlib.Order.Bounds.Basic

/-!
# The ancestors of a path

Both climbs go from parent to parent, and the parent of a path is the path without its leaf, also
where it is looked up as the root path of the owner.  So each climb ends at the nearest path that
satisfies its test, which is the longest beginning of the path that does.
-/

namespace EntityQuery

/-- The root, or a path whose leaf has rows of its own. -/
def Path.HasTable (path : Path) : Prop :=
  ∀ property, path.leaf? = some property →
    property.shape.isSimple = false ∧ property.shape.isEmbedded = false

theorem Path.hasTable_of_isRoot {path : Path} (h : path.isRoot = true) : path.HasTable := by
  intro property hleaf
  rw [Path.leaf?, List.isEmpty_iff.mp h] at hleaf
  cases hleaf

/-- A number of steps counted from the second on. -/
theorem isLeast_succ {holds : Nat → Prop} {steps : Nat} (hzero : ¬ holds 0)
    (h : IsLeast {steps | holds (steps + 1)} steps) :
    IsLeast {steps | holds steps} (steps + 1) := by
  refine ⟨h.1, fun other hother => ?_⟩
  cases other with
  | zero => exact absurd hother hzero
  | succ other =>
      have := h.2 hother
      omega

namespace Schema

/-- The root, or a path to an entity that has an identifier. -/
def Identifies (schema : Schema) (path : Path) : Prop :=
  path.isRoot = true ∨ ∃ entity, schema.leafEntity? path = some entity ∧
    ∃ property ∈ entity.properties, property.isIdentifier = true

variable {schema : Schema} {path : Path}

/-- What holds of root paths, and of a path if of its parent, holds of all paths. -/
theorem HasPath.induction {motive : (path : Path) → schema.HasPath path → Prop}
    (root : ∀ path (h : schema.HasPath path), path.isRoot = true → motive path h)
    (step : ∀ path (h : schema.HasPath path), path.isRoot = false →
      motive (path.above 1) (h.above 1) → motive path h)
    {path : Path} (h : schema.HasPath path) : motive path h := by
  obtain ⟨start, climb⟩ := path
  induction climb with
  | nil => exact root _ h rfl
  | cons segment parents ih => exact step _ h rfl (ih (h.above 1))

/-! ### Tests -/

theorem storesRows_iff : storesRows path = true ↔ path.HasTable := by
  unfold storesRows Path.HasTable
  cases path.leaf? with
  | none => simp
  | some property =>
      simp only [Option.all_some, Option.some.injEq, forall_eq']
      cases property.shape <;> simp [Shape.ownsTable, Shape.isSimple, Shape.isEmbedded, Shape.lead?]

/-- The test by which the climb to a table is written is the same. -/
theorem isEntity_and_not_isEmbedded (path : Path) :
    (path.isEntity && !path.isEmbedded) = storesRows path := by
  unfold Path.isEntity Path.isEmbedded storesRows
  cases path.leaf? with
  | none => rfl
  | some property =>
      cases hshape : property.shape <;>
        simp [hshape, Shape.ownsTable, Shape.isSimple, Shape.isEmbedded, Shape.lead?]

theorem leafEntity_registered (hwell : schema.WellFormed) (hpath : schema.HasPath path)
    {entity : Entity} (h : schema.leafEntity? path = some entity) :
    schema.entity? entity.id = some entity := by
  unfold leafEntity? at h
  split at h
  · cases h
    exact hpath.root
  · obtain ⟨id, -, hid⟩ := Option.bind_eq_some_iff.mp h
    rw [hwell.id_eq id entity hid, hid]

namespace WellFormed

variable (hwell : schema.WellFormed)

include hwell

theorem identifies_iff (hpath : schema.HasPath path) :
    (path.isRoot || schema.hasIdentifier path) = true ↔ schema.Identifies path := by
  rw [Bool.or_eq_true, Identifies, hasIdentifier, Option.any_eq_true]
  refine or_congr Iff.rfl (exists_congr fun entity => and_congr_right fun hentity => ?_)
  exact hwell.hasIdentifier_iff entity.id entity (leafEntity_registered hwell hpath hentity)

/-! ### Parents -/

omit hwell in
theorem parent_of_isRoot (hroot : path.isRoot = true) :
    schema.parent path = .error .rootWithoutParent := by
  rw [parent, List.isEmpty_iff.mp hroot]

omit hwell in
theorem identifierParent_of_isRoot (hroot : path.isRoot = true) :
    schema.identifierParent path = .error .rootWithoutParent := by
  rw [identifierParent, identifierTrail, List.isEmpty_iff.mp hroot]
  rfl

/-- The owner of the first segment is the root. -/
theorem rootPath_owner {root : Entity} {segment : Segment}
    (hpath : schema.HasPath ⟨root, [segment]⟩) :
    schema.rootPath segment.property.owner = .ok (.ofRoot root) := by
  obtain ⟨hroot, hfollows⟩ := hpath
  cases hfollows with
  | @step parents owner property hparents howner hproperty =>
      obtain rfl : root = owner := Option.some.inj howner
      rw [rootPath, hwell.owner_eq root.id root hroot _ hproperty, required_eq_ok_iff.mpr hroot]
      rfl

theorem parent_eq (hpath : schema.HasPath path) (hroot : path.isRoot = false) :
    schema.parent path = .ok (path.above 1) := by
  obtain ⟨root, climb⟩ := path
  match climb with
  | [] => cases hroot
  | [segment] => exact hwell.rootPath_owner hpath
  | segment :: parent :: parents => rfl

/-! ### Climbs -/

theorem climbTo_cons {root : Entity} {segment : Segment} {parents : List Segment}
    {found : Path → Bool} (hpath : schema.HasPath ⟨root, segment :: parents⟩) :
    schema.climbTo root found (segment :: parents) =
      if parents.isEmpty || found ⟨root, parents⟩ then .ok [⟨root, parents⟩]
      else (schema.climbTo root found parents).map (⟨root, parents⟩ :: ·) := by
  cases parents with
  | nil =>
      simp only [climbTo, hwell.rootPath_owner hpath]
      rfl
  | cons parent parents =>
      simp only [climbTo, List.isEmpty_cons, Bool.false_or]
      cases found ⟨root, parent :: parents⟩ with
      | true => rfl
      | false => cases schema.climbTo root found (parent :: parents) <;> rfl

theorem identifierTrail_eq (hpath : schema.HasPath path) (hroot : path.isRoot = false) :
    schema.identifierTrail path =
      if (path.above 1).isRoot || schema.hasIdentifier (path.above 1) then .ok [path.above 1]
      else (schema.identifierTrail (path.above 1)).map (path.above 1 :: ·) := by
  obtain ⟨root, climb⟩ := path
  cases climb with
  | nil => cases hroot
  | cons segment parents => exact hwell.climbTo_cons hpath

theorem tableTrail_eq (hpath : schema.HasPath path) :
    schema.tableTrail path =
      if storesRows path then .ok []
      else (schema.tableTrail (path.above 1)).map (path.above 1 :: ·) := by
  obtain ⟨root, climb⟩ := path
  cases climb with
  | nil => rfl
  | cons segment parents =>
      unfold tableTrail
      cases hrows : storesRows ⟨root, segment :: parents⟩ with
      | true => rfl
      | false =>
          rw [if_neg Bool.false_ne_true, if_neg Bool.false_ne_true, hwell.climbTo_cons hpath]
          change (if (parents.isEmpty || storesRows ⟨root, parents⟩) = true then _ else _) =
            Except.map _ (if storesRows ⟨root, parents⟩ = true then _ else _)
          cases hfound : storesRows ⟨root, parents⟩ with
          | true =>
              rw [Bool.or_true]
              rfl
          | false =>
              have hnonempty : parents.isEmpty = false := by
                cases parents with
                | nil => cases hfound
                | cons parent parents => rfl
              rw [hnonempty]
              rfl

omit hwell in
/-- The last path that was looked at is the same, seen from the path or from its parent. -/
theorem getLastD_map_cons (trail : Result (List Path)) (path above : Path) :
    (trail.map (above :: ·)).map (List.getLastD · path) = trail.map (List.getLastD · above) := by
  cases trail with
  | error error => rfl
  | ok trail => exact congrArg Except.ok (List.getLastD_cons ..)

omit hwell in
theorem identifierParent_eq_map (path : Path) :
    schema.identifierParent path = (schema.identifierTrail path).map (List.getLastD · path) := by
  unfold identifierParent
  cases schema.identifierTrail path <;> rfl

omit hwell in
theorem tableOwner_eq_map (path : Path) :
    schema.tableOwner path = (schema.tableTrail path).map (List.getLastD · path) := by
  unfold tableOwner
  cases schema.tableTrail path <;> rfl

theorem identifierParent_eq (hpath : schema.HasPath path) (hroot : path.isRoot = false) :
    schema.identifierParent path =
      if (path.above 1).isRoot || schema.hasIdentifier (path.above 1) then .ok (path.above 1)
      else schema.identifierParent (path.above 1) := by
  rw [identifierParent_eq_map, identifierParent_eq_map, hwell.identifierTrail_eq hpath hroot]
  split
  · rfl
  · exact getLastD_map_cons ..

theorem tableOwner_eq (hpath : schema.HasPath path) :
    schema.tableOwner path =
      if storesRows path then .ok path else schema.tableOwner (path.above 1) := by
  rw [tableOwner_eq_map, tableOwner_eq_map, hwell.tableTrail_eq hpath]
  split
  · rfl
  · exact getLastD_map_cons ..

/-- The nearest proper ancestor that is the root or leads to an entity with an identifier. -/
theorem identifierParent_isLeast (hpath : schema.HasPath path) (hroot : path.isRoot = false) :
    ∃ steps, schema.identifierParent path = .ok (path.above steps) ∧
      IsLeast {steps | 0 < steps ∧ schema.Identifies (path.above steps)} steps := by
  induction hpath using HasPath.induction with
  | root path hpath hempty => simp [hempty] at hroot
  | step path hpath _ ih =>
      rw [hwell.identifierParent_eq hpath hroot]
      by_cases hfound : ((path.above 1).isRoot || schema.hasIdentifier (path.above 1)) = true
      · rw [if_pos hfound]
        refine ⟨1, rfl, ⟨Nat.one_pos, (hwell.identifies_iff (hpath.above 1)).mp hfound⟩, ?_⟩
        exact fun other hother => hother.1
      · rw [if_neg hfound]
        have hmore : (path.above 1).isRoot = false := by
          cases hempty : (path.above 1).isRoot with
          | true => simp [hempty] at hfound
          | false => rfl
        obtain ⟨steps, hsteps, hleast⟩ := ih hmore
        refine ⟨1 + steps, by rw [hsteps, Path.above_above], ?_, ?_⟩
        · refine ⟨by omega, ?_⟩
          rw [← Path.above_above]
          exact hleast.1.2
        · rintro other ⟨hpositive, hother⟩
          have hneq : other ≠ 1 := by
            rintro rfl
            exact hfound ((hwell.identifies_iff (hpath.above 1)).mpr hother)
          have hshifted : steps ≤ other - 1 := by
            apply hleast.2
            refine ⟨by omega, ?_⟩
            rw [Path.above_above, Nat.add_sub_cancel' hpositive]
            exact hother
          omega

/-- The nearest ancestor, or the path itself, that has a table of its own or is the root. -/
theorem tableOwner_isLeast (hpath : schema.HasPath path) :
    ∃ steps, schema.tableOwner path = .ok (path.above steps) ∧
      IsLeast {steps | (path.above steps).HasTable} steps := by
  have hnone : ∀ path : Path, path.HasTable → IsLeast {steps | (path.above steps).HasTable} 0 :=
    fun path htable => ⟨htable, fun _ _ => Nat.zero_le _⟩
  induction hpath using HasPath.induction with
  | root path hpath hempty =>
      have htable := Path.hasTable_of_isRoot hempty
      rw [hwell.tableOwner_eq hpath, if_pos (storesRows_iff.mpr htable)]
      exact ⟨0, rfl, hnone path htable⟩
  | step path hpath _ ih =>
      rw [hwell.tableOwner_eq hpath]
      by_cases htable : path.HasTable
      · rw [if_pos (storesRows_iff.mpr htable)]
        exact ⟨0, rfl, hnone path htable⟩
      · rw [if_neg fun hrows => htable (storesRows_iff.mp hrows)]
        obtain ⟨steps, hsteps, hleast⟩ := ih
        refine ⟨steps + 1, by rw [hsteps, Path.above_above, Nat.add_comm], ?_⟩
        refine @isLeast_succ (fun steps => (path.above steps).HasTable) steps htable ?_
        simpa only [Path.above_above, Nat.add_comm] using hleast

/-! ### Ancestors are paths -/

theorem hasPath_parent {parent : Path} (hpath : schema.HasPath path)
    (h : schema.parent path = .ok parent) : schema.HasPath parent := by
  cases hroot : path.isRoot with
  | true =>
      rw [parent_of_isRoot hroot] at h
      cases h
  | false =>
      rw [hwell.parent_eq hpath hroot] at h
      cases h
      exact hpath.above 1

theorem hasPath_identifierParent {parent : Path} (hpath : schema.HasPath path)
    (h : schema.identifierParent path = .ok parent) : schema.HasPath parent := by
  cases hroot : path.isRoot with
  | true =>
      rw [identifierParent_of_isRoot hroot] at h
      cases h
  | false =>
      obtain ⟨steps, hsteps, -⟩ := hwell.identifierParent_isLeast hpath hroot
      rw [hsteps] at h
      cases h
      exact hpath.above steps

theorem hasPath_tableOwner {owner : Path} (hpath : schema.HasPath path)
    (h : schema.tableOwner path = .ok owner) : schema.HasPath owner := by
  obtain ⟨steps, hsteps, -⟩ := hwell.tableOwner_isLeast hpath
  rw [hsteps] at h
  cases h
  exact hpath.above steps

end WellFormed

end Schema

end EntityQuery
