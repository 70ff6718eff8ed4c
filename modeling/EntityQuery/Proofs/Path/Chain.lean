import EntityQuery.Proofs.Path.Reach
import EntityQuery.Proofs.Schema.WellFormed

/-!
# Paths of a schema

A path belongs to a schema when its root is registered there and each segment takes a property of
the entity that the segments before it lead to.  Resolved paths do, and so do their parts and what
is appended to them.  In a well-formed schema such a path is determined by its key: by numbers
alone, which is what paths are kept under.
-/

namespace EntityQuery

namespace Path

variable {path other : Path}

@[simp]
theorem above_zero (path : Path) : path.above 0 = path := rfl

@[simp]
theorem above_above (path : Path) (first second : Nat) :
    (path.above first).above second = path.above (first + second) := by
  simp [above, List.drop_drop]

@[simp]
theorem root_above (path : Path) (steps : Nat) : (path.above steps).root = path.root := rfl

@[simp]
theorem climb_above (path : Path) (steps : Nat) :
    (path.above steps).climb = path.climb.drop steps := rfl

theorem isRoot_above_iff {steps : Nat} :
    (path.above steps).isRoot = true ↔ path.length ≤ steps := by
  simp [isRoot, length]

theorem above_length (path : Path) : path.above path.length = .ofRoot path.root := by
  simp [above, length, ofRoot]

theorem dropLeaf?_eq (h : path.isRoot = false) : path.dropLeaf? = some (path.above 1) := by
  unfold dropLeaf?
  cases hclimb : path.climb with
  | nil => simp [isRoot, hclimb] at h
  | cons segment parents => simp [above, hclimb]

theorem segments_above (path : Path) (steps : Nat) :
    (path.above steps).segments = path.segments.take (path.length - steps) := by
  rw [segments, climb_above, List.reverse_drop]
  rfl

end Path

namespace Schema

/-- Segments from the leaf up, each a property of the entity that those behind it lead to. -/
inductive Follows (schema : Schema) (root : Entity) : List Segment → Prop
  | root : Follows schema root []
  | step {parents : List Segment} {owner : Entity} {property : Property}
      (hparents : Follows schema root parents)
      (howner : schema.leafEntity? ⟨root, parents⟩ = some owner)
      (hproperty : property ∈ owner.properties) :
      Follows schema root (⟨owner, property⟩ :: parents)

structure HasPath (schema : Schema) (path : Path) : Prop where
  root : schema.entity? path.root.id = some path.root
  follows : schema.Follows path.root path.climb

/-- The owner is registered and has the property. -/
structure HasSegment (schema : Schema) (segment : Segment) : Prop where
  owner : schema.entity? segment.owner.id = some segment.owner
  property : segment.property ∈ segment.owner.properties

variable {schema larger : Schema} {path other : Path} {root entity : Entity}

/-! ### Where paths come from -/

theorem Follows.drop {climb : List Segment} (h : schema.Follows root climb) (steps : Nat) :
    schema.Follows root (climb.drop steps) := by
  induction h generalizing steps with
  | root =>
      rw [List.drop_nil]
      exact .root
  | step hparents howner hproperty ih =>
      cases steps with
      | zero => exact .step hparents howner hproperty
      | succ steps => exact ih steps

theorem HasPath.above (h : schema.HasPath path) (steps : Nat) : schema.HasPath (path.above steps) :=
  ⟨h.root, h.follows.drop steps⟩

theorem HasPath.ofRoot (h : schema.entity? root.id = some root) : schema.HasPath (.ofRoot root) :=
  ⟨h, .root⟩

theorem HasPath.push {property : Property} (h : schema.HasPath path)
    (howner : schema.leafEntity? path = some entity) (hproperty : property ∈ entity.properties) :
    schema.HasPath (path.push ⟨entity, property⟩) :=
  ⟨h.root, .step h.follows howner hproperty⟩

/-- The leaf of a path continues it at the entity that it leads to. -/
theorem leafEntity?_cons {segment : Segment} {parents : List Segment} {id : EntityId}
    (hid : segment.property.shape.target? = some id) :
    schema.leafEntity? ⟨root, segment :: parents⟩ = schema.entity? id := by
  change segment.property.shape.target?.bind schema.entity? = _
  rw [hid, Option.bind_some]

theorem follows_walk {climb segments : List Segment} {whole : String} {names : List String}
    (hclimb : schema.Follows root climb) (hentity : schema.leafEntity? ⟨root, climb⟩ = some entity)
    (hwalk : schema.walk whole entity names = .ok segments) :
    schema.Follows root (segments.reverse ++ climb) := by
  induction names generalizing entity climb segments with
  | nil =>
      cases hwalk
      exact hclimb
  | cons name names ih =>
      obtain ⟨property, hproperty, hrest⟩ := walk_cons_eq_ok hwalk
      have hstep := Follows.step hclimb hentity (mem_properties_of_property? hproperty)
      rcases hrest with ⟨-, rfl⟩ | ⟨id, related, rest, hid, hrelated, hrest, rfl⟩
      · exact hstep
      · rw [List.reverse_cons, List.append_assoc, List.singleton_append]
        refine ih hstep ?_ hrest
        rw [leafEntity?_cons hid, hrelated]

theorem hasPath_resolve {text : String} (hroot : schema.entity? root.id = some root)
    (h : schema.resolve root text = .ok path) : schema.HasPath path ∧ path.root = root := by
  unfold resolve at h
  by_cases hempty : text = ""
  · rw [if_pos hempty] at h
    cases h
    exact ⟨.ofRoot hroot, rfl⟩
  · rw [if_neg hempty, Result.bind_eq_ok] at h
    obtain ⟨segments, hwalk, h⟩ := h
    cases h
    have hfollows : schema.Follows root (segments.reverse ++ []) := follows_walk .root rfl hwalk
    rw [List.append_nil] at hfollows
    exact ⟨⟨hroot, hfollows⟩, rfl⟩

/-- Only the empty text is the root. -/
theorem isRoot_resolve {text : String} (h : schema.resolve root text = .ok path)
    (htext : text ≠ "") : path.isRoot = false := by
  rw [resolve, if_neg htext, Result.bind_eq_ok] at h
  obtain ⟨segments, hwalk, h⟩ := h
  cases h
  unfold Text.pieces at hwalk
  cases hpieces : Text.piecesOf '.' text.toList with
  | nil =>
      cases hchars : text.toList with
      | nil => simp [hchars, Text.piecesOf] at hpieces
      | cons c rest =>
          rw [hchars, Text.piecesOf] at hpieces
          split at hpieces
          · cases hpieces
          · split at hpieces <;> cases hpieces
  | cons piece pieces =>
      rw [hpieces, List.map_cons] at hwalk
      obtain ⟨property, -, ⟨-, rfl⟩ | ⟨_, _, rest, -, -, -, rfl⟩⟩ := walk_cons_eq_ok hwalk
      · rfl
      · simp [Path.isRoot]

theorem hasPath_rootPath {id : EntityId} (hwell : schema.WellFormed)
    (h : schema.rootPath id = .ok path) : schema.HasPath path := by
  rw [rootPath, Result.bind_eq_ok] at h
  obtain ⟨entity, hentity, h⟩ := h
  cases h
  have hentity := required_eq_ok_iff.mp hentity
  apply HasPath.ofRoot
  rw [hwell.id_eq id entity hentity, hentity]

theorem requiredLeafEntity_eq_ok_iff :
    schema.requiredLeafEntity path = .ok entity ↔ schema.leafEntity? path = some entity := by
  unfold requiredLeafEntity leafEntity?
  cases path.leaf? with
  | none => simp
  | some property =>
      cases htarget : property.shape.target? with
      | none => simp [htarget]
      | some id => simpa [htarget] using required_eq_ok_iff

theorem hasPath_append {name : String} (hpath : schema.HasPath path)
    (h : schema.append path name = .ok other) : schema.HasPath other := by
  unfold append at h
  split at h
  · cases h
  · rw [Result.bind_eq_ok] at h
    obtain ⟨entity, hentity, h⟩ := h
    cases hproperty : entity.property? name with
    | none =>
        rw [hproperty] at h
        cases h
    | some property =>
        rw [hproperty] at h
        cases h
        exact hpath.push (requiredLeafEntity_eq_ok_iff.mp hentity)
          (mem_properties_of_property? hproperty)

/-! ### More entities -/

section Larger

variable (hlarger : schema.entities <+: larger.entities)

include hlarger

theorem entity?_of_isPrefix {id : EntityId} (h : schema.entity? id = some entity) :
    larger.entity? id = some entity := by
  obtain ⟨rest, hrest⟩ := hlarger
  unfold entity? at h ⊢
  rw [← hrest, List.getElem?_append_left (List.getElem?_eq_some_iff.mp h).1, h]

theorem leafEntity?_of_isPrefix (h : schema.leafEntity? path = some entity) :
    larger.leafEntity? path = some entity := by
  unfold leafEntity? at h ⊢
  cases hleaf : path.leaf? with
  | none =>
      rw [hleaf] at h
      exact h
  | some property =>
      rw [hleaf] at h
      obtain ⟨id, hid, hentity⟩ := Option.bind_eq_some_iff.mp h
      exact Option.bind_eq_some_iff.mpr ⟨id, hid, entity?_of_isPrefix hlarger hentity⟩

theorem Follows.of_isPrefix {climb : List Segment} (h : schema.Follows root climb) :
    larger.Follows root climb := by
  induction h with
  | root => exact .root
  | step _ howner hproperty ih => exact .step ih (leafEntity?_of_isPrefix hlarger howner) hproperty

/-- Paths stay paths when entities are registered behind those that are there. -/
theorem HasPath.of_isPrefix (h : schema.HasPath path) : larger.HasPath path :=
  ⟨entity?_of_isPrefix hlarger h.root, h.follows.of_isPrefix hlarger⟩

end Larger

/-! ### What a path is determined by -/

theorem Follows.hasSegment {climb : List Segment} (hwell : schema.WellFormed)
    (hroot : schema.entity? root.id = some root) (h : schema.Follows root climb) :
    ∀ segment ∈ climb, schema.HasSegment segment := by
  induction h with
  | root => simp
  | @step parents owner property _ howner hproperty ih =>
      refine List.forall_mem_cons.mpr ⟨⟨?_, hproperty⟩, ih⟩
      unfold leafEntity? at howner
      split at howner
      · cases howner
        exact hroot
      · obtain ⟨id, -, hid⟩ := Option.bind_eq_some_iff.mp howner
        rw [hwell.id_eq id owner hid, hid]

theorem HasPath.hasSegment (hwell : schema.WellFormed) (h : schema.HasPath path) :
    ∀ segment ∈ path.climb, schema.HasSegment segment :=
  h.follows.hasSegment hwell h.root

namespace WellFormed

variable (hwell : schema.WellFormed)

include hwell

theorem entity?_of_mem (h : entity ∈ schema.entities) :
    schema.entity? entity.id = some entity := by
  obtain ⟨id, hid⟩ := List.mem_iff_getElem?.mp h
  rw [hwell.id_eq id entity hid]
  exact hid

/-- An owner and a place among its properties determine the property. -/
theorem segment_eq_of_key_eq {segment another : Segment} (hsegment : schema.HasSegment segment)
    (hanother : schema.HasSegment another) (hkey : segment.key = another.key) :
    segment = another := by
  obtain ⟨owner, property⟩ := segment
  obtain ⟨owner', property'⟩ := another
  obtain ⟨howner, hproperty⟩ := hsegment
  obtain ⟨howner', hproperty'⟩ := hanother
  obtain ⟨hid, hindex⟩ : owner.id = owner'.id ∧ property.index = property'.index :=
    Prod.mk.inj hkey
  have hsame : owner = owner' := by
    rw [← hid] at howner'
    exact Option.some.inj (howner.symm.trans howner')
  subst hsame
  obtain ⟨index, hplace⟩ := List.mem_iff_getElem?.mp hproperty
  obtain ⟨index', hplace'⟩ := List.mem_iff_getElem?.mp hproperty'
  have hplaces : index = index' := by
    rw [← hwell.index_eq _ owner howner index property hplace, hindex,
      hwell.index_eq _ owner howner index' property' hplace']
  rw [← hplaces, hplace] at hplace'
  have hproperties : property = property' := Option.some.inj hplace'
  rw [hproperties]

theorem climb_eq_of_keys_eq {climb another : List Segment}
    (hclimb : ∀ segment ∈ climb, schema.HasSegment segment)
    (hanother : ∀ segment ∈ another, schema.HasSegment segment)
    (hkeys : climb.map Segment.key = another.map Segment.key) : climb = another := by
  induction climb generalizing another with
  | nil =>
      rw [List.map_nil] at hkeys
      exact (List.map_eq_nil_iff.mp hkeys.symm).symm
  | cons segment climb ih =>
      cases another with
      | nil => simp at hkeys
      | cons first another =>
          obtain ⟨hfirst, hrest⟩ := List.cons.inj hkeys
          obtain ⟨hsegment, hclimb⟩ := List.forall_mem_cons.mp hclimb
          obtain ⟨hanotherFirst, hanother⟩ := List.forall_mem_cons.mp hanother
          rw [hwell.segment_eq_of_key_eq hsegment hanotherFirst hfirst, ih hclimb hanother hrest]

/-- The key of a path determines the path. -/
theorem path_eq_of_key_eq (hpath : schema.HasPath path) (hother : schema.HasPath other)
    (hkey : path.key = other.key) : path = other := by
  obtain ⟨hid, hsegments⟩ : path.root.id = other.root.id ∧
      path.segments.map Segment.key = other.segments.map Segment.key := PathKey.mk.inj hkey
  have hroot : path.root = other.root := by
    have hroot' := hother.root
    rw [← hid] at hroot'
    exact Option.some.inj (hpath.root.symm.trans hroot')
  have hclimb : path.climb = other.climb := by
    apply hwell.climb_eq_of_keys_eq (hpath.hasSegment hwell) (hother.hasSegment hwell)
    simpa only [Path.segments, List.map_reverse, List.reverse_inj] using hsegments
  calc path = ⟨path.root, path.climb⟩ := rfl
    _ = ⟨other.root, other.climb⟩ := by rw [hroot, hclimb]

theorem same_iff (hpath : schema.HasPath path) (hother : schema.HasPath other) :
    path.same other = true ↔ path = other := by
  unfold Path.same
  rw [beq_iff_eq]
  constructor
  · exact hwell.path_eq_of_key_eq hpath hother
  · rintro rfl
    rfl

/-- A path starts with those that are left when its last segments are dropped. -/
theorem startsWith_iff (hpath : schema.HasPath path) (hother : schema.HasPath other) :
    path.startsWith other = true ↔ ∃ steps ≤ path.length, other = path.above steps := by
  unfold Path.startsWith
  rw [Bool.and_eq_true, beq_iff_eq, List.isPrefixOf_iff_prefix]
  constructor
  · rintro ⟨hroot, hprefix⟩
    have hlength : other.length ≤ path.length := by
      have := hprefix.length_le
      simpa [Path.segments, Path.length] using this
    refine ⟨path.length - other.length, Nat.sub_le _ _, ?_⟩
    apply hwell.path_eq_of_key_eq hother (hpath.above _)
    have hkeys : other.segments.map Segment.key =
        (path.above (path.length - other.length)).segments.map Segment.key := by
      rw [Path.segments_above, List.map_take, List.prefix_iff_eq_take.mp hprefix, List.length_map]
      congr 1
      simp only [Path.segments, List.length_reverse]
      change other.length = _
      omega
    rw [Path.key, Path.key, hkeys, Path.root_above, hroot]
  · rintro ⟨steps, -, rfl⟩
    refine ⟨rfl, ?_⟩
    rw [Path.segments_above, List.map_take]
    exact List.take_prefix _ _

end WellFormed

end Schema

end EntityQuery
