import EntityQuery.Proofs.Path.Ancestor
import EntityQuery.Proofs.Statement.Column

/-!
# Properties that are stored with their root

A property is stored in the table of the root exactly if it is simple and the path to it passes
embedded properties only.  The climb to the table and the loop that collects leads decide this in
different ways: the one looks at what has rows of its own, the other stops at what has no lead.
-/

namespace EntityQuery

namespace Path

/-- The leaf is simple and all before it is embedded. -/
def IsStored (path : Path) : Prop :=
  ∃ leaf parents, path.climb = leaf :: parents ∧ leaf.property.shape.isSimple = true ∧
    ∀ segment ∈ parents, segment.property.shape.isEmbedded = true

/-- The leaf of a path and what is before it. -/
theorem exists_segments_eq {path : Path} (h : path.isRoot = false) :
    ∃ earlier leaf, path.climb = leaf :: earlier.reverse ∧ path.segments = earlier ++ [leaf] := by
  cases hclimb : path.climb with
  | nil => simp [isRoot, hclimb] at h
  | cons leaf parents =>
      refine ⟨parents.reverse, leaf, by rw [List.reverse_reverse], ?_⟩
      rw [segments, hclimb, List.reverse_cons]

theorem isStored_iff {path : Path} {leaf : Segment} {parents : List Segment}
    (hclimb : path.climb = leaf :: parents) :
    path.IsStored ↔ leaf.property.shape.isSimple = true ∧
      ∀ segment ∈ parents, segment.property.shape.isEmbedded = true := by
  simp only [IsStored, hclimb, List.cons.injEq]
  constructor
  · rintro ⟨_, _, ⟨rfl, rfl⟩, h⟩
    exact h
  · exact fun h => ⟨leaf, parents, ⟨rfl, rfl⟩, h⟩

end Path

namespace Schema

variable {schema : Schema} {path owner : Path} {root : Entity}

/-- What leads on to an entity is not simple. -/
theorem Follows.isSimple_eq_false {leaf : Segment} {parents : List Segment}
    (h : schema.Follows root (leaf :: parents)) :
    ∀ segment ∈ parents, segment.property.shape.isSimple = false := by
  induction parents generalizing leaf with
  | nil => simp
  | cons segment parents ih =>
      cases h with
      | step hparents howner hproperty =>
          refine List.forall_mem_cons.mpr ⟨?_, ih hparents⟩
          obtain ⟨id, hid, -⟩ := Option.bind_eq_some_iff.mp howner
          exact Shape.isSimple_eq_false_of_target? hid

theorem ownsTable_eq_false_iff {shape : Shape EntityId} :
    shape.ownsTable = false ↔ shape.isSimple = true ∨ shape.isEmbedded = true := by
  cases shape <;> simp [Shape.ownsTable, Shape.isSimple, Shape.isEmbedded, Shape.lead?]

/-- The path whose table holds another has the table itself, and what the other goes on with has no
rows of its own. -/
theorem WellFormed.exists_climb_eq (hwell : schema.WellFormed) (hpath : schema.HasPath path)
    (h : schema.tableOwner path = .ok owner) :
    owner.root = path.root ∧ owner.HasTable ∧ ∃ below, path.climb = below ++ owner.climb ∧
      ∀ segment ∈ below, segment.property.shape.ownsTable = false := by
  induction hpath using HasPath.induction with
  | root path hpath hroot =>
      have htable := Path.hasTable_of_isRoot hroot
      rw [hwell.tableOwner_eq hpath, if_pos (storesRows_iff.mpr htable)] at h
      cases h
      exact ⟨rfl, htable, [], rfl, fun _ hsegment => nomatch hsegment⟩
  | step path hpath hroot ih =>
      rw [hwell.tableOwner_eq hpath] at h
      obtain ⟨root, climb⟩ := path
      cases climb with
      | nil => cases hroot
      | cons leaf parents =>
          have hrows : storesRows ⟨root, leaf :: parents⟩ = leaf.property.shape.ownsTable := by
            simp [storesRows, Path.leaf?]
          cases hleaf : leaf.property.shape.ownsTable with
          | true =>
              rw [if_pos (hrows.trans hleaf)] at h
              cases h
              exact ⟨rfl, storesRows_iff.mp (hrows.trans hleaf), [], rfl,
                fun _ hsegment => nomatch hsegment⟩
          | false =>
              rw [if_neg (by simp [hrows, hleaf])] at h
              obtain ⟨hsame, htable, below, hbelow, hnone⟩ := ih h
              refine ⟨hsame, htable, leaf :: below, congrArg (leaf :: ·) hbelow, ?_⟩
              exact List.forall_mem_cons.mpr ⟨hleaf, hnone⟩

/-- A path is stored with its root if nothing on it has rows of its own. -/
theorem WellFormed.isRoot_tableOwner_iff (hwell : schema.WellFormed) (hpath : schema.HasPath path)
    (h : schema.tableOwner path = .ok owner) :
    owner.isRoot = true ↔ ∀ segment ∈ path.climb, segment.property.shape.ownsTable = false := by
  obtain ⟨-, htable, below, hclimb, hnone⟩ := hwell.exists_climb_eq hpath h
  rw [hclimb, List.forall_mem_append, and_iff_right hnone, Path.isRoot]
  cases howner : owner.climb with
  | nil => simp
  | cons leaf parents =>
      have hleaf : leaf.property.shape.ownsTable = true := by
        have hrows := storesRows_iff.mpr htable
        rwa [storesRows, Path.leaf?, howner] at hrows
      simp [hleaf]

/-- What the climb to the table tells is what the segments say. -/
theorem WellFormed.isStored_iff (hwell : schema.WellFormed) (hpath : schema.HasPath path)
    (h : schema.tableOwner path = .ok owner) :
    path.IsStored ↔ path.isEntity = false ∧ owner.isRoot = true := by
  rw [hwell.isRoot_tableOwner_iff hpath h]
  have hfollows := hpath.follows
  cases hclimb : path.climb with
  | nil => simp [Path.IsStored, Path.isEntity, Path.leaf?, hclimb]
  | cons leaf parents =>
      rw [hclimb] at hfollows
      have hparents := hfollows.isSimple_eq_false
      have hentity : path.isEntity = !leaf.property.shape.isSimple := by
        simp [Path.isEntity, Path.leaf?, hclimb]
      rw [hentity, List.forall_mem_cons, Path.isStored_iff hclimb]
      constructor
      · rintro ⟨hsimple, hembedded⟩
        refine ⟨by simp [hsimple], ownsTable_eq_false_iff.mpr (.inl hsimple), ?_⟩
        exact fun segment hsegment => ownsTable_eq_false_iff.mpr (.inr (hembedded segment hsegment))
      · rintro ⟨hsimple, -, hothers⟩
        refine ⟨by simpa using hsimple, fun segment hsegment => ?_⟩
        have hcases := ownsTable_eq_false_iff.mp (hothers segment hsegment)
        exact hcases.resolve_left (by simp [hparents segment hsegment])

end Schema

namespace Path

/-- The column of the leaf behind the leads of all that is before it, in the order of the path. -/
def leadColumn (leaf : Segment) (earlier : List Segment) : Identifier :=
  leaf.property.column.map
    (String.join (earlier.filterMap fun segment => segment.property.shape.lead?) ++ ·)

/-- Past embedded properties no lead is left out. -/
theorem enclosingLeads_append {inner outer : List Segment}
    (h : ∀ segment ∈ inner, segment.property.shape.isEmbedded = true) :
    enclosingLeads (inner ++ outer) =
      (inner.filterMap fun segment => segment.property.shape.lead?) ++ enclosingLeads outer := by
  induction inner with
  | nil => rfl
  | cons segment inner ih =>
      obtain ⟨hsegment, hinner⟩ := List.forall_mem_cons.mp h
      obtain ⟨lead, hlead⟩ := Option.isSome_iff_exists.mp hsegment
      rw [List.cons_append, enclosingLeads, List.filterMap_cons, hlead, ih hinner]
      rfl

/-- The leads of a path end where a table begins. -/
theorem enclosingLeads_of_hasTable {path : Path} (h : path.HasTable) :
    enclosingLeads path.climb = [] := by
  cases hclimb : path.climb with
  | nil => rfl
  | cons segment parents =>
      have hembedded := (h segment.property (by rw [leaf?, hclimb]; rfl)).2
      rw [enclosingLeads, Option.not_isSome_iff_eq_none.mp (Bool.eq_false_iff.mp hembedded)]

theorem columnName_eq {path : Path} {leaf : Segment} {inner outer : List Segment}
    (hclimb : path.climb = leaf :: (inner ++ outer))
    (hinner : ∀ segment ∈ inner, segment.property.shape.isEmbedded = true)
    (houter : enclosingLeads outer = []) :
    path.columnName = .ok (leadColumn leaf inner.reverse) := by
  simp only [columnName, hclimb, enclosingLeads_append hinner, houter, List.append_nil, foldl_lead,
    leadColumn, List.filterMap_reverse]

end Path

namespace ColumnScope

variable {scope : ColumnScope} {path : Path} (name : String) (hwell : scope.schema.WellFormed)
  (hpath : scope.schema.HasPath path)

include hwell hpath

theorem storedColumn_of_isStored {leaf : Segment} {parents : List Segment} (h : path.IsStored)
    (hclimb : path.climb = leaf :: parents) :
    scope.storedColumn name path =
      .ok (scope.qualified ((Path.leadColumn leaf parents.reverse).sql scope.style)) := by
  obtain ⟨steps, howner, -⟩ := hwell.tableOwner_isLeast hpath
  obtain ⟨hentity, hroot⟩ := (hwell.isStored_iff hpath howner).mp h
  have hembedded := ((Path.isStored_iff hclimb).mp h).2
  have hwhole : path.climb = leaf :: (parents ++ []) := by rw [List.append_nil, hclimb]
  rw [storedColumn_eq_ok]
  exact ⟨hentity, _, _, howner, hroot, Path.columnName_eq hwhole hembedded rfl, rfl⟩

theorem storedColumn_of_not_isStored (h : ¬ path.IsStored) :
    scope.storedColumn name path = .error (.notStored name scope.reference) := by
  obtain ⟨steps, howner, -⟩ := hwell.tableOwner_isLeast hpath
  rw [hwell.isStored_iff hpath howner] at h
  unfold storedColumn
  cases hentity : path.isEntity with
  | true => rfl
  | false =>
      have hroot : (path.above steps).isRoot = false := by
        rw [← Bool.not_eq_true]
        exact fun hroot => h ⟨hentity, hroot⟩
      rw [howner]
      change (if (!(path.above steps).isRoot) = true then _ else _) = _
      rw [hroot]
      rfl

end ColumnScope

end EntityQuery
