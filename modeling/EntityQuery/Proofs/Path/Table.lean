import EntityQuery.Proofs.Path.Stored

/-!
# What a path has in common with its table

A path whose table holds others holds itself, so that whatever is asked of the table is the same for
all of them.  Between the table and a leaf there are embedded properties only, and these are the
ones whose leads are collected.
-/

namespace EntityQuery

namespace Schema

variable {α : Type} {schema : Schema} {path owner : Path}

namespace WellFormed

variable (hwell : schema.WellFormed)

include hwell

section

variable (hpath : schema.HasPath path) (howner : schema.tableOwner path = .ok owner)

include hpath howner

theorem tableOwner_tableOwner : schema.tableOwner owner = .ok owner := by
  have htable := (hwell.exists_climb_eq hpath howner).2.1
  rw [hwell.tableOwner_eq (hwell.hasPath_tableOwner hpath howner),
    if_pos (storesRows_iff.mpr htable)]

/-- A question that goes to the table first is the same for the table itself. -/
theorem tableOwner_bind (next : Path → Result α) :
    (schema.tableOwner owner >>= next) = (schema.tableOwner path >>= next) := by
  rw [howner, hwell.tableOwner_tableOwner hpath howner]

theorem qualifiedTable_tableOwner : schema.qualifiedTable owner = schema.qualifiedTable path :=
  hwell.tableOwner_bind hpath howner _

theorem tableAlias_tableOwner : schema.tableAlias owner = schema.tableAlias path :=
  hwell.tableOwner_bind hpath howner _

theorem tableInfo_tableOwner : schema.tableInfo owner = schema.tableInfo path :=
  hwell.tableOwner_bind hpath howner _

end

/-- What a path holds behind the table of its parent are embedded properties and the leaf, whose
column has the leads of exactly these. -/
theorem exists_segments_between (hpath : schema.HasPath path) (hroot : path.isRoot = false)
    (howner : schema.tableOwner (path.above 1) = .ok owner) :
    ∃ between leaf, path.segments = owner.segments ++ (between ++ [leaf]) ∧
      (∀ segment ∈ between, segment.property.shape.isEmbedded = true) ∧
      path.columnName = .ok (Path.leadColumn leaf between) := by
  obtain ⟨-, htable, below, hbelow, hnone⟩ := hwell.exists_climb_eq (hpath.above 1) howner
  cases hclimb : path.climb with
  | nil => simp [Path.isRoot, hclimb] at hroot
  | cons leaf parents =>
      have hparents : parents = below ++ owner.climb := by
        rw [← hbelow, Path.climb_above, hclimb]
        rfl
      have hfollows := hpath.follows
      rw [hclimb] at hfollows
      have hleads := hfollows.isSimple_eq_false
      rw [hparents, List.forall_mem_append] at hleads
      -- Only a leaf can be simple, so that what is above it and not a table is embedded.
      have hembedded : ∀ segment ∈ below, segment.property.shape.isEmbedded = true := by
        intro segment hsegment
        have hcases := ownsTable_eq_false_iff.mp (hnone segment hsegment)
        exact hcases.resolve_left (by simp [hleads.1 segment hsegment])
      refine ⟨below.reverse, leaf, ?_, ?_, ?_⟩
      · rw [Path.segments, hclimb, hparents, List.reverse_cons, List.reverse_append,
          List.append_assoc, Path.segments]
      · exact fun segment hsegment => hembedded segment (List.mem_reverse.mp hsegment)
      · rw [hparents] at hclimb
        exact Path.columnName_eq hclimb hembedded (Path.enclosingLeads_of_hasTable htable)

theorem hasSegment_of_segments_eq {earlier below : List Segment} (hpath : schema.HasPath path)
    (hsegments : path.segments = earlier ++ below) :
    ∀ segment ∈ below, schema.HasSegment segment := by
  intro segment hsegment
  have hmem : segment ∈ path.segments := by
    rw [hsegments]
    exact List.mem_append_right earlier hsegment
  exact hpath.hasSegment hwell segment (List.mem_reverse.mp hmem)

/-- Paths that hold the same properties behind the tables of their parents have the same column. -/
theorem columnName_eq_of_keys_eq {other otherOwner : Path} {below otherBelow : List Segment}
    (hpath : schema.HasPath path) (hroot : path.isRoot = false)
    (howner : schema.tableOwner (path.above 1) = .ok owner)
    (hsegments : path.segments = owner.segments ++ below)
    (hother : schema.HasPath other) (hotherRoot : other.isRoot = false)
    (hotherOwner : schema.tableOwner (other.above 1) = .ok otherOwner)
    (hotherSegments : other.segments = otherOwner.segments ++ otherBelow)
    (hkeys : otherBelow.map Segment.key = below.map Segment.key) :
    other.columnName = path.columnName := by
  have hsame : otherBelow = below :=
    hwell.climb_eq_of_keys_eq (hwell.hasSegment_of_segments_eq hother hotherSegments)
      (hwell.hasSegment_of_segments_eq hpath hsegments) hkeys
  obtain ⟨between, leaf, hbelow, -, hcolumn⟩ := hwell.exists_segments_between hpath hroot howner
  obtain ⟨others, last, hotherBelow, -, hotherColumn⟩ :=
    hwell.exists_segments_between hother hotherRoot hotherOwner
  have hends : others ++ [last] = between ++ [leaf] := by
    rw [hsegments, List.append_cancel_left_eq] at hbelow
    rw [hotherSegments, List.append_cancel_left_eq] at hotherBelow
    rw [← hotherBelow, hsame, hbelow]
  obtain ⟨rfl, hlast⟩ := List.append_inj' hends rfl
  obtain rfl : last = leaf := List.head_eq_of_cons_eq hlast
  rw [hcolumn, hotherColumn]

end WellFormed

end Schema

end EntityQuery
