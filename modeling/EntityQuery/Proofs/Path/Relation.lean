import EntityQuery.Proofs.Path.Alias
import EntityQuery.Proofs.Path.Stored
import EntityQuery.Proofs.Text.Continuing

/-!
# Relations on the way to a table

A relation leads from one table to the next one: through embedded properties to the property that
has the table.  The alias of a table has the names of the relations on the way to it, with an
underscore behind each but the last.  An underscore within a name looks the same, so that two tables
have different aliases unless the names of two relations where their paths part overlap.
-/

namespace EntityQuery

theorem Segment.isEmbedded_eq_false {segment : Segment}
    (h : segment.property.shape.ownsTable = true) : segment.property.shape.isEmbedded = false := by
  refine Bool.eq_false_iff.mpr fun hembedded => ?_
  rw [Schema.ownsTable_eq_false_iff.mpr (.inr hembedded)] at h
  cases h

/-- Embedded properties and one with a table. -/
inductive IsRelation : List Segment → Prop
  | table {segment : Segment} (h : segment.property.shape.ownsTable = true) : IsRelation [segment]
  | embedded {segment : Segment} {rest : List Segment}
      (h : segment.property.shape.isEmbedded = true) (hrest : IsRelation rest) :
      IsRelation (segment :: rest)

/-- What the segments add to an alias. -/
def relationName (segments : List Segment) : String :=
  String.join (segments.map Segment.label)

/-- Two relations have one name, and both or none of them is followed by others.  Or the name of one
goes on with an underscore behind the other's, and the latter is followed by others. -/
inductive NamesOverlap (first rest second more : List Segment) : Prop
  | same (h : relationName first = relationName second) (hends : rest = [] ↔ more = [])
  | shorter (h : Text.Continues "_" (relationName first) (relationName second)) (hrest : rest ≠ [])
  | longer (h : Text.Continues "_" (relationName second) (relationName first)) (hmore : more ≠ [])

/-- Behind a common part the paths go on with different relations, whose names overlap. -/
def PartOverlap (segments others : List Segment) : Prop :=
  ∃ common first second rest more, segments = common ++ (first ++ rest) ∧
    others = common ++ (second ++ more) ∧ IsRelation first ∧ IsRelation second ∧ first ≠ second ∧
    NamesOverlap first rest second more

/-- A relation ends with the first table, so no other one starts a path with it. -/
theorem IsRelation.eq_of_append_eq {first second rest more : List Segment}
    (hfirst : IsRelation first) (hsecond : IsRelation second)
    (h : first ++ rest = second ++ more) : first = second := by
  have hexclusive : ∀ {segment : Segment}, segment.property.shape.ownsTable = true →
      ¬ segment.property.shape.isEmbedded = true :=
    fun howns => Bool.eq_false_iff.mp (Segment.isEmbedded_eq_false howns)
  induction hfirst generalizing second with
  | table howns =>
      cases hsecond with
      | table => rw [(List.cons.inj h).1]
      | embedded hembedded => exact absurd ((List.cons.inj h).1 ▸ hembedded) (hexclusive howns)
  | embedded hembedded _ ih =>
      cases hsecond with
      | table howns => exact absurd ((List.cons.inj h).1 ▸ hembedded) (hexclusive howns)
      | embedded _ hrest =>
          obtain ⟨rfl, htails⟩ := List.cons.inj h
          rw [ih hrest htails]

theorem IsRelation.ne_nil {segments : List Segment} (h : IsRelation segments) : segments ≠ [] := by
  cases h <;> exact List.cons_ne_nil _ _

/-- Paths that have nothing in common part at their first relations. -/
theorem partOverlap_append_iff {first second rest more : List Segment} (hfirst : IsRelation first)
    (hsecond : IsRelation second) (hne : first.head? ≠ second.head?) :
    PartOverlap (first ++ rest) (second ++ more) ↔ NamesOverlap first rest second more := by
  constructor
  · rintro ⟨common, other, another, behind, beyond, hsegments, hothers, hother, hanother, -, hnames⟩
    cases common with
    | nil =>
        obtain rfl := hfirst.eq_of_append_eq hother hsegments
        obtain rfl := hsecond.eq_of_append_eq hanother hothers
        rw [List.append_cancel_left hsegments, List.append_cancel_left hothers]
        exact hnames
    | cons segment common =>
        have hhead : (first ++ rest).head? = first.head? :=
          List.head?_append_of_ne_nil first hfirst.ne_nil
        have hotherHead : (second ++ more).head? = second.head? :=
          List.head?_append_of_ne_nil second hsecond.ne_nil
        rw [hsegments] at hhead
        rw [hothers] at hotherHead
        exact absurd (hhead.symm.trans hotherHead) hne
  · intro hnames
    exact ⟨[], first, second, rest, more, rfl, rfl, hfirst, hsecond,
      fun heq => hne (congrArg List.head? heq), hnames⟩

/-- The labels of the segments, each with what stands behind it. -/
def joinedLabels (segments : List Segment) : String :=
  String.join (segments.map fun segment => segment.label ++ segment.joint)

theorem relationName_cons (segment : Segment) (rest : List Segment) :
    relationName (segment :: rest) = segment.label ++ relationName rest := by
  rw [relationName, List.map_cons, String.join_cons, relationName]

theorem joinedLabels_cons (segment : Segment) (rest : List Segment) :
    joinedLabels (segment :: rest) = segment.label ++ segment.joint ++ joinedLabels rest := by
  rw [joinedLabels, List.map_cons, String.join_cons, joinedLabels]

theorem joinedLabels_append (segments rest : List Segment) :
    joinedLabels (segments ++ rest) = joinedLabels segments ++ joinedLabels rest := by
  rw [joinedLabels, List.map_append, String.join_append, joinedLabels, joinedLabels]

theorem Segment.joint_of_isEmbedded {segment : Segment}
    (h : segment.property.shape.isEmbedded = true) : segment.joint = "" :=
  if_pos h

theorem Segment.joint_of_ownsTable {segment : Segment}
    (h : segment.property.shape.ownsTable = true) : segment.joint = "_" :=
  if_neg (Bool.eq_false_iff.mp (isEmbedded_eq_false h))

theorem IsRelation.joinedLabels {segments : List Segment} (h : IsRelation segments) :
    joinedLabels segments = relationName segments ++ "_" := by
  induction h with
  | table h =>
      rw [joinedLabels_cons, relationName_cons, Segment.joint_of_ownsTable h]
      exact String.append_empty.trans (congrArg (· ++ "_") String.append_empty.symm)
  | embedded h _ ih =>
      rw [joinedLabels_cons, Segment.joint_of_isEmbedded h, ih, relationName_cons,
        String.append_empty, String.append_assoc]

/-- Only a leaf is simple, so that a path to a table is made of relations. -/
theorem exists_relations {segments : List Segment}
    (hlast : ∀ leaf, segments.getLast? = some leaf → leaf.property.shape.ownsTable = true)
    (hcases : ∀ segment ∈ segments, segment.property.shape.ownsTable = true ∨
      segment.property.shape.isEmbedded = true) :
    ∃ relations : List (List Segment), (∀ relation ∈ relations, IsRelation relation) ∧
      segments = relations.flatten := by
  induction segments with
  | nil => exact ⟨[], nofun, rfl⟩
  | cons segment rest ih =>
      obtain ⟨hsegment, hcases⟩ := List.forall_mem_cons.mp hcases
      obtain ⟨relations, hrelations, hrest⟩ := ih (fun leaf hleaf => hlast leaf (by
        rw [List.getLast?_cons, hleaf]; rfl)) hcases
      rcases hsegment with hsegment | hsegment
      · refine ⟨[segment] :: relations, List.forall_mem_cons.mpr ⟨.table hsegment, hrelations⟩, ?_⟩
        rw [List.flatten_cons, ← hrest]
        rfl
      · cases relations with
        | nil =>
            rw [hrest] at hlast
            have htable := hlast segment rfl
            exact ⟨[[segment]], by simpa using .table htable, by rw [hrest]; rfl⟩
        | cons relation relations =>
            obtain ⟨hrelation, hrelations⟩ := List.forall_mem_cons.mp hrelations
            refine ⟨(segment :: relation) :: relations,
              List.forall_mem_cons.mpr ⟨.embedded hsegment hrelation, hrelations⟩, ?_⟩
            rw [hrest]
            rfl

theorem IsRelation.joinedLabels_append_ne {first : List Segment} (h : IsRelation first)
    (rest : List Segment) : EntityQuery.joinedLabels (first ++ rest) ≠ "" := by
  rw [joinedLabels_append, h.joinedLabels]
  exact Text.append_sign_ne_empty (c := '_') rfl

theorem joinedLabels_flatten_eq_empty_iff {relations : List (List Segment)}
    (h : ∀ relation ∈ relations, IsRelation relation) :
    joinedLabels relations.flatten = "" ↔ relations.flatten = [] := by
  constructor
  · intro hempty
    cases relations with
    | nil => rfl
    | cons first rest => exact absurd hempty ((h first List.mem_cons_self).joinedLabels_append_ne _)
  · intro hnil
    rw [hnil]
    rfl

/-- Relations that join to one text with all that follows have names that overlap. -/
theorem namesOverlap_of_append_eq {first second : List Segment} {rest more : List (List Segment)}
    (hrest : ∀ relation ∈ rest, IsRelation relation)
    (hmore : ∀ relation ∈ more, IsRelation relation)
    (h : relationName first ++ "_" ++ joinedLabels rest.flatten =
      relationName second ++ "_" ++ joinedLabels more.flatten) :
    NamesOverlap first rest.flatten second more.flatten := by
  rcases Text.append_sign_cases (c := '_') rfl h with
    ⟨hname, hlabels⟩ | ⟨behind, hname, hlabels⟩ | ⟨behind, hname, hlabels⟩
  · refine .same hname ?_
    rw [← joinedLabels_flatten_eq_empty_iff hrest, ← joinedLabels_flatten_eq_empty_iff hmore,
      hlabels]
  · refine .shorter ⟨behind, hname⟩ fun hnil => ?_
    rw [(joinedLabels_flatten_eq_empty_iff hrest).mpr hnil] at hlabels
    exact Text.append_sign_ne_empty (c := '_') rfl hlabels.symm
  · refine .longer ⟨behind, hname⟩ fun hnil => ?_
    rw [(joinedLabels_flatten_eq_empty_iff hmore).mpr hnil] at hlabels
    exact Text.append_sign_ne_empty (c := '_') rfl hlabels.symm

theorem PartOverlap.append_left {segments others : List Segment} (h : PartOverlap segments others)
    (earlier : List Segment) : PartOverlap (earlier ++ segments) (earlier ++ others) := by
  obtain ⟨common, first, second, rest, more, rfl, rfl, hoverlap⟩ := h
  refine ⟨earlier ++ common, first, second, rest, more, ?_, ?_, hoverlap⟩
  · rw [List.append_assoc]
  · rw [List.append_assoc]

theorem partOverlap_of_joinedLabels_eq {relations others : List (List Segment)}
    (hrelations : ∀ relation ∈ relations, IsRelation relation)
    (hothers : ∀ relation ∈ others, IsRelation relation) (hne : relations ≠ others)
    (h : joinedLabels relations.flatten = joinedLabels others.flatten) :
    PartOverlap relations.flatten others.flatten := by
  induction relations generalizing others with
  | nil =>
      cases others with
      | nil => exact absurd rfl hne
      | cons second more =>
          exact absurd h.symm ((hothers second List.mem_cons_self).joinedLabels_append_ne _)
  | cons first rest ih =>
      obtain ⟨hfirst, hrest⟩ := List.forall_mem_cons.mp hrelations
      cases others with
      | nil => exact absurd h (hfirst.joinedLabels_append_ne _)
      | cons second more =>
          obtain ⟨hsecond, hmore⟩ := List.forall_mem_cons.mp hothers
          rw [List.flatten_cons, List.flatten_cons] at h ⊢
          rw [joinedLabels_append, joinedLabels_append] at h
          by_cases hsame : first = second
          · subst hsame
            have hdifferent : rest ≠ more := fun heq => hne (congrArg (first :: ·) heq)
            exact (ih hrest hmore hdifferent ((String.append_right_inj _).mp h)).append_left first
          · rw [hfirst.joinedLabels, hsecond.joinedLabels] at h
            exact ⟨[], first, second, _, _, rfl, rfl, hfirst, hsecond, hsame,
              namesOverlap_of_append_eq hrest hmore h⟩

namespace Path

variable {schema : Schema} {path other : Path} {name : String}

/-- An alias is what the labels join to, but for what stands behind the last one. -/
theorem aliasFrom_append_joint {joint : String} {name : Option String} {segments : List Segment}
    (hjoint : name = none → joint = "")
    (hempty : ∀ segment ∈ segments, segment.label = "" → segment.joint = "") :
    (aliasFrom joint name segments).getD "" ++ (segments.getLast?.map Segment.joint).getD joint =
      name.getD "" ++ joint ++ joinedLabels segments := by
  induction segments generalizing joint name with
  | nil => exact String.append_empty.symm
  | cons segment rest ih =>
      obtain ⟨hsegment, hrest⟩ := List.forall_mem_cons.mp hempty
      have hlast : ((segment :: rest).getLast?.map Segment.joint).getD joint =
          (rest.getLast?.map Segment.joint).getD segment.joint := by
        rw [List.getLast?_cons]
        cases rest.getLast? <;> rfl
      have hadded : (addLabel joint segment.label name).getD "" =
          name.getD "" ++ joint ++ segment.label := by
        cases name with
        | some name => rfl
        | none =>
            rw [hjoint rfl]
            by_cases hlabel : segment.label = ""
            · rw [addLabel, if_pos hlabel, hlabel]
              rfl
            · rw [addLabel, if_neg hlabel]
              exact String.empty_append.symm
      rw [aliasFrom, hlast, ih (fun hnone => hsegment (addLabel_eq_none_iff.mp hnone).2) hrest,
        hadded, joinedLabels_cons]
      simp only [String.append_assoc]

section

variable (htable : path.HasTable)

include htable

theorem ownsTable_of_getLast? {leaf : Segment} (hleaf : path.segments.getLast? = some leaf) :
    leaf.property.shape.ownsTable = true := by
  rw [segments, List.getLast?_reverse] at hleaf
  have hrows := Schema.storesRows_iff.mpr htable
  rwa [Schema.storesRows, leaf?, hleaf] at hrows

theorem ownsTable_or_isEmbedded (hpath : schema.HasPath path) :
    ∀ segment ∈ path.segments, segment.property.shape.ownsTable = true ∨
      segment.property.shape.isEmbedded = true := by
  intro segment hsegment
  have hsimple : segment.property.shape.isSimple = false := by
    rw [segments, List.mem_reverse] at hsegment
    cases hclimb : path.climb with
    | nil => simp [hclimb] at hsegment
    | cons leaf parents =>
        have hfollows := hpath.follows
        rw [hclimb] at hfollows hsegment
        rcases List.mem_cons.mp hsegment with rfl | hparent
        · exact (htable segment.property (by rw [leaf?, hclimb]; rfl)).1
        · exact hfollows.isSimple_eq_false segment hparent
  cases howns : segment.property.shape.ownsTable with
  | true => exact .inl rfl
  | false =>
      have hcases := Schema.ownsTable_eq_false_iff.mp howns
      exact .inr (hcases.resolve_left (by simp [hsimple]))

/-- The alias of a table and an underscore are the names of its relations, each with one. -/
theorem append_sign_of_aliasOf (hnames : "" ∉ path.names)
    (halias : aliasOf path.climb = some name) : name ++ "_" = joinedLabels path.segments := by
  have hempty : ∀ segment ∈ path.segments, segment.label = "" → segment.joint = "" := by
    intro segment hsegment hlabel
    refine if_pos (Option.isSome_iff_ne_none.mpr fun hlead => hnames ?_)
    rw [Segment.label, hlead] at hlabel
    exact List.mem_map.mpr ⟨segment, hsegment, hlabel⟩
  have hjoined := @aliasFrom_append_joint "" none path.segments (fun _ => rfl) hempty
  have hlast : (path.segments.getLast?.map Segment.joint).getD "" = "_" := by
    cases hleaf : path.segments.getLast? with
    | none =>
        have hclimb : path.climb = [] := by simpa [segments] using hleaf
        rw [hclimb] at halias
        cases halias
    | some leaf => exact Segment.joint_of_ownsTable (ownsTable_of_getLast? htable hleaf)
  rw [← aliasOf_climb, halias, hlast] at hjoined
  exact hjoined

end

/-- Two tables have one alias only where the paths to them go on with relations whose names
overlap. -/
theorem partOverlap_of_aliasOf_eq (hpath : schema.HasPath path) (hother : schema.HasPath other)
    (htable : path.HasTable) (hotherTable : other.HasTable) (hnames : "" ∉ path.names)
    (hotherNames : "" ∉ other.names) (hne : path.segments ≠ other.segments)
    (halias : aliasOf path.climb = some name) (hotherAlias : aliasOf other.climb = some name) :
    PartOverlap path.segments other.segments := by
  have hjoined := append_sign_of_aliasOf htable hnames halias
  have hotherJoined := append_sign_of_aliasOf hotherTable hotherNames hotherAlias
  obtain ⟨relations, hrelations, hsegments⟩ :=
    exists_relations (fun _ => ownsTable_of_getLast? htable) (ownsTable_or_isEmbedded htable hpath)
  obtain ⟨others, hothers, hotherSegments⟩ := exists_relations
    (fun _ => ownsTable_of_getLast? hotherTable) (ownsTable_or_isEmbedded hotherTable hother)
  rw [hsegments] at hjoined hne ⊢
  rw [hotherSegments] at hotherJoined hne ⊢
  have hdifferent : relations ≠ others := fun heq => hne (congrArg List.flatten heq)
  exact partOverlap_of_joinedLabels_eq hrelations hothers hdifferent
    (hjoined.symm.trans hotherJoined)

end Path

end EntityQuery
