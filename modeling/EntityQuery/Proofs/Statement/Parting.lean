import EntityQuery.Proofs.Statement.Composition

/-!
# What stands behind a marker

A marker is read as far as letters and digits go on, so it is read whole only if the text behind it
opens with something else.  In a statement that is so behind every value: a comma, a parenthesis, a
blank or the end.
-/

namespace EntityQuery

/-- The text does not go on with a letter, a digit or an underscore. -/
def Text.OpensApart (text : String) : Prop :=
  ∀ c ∈ text.toList.head?, Name.isPart c = false

namespace Text

instance (text : String) : Decidable (OpensApart text) :=
  decidable_of_iff ((text.toList.head?.all fun c => !Name.isPart c) = true) (by
    simp [OpensApart, Option.all_eq_true])

theorem opensApart_empty : OpensApart "" := by
  intro c hc
  cases hc

theorem opensApart_append {first second : String} (hfirst : OpensApart first)
    (hsecond : OpensApart second) : OpensApart (first ++ second) := by
  intro c hc
  rw [String.toList_append, List.head?_append] at hc
  cases hhead : first.toList.head? with
  | none =>
      rw [hhead] at hc
      exact hsecond c hc
  | some head =>
      rw [hhead] at hc
      exact hfirst c (hhead ▸ hc)

theorem opensApart_append_of_ne_empty {first second : String} (hfirst : OpensApart first)
    (hne : first ≠ "") : OpensApart (first ++ second) := by
  intro c hc
  rw [String.toList_append, List.head?_append] at hc
  cases hhead : first.toList.head? with
  | none => exact absurd (String.toList_eq_nil_iff.mp (List.head?_eq_none_iff.mp hhead)) hne
  | some head =>
      rw [hhead] at hc
      exact hfirst c (hhead ▸ hc)

end Text

open Text

variable {style : MarkerStyle}

namespace Pieces

/-- Whatever the numbers of the markers, the text opens apart from what stands before it. -/
def OpensApart (style : MarkerStyle) (pieces : Pieces) : Prop :=
  ∀ index, Text.OpensApart (sqlFrom style index pieces)

/-- Behind every value the text opens apart. -/
def Parted (style : MarkerStyle) : Pieces → Prop
  | [] => True
  | .text _ :: rest => Parted style rest
  | .value _ :: rest => OpensApart style rest ∧ Parted style rest

theorem opensApart_nil : OpensApart style [] := fun _ => opensApart_empty

theorem opensApart_text_cons {content : String} {rest : Pieces}
    (hcontent : Text.OpensApart content) (hne : content ≠ "") :
    OpensApart style (.text content :: rest) :=
  fun _ => opensApart_append_of_ne_empty hcontent hne

theorem parted_append {left right : Pieces} (hleft : Parted style left)
    (hright : Parted style right) (hopens : OpensApart style right) :
    Parted style (left ++ right) := by
  induction left with
  | nil => exact hright
  | cons piece left ih =>
      cases piece with
      | text content => exact ih hleft
      | value content =>
          refine ⟨fun index => ?_, ih hleft.2⟩
          change Text.OpensApart (sqlFrom style index (left ++ right))
          rw [sqlFrom_append]
          exact opensApart_append (hleft.1 index) (hopens _)

theorem parted_enclosed {pieces : Pieces} (h : Parted style pieces) :
    Parted style (enclosed pieces) := by
  have hopened : Parted style (.text "(" :: pieces) := h
  exact parted_append hopened trivial (opensApart_text_cons (by decide) (by decide))

theorem parted_separated {separator : String} {parts : List Pieces}
    (hseparator : Text.OpensApart separator) (hne : separator ≠ "")
    (h : ∀ part ∈ parts, Parted style part) : Parted style (separated separator parts) := by
  induction parts with
  | nil => trivial
  | cons part rest ih =>
      obtain ⟨hpart, hrest⟩ := List.forall_mem_cons.mp h
      cases rest with
      | nil => exact hpart
      | cons next rest =>
          rw [separated_cons_cons]
          exact parted_append hpart (ih hrest) (opensApart_text_cons hseparator hne)

theorem composes_parted : Composes (Parted style) where
  separated := by
    intro combinator parts hparts
    refine parted_separated ?_ ?_ hparts
    · cases combinator <;> decide
    · cases combinator <;> decide
  enclosed := parted_enclosed
  clause := id

end Pieces

open Pieces

/-! ### Filters -/

theorem Condition.parted_pieces {scope : ColumnScope} {condition : Condition} {pieces : Pieces}
    (h : condition.pieces scope = .ok pieces) : pieces.Parted style := by
  obtain ⟨column, -, hcases⟩ := pieces_cases h
  rcases hcases with ⟨comparator, -, rfl⟩ | ⟨comparator, -, rfl⟩ |
    ⟨comparator, value, rest, -, rfl⟩ | ⟨comparator, value, -, rfl⟩
  · trivial
  · trivial
  · refine parted_enclosed (parted_separated (by decide) (by decide) ?_)
    intro part hpart
    obtain ⟨content, -, rfl⟩ := List.mem_map.mp hpart
    exact ⟨opensApart_nil, trivial⟩
  · exact ⟨opensApart_nil, trivial⟩

theorem Selection.parted_wherePieces {schema : Schema} {nameStyle : NameStyle}
    {selection : Selection} {pieces : Pieces}
    (h : selection.wherePieces schema nameStyle = .ok pieces) : pieces.Parted style := by
  apply composed_wherePieces composes_parted ?_ h
  intro entry _ rendered hrendered
  exact Condition.parted_pieces hrendered

/-! ### The text behind the filter -/

namespace Renderer

variable {renderer : Renderer} {selection : Selection}

theorem opensApart_groupClause {groups : String}
    (h : renderer.groupClause selection = .ok groups) : Text.OpensApart groups := by
  dsimp only [groupClause] at h
  split at h
  · rw [← Result.pure_eq_ok.mp h]
    exact opensApart_empty
  · rw [Result.bind_eq_ok] at h
    obtain ⟨columns, -, h⟩ := h
    rw [← Result.pure_eq_ok.mp h]
    exact opensApart_append_of_ne_empty (by decide) (by decide)

theorem opensApart_orderClause {windowed : Bool} {order : String}
    (h : renderer.orderClause selection windowed = .ok order) : Text.OpensApart order := by
  dsimp only [orderClause] at h
  split at h
  · rw [← Result.pure_eq_ok.mp h]
    split <;> decide
  · rw [Result.bind_eq_ok] at h
    obtain ⟨orders, -, h⟩ := h
    rw [← Result.pure_eq_ok.mp h]
    exact opensApart_append_of_ne_empty (by decide) (by decide)

theorem opensApart_windowClause (clause : Option String) :
    Text.OpensApart (windowClause clause) := by
  cases clause with
  | none => exact opensApart_empty
  | some clause => exact opensApart_append_of_ne_empty (by decide) (by decide)

theorem opensApart_ending {kind : StatementKind} {ending : String}
    (h : renderer.ending selection kind = .ok ending) : Text.OpensApart ending := by
  cases kind with
  | select =>
      obtain ⟨groups, order, hgroups, horder, rfl⟩ := ending_select_eq_ok.mp h
      exact opensApart_append
        (opensApart_append (opensApart_groupClause hgroups) (opensApart_orderClause horder))
        (opensApart_windowClause _)
  | count =>
      obtain ⟨groups, hgroups, rfl⟩ := ending_count_eq_ok.mp h
      refine opensApart_append (opensApart_groupClause hgroups) ?_
      split
      · exact opensApart_append_of_ne_empty (by decide) (by decide)
      · exact opensApart_empty
  | existence =>
      cases h
      refine opensApart_append ?_ (opensApart_windowClause _)
      split <;> decide

end Renderer

end EntityQuery
