import EntityQuery.Statement.Basic
import Mathlib.Data.List.Basic

/-!
# Statements in pieces

A statement seen as a list of pieces, each a text or a value: what it would be if its values stood in
it.  The SQL and the bindings of such a list are two recursions with one counter each.  Here they
are computed for concatenations: a part behind `n` values is written with its markers numbered from
`n` on, and the bindings are the values of the pieces, numbered from left to right.
-/

namespace EntityQuery

inductive Piece where
  | text (content : String)
  | value (content : Value)

abbrev Pieces := List Piece

namespace Pieces

/-- Puts the separator between any two neighbours. -/
def separated (separator : String) : List Pieces → Pieces
  | [] => []
  | [pieces] => pieces
  | pieces :: rest => pieces ++ .text separator :: separated separator rest

def enclosed (pieces : Pieces) : Pieces :=
  .text "(" :: pieces ++ [.text ")"]

/-- The SQL of the pieces when `index` values stand before them. -/
def sqlFrom (style : MarkerStyle) : Nat → Pieces → String
  | _, [] => ""
  | index, .text content :: rest => content ++ sqlFrom style index rest
  | index, .value _ :: rest => style.marker index ++ sqlFrom style (index + 1) rest

def bindingsFrom (style : MarkerStyle) : Nat → Pieces → List Binding
  | _, [] => []
  | index, .text _ :: rest => bindingsFrom style index rest
  | index, .value content :: rest =>
      ⟨index, style.marker index, content⟩ :: bindingsFrom style (index + 1) rest

def toStatement (style : MarkerStyle) (pieces : Pieces) : Statement :=
  ⟨sqlFrom style 0 pieces, bindingsFrom style 0 pieces⟩

/-- The values among the pieces, from left to right. -/
def values (pieces : Pieces) : List Value :=
  pieces.filterMap fun
    | .text _ => none
    | .value content => some content

@[simp]
theorem values_nil : values [] = [] := rfl

@[simp]
theorem values_text_cons (content : String) (rest : Pieces) :
    values (.text content :: rest) = rest.values := rfl

@[simp]
theorem values_value_cons (content : Value) (rest : Pieces) :
    values (.value content :: rest) = content :: rest.values := rfl

@[simp]
theorem values_append (left right : Pieces) :
    values (left ++ right) = left.values ++ right.values :=
  List.filterMap_append

@[simp]
theorem values_enclosed (pieces : Pieces) : (enclosed pieces).values = pieces.values := by
  simp [enclosed]

theorem separated_cons_cons (separator : String) (part next : Pieces) (rest : List Pieces) :
    separated separator (part :: next :: rest) =
      part ++ .text separator :: separated separator (next :: rest) := by
  rw [separated]
  exact List.cons_ne_nil next rest

@[simp]
theorem values_separated (separator : String) (parts : List Pieces) :
    (separated separator parts).values = parts.flatMap values := by
  induction parts with
  | nil => rfl
  | cons part rest ih =>
      cases rest with
      | nil => simp [separated]
      | cons next rest =>
          rw [separated_cons_cons, values_append, values_text_cons, ih]
          rfl

/-! ### The text -/

variable (style : MarkerStyle) (index : Nat)

theorem sqlFrom_append (left right : Pieces) :
    sqlFrom style index (left ++ right) =
      sqlFrom style index left ++ sqlFrom style (index + left.values.length) right := by
  induction left generalizing index with
  | nil => simp [sqlFrom]
  | cons piece left ih =>
      cases piece with
      | text content =>
          rw [List.cons_append, sqlFrom, sqlFrom, ih, values_text_cons, String.append_assoc]
      | value content =>
          rw [List.cons_append, sqlFrom, sqlFrom, ih, values_value_cons, List.length_cons,
            String.append_assoc, Nat.add_right_comm, Nat.add_assoc index]

@[simp]
theorem sqlFrom_nil : sqlFrom style index [] = "" := rfl

@[simp]
theorem sqlFrom_text (content : String) : sqlFrom style index [.text content] = content := by
  simp [sqlFrom]

@[simp]
theorem sqlFrom_enclosed (pieces : Pieces) :
    sqlFrom style index (enclosed pieces) = "(" ++ sqlFrom style index pieces ++ ")" := by
  rw [enclosed, List.cons_append, sqlFrom, sqlFrom_append, sqlFrom_text, String.append_assoc]

/-- The texts of several lists of pieces that stand one behind the other. -/
def textsFrom : Nat → List Pieces → List String
  | _, [] => []
  | index, part :: rest =>
      sqlFrom style index part :: textsFrom (index + part.values.length) rest

theorem sqlFrom_separated (separator : String) (parts : List Pieces) :
    sqlFrom style index (separated separator parts) =
      separator.intercalate (textsFrom style index parts) := by
  induction parts generalizing index with
  | nil => rfl
  | cons part rest ih =>
      cases rest with
      | nil => simp [separated, textsFrom]
      | cons next rest =>
          rw [separated_cons_cons, sqlFrom_append, sqlFrom, ih]
          simp only [textsFrom, String.intercalate_cons_cons, String.append_assoc]

theorem textsFrom_append (left right : List Pieces) :
    textsFrom style index (left ++ right) =
      textsFrom style index left ++
        textsFrom style (index + (left.flatMap values).length) right := by
  induction left generalizing index with
  | nil => simp [textsFrom]
  | cons part left ih =>
      rw [List.cons_append, textsFrom, textsFrom, ih, List.flatMap_cons, List.length_append,
        List.cons_append, Nat.add_assoc]

/-! ### The bindings -/

/-- Every value is bound at its position, with the marker of that position. -/
theorem bindingsFrom_eq (pieces : Pieces) :
    bindingsFrom style index pieces =
      (pieces.values.zipIdx index).map fun (content, position) =>
        ⟨position, style.marker position, content⟩ := by
  induction pieces generalizing index with
  | nil => rfl
  | cons piece rest ih =>
      cases piece with
      | text content => rw [bindingsFrom, ih, values_text_cons]
      | value content =>
          rw [bindingsFrom, ih, values_value_cons, List.zipIdx_cons, List.map_cons]

theorem values_toStatement (pieces : Pieces) :
    (pieces.toStatement style).values = pieces.values := by
  unfold Statement.values toStatement
  rw [bindingsFrom_eq, List.map_map]
  change (pieces.values.zipIdx 0).map Prod.fst = _
  exact List.zipIdx_map_fst 0 _

end Pieces

end EntityQuery
