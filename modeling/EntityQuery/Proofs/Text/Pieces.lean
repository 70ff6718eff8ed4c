import EntityQuery.Text.Pieces
import Mathlib.Data.List.Basic

/-!
# Cutting and joining

A text is the pieces it is cut into, joined by what it was cut at; and pieces that do not hold the
separator are found again when they are joined and cut.
-/

namespace EntityQuery.Text

theorem piecesOf_eq_splitOn (separator : Char) (text : List Char) :
    piecesOf separator text = text.splitOn separator := by
  induction text with
  | nil => rfl
  | cons c rest ih =>
      rw [piecesOf, List.splitOn, List.splitOnP_cons_eq_if_modifyHead, ← List.splitOn, ih]
      by_cases hc : c = separator
      · rw [if_pos hc, if_pos (beq_iff_eq.mpr hc)]
      · rw [if_neg hc, if_neg fun h => hc (beq_iff_eq.mp h)]
        cases hrest : rest.splitOn separator with
        | nil => exact absurd hrest (List.splitOn_ne_nil separator rest)
        | cons piece pieces => rfl

theorem toList_pieces (separator : Char) (text : String) :
    (pieces separator text).map String.toList = text.toList.splitOn separator := by
  rw [pieces, piecesOf_eq_splitOn, List.map_map]
  have hid : String.toList ∘ String.ofList = id := by
    funext piece
    exact String.toList_ofList
  rw [hid, List.map_id]

theorem intercalate_pieces (separator : Char) (text : String) :
    (String.singleton separator).intercalate (pieces separator text) = text := by
  apply String.toList_injective
  rw [String.toList_intercalate, toList_pieces, String.toList_singleton,
    List.intercalate_splitOn]

theorem pieces_intercalate {separator : Char} {names : List String} (hnames : names ≠ [])
    (h : ∀ name ∈ names, separator ∉ name.toList) :
    pieces separator ((String.singleton separator).intercalate names) = names := by
  have hlists : ∀ piece ∈ names.map String.toList, separator ∉ piece := List.forall_mem_map.mpr h
  have hcut := List.splitOn_intercalate separator hlists (by simpa using hnames)
  apply List.map_injective_iff.mpr fun _ _ => String.toList_injective
  rw [toList_pieces, String.toList_intercalate, String.toList_singleton, hcut]

end EntityQuery.Text
