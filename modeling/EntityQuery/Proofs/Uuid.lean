import EntityQuery.Proofs.Text.Digits
import EntityQuery.Uuid

/-!
# Universally unique identifiers by their text

The hyphens of a text are between the groups and nowhere else, so that the digits are found again
and an identifier is read from the text that is written for it.
-/

namespace EntityQuery.Uuid

/-- The number has a hundred and twenty-eight bits. -/
def IsValid (uuid : Uuid) : Prop :=
  uuid.value < 2 ^ 128

theorem filter_eq_self_of_notMem {digits : List Char} (h : '-' ∉ digits) :
    digits.filter (· != '-') = digits :=
  List.filter_eq_self.mpr fun _ hc => bne_iff_ne.mpr fun heq => h (heq ▸ hc)

theorem filter_group {widths : List Nat} {digits : List Char} (hwidths : widths ≠ [])
    (hdigits : '-' ∉ digits) :
    (group widths digits).filter (· != '-') = digits.take widths.sum := by
  fun_induction group widths digits with
  | case1 => exact absurd rfl hwidths
  | case2 width digits =>
      rw [filter_eq_self_of_notMem (mt List.mem_of_mem_take hdigits), List.sum_singleton]
  | case3 width widths digits hmore ih =>
      have hfirst : '-' ∉ digits.take width := mt List.mem_of_mem_take hdigits
      have hrest : '-' ∉ digits.drop width := mt List.mem_of_mem_drop hdigits
      rw [List.filter_append, filter_eq_self_of_notMem hfirst, List.filter_cons_of_neg (by decide),
        ih hmore hrest, List.sum_cons, List.take_add]

/-- All groups but the last one have a hyphen behind them. -/
theorem length_group {widths : List Nat} {digits : List Char} (hwidths : widths ≠ [])
    (hdigits : widths.sum ≤ digits.length) :
    (group widths digits).length + 1 = widths.sum + widths.length := by
  fun_induction group widths digits with
  | case1 => exact absurd rfl hwidths
  | case2 width digits =>
      rw [List.sum_singleton] at hdigits ⊢
      rw [List.length_take, Nat.min_eq_left hdigits, List.length_singleton]
  | case3 width widths digits hmore ih =>
      rw [List.sum_cons] at hdigits ⊢
      have hrest : widths.sum ≤ (digits.drop width).length := by
        rw [List.length_drop]
        omega
      have hlength := ih hmore hrest
      rw [List.length_append, List.length_cons, hlength, List.length_take, List.length_cons]
      omega

theorem ofGrouped?_group {digits : List Char} (hlength : digits.length = 32)
    (hdigits : '-' ∉ digits) : ofGrouped? (group groupWidths digits) = ofDigits? digits := by
  have hfilter : (group groupWidths digits).filter (· != '-') = digits := by
    rw [filter_group (by decide) hdigits]
    exact List.take_of_length_le (Nat.le_of_eq hlength)
  rw [ofGrouped?, hfilter, if_pos ⟨hlength, rfl⟩]

theorem read?_text {uuid : Uuid} (h : uuid.IsValid) : read? uuid.text = some uuid := by
  have hvalue : uuid.value < 16 ^ 32 := h
  have hlength : (Text.hexChars 32 uuid.value).length = 32 :=
    Text.length_hexChars (by decide) hvalue
  have hgroup : (group groupWidths (Text.hexChars 32 uuid.value)).length = 36 := by
    have hsum : groupWidths.sum ≤ (Text.hexChars 32 uuid.value).length := Nat.le_of_eq hlength.symm
    exact Nat.succ.inj (length_group (by decide) hsum)
  rw [read?, text, String.toList_ofList, hgroup]
  change ofGrouped? _ = _
  rw [ofGrouped?_group hlength (Text.notMem_hexChars rfl), ofDigits?, if_pos hlength,
    Text.hexValue?_hexChars]
  rfl

theorem isValid_of_ofDigits? {digits : List Char} {uuid : Uuid} (h : ofDigits? digits = some uuid) :
    uuid.IsValid := by
  unfold ofDigits? at h
  split at h
  next hlength =>
    obtain ⟨value, hvalue, rfl⟩ := Option.map_eq_some_iff.mp h
    have hbound := Text.hexValue?_lt hvalue
    rw [hlength] at hbound
    exact hbound
  next => cases h

theorem isValid_of_ofGrouped? {text : List Char} {uuid : Uuid} (h : ofGrouped? text = some uuid) :
    uuid.IsValid := by
  unfold ofGrouped? at h
  dsimp only at h
  split at h
  · exact isValid_of_ofDigits? h
  · cases h

theorem isValid_of_read? {text : String} {uuid : Uuid} (h : read? text = some uuid) :
    uuid.IsValid := by
  unfold read? at h
  dsimp only at h
  split at h
  · exact isValid_of_ofDigits? h
  · exact isValid_of_ofGrouped? h
  · split at h
    · exact isValid_of_ofGrouped? h
    · cases h
  · split at h
    · exact isValid_of_ofGrouped? h
    · cases h
  · cases h

end EntityQuery.Uuid
