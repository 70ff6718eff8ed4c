import EntityQuery.Number.Decimal
import EntityQuery.Text.Hex
import EntityQuery.Time.Date
import Mathlib.Algebra.Ring.Nat
import Mathlib.Data.List.Induction

/-!
# Numbers in digits

A number that is filled up with zeros to a width has exactly that many digits if it is not too
large, and its digits read as the number.
-/

namespace EntityQuery

theorem toNat_of_isDigit {c : Char} (h : c.isDigit = true) : 48 ≤ c.toNat ∧ c.toNat ≤ 57 := by
  simpa [Char.isDigit, UInt32.le_iff_toNat_le] using h

/-- Numbers are told apart by their texts. -/
theorem toString_nat_inj {first second : Nat} :
    toString first = toString second ↔ first = second := by
  constructor
  · intro h
    have hdigits : Nat.toDigits 10 first = Nat.toDigits 10 second := by
      rw [← Nat.toList_repr, ← Nat.toList_repr]
      exact congrArg String.toList h
    rw [← Nat.ofDigitChars_ten_toDigits (n := first), hdigits, Nat.ofDigitChars_ten_toDigits]
  · rintro rfl
    rfl

theorem length_zeros_append_toDigits {base width n : Nat} (hbase : 1 < base) (hwidth : 0 < width)
    (h : n < base ^ width) :
    (List.replicate (width - (Nat.toDigits base n).length) '0' ++ Nat.toDigits base n).length =
      width := by
  have hle : (Nat.toDigits base n).length ≤ width := (Nat.length_toDigits_le_iff hbase hwidth).mpr h
  rw [List.length_append, List.length_replicate, Nat.sub_add_cancel hle]

namespace Text

theorem length_hexChars {width n : Nat} (hwidth : 0 < width) (h : n < 16 ^ width) :
    (hexChars width n).length = width :=
  length_zeros_append_toDigits (by decide) hwidth h

theorem hexDigit?_digitChar {digit : Nat} (h : digit < 16) :
    hexDigit? digit.digitChar = some digit := by
  revert digit
  decide

theorem hexDigit?_lt {c : Char} {digit : Nat} (h : hexDigit? c = some digit) : digit < 16 := by
  have hzero : '0'.toNat = 48 := rfl
  have hlower : 'a'.toNat = 97 := rfl
  have hupper : 'A'.toNat = 65 := rfl
  unfold hexDigit? at h
  split at h
  next hc =>
    have hnine : c.toNat ≤ 57 := hc.2
    cases h
    omega
  next =>
    split at h
    next hc =>
      have hf : c.toNat ≤ 102 := hc.2
      cases h
      omega
    next =>
      split at h
      next hc =>
        have hf : c.toNat ≤ 70 := hc.2
        cases h
        omega
      next => cases h

theorem hexValue?_concat (digits : List Char) (c : Char) :
    hexValue? (digits ++ [c]) =
      (hexValue? digits).bind fun value => (hexDigit? c).map fun digit => 16 * value + digit := by
  simp [hexValue?]

theorem hexValue?_toDigits (n : Nat) : hexValue? (Nat.toDigits 16 n) = some n := by
  induction n using Nat.strongRecOn with
  | ind n ih =>
      by_cases hn : n < 16
      · rw [Nat.toDigits_of_lt_base hn]
        simp [hexValue?, hexDigit?_digitChar hn]
      · have hinit : hexValue? (Nat.toDigits 16 (n / 16)) = some (n / 16) := ih _ (by omega)
        have hlast : hexDigit? (n % 16).digitChar = some (n % 16) :=
          hexDigit?_digitChar (Nat.mod_lt n (by decide))
        rw [Nat.toDigits_of_base_le (by decide) (Nat.le_of_not_lt hn), hexValue?_concat, hinit,
          Option.bind_some, hlast, Option.map_some, Nat.div_add_mod]

theorem hexValue?_zeros_append (count : Nat) (digits : List Char) :
    hexValue? (List.replicate count '0' ++ digits) = hexValue? digits := by
  have hzero : hexDigit? '0' = some 0 := rfl
  induction count with
  | zero => rfl
  | succ count ih =>
      rw [← ih, List.replicate_succ, List.cons_append, hexValue?, List.foldlM_cons, hzero]
      rfl

theorem hexValue?_hexChars (width n : Nat) : hexValue? (hexChars width n) = some n := by
  rw [hexChars, hexValue?_zeros_append, hexValue?_toDigits]

theorem hexValue?_lt {digits : List Char} {value : Nat} (h : hexValue? digits = some value) :
    value < 16 ^ digits.length := by
  induction digits using List.reverseRecOn generalizing value with
  | nil =>
      cases h
      decide
  | append_singleton digits c ih =>
      rw [hexValue?_concat] at h
      obtain ⟨init, hinit, hlast⟩ := Option.bind_eq_some_iff.mp h
      obtain ⟨digit, hdigit, rfl⟩ := Option.map_eq_some_iff.mp hlast
      have hbound : init < 16 ^ digits.length := ih hinit
      have hlt : digit < 16 := hexDigit?_lt hdigit
      rw [List.length_append, List.length_singleton, Nat.pow_succ]
      omega

theorem hexValue?_eq_none {digits : List Char} {c : Char} (hmem : c ∈ digits)
    (hc : hexDigit? c = none) : hexValue? digits = none := by
  obtain ⟨before, after, rfl⟩ := List.append_of_mem hmem
  rw [hexValue?, List.foldlM_append]
  refine Option.bind_eq_none_iff.mpr fun value _ => ?_
  rw [List.foldlM_cons, hc]
  rfl

theorem notMem_hexChars {width n : Nat} {c : Char} (hc : hexDigit? c = none) :
    c ∉ hexChars width n := by
  intro hmem
  have hnone : hexValue? (hexChars width n) = none := hexValue?_eq_none hmem hc
  rw [hexValue?_hexChars] at hnone
  cases hnone

end Text

theorem Decimal.digitsValue_lt {digits : List Char} (h : ∀ c ∈ digits, c.isDigit = true) :
    digitsValue digits < 10 ^ digits.length := by
  induction digits using List.reverseRecOn with
  | nil => decide
  | append_singleton digits c ih =>
      have hinit := ih fun c hc => h c (List.mem_append_left _ hc)
      have hdigit : 48 ≤ c.toNat ∧ c.toNat ≤ 57 :=
        toNat_of_isDigit (h c (List.mem_append_right _ (List.mem_singleton_self c)))
      have hvalue : digitsValue (digits ++ [c]) = 10 * digitsValue digits + (c.toNat - 48) := by
        rw [digitsValue, List.foldl_append]
        rfl
      rw [List.length_append, List.length_singleton, Nat.pow_succ, hvalue]
      omega

namespace Date

theorem toList_padded (width n : Nat) :
    (padded width n).toList =
      List.replicate (width - (Nat.toDigits 10 n).length) '0' ++ Nat.toDigits 10 n :=
  String.toList_ofList

theorem length_padded {width n : Nat} (hwidth : 0 < width) (h : n < 10 ^ width) :
    (padded width n).toList.length = width := by
  rw [toList_padded]
  exact length_zeros_append_toDigits (by decide) hwidth h

theorem digitsValue_padded (width n : Nat) : Decimal.digitsValue (padded width n).toList = n := by
  rw [toList_padded, Decimal.digitsValue, ← Nat.ofDigitChars_eq_foldl, Nat.ofDigitChars_append,
    Nat.ofDigitChars_replicate_zero, Nat.mul_zero, Nat.ofDigitChars_ten_toDigits]

theorem isDigit_of_mem_padded {width n : Nat} {c : Char} (h : c ∈ (padded width n).toList) :
    c.isDigit = true := by
  rw [toList_padded] at h
  rcases List.mem_append.mp h with h | h
  · rw [List.eq_of_mem_replicate h]
    rfl
  · exact Nat.isDigit_of_mem_toDigits (by decide) (by decide) h

theorem padded_ne_nil (width n : Nat) : (padded width n).toList ≠ [] := by
  rw [toList_padded]
  exact List.append_ne_nil_of_right_ne_nil _ Nat.toDigits_ne_nil

end Date

end EntityQuery
