import EntityQuery.Postgres.Parameter
import Mathlib.Algebra.Order.Ring.Int
import Mathlib.Tactic.Positivity

/-!
# Bytes that are read back

A number is read from the bytes that it was written to, up to the width, and a text from its bytes.
Parts are laid end to end, each behind its length.
-/

namespace EntityQuery.Postgres.Bytes

/-! ### Numbers -/

/-- The number that the bytes are the digits of, the highest first. -/
def toNat (bytes : Bytes) : Nat :=
  bytes.foldl (fun n byte => 256 * n + byte.toNat) 0

/-- The lowest digits of a number, the highest of them first. -/
def digits (width n : Nat) : Bytes :=
  (List.range width).map fun place => UInt8.ofNat (n >>> (8 * (width - 1 - place)) % 256)

theorem ofInt_eq_digits (width : Nat) (n : Int) :
    ofInt width n = digits width (n % (1 <<< (8 * width) : Nat)).toNat :=
  rfl

theorem length_ofInt (width : Nat) (n : Int) : (ofInt width n).length = width := by
  rw [ofInt, List.length_map, List.length_range]

theorem digits_succ (width n : Nat) :
    digits (width + 1) n = digits width (n / 256) ++ [UInt8.ofNat (n % 256)] := by
  rw [digits, List.range_succ, List.map_append, digits]
  congr 1
  · refine List.map_congr_left fun place hplace => ?_
    have hbits : 8 * (width + 1 - 1 - place) = 8 + 8 * (width - 1 - place) := by
      have := List.mem_range.mp hplace
      omega
    rw [hbits, Nat.shiftRight_add, Nat.shiftRight_eq_div_pow n 8]
  · simp

theorem toNat_digits (width n : Nat) : toNat (digits width n) = n % 256 ^ width := by
  induction width generalizing n with
  | zero => simp [digits, toNat, Nat.mod_one]
  | succ width ih =>
      have hlast : (UInt8.ofNat (n % 256)).toNat = n % 256 := by simp
      have hdigits : toNat (digits (width + 1) n) =
          256 * toNat (digits width (n / 256)) + (UInt8.ofNat (n % 256)).toNat := by
        rw [digits_succ, toNat, List.foldl_append]
        rfl
      rw [hdigits, ih, hlast, Nat.pow_succ, Nat.mul_comm (256 ^ width), Nat.mod_mul, Nat.add_comm]

theorem toNat_ofInt (width : Nat) (n : Int) :
    (toNat (ofInt width n) : Int) = n % 256 ^ width := by
  have hpower : (1 <<< (8 * width) : Nat) = 256 ^ width := by
    rw [Nat.one_shiftLeft, Nat.pow_mul]
  have hnonneg : 0 ≤ n % (256 ^ width : Nat) := Int.emod_nonneg n (by positivity)
  have hlt : n % (256 ^ width : Nat) < (256 ^ width : Nat) := Int.emod_lt_of_pos n (by positivity)
  rw [ofInt_eq_digits, toNat_digits, hpower, Nat.mod_eq_of_lt (by omega),
    Int.toNat_of_nonneg hnonneg]
  push_cast
  rfl

theorem toNat_ofInt_natCast {width n : Nat} (h : n < 256 ^ width) : toNat (ofInt width n) = n := by
  have hread := toNat_ofInt width n
  rw [Int.emod_eq_of_lt (by positivity) (by exact_mod_cast h)] at hread
  exact_mod_cast hread

theorem ofInt_toNat_ofInt_four (n : Int32) : Int32.ofInt (toNat (ofInt 4 n.toInt)) = n := by
  rw [toNat_ofInt, Int32.ofInt_eq_iff_bmod_eq_toInt]
  exact (Int.emod_bmod n.toInt (2 ^ 32)).trans n.toInt_bmod

theorem ofInt_toNat_ofInt_eight (n : Int64) : Int64.ofInt (toNat (ofInt 8 n.toInt)) = n := by
  rw [toNat_ofInt, Int64.ofInt_eq_iff_bmod_eq_toInt]
  exact (Int.emod_bmod n.toInt (2 ^ 64)).trans n.toInt_bmod

/-! ### Texts -/

def text? (bytes : Bytes) : Option String :=
  String.fromUTF8? bytes.toByteArray

theorem toList_loop (bytes : ByteArray) (place : Nat) (read : List UInt8) :
    ByteArray.toList.loop bytes place read = read.reverse ++ bytes.data.toList.drop place := by
  unfold ByteArray.toList.loop
  split
  · rename_i hplace
    have hlength : place < bytes.data.toList.length := hplace
    have hbyte : bytes.get! place = bytes.data.toList[place] := by
      simp [ByteArray.get!, hplace]
    rw [toList_loop bytes (place + 1), List.reverse_cons, List.append_assoc,
      List.drop_eq_getElem_cons hlength, hbyte]
    rfl
  · rename_i hplace
    have hlength : bytes.data.toList.length ≤ place := Nat.le_of_not_lt hplace
    rw [List.drop_eq_nil_of_le hlength, List.append_nil]
termination_by bytes.size - place

theorem text?_ofString (text : String) : text? (ofString text) = some text := by
  have hlist : text.toUTF8.toList = text.toByteArray.data.toList :=
    toList_loop text.toByteArray 0 []
  have hbytes : (ofString text).toByteArray = text.toByteArray := by
    apply ByteArray.ext
    rw [ofString, hlist, List.data_toByteArray, Array.toArray_toList]
  rw [text?, hbytes, String.fromUTF8?, dif_pos text.isValidUTF8]
  rfl

/-! ### Parts -/

/-- The number in the first four bytes, and what stands behind it. -/
def number (bytes : Bytes) : Nat × Bytes :=
  (toNat (bytes.take 4), bytes.drop 4)

theorem number_ofInt_append {n : Nat} (h : n < 2 ^ 32) (rest : Bytes) :
    number (ofInt 4 n ++ rest) = (n, rest) := by
  have hlength : (ofInt 4 n).length = 4 := length_ofInt 4 n
  have hread : toNat (ofInt 4 n) = n := toNat_ofInt_natCast h
  rw [number, List.take_left' hlength, List.drop_left' hlength, hread]

/-- So many parts, each behind its length, and nothing else.  A negative length stands for a part
that is null. -/
def parts? : Nat → Bytes → Option (List (Option Bytes))
  | 0, bytes => if bytes = [] then some [] else none
  | count + 1, bytes =>
      let (length, behind) := number bytes
      if 2 ^ 31 ≤ length then (parts? count behind).map (none :: ·)
      else if behind.length < length then none
      else (parts? count (behind.drop length)).map (some (behind.take length) :: ·)

theorem parts?_flatMap {parts : List Bytes} (h : ∀ part ∈ parts, part.length < 2 ^ 31) :
    parts? parts.length (parts.flatMap fun part => ofInt 4 part.length ++ part) =
      some (parts.map some) := by
  induction parts with
  | nil => rfl
  | cons part rest ih =>
      obtain ⟨hpart, hrest⟩ := List.forall_mem_cons.mp h
      rw [List.flatMap_cons, List.length_cons, List.append_assoc, parts?,
        number_ofInt_append (by omega)]
      simp only [List.take_left, List.drop_left, ih hrest]
      rw [if_neg (by omega), if_neg (by rw [List.length_append]; omega)]
      rfl

end EntityQuery.Postgres.Bytes
