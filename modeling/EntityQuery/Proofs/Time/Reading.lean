import EntityQuery.Proofs.Text.Digits
import EntityQuery.Proofs.Time.Calendar
import EntityQuery.Time.Reading
import Mathlib.Data.List.TakeWhile

/-!
# Dates and timestamps by their text

What is written for a date of the calendar or a point in time is read as it, part by part: a reader
of a part takes what is written for the part and leaves what stands behind it.
-/

namespace EntityQuery

namespace Reading

/-- No digit stands at the beginning. -/
def NoDigitFirst (text : List Char) : Prop :=
  text.head?.any Char.isDigit = false

theorem noDigitFirst_cons {c : Char} (h : c.isDigit = false) (rest : List Char) :
    NoDigitFirst (c :: rest) :=
  h

theorem NoDigitFirst.takeWhile {text : List Char} (h : NoDigitFirst text) :
    text.takeWhile Char.isDigit = [] := by
  cases text with
  | nil => rfl
  | cons c rest => exact List.takeWhile_cons_of_neg (Bool.eq_false_iff.mp h)

theorem NoDigitFirst.dropWhile {text : List Char} (h : NoDigitFirst text) :
    text.dropWhile Char.isDigit = text := by
  cases text with
  | nil => rfl
  | cons c rest => exact List.dropWhile_cons_of_neg (Bool.eq_false_iff.mp h)

theorem NoDigitFirst.take {text : List Char} (h : NoDigitFirst text) (count : Nat) :
    NoDigitFirst (text.take count) := by
  cases text with
  | nil => rwa [List.take_nil]
  | cons c rest =>
      cases count with
      | zero => rfl
      | succ count => exact noDigitFirst_cons h _

theorem isBlank_of_isDigit {c : Char} (h : c.isDigit = true) : Text.isBlank c = false := by
  have hcode := toNat_of_isDigit h
  simp only [Text.isBlank, Bool.or_eq_false_iff, Bool.and_eq_false_iff, beq_eq_false_iff_ne,
    decide_eq_false_iff_not]
  omega

theorem trimStart_cons {c : Char} (h : Text.isBlank c = false) (rest : List Char) :
    Text.trimStart (c :: rest) = c :: rest :=
  List.dropWhile_cons_of_neg (Bool.eq_false_iff.mp h)

theorem trimStart_padded_append (width n : Nat) (rest : List Char) :
    Text.trimStart ((Date.padded width n).toList ++ rest) =
      (Date.padded width n).toList ++ rest := by
  obtain ⟨c, digits, h⟩ := List.exists_cons_of_ne_nil (Date.padded_ne_nil width n)
  have hc : c.isDigit = true := Date.isDigit_of_mem_padded (h ▸ List.mem_cons_self)
  rw [h]
  exact trimStart_cons (isBlank_of_isDigit hc) _

theorem lenientChar?_cons {c : Char} (h : Text.isBlank c = false) (rest : List Char) :
    lenientChar? c (c :: rest) = some rest := by
  rw [lenientChar?, trimStart_cons h, char?, if_pos rfl]

/-- The digits of a number end where no further one is asked for or the next character is none. -/
theorem number?_padded_append {least most width n : Nat} {rest : List Char}
    (hleast : least ≤ (Date.padded width n).toList.length)
    (hmost : (Date.padded width n).toList.length ≤ most)
    (hend : (Date.padded width n).toList.length = most ∨ NoDigitFirst rest) :
    number? least most ((Date.padded width n).toList ++ rest) = some (n, rest) := by
  have hrest : (rest.take (most - (Date.padded width n).toList.length)).takeWhile Char.isDigit =
      [] := by
    rcases hend with hend | hend
    · rw [hend, Nat.sub_self, List.take_zero, List.takeWhile_nil]
    · exact (hend.take _).takeWhile
  have htaken : (((Date.padded width n).toList ++ rest).take most).takeWhile Char.isDigit =
      (Date.padded width n).toList := by
    rw [List.take_append, List.take_of_length_le hmost,
      List.takeWhile_append_of_pos fun _ => Date.isDigit_of_mem_padded, hrest, List.append_nil]
  rw [number?, htaken, if_neg (Nat.not_lt.mpr hleast), List.drop_left, Date.digitsValue_padded]

theorem lenientNumber?_padded_append {n : Nat} (h : n < 100) (rest : List Char) :
    lenientNumber? ((Date.padded 2 n).toList ++ rest) = some (n, rest) := by
  have hlength : (Date.padded 2 n).toList.length = 2 := Date.length_padded (by decide) h
  rw [lenientNumber?, trimStart_padded_append,
    number?_padded_append (by omega) (by omega) (.inl hlength)]

theorem lenientYear?_padded_append (n : Nat) (rest : List Char) :
    lenientYear? ((Date.padded 4 n).toList ++ rest) =
      (number? 1 4 ((Date.padded 4 n).toList ++ rest)).map
        fun (year, rest) => ((year : Int), rest) := by
  obtain ⟨c, digits, h⟩ := List.exists_cons_of_ne_nil (Date.padded_ne_nil 4 n)
  have hc : c.isDigit = true := Date.isDigit_of_mem_padded (h ▸ List.mem_cons_self)
  rw [lenientYear?, trimStart_padded_append, h, List.cons_append]
  split
  next heq =>
    cases heq
    cases hc
  next heq =>
    cases heq
    cases hc
  next => rfl

theorem lenientYear?_minus (text : List Char) :
    lenientYear? ('-' :: text) =
      (number? 1 text.length text).map fun (year, rest) => (-(year : Int), rest) := by
  rw [lenientYear?, trimStart_cons (by decide)]
  rfl

theorem lenientYear?_plus (text : List Char) :
    lenientYear? ('+' :: text) =
      (number? 1 text.length text).map fun (year, rest) => ((year : Int), rest) := by
  rw [lenientYear?, trimStart_cons (by decide)]
  rfl

/-- A year is four digits, or a sign and digits up to another character. -/
theorem lenientYear?_yearText_append (year : Int) {rest : List Char} (hrest : NoDigitFirst rest) :
    lenientYear? ((Date.yearText year).toList ++ rest) = some (year, rest) := by
  unfold Date.yearText
  by_cases hyear : 0 ≤ year ∧ year ≤ 9999
  · have hlength : (Date.padded 4 year.toNat).toList.length = 4 :=
      Date.length_padded (by decide) (by omega)
    rw [if_pos hyear, lenientYear?_padded_append,
      number?_padded_append (by omega) (by omega) (.inl hlength)]
    simp only [Option.map_some, Int.toNat_of_nonneg hyear.1]
  · have hpos : 1 ≤ (Date.padded 4 year.natAbs).toList.length :=
      List.length_pos_iff.mpr (Date.padded_ne_nil 4 _)
    have hnumber : number? 1 ((Date.padded 4 year.natAbs).toList ++ rest).length
        ((Date.padded 4 year.natAbs).toList ++ rest) = some (year.natAbs, rest) := by
      apply number?_padded_append hpos ?_ (.inr hrest)
      rw [List.length_append]
      exact Nat.le_add_right _ _
    rw [if_neg hyear, String.toList_append, List.append_assoc]
    by_cases hnegative : year < 0
    · have hvalue : -(year.natAbs : Int) = year := by omega
      rw [if_pos hnegative, show "-".toList = ['-'] from rfl, List.singleton_append,
        lenientYear?_minus, hnumber]
      simp only [Option.map_some, hvalue]
    · have hvalue : (year.natAbs : Int) = year := by omega
      rw [if_neg hnegative, show "+".toList = ['+'] from rfl, List.singleton_append,
        lenientYear?_plus, hnumber]
      simp only [Option.map_some, hvalue]

theorem lenientDate?_text_append {date : Date} (h : date.IsValid) (rest : List Char) :
    lenientDate? (date.text.toList ++ rest) = some ((date.year, date.month, date.day), rest) := by
  have htext : date.text.toList ++ rest = (Date.yearText date.year).toList ++ '-' ::
      ((Date.padded 2 date.month).toList ++ '-' :: ((Date.padded 2 date.day).toList ++ rest)) := by
    have hsign : "-".toList = ['-'] := rfl
    rw [Date.text]
    simp only [String.toList_append, List.append_assoc, hsign, List.cons_append, List.nil_append]
  have hdash : ∀ text, lenientChar? '-' ('-' :: text) = some text := lenientChar?_cons (by decide)
  rw [htext, lenientDate?, lenientYear?_yearText_append _ (noDigitFirst_cons rfl _)]
  simp only [hdash, lenientNumber?_padded_append h.two_digits.1,
    lenientNumber?_padded_append h.two_digits.2, Option.bind_eq_bind, Option.bind_some]

/-- The digits of a fraction count a billionth each where nine of them are written. -/
theorem fraction?_point {width n : Nat} (hpos : 0 < width) (hwidth : width ≤ 9)
    (hn : n < 10 ^ width) {rest : List Char} (hrest : NoDigitFirst rest) :
    fraction? (("." ++ Date.padded width n).toList ++ rest) =
      some (n * 10 ^ (9 - width), rest) := by
  have hlength : (Date.padded width n).toList.length = width := Date.length_padded hpos hn
  have hdigits : ∀ c ∈ (Date.padded width n).toList, c.isDigit = true :=
    fun _ => Date.isDigit_of_mem_padded
  have hspan : Decimal.spanDigits ((Date.padded width n).toList ++ rest) =
      ((Date.padded width n).toList, rest) := by
    rw [Decimal.spanDigits, List.takeWhile_append_of_pos hdigits,
      List.dropWhile_append_of_pos hdigits, hrest.takeWhile, hrest.dropWhile, List.append_nil]
  have hnonempty : (Date.padded width n).toList.isEmpty = false :=
    List.isEmpty_eq_false_iff.mpr (Date.padded_ne_nil width n)
  have hkept : (Date.padded width n).toList.take 9 = (Date.padded width n).toList :=
    List.take_of_length_le (hlength.trans_le hwidth)
  rw [String.toList_append, show ".".toList = ['.'] from rfl, List.singleton_append,
    List.cons_append]
  simp only [fraction?, hspan, hnonempty, hkept, hlength, Date.digitsValue_padded,
    Bool.false_eq_true, if_false, Nat.pow_eq]

theorem fraction?_fractionText_append {nanosecond : Nat}
    (h : nanosecond < Timestamp.nanosecondsPerSecond) {c : Char} (hdigit : c.isDigit = false)
    (hpoint : c ≠ '.') (rest : List Char) :
    fraction? ((Timestamp.fractionText nanosecond).toList ++ c :: rest) =
      some (nanosecond, c :: rest) := by
  have hrest : NoDigitFirst (c :: rest) := noDigitFirst_cons hdigit rest
  have hbound : nanosecond < 1000000000 := h
  unfold Timestamp.fractionText
  split
  next hzero =>
    subst hzero
    rw [show "".toList = [] from rfl, List.nil_append, fraction?]
    intro rest heq
    cases heq
    exact hpoint rfl
  next hpos =>
    split
    next hmillis =>
      rw [fraction?_point (by decide) (by decide) (by omega) hrest]
      congr
      omega
    next =>
      split
      next hmicros =>
        rw [fraction?_point (by decide) (by decide) (by omega) hrest]
        congr
        omega
      next =>
        rw [fraction?_point (by decide) (by decide) (by omega) hrest]
        congr
        omega

theorem fraction?_lt {text rest : List Char} {nanosecond : Nat}
    (h : fraction? text = some (nanosecond, rest)) :
    nanosecond < Timestamp.nanosecondsPerSecond := by
  unfold fraction? at h
  split at h
  next text =>
    dsimp only at h
    split at h
    · cases h
    · cases h
      obtain ⟨kept, hkept⟩ : ∃ kept, kept = (Decimal.spanDigits text).1.take 9 := ⟨_, rfl⟩
      have hdigits : ∀ c ∈ kept, c.isDigit = true := by
        intro c hc
        exact List.mem_takeWhile_imp (List.mem_of_mem_take (hkept ▸ hc))
      have hle : kept.length ≤ 9 := hkept ▸ List.length_take_le _ _
      rw [← hkept]
      calc Decimal.digitsValue kept * 10 ^ (9 - kept.length)
          < 10 ^ kept.length * 10 ^ (9 - kept.length) :=
            Nat.mul_lt_mul_of_pos_right (Decimal.digitsValue_lt hdigits) (Nat.pow_pos (by decide))
        _ = 10 ^ 9 := by rw [← Nat.pow_add, Nat.add_sub_cancel' hle]
  next =>
    cases h
    decide

theorem offset?_emod {separator : List Char → Option (List Char)} {text rest : List Char}
    {offset : Int} (h : offset? separator text = some (offset, rest)) : offset % 60 = 0 := by
  unfold offset? at h
  split at h
  · cases h
    rfl
  · cases h
    rfl
  · simp only [Option.bind_eq_bind, Option.bind_eq_some_iff, Prod.exists] at h
    obtain ⟨negative, _, -, hours, _, -, _, -, minutes, _, -, h⟩ := h
    split at h
    · cases h
    · cases h
      split <;> omega

theorem lenientOffset?_emod {text rest : List Char} {offset : Int}
    (h : lenientOffset? text = some (offset, rest)) : offset % 60 = 0 := by
  unfold lenientOffset? at h
  split at h
  · split at h
    · cases h
      rfl
    · exact offset?_emod h
  · exact offset?_emod h

end Reading

open Reading

theorem Date.isValid_of_readLenient? {text : String} {date : Date}
    (h : readLenient? text = some date) : date.IsValid := by
  simp only [readLenient?, Option.bind_eq_bind, Option.bind_eq_some_iff, Prod.exists] at h
  obtain ⟨year, month, day, rest, -, h⟩ := h
  split at h
  · cases h
  · exact isValid_of_ofNumbers? h

theorem Date.readLenient?_text {date : Date} (h : date.IsValid) :
    readLenient? date.text = some date := by
  have hread := lenientDate?_text_append h []
  rw [List.append_nil] at hread
  rw [readLenient?, hread]
  exact h

namespace Timestamp

/-- A point in time that is supported, where a leap second ends a minute. -/
structure IsValid (t : Timestamp) : Prop where
  day : Date.isSupportedDayNumber t.dayNumber = true
  second : t.second < 86400
  nanosecond : t.nanosecond < 2 * nanosecondsPerSecond
  leapSecond (h : t.isLeapSecond = true) : t.second % 60 = 59

variable {t : Timestamp}

/-- The second that is written for a point in time; in a leap second it is the sixtieth. -/
def writtenSecond (t : Timestamp) : Nat :=
  t.second % 60 + if t.isLeapSecond then 1 else 0

theorem writtenSecond_le (t : Timestamp) : t.writtenSecond ≤ 60 := by
  unfold writtenSecond
  split <;> omega

theorem writtenSecond_eq_sixty_iff (h : t.IsValid) :
    t.writtenSecond = 60 ↔ t.isLeapSecond = true := by
  unfold writtenSecond
  by_cases hleap : t.isLeapSecond = true
  · rw [if_pos hleap, h.leapSecond hleap]
    exact iff_of_true rfl hleap
  · rw [if_neg hleap]
    refine iff_of_false ?_ hleap
    omega

theorem localSecond_eq (h : t.IsValid) :
    t.second / 3600 * 3600 + t.second / 60 % 60 * 60 +
      (if t.writtenSecond = 60 then 59 else t.writtenSecond) = t.second := by
  rw [if_congr (writtenSecond_eq_sixty_iff h) rfl rfl, writtenSecond]
  by_cases hleap : t.isLeapSecond = true
  · have hsecond := h.leapSecond hleap
    rw [if_pos hleap]
    omega
  · rw [if_neg hleap, if_neg hleap]
    omega

theorem writtenNanosecond_eq (h : t.IsValid) :
    (if t.writtenSecond = 60 then t.nanosecond % nanosecondsPerSecond + nanosecondsPerSecond
      else t.nanosecond % nanosecondsPerSecond) = t.nanosecond := by
  have hbound := h.nanosecond
  rw [if_congr (writtenSecond_eq_sixty_iff h) rfl rfl]
  by_cases hleap : t.isLeapSecond = true
  · have hle : nanosecondsPerSecond ≤ t.nanosecond := of_decide_eq_true hleap
    rw [if_pos hleap]
    unfold nanosecondsPerSecond at hbound hle ⊢
    omega
  · have hlt : t.nanosecond < nanosecondsPerSecond :=
      Nat.lt_of_not_le fun hle => hleap (decide_eq_true hle)
    rw [if_neg hleap, Nat.mod_eq_of_lt hlt]

theorem ofLocal?_ofDayNumber (h : t.IsValid) :
    ofLocal? (Date.ofDayNumber t.dayNumber).year (Date.ofDayNumber t.dayNumber).month
      (Date.ofDayNumber t.dayNumber).day (t.second / 3600) (t.second / 60 % 60) t.writtenSecond
      (t.nanosecond % nanosecondsPerSecond) 0 = some t := by
  have hdate : Date.ofNumbers? _ _ _ = some (Date.ofDayNumber t.dayNumber) :=
    Date.isValid_ofDayNumber h.day
  have hsecond := h.second
  have hwritten := t.writtenSecond_le
  have hin : ¬ (24 ≤ t.second / 3600 ∨ 60 ≤ t.second / 60 % 60 ∨ 60 < t.writtenSecond ∨
      86400 ≤ (0 : Int).natAbs) := by
    omega
  have hday : (t.dayNumber * 86400 + (t.second : Int) - 0) / 86400 = t.dayNumber := by omega
  have hrest : ((t.dayNumber * 86400 + (t.second : Int) - 0) % 86400).toNat = t.second := by omega
  simp only [ofLocal?, hdate, Option.bind_eq_bind, Option.bind_some, Date.dayNumber_ofDayNumber,
    if_neg hin, localSecond_eq h, writtenNanosecond_eq h, hday, hrest, h.day, Bool.not_true,
    Bool.false_eq_true, if_false]

theorem toList_textWith (t : Timestamp) :
    (t.textWith "Z").toList = (Date.ofDayNumber t.dayNumber).text.toList ++ 'T' ::
      ((Date.padded 2 (t.second / 3600)).toList ++ ':' ::
        ((Date.padded 2 (t.second / 60 % 60)).toList ++ ':' ::
          ((Date.padded 2 t.writtenSecond).toList ++
            ((fractionText (t.nanosecond % nanosecondsPerSecond)).toList ++ ['Z'])))) := by
  have hsign : "T".toList = ['T'] := rfl
  have hcolon : ":".toList = [':'] := rfl
  have hzone : "Z".toList = ['Z'] := rfl
  rw [textWith, ← writtenSecond]
  simp only [String.toList_append, List.append_assoc, hsign, hcolon, hzone, List.cons_append,
    List.nil_append]

theorem readLenient?_textWith (h : t.IsValid) : readLenient? (t.textWith "Z") = some t := by
  have hsecond := h.second
  have hhour : t.second / 3600 < 100 := by omega
  have hminute : t.second / 60 % 60 < 100 := by omega
  have hwritten : t.writtenSecond < 100 := Nat.lt_of_le_of_lt t.writtenSecond_le (by decide)
  have hnanosecond : t.nanosecond % nanosecondsPerSecond < nanosecondsPerSecond :=
    Nat.mod_lt _ (by decide)
  have hcolon : ∀ text, lenientChar? ':' (':' :: text) = some text := lenientChar?_cons (by decide)
  have hzone : lenientOffset? (Text.trimStart ['Z']) = some (0, []) := rfl
  rw [readLenient?, toList_textWith, lenientDate?_text_append (Date.isValid_ofDayNumber h.day)]
  simp only [separator?, hcolon, lenientNumber?_padded_append hhour,
    lenientNumber?_padded_append hminute, lenientNumber?_padded_append hwritten,
    fraction?_fractionText_append hnanosecond (c := 'Z') rfl (by decide) [], hzone,
    Option.bind_eq_bind, Option.bind_some]
  exact ofLocal?_ofDayNumber h

theorem isValid_of_total {total : Int} {nanosecond : Nat}
    (hday : Date.isSupportedDayNumber (total / 86400) = true)
    (hnanosecond : nanosecond < 2 * nanosecondsPerSecond)
    (hleap : nanosecondsPerSecond ≤ nanosecond → total % 60 = 59) :
    IsValid ⟨total / 86400, (total % 86400).toNat, nanosecond⟩ where
  day := hday
  second := by
    dsimp only
    omega
  nanosecond := hnanosecond
  leapSecond h := by
    have hsecond := hleap (of_decide_eq_true h)
    dsimp only
    omega

theorem isValid_of_ofLocal? {year : Int} {month day hour minute second nanosecond : Nat}
    {offset : Int} {t : Timestamp} (hnanosecond : nanosecond < nanosecondsPerSecond)
    (hoffset : offset % 60 = 0)
    (h : ofLocal? year month day hour minute second nanosecond offset = some t) : t.IsValid := by
  simp only [ofLocal?, Option.bind_eq_bind, Option.bind_eq_some_iff] at h
  obtain ⟨date, -, h⟩ := h
  by_cases hleap : second = 60
  · simp only [hleap, if_true] at h
    split at h
    · cases h
    split at h
    · cases h
    next hday =>
      cases h
      exact isValid_of_total (by simpa using hday) (by omega) fun _ => by omega
  · simp only [hleap, if_false] at h
    split at h
    · cases h
    split at h
    · cases h
    next hday =>
      cases h
      exact isValid_of_total (by simpa using hday) (by omega) fun hle => by omega

theorem isValid_of_readLenient? {text : String} {t : Timestamp} (h : readLenient? text = some t) :
    t.IsValid := by
  simp only [readLenient?, Option.bind_eq_bind, Option.bind_eq_some_iff, Prod.exists] at h
  obtain ⟨_, _, _, _, -, _, -, _, _, -, _, -, _, _, -, _, -, _, _, -, nanosecond, _, hnanosecond,
    offset, _, hoffset, h⟩ := h
  split at h
  · cases h
  · exact isValid_of_ofLocal? (fraction?_lt hnanosecond) (lenientOffset?_emod hoffset) h

end Timestamp

end EntityQuery
