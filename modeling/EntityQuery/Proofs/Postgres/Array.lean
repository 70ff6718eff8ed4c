import EntityQuery.Proofs.Postgres.Reading
import EntityQuery.Proofs.Value.Quotes

/-!
# Elements of array parameters

Texts, integers and identifiers keep their type in an array if there is nothing else in it.  Any
other mix is sent as texts, and these are the readable ones.  So an element stands for its value
unless it is null, or has quotes in its readable text that are not its own.
-/

namespace EntityQuery

namespace Value

def isText : Value → Bool
  | .text _ => true
  | _ => false

def isInteger : Value → Bool
  | .integer _ => true
  | _ => false

def isUuid : Value → Bool
  | .uuid _ => true
  | _ => false

/-- The number of an integer of either width. -/
def whole? : Value → Option Int
  | .integer value => some value.toInt
  | .bigInt value => some value.toInt
  | _ => none

/-- Whether an array of texts holds what the value says: not the word for null, and no quotes but
those of a text itself. -/
def keepsText (value : Value) : Bool :=
  !value.isNull && (value.isText || value.quoted == 0)

end Value

namespace Postgres.Elements

/-- What an element has to be for a value among these ones.  Values of one type that has arrays are
kept, and integers of two widths keep their numbers.  Otherwise it is the plain text, and null has
none. -/
def StandsFor (among : List Value) (element value : Value) : Prop :=
  if among.all Value.isText || among.all Value.isInteger || among.all Value.isUuid then
    element = value
  else if among.all fun other => other.whole?.isSome then
    ∃ n, element = .bigInt n ∧ value.whole? = some n.toInt
  else
    value.isNull = false ∧ element = .text value.plainText

/-! ### The type of the elements -/

section Types

variable {among : List Value} {element value : Value}

theorem isSome_text? (value : Value) : (text? value).isSome = value.isText := by
  cases value <;> rfl

theorem isSome_integer? (value : Value) : (integer? value).isSome = value.isInteger := by
  cases value <;> rfl

theorem isSome_bigInt? (value : Value) : (bigInt? value).isSome = value.whole?.isSome := by
  cases value <;> rfl

theorem isSome_uuid? (value : Value) : (uuid? value).isSome = value.isUuid := by
  cases value <;> rfl

/-- Integers are no identifiers, so only an empty array is made of both. -/
theorem all_isUuid_eq_false (htexts : among.all Value.isText = false)
    (hwhole : (among.all fun value => value.whole?.isSome) = true) :
    among.all Value.isUuid = false := by
  cases among with
  | nil => cases htexts
  | cons first rest => cases first <;> simp_all [Value.whole?, Value.isUuid]

theorem standsFor_uniform (h : (among.all Value.isText || among.all Value.isInteger ||
    among.all Value.isUuid) = true) : StandsFor among element value ↔ element = value := by
  rw [StandsFor, if_pos h]

theorem standsFor_mixed (htexts : among.all Value.isText = false)
    (hintegers : among.all Value.isInteger = false) (huuids : among.all Value.isUuid = false) :
    StandsFor among element value ↔
      if among.all fun other => other.whole?.isSome then
        ∃ n, element = .bigInt n ∧ value.whole? = some n.toInt
      else value.isNull = false ∧ element = .text value.plainText := by
  rw [StandsFor, if_neg (by simp [htexts, hintegers, huuids])]

theorem textOf_eq_plainText_iff (value : Value) :
    textOf value = value.plainText ↔ value.isText = true ∨ value.quoted = 0 := by
  cases value with
  | text text => simp [textOf, Value.plainText, Value.textWith, Value.isText]
  | decimal text => simp [textOf, Value.plainText, Value.textWith, Value.quoted]
  | _ => simp [textOf, Value.toText_eq_plainText_iff, Value.isText]

end Types

/-! ### What the elements stand for -/

/-- The element stands for the value if all values are identifiers or the text keeps what the value
says, and not otherwise. -/
def Tells (among : List Value) (element value : Value) : Prop :=
  StandsFor among element value ↔ among.all Value.isUuid = true ∨ value.keepsText = true

section Arrays

variable {among : List Value}

theorem tells_texts {texts : List String} (h : among.mapM text? = some texts) :
    List.Forall₂ (Tells among) (texts.map .text) among := by
  have hall := all_eq_true_of_mapM isSome_text? h
  refine forall₂_map_of_mapM h fun value text htext => ?_
  cases value <;> cases htext
  rw [Tells, standsFor_uniform (by simp [hall])]
  simp [Value.keepsText, Value.isNull, Value.isText]

theorem tells_integers {integers : List Int32} (h : among.mapM integer? = some integers) :
    List.Forall₂ (Tells among) (integers.map .integer) among := by
  have hall := all_eq_true_of_mapM isSome_integer? h
  refine forall₂_map_of_mapM h fun value integer hinteger => ?_
  cases value <;> cases hinteger
  rw [Tells, standsFor_uniform (by simp [hall])]
  simp [Value.keepsText, Value.isNull, Value.quoted]

theorem tells_uuids {uuids : List Uuid} (h : among.mapM uuid? = some uuids) :
    List.Forall₂ (Tells among) (uuids.map .uuid) among := by
  have hall := all_eq_true_of_mapM isSome_uuid? h
  refine forall₂_map_of_mapM h fun value uuid huuid => ?_
  cases value <;> cases huuid
  rw [Tells, standsFor_uniform (by simp [hall])]
  simp [hall]

section Mixed

variable (htexts : among.mapM text? = none) (hintegers : among.mapM integer? = none)

include htexts hintegers

theorem tells_bigInts {integers : List Int64} (h : among.mapM bigInt? = some integers) :
    List.Forall₂ (Tells among) (integers.map .bigInt) among := by
  have hnotTexts := all_eq_false_of_mapM isSome_text? htexts
  have hnotIntegers := all_eq_false_of_mapM isSome_integer? hintegers
  have hall := all_eq_true_of_mapM isSome_bigInt? h
  have hnotUuids := all_isUuid_eq_false hnotTexts hall
  refine forall₂_map_of_mapM h fun value integer hinteger => ?_
  rw [Tells, standsFor_mixed hnotTexts hnotIntegers hnotUuids, if_pos hall]
  -- An integer of the smaller width has its number in the larger one.
  cases value <;> cases hinteger <;>
    simp [Value.keepsText, Value.isNull, Value.quoted, Value.whole?]

theorem tells_mixed (hwhole : among.mapM bigInt? = none) (huuids : among.mapM uuid? = none) :
    List.Forall₂ (Tells among) ((among.map textOf).map .text) among := by
  have hnotTexts := all_eq_false_of_mapM isSome_text? htexts
  have hnotIntegers := all_eq_false_of_mapM isSome_integer? hintegers
  have hnotWhole := all_eq_false_of_mapM isSome_bigInt? hwhole
  have hnotUuids := all_eq_false_of_mapM isSome_uuid? huuids
  rw [List.forall₂_map_left_iff, List.forall₂_map_left_iff, List.forall₂_same]
  intro value hvalue
  have htext : (Value.text (textOf value) = .text value.plainText) ↔
      value.isText = true ∨ value.quoted = 0 := by
    rw [Value.text.injEq, textOf_eq_plainText_iff]
  rw [Tells, standsFor_mixed hnotTexts hnotIntegers hnotUuids, if_neg (by simp [hnotWhole]), htext]
  simp [hnotUuids, Value.keepsText]

end Mixed

theorem tells_ofValues (among : List Value) :
    List.Forall₂ (Tells among) (ofValues among).values among := by
  unfold ofValues
  cases htexts : among.mapM text? with
  | some texts => exact tells_texts htexts
  | none =>
  cases hintegers : among.mapM integer? with
  | some integers => exact tells_integers hintegers
  | none =>
  cases hwhole : among.mapM bigInt? with
  | some integers => exact tells_bigInts htexts hintegers hwhole
  | none =>
  cases huuids : among.mapM uuid? with
  | some uuids => exact tells_uuids huuids
  | none => exact tells_mixed htexts hintegers hwhole huuids

/-- An array has as many elements as values, in their order, and a server reads these elements from
what is sent.  An element stands for its value if all values are identifiers or if the text of the
value keeps what it says, and not otherwise. -/
theorem standsFor_elements_iff (among : List Value) :
    List.Forall₂ (fun element value => StandsFor among element value ↔
        among.all Value.isUuid = true ∨ value.keepsText = true) (ofValues among).values among ∧
      ((ofValues among).Fits →
        (Parameter.ofValue (.array among)).elements? = some ((ofValues among).values.map some)) :=
  ⟨tells_ofValues among, fun hfits => elements?_present hfits⟩

/-- A date next to a number is sent with quotes around it. -/
theorem not_standsFor_date :
    let among : List Value := [.integer 7, .date ⟨2024, 2, 29⟩]
    (Parameter.ofValue (.array among)).elements? =
        some [some (.text "7"), some (.text "'2024-02-29'")] ∧
      ¬ List.Forall₂ (StandsFor among) (ofValues among).values among := by
  intro among
  have helements : ofValues among = .texts ["7", "'2024-02-29'"] := rfl
  have hfits : (Elements.texts ["7", "'2024-02-29'"]).Fits := by
    refine ⟨by decide, List.forall_mem_cons.mpr ⟨?_, List.forall_mem_singleton.mpr ?_⟩, ?_⟩
    · decide +kernel
    · decide +kernel
    · simp [values]
  refine ⟨elements?_present hfits, fun h => ?_⟩
  rw [helements] at h
  obtain ⟨-, hdate⟩ := List.forall₂_cons.mp h
  obtain ⟨hdate, -⟩ := List.forall₂_cons.mp hdate
  rw [StandsFor, if_neg (by decide), if_neg (by decide)] at hdate
  exact absurd (Value.text.inj hdate.2) (by decide)

end Arrays

end Postgres.Elements

end EntityQuery
