import EntityQuery.Proofs.Postgres.Bytes

/-!
# Array parameters as a server reads them

What is sent for an array says how many elements there are and of which type, and holds each behind
its length.  A server that reads it has the elements as they were sent.
-/

namespace EntityQuery.Postgres

/-- The type of the elements of an array of one dimension that counts from one, and their bytes. -/
def Bytes.array? (bytes : Bytes) : Option (Nat × List (Option Bytes)) :=
  let (dimensions, bytes) := bytes.number
  let (_, bytes) := bytes.number
  let (type, bytes) := bytes.number
  let (count, bytes) := bytes.number
  let (first, bytes) := bytes.number
  if dimensions = 1 ∧ first = 1 then (bytes.parts? count).map fun parts => (type, parts) else none

/-- A value of one of the types that arrays are sent of. -/
def Bytes.value? (type : Nat) (bytes : Bytes) : Option Value :=
  if type = textType then bytes.text?.map .text
  else if type = integerType ∧ bytes.length = 4 then some (.integer (Int32.ofInt bytes.toNat))
  else if type = bigIntType ∧ bytes.length = 8 then some (.bigInt (Int64.ofInt bytes.toNat))
  else if type = uuidType ∧ bytes.length = 16 then some (.uuid ⟨bytes.toNat⟩)
  else none

/-- The type of the arrays of a type. -/
def arrayTypeOf? (type : Nat) : Option Nat :=
  [(textType, textArrayType), (integerType, integerArrayType), (bigIntType, bigIntArrayType),
    (uuidType, uuidArrayType)].lookup type

/-- An element of this type; null is no value. -/
def element? (type : Nat) : Option Bytes → Option (Option Value)
  | none => some none
  | some bytes => (bytes.value? type).map some

/-- The elements of an array in their order. -/
def Parameter.elements? (parameter : Parameter) : Option (List (Option Value)) :=
  (parameter.bytes.bind Bytes.array?).bind fun (type, parts) =>
    if arrayTypeOf? type = some parameter.type then parts.mapM (element? type) else none

/-! ### Steps that may fail -/

section Steps

variable {α β : Type} {step : α → Option β} {inputs : List α} {outputs : List β}

theorem mapM_eq_some : inputs.mapM step = some outputs ↔
    List.Forall₂ (fun output input => step input = some output) outputs inputs := by
  induction inputs generalizing outputs with
  | nil => simp [eq_comm]
  | cons input inputs ih =>
      simp only [List.mapM_cons, Option.bind_eq_bind, Option.bind_eq_some_iff, Option.pure_def,
        Option.some.injEq, ih]
      constructor
      · rintro ⟨output, hstep, rest, hrest, rfl⟩
        exact .cons hstep hrest
      · rintro (_ | ⟨hstep, hrest⟩)
        exact ⟨_, hstep, _, hrest, rfl⟩

theorem isSome_mapM {p : α → Bool} (hp : ∀ input, (step input).isSome = p input) :
    (inputs.mapM step).isSome = inputs.all p := by
  induction inputs with
  | nil => rfl
  | cons input inputs ih =>
      rw [List.mapM_cons, List.all_cons, ← ih, ← hp input]
      cases step input with
      | none => rfl
      | some output => cases inputs.mapM step <;> rfl

theorem all_eq_true_of_mapM {p : α → Bool} (hp : ∀ input, (step input).isSome = p input)
    (h : inputs.mapM step = some outputs) : inputs.all p = true := by
  rw [← isSome_mapM hp, h]
  rfl

theorem all_eq_false_of_mapM {p : α → Bool} (hp : ∀ input, (step input).isSome = p input)
    (h : inputs.mapM step = none) : inputs.all p = false := by
  rw [← isSome_mapM hp, h]
  rfl

theorem forall₂_map_of_mapM {form : β → α} {R : α → α → Prop} (h : inputs.mapM step = some outputs)
    (hform : ∀ input output, step input = some output → R (form output) input) :
    List.Forall₂ R (outputs.map form) inputs :=
  List.forall₂_map_left_iff.mpr ((mapM_eq_some.mp h).imp fun output input => hform input output)

theorem forall₂_map_map {γ : Type} {R : α → β → Prop} {first : γ → α} {second : γ → β}
    {items : List γ} (h : ∀ item ∈ items, R (first item) (second item)) :
    List.Forall₂ R (items.map first) (items.map second) :=
  List.forall₂_map_left_iff.mpr (List.forall₂_map_right_iff.mpr (List.forall₂_same.mpr h))

end Steps

/-! ### What is read -/

namespace Elements

/-- The elements as values of their own. -/
def values : Elements → List Value
  | .texts elements => elements.map .text
  | .integers elements => elements.map .integer
  | .bigInts elements => elements.map .bigInt
  | .uuids elements => elements.map .uuid

/-- A length is sent as a positive number in four bytes, and an identifier in sixteen. -/
def Fits (elements : Elements) : Prop :=
  elements.values.length < 2 ^ 31 ∧ (∀ part ∈ elements.elementBytes, part.length < 2 ^ 31) ∧
    ∀ uuid, .uuid uuid ∈ elements.values → uuid.value < 2 ^ 128

variable {elements : Elements}

theorem length_elementBytes : elements.elementBytes.length = elements.values.length := by
  cases elements <;> simp [elementBytes, values]

theorem array?_bytes (h : elements.Fits) :
    elements.bytes.array? = some (elements.elementType, elements.elementBytes.map some) := by
  obtain ⟨hcount, hparts, -⟩ := h
  rw [← length_elementBytes] at hcount
  have htype : elements.elementType < 2 ^ 32 := by
    cases elements <;> simp [elementType, textType, integerType, bigIntType, uuidType]
  have hone (rest : Bytes) : (Bytes.ofInt 4 1 ++ rest).number = (1, rest) :=
    Bytes.number_ofInt_append (n := 1) (by decide) rest
  have hzero (rest : Bytes) : (Bytes.ofInt 4 0 ++ rest).number = (0, rest) :=
    Bytes.number_ofInt_append (n := 0) (by decide) rest
  unfold bytes Bytes.array?
  simp only [List.append_assoc, hone, hzero, Bytes.number_ofInt_append htype,
    Bytes.number_ofInt_append (show elements.elementBytes.length < 2 ^ 32 by omega),
    Bytes.parts?_flatMap hparts]
  rfl

theorem value?_elementBytes (h : elements.Fits) :
    List.Forall₂ (fun value bytes => Bytes.value? elements.elementType bytes = some value)
      elements.values elements.elementBytes := by
  cases elements with
  | texts texts =>
      refine forall₂_map_map fun text _ => ?_
      rw [elementType, Bytes.value?, if_pos rfl, Bytes.text?_ofString]
      rfl
  | integers integers =>
      refine forall₂_map_map fun n _ => ?_
      rw [elementType, Bytes.value?, if_neg (by decide), if_pos ⟨rfl, Bytes.length_ofInt 4 _⟩,
        Bytes.ofInt_toNat_ofInt_four]
  | bigInts integers =>
      refine forall₂_map_map fun n _ => ?_
      rw [elementType, Bytes.value?, if_neg (by decide), if_neg (by simp [bigIntType, integerType]),
        if_pos ⟨rfl, Bytes.length_ofInt 8 _⟩, Bytes.ofInt_toNat_ofInt_eight]
  | uuids uuids =>
      refine forall₂_map_map fun uuid huuid => ?_
      have hvalue : uuid.value < 256 ^ 16 := h.2.2 uuid (List.mem_map_of_mem huuid)
      rw [elementType, Bytes.value?, if_neg (by decide), if_neg (by simp [uuidType, integerType]),
        if_neg (by simp [uuidType, bigIntType]), if_pos ⟨rfl, Bytes.length_ofInt 16 _⟩, uuidBytes,
        Bytes.toNat_ofInt_natCast hvalue]

/-- What is sent for an array is read as the elements that were sent. -/
theorem elements?_present (h : elements.Fits) :
    (Parameter.present elements.arrayType elements.bytes).elements? =
      some (elements.values.map some) := by
  have htype : arrayTypeOf? elements.elementType = some elements.arrayType := by
    cases elements <;> rfl
  have hparts : (elements.elementBytes.map some).mapM (element? elements.elementType) =
      some (elements.values.map some) := by
    refine mapM_eq_some.mpr (List.forall₂_map_left_iff.mpr (List.forall₂_map_right_iff.mpr ?_))
    exact (value?_elementBytes h).imp fun value bytes hread => congrArg (Option.map some) hread
  rw [Parameter.elements?, Parameter.present, Option.bind_some, array?_bytes h, Option.bind_some]
  exact (if_pos htype).trans hparts

end Elements

end EntityQuery.Postgres
