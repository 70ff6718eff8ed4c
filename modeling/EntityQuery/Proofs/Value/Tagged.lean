import EntityQuery.Proofs.Time.Reading
import EntityQuery.Proofs.Uuid
import EntityQuery.Value.Tagged

/-!
# Tagged values

A value that is written in JSON under the name of its type is read back from there, as long as JSON
has all of its numbers.  A number in double precision that JSON does not have is written as null,
and null is not read as a number: then nothing is read.
-/

namespace EntityQuery

theorem fitsSigned_of_bounds {bits : Nat} {n : Int} (hlow : -2 ^ (bits - 1) ≤ n)
    (hhigh : n < 2 ^ (bits - 1)) : fitsSigned bits n = true := by
  have hhalf : ((1 <<< (bits - 1) : Nat) : Int) = 2 ^ (bits - 1) := by
    rw [Nat.one_shiftLeft]
    push_cast
    rfl
  simp only [fitsSigned, hhalf, Bool.and_eq_true, decide_eq_true_eq]
  exact ⟨hhigh, hlow⟩

namespace Value

/-- Induction over a value, with the hypothesis for every element of an array. -/
@[elab_as_elim]
theorem induction {motive : Value → Prop}
    (scalar : ∀ value : Value, (∀ elements, value ≠ .array elements) → motive value)
    (array : ∀ elements, (∀ element ∈ elements, motive element) → motive (.array elements))
    (value : Value) : motive value := by
  match value with
  | .array elements => exact array elements fun element _ => induction scalar array element
  | .null | .text _ | .integer _ | .bigInt _ | .smallInt _ | .float _ | .boolean _ | .uuid _
  | .timestamp _ | .date _ | .decimal _ | .json _ => exact scalar _ fun _ => nofun
termination_by value

/-- A value is within another one if it is the same or within an element of it. -/
inductive Within (part : Value) : Value → Prop
  | self : Within part part
  | element {element : Value} {elements : List Value} (hmem : element ∈ elements)
      (h : Within part element) : Within part (.array elements)

/-- All parts that are written in a text of their own have one that can be read. -/
structure IsValid (value : Value) : Prop where
  uuid (part : Uuid) (h : Within (.uuid part) value) : part.IsValid
  timestamp (part : Timestamp) (h : Within (.timestamp part) value) : part.IsValid
  date (part : Date) (h : Within (.date part) value) : part.IsValid

/-- All numbers in double precision are finite. -/
def IsFinite (value : Value) : Prop :=
  ∀ part, Within (.float part) value → part.isFinite = true

theorem isValid_array {elements : List Value} :
    IsValid (.array elements) ↔ ∀ element ∈ elements, element.IsValid := by
  constructor
  · intro h element hmem
    exact ⟨fun part hpart => h.uuid part (.element hmem hpart),
      fun part hpart => h.timestamp part (.element hmem hpart),
      fun part hpart => h.date part (.element hmem hpart)⟩
  · refine fun h => ⟨?_, ?_, ?_⟩
    · rintro part (_ | ⟨hmem, hpart⟩)
      exact (h _ hmem).uuid part hpart
    · rintro part (_ | ⟨hmem, hpart⟩)
      exact (h _ hmem).timestamp part hpart
    · rintro part (_ | ⟨hmem, hpart⟩)
      exact (h _ hmem).date part hpart

theorem isValid_uuid {uuid : Uuid} (h : uuid.IsValid) : IsValid (.uuid uuid) where
  uuid _ := by
    rintro ⟨⟩
    exact h
  timestamp := nofun
  date := nofun

theorem isValid_timestamp {time : Timestamp} (h : time.IsValid) : IsValid (.timestamp time) where
  uuid := nofun
  timestamp _ := by
    rintro ⟨⟩
    exact h
  date := nofun

theorem isValid_date {date : Date} (h : date.IsValid) : IsValid (.date date) where
  uuid := nofun
  timestamp := nofun
  date _ := by
    rintro ⟨⟩
    exact h

theorem isFinite_array {elements : List Value} :
    IsFinite (.array elements) ↔ ∀ element ∈ elements, element.IsFinite := by
  constructor
  · exact fun h element hmem part hpart => h part (.element hmem hpart)
  · rintro h part (_ | ⟨hmem, hpart⟩)
    exact h _ hmem part hpart

theorem ofTaggedElements?_tagged {elements : List Value}
    (h : ∀ element ∈ elements, ofTagged? element.tagged = some element) :
    ofTaggedElements? (taggedElements elements) = some elements := by
  induction elements with
  | nil => rw [taggedElements, ofTaggedElements?]
  | cons element elements ih =>
      obtain ⟨hfirst, hrest⟩ := List.forall_mem_cons.mp h
      rw [taggedElements, ofTaggedElements?, hfirst, ih hrest]
      rfl

theorem ofTagged?_of_ofTaggedElements? {elements : List Value}
    (h : ofTaggedElements? (taggedElements elements) = some elements) :
    ∀ element ∈ elements, ofTagged? element.tagged = some element := by
  induction elements with
  | nil => exact fun _ hmem => absurd hmem List.not_mem_nil
  | cons element elements ih =>
      rw [taggedElements, ofTaggedElements?] at h
      simp only [Option.bind_eq_bind, Option.bind_eq_some_iff] at h
      obtain ⟨first, hfirst, rest, hrest, heq⟩ := h
      cases heq
      exact List.forall_mem_cons.mpr ⟨hfirst, ih hrest⟩

theorem ofTaggedElements?_eq_none {elements : List Value} {element : Value}
    (hmem : element ∈ elements) (h : ofTagged? element.tagged = none) :
    ofTaggedElements? (taggedElements elements) = none := by
  induction elements with
  | nil => cases hmem
  | cons first elements ih =>
      rw [taggedElements, ofTaggedElements?]
      rcases List.mem_cons.mp hmem with rfl | hmem
      · rw [h]
        rfl
      · rw [ih hmem]
        cases ofTagged? first.tagged <;> rfl

theorem ofTagged?_tagged_array (elements : List Value) :
    ofTagged? (tagged (.array elements)) =
      (ofTaggedElements? (taggedElements elements)).map .array := by
  rw [tagged, ofTagged?]

theorem ofTagged?_tagged_float (x : Binary64) :
    ofTagged? (tagged (.float x)) = if x.isFinite then some (.float x) else none := by
  unfold tagged Json.ofReal
  split <;> simp [ofTagged?, real?]

theorem ofTagged?_tagged_uuid (uuid : Uuid) :
    ofTagged? (tagged (.uuid uuid)) = (Uuid.read? uuid.text).map .uuid := by
  simp [tagged, ofTagged?, Json.string?]

theorem ofTagged?_tagged_timestamp (time : Timestamp) :
    ofTagged? (tagged (.timestamp time)) =
      (Timestamp.readLenient? (time.textWith "Z")).map .timestamp := by
  simp [tagged, ofTagged?, Json.string?]

theorem ofTagged?_tagged_date (date : Date) :
    ofTagged? (tagged (.date date)) = (Date.readLenient? date.text).map .date := by
  simp [tagged, ofTagged?, Json.string?]

theorem ofTagged?_tagged {value : Value} (hvalid : value.IsValid) (hfinite : value.IsFinite) :
    ofTagged? value.tagged = some value := by
  induction value using Value.induction with
  | array elements ih =>
      have helements := ofTaggedElements?_tagged fun element hmem =>
        ih element hmem (isValid_array.mp hvalid element hmem)
          (isFinite_array.mp hfinite element hmem)
      rw [ofTagged?_tagged_array, helements, Option.map_some]
  | scalar value hscalar =>
      cases value with
      | array elements => exact absurd rfl (hscalar elements)
      | null => rw [tagged, ofTagged?, if_pos rfl]
      | text content | decimal content => simp [tagged, ofTagged?, Json.string?]
      | boolean content => simp [tagged, ofTagged?, Json.bool?]
      | json payload => simp [tagged, ofTagged?]
      | integer n =>
          have hfits : fitsSigned 32 n.toInt = true :=
            fitsSigned_of_bounds n.le_toInt n.toInt_lt
          simp [tagged, ofTagged?, integerIn?, hfits]
      | bigInt n =>
          have hfits : fitsSigned 64 n.toInt = true :=
            fitsSigned_of_bounds n.le_toInt n.toInt_lt
          simp [tagged, ofTagged?, integerIn?, hfits]
      | smallInt n =>
          have hfits : fitsSigned 16 n.toInt = true :=
            fitsSigned_of_bounds n.le_toInt n.toInt_lt
          simp [tagged, ofTagged?, integerIn?, hfits]
      | float x => rw [ofTagged?_tagged_float, if_pos (hfinite x .self)]
      | uuid uuid =>
          rw [ofTagged?_tagged_uuid, Uuid.read?_text (hvalid.uuid uuid .self), Option.map_some]
      | timestamp time =>
          rw [ofTagged?_tagged_timestamp,
            Timestamp.readLenient?_textWith (hvalid.timestamp time .self), Option.map_some]
      | date date =>
          rw [ofTagged?_tagged_date, Date.readLenient?_text (hvalid.date date .self),
            Option.map_some]

namespace Within

variable {part value : Value}

/-- What is read back is read back part by part. -/
theorem ofTagged?_eq_some (hpart : Within part value) (h : ofTagged? value.tagged = some value) :
    ofTagged? part.tagged = some part := by
  induction hpart with
  | self => exact h
  | element hmem _ ih =>
      rw [ofTagged?_tagged_array] at h
      obtain ⟨elements, helements, heq⟩ := Option.map_eq_some_iff.mp h
      cases heq
      exact ih (ofTagged?_of_ofTaggedElements? helements _ hmem)

/-- Nothing is read from a value if nothing is read from a part of it. -/
theorem ofTagged?_eq_none (hpart : Within part value) (h : ofTagged? part.tagged = none) :
    ofTagged? value.tagged = none := by
  induction hpart with
  | self => exact h
  | element hmem _ ih =>
      rw [ofTagged?_tagged_array, ofTaggedElements?_eq_none hmem ih, Option.map_none]

end Within

theorem isValid_of_ofTagged?_tagged {value : Value} (h : ofTagged? value.tagged = some value) :
    value.IsValid where
  uuid part hpart := by
    have hread := hpart.ofTagged?_eq_some h
    rw [ofTagged?_tagged_uuid, Option.map_eq_some_iff] at hread
    obtain ⟨_, hread, heq⟩ := hread
    cases heq
    exact Uuid.isValid_of_read? hread
  timestamp part hpart := by
    have hread := hpart.ofTagged?_eq_some h
    rw [ofTagged?_tagged_timestamp, Option.map_eq_some_iff] at hread
    obtain ⟨_, hread, heq⟩ := hread
    cases heq
    exact Timestamp.isValid_of_readLenient? hread
  date part hpart := by
    have hread := hpart.ofTagged?_eq_some h
    rw [ofTagged?_tagged_date, Option.map_eq_some_iff] at hread
    obtain ⟨_, hread, heq⟩ := hread
    cases heq
    exact Date.isValid_of_readLenient? hread

theorem isFinite_of_ofTagged?_tagged {value : Value} (h : ofTagged? value.tagged = some value) :
    value.IsFinite := by
  intro part hpart
  have hread := hpart.ofTagged?_eq_some h
  rw [ofTagged?_tagged_float] at hread
  by_contra hfinite
  rw [if_neg hfinite] at hread
  cases hread

/-- Exactly the valid values whose numbers are all finite are read back from what is written for
them, and nothing is read for a value with an infinite or undefined number at any depth. -/
theorem tagged_loses_nothing (value : Value) :
    (ofTagged? value.tagged = some value ↔ value.IsValid ∧ value.IsFinite) ∧
      ∀ part, Within (.float part) value → part.isFinite = false →
        ofTagged? value.tagged = none := by
  refine ⟨⟨fun h => ⟨isValid_of_ofTagged?_tagged h, isFinite_of_ofTagged?_tagged h⟩,
    fun h => ofTagged?_tagged h.1 h.2⟩, fun part hpart hfinite => hpart.ofTagged?_eq_none ?_⟩
  rw [ofTagged?_tagged_float, hfinite]
  rfl

section Nested

/-- A payload that looks like a tagged value, next to the two nulls and within arrays of arrays. -/
def nested : Value :=
  .array [.null, .json .null, .json (.object [("Text", .string "payload")]), .array [],
    .array [.array [.float (.zero true), .smallInt (-32768)], .text "Null"],
    .uuid ⟨2 ^ 128 - 1⟩, .timestamp ⟨-1, 86399, 1999999999⟩, .date ⟨-44, 3, 15⟩]

theorem isValid_nested : nested.IsValid := by
  have huuid : Uuid.IsValid ⟨2 ^ 128 - 1⟩ := Nat.sub_one_lt (by decide)
  have htime : Timestamp.IsValid ⟨-1, 86399, 1999999999⟩ :=
    ⟨by decide, by decide, by decide, fun _ => rfl⟩
  have hdate : Date.IsValid ⟨-44, 3, 15⟩ := rfl
  simp only [nested, isValid_array, List.forall_mem_cons]
  exact ⟨⟨nofun, nofun, nofun⟩, ⟨nofun, nofun, nofun⟩, ⟨nofun, nofun, nofun⟩, nofun,
    ⟨⟨⟨nofun, nofun, nofun⟩, ⟨nofun, nofun, nofun⟩, nofun⟩, ⟨nofun, nofun, nofun⟩, nofun⟩,
    isValid_uuid huuid, isValid_timestamp htime, isValid_date hdate, nofun⟩

theorem isFinite_nested : nested.IsFinite := by
  simp only [nested, isFinite_array, List.forall_mem_cons, List.not_mem_nil]
  refine ⟨nofun, nofun, nofun, nofun, ⟨⟨?_, nofun, nofun⟩, nofun, nofun⟩, nofun, nofun, nofun,
    nofun⟩
  rintro _ ⟨⟩
  rfl

/-- An undefined number within arrays of arrays is lost, and with it all of the value. -/
theorem tagged_loses_nothing_of_nested :
    (nested.IsValid ∧ nested.IsFinite ∧ ofTagged? nested.tagged = some nested) ∧
      Within (.float .nan) (.array [nested, .array [.float .nan]]) ∧ Binary64.nan.isFinite = false ∧
      ofTagged? (tagged (.array [nested, .array [.float .nan]])) = none := by
  have hpart : Within (.float .nan) (.array [nested, .array [.float .nan]]) :=
    .element (by simp) (.element (List.mem_singleton_self _) .self)
  have hnan : Binary64.nan.isFinite = false := by decide
  exact ⟨⟨isValid_nested, isFinite_nested,
      (tagged_loses_nothing nested).1.mpr ⟨isValid_nested, isFinite_nested⟩⟩,
    hpart, hnan, (tagged_loses_nothing _).2 .nan hpart hnan⟩

end Nested

end Value

end EntityQuery
