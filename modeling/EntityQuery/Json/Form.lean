import EntityQuery.Json.Basic

/-!
# JSON forms

Types whose values have one form in JSON.  A value stands for its form wherever JSON is expected,
and a missing value for null.
-/

namespace EntityQuery

class JsonForm (α : Type) where
  toJson : α → Json

export JsonForm (toJson)

instance [JsonForm α] : CoeOut α Json := ⟨toJson⟩

instance : JsonForm Json := ⟨id⟩

instance : JsonForm String := ⟨.string⟩

instance : JsonForm Bool := ⟨.bool⟩

instance : JsonForm Int := ⟨.integer⟩

instance : JsonForm Nat := ⟨fun n => .integer n⟩

instance : JsonForm UInt16 := ⟨fun n => .integer n.toNat⟩

instance : JsonForm UInt32 := ⟨fun n => .integer n.toNat⟩

instance : JsonForm UInt64 := ⟨fun n => .integer n.toNat⟩

instance [JsonForm α] : JsonForm (Option α) := ⟨fun value => value.elim .null toJson⟩

instance [JsonForm α] : JsonForm (List α) := ⟨fun values => .array (values.map toJson)⟩

end EntityQuery
