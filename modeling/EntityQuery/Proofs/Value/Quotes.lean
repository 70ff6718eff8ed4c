import EntityQuery.Value.Text

/-!
# Quotes in the text of a value

The readable text of a value is its plain text with quotes around some parts.  So the two are the
same exactly if nothing in the value is written in quotes.
-/

namespace EntityQuery.Value

mutual

/-- The text of a value, with something put around texts, identifiers, times and documents. -/
def textWith (around : String → String) : Value → String
  | .null => "NULL"
  | .text value => around value
  | .integer value => toString value.toInt
  | .bigInt value => toString value.toInt
  | .smallInt value => toString value.toInt
  | .float value => value.plainText
  | .boolean value => if value then "true" else "false"
  | .uuid value => around value.text
  | .timestamp value => around value.text
  | .date value => around value.text
  | .decimal value => value
  | .json value => around value.text
  | .array [] => "[]"
  | .array (first :: rest) => "[" ++ first.textWith around ++ restTextWith around rest ++ "]"

def restTextWith (around : String → String) : List Value → String
  | [] => ""
  | value :: rest => ", " ++ value.textWith around ++ restTextWith around rest

end

def plainText (value : Value) : String :=
  value.textWith id

mutual

/-- How many parts of the readable text are in quotes. -/
def quoted : Value → Nat
  | .text _ | .uuid _ | .timestamp _ | .date _ | .json _ => 1
  | .array elements => quotedElements elements
  | _ => 0

def quotedElements : List Value → Nat
  | [] => 0
  | value :: rest => value.quoted + quotedElements rest

end

mutual

theorem toText_eq (value : Value) : value.toText = value.textWith inQuotes := by
  cases value with
  | array elements =>
      cases elements with
      | nil => rfl
      | cons first rest => rw [toText, textWith, toText_eq first, restText_eq rest]
  | _ => rfl

theorem restText_eq (values : List Value) : restText values = restTextWith inQuotes values := by
  cases values with
  | nil => rfl
  | cons value rest => rw [restText, restTextWith, toText_eq value, restText_eq rest]

end

mutual

/-- Where nothing is in quotes, it does not matter what would be put around it. -/
theorem textWith_of_quoted_eq_zero (around another : String → String) (value : Value)
    (h : value.quoted = 0) : value.textWith around = value.textWith another := by
  cases value with
  | array elements =>
      cases elements with
      | nil => rfl
      | cons first rest =>
          obtain ⟨hfirst, hrest⟩ := Nat.add_eq_zero_iff.mp h
          rw [textWith, textWith, textWith_of_quoted_eq_zero around another first hfirst,
            restTextWith_of_quoted_eq_zero around another rest hrest]
  | text _ | uuid _ | timestamp _ | date _ | json _ => cases h
  | _ => rfl

theorem restTextWith_of_quoted_eq_zero (around another : String → String) (values : List Value)
    (h : quotedElements values = 0) :
    restTextWith around values = restTextWith another values := by
  cases values with
  | nil => rfl
  | cons value rest =>
      obtain ⟨hvalue, hrest⟩ := Nat.add_eq_zero_iff.mp h
      rw [restTextWith, restTextWith, textWith_of_quoted_eq_zero around another value hvalue,
        restTextWith_of_quoted_eq_zero around another rest hrest]

end

theorem length_inQuotes (text : String) : (inQuotes text).length = text.length + 2 := by
  have hquote : "'".length = 1 := rfl
  rw [inQuotes, String.length_append, String.length_append]
  omega

mutual

theorem length_textWith (value : Value) :
    (value.textWith inQuotes).length = (value.textWith id).length + 2 * value.quoted := by
  cases value with
  | array elements =>
      cases elements with
      | nil => rfl
      | cons first rest =>
          have hquoted : (Value.array (first :: rest)).quoted =
              first.quoted + quotedElements rest := rfl
          have hfirst := length_textWith first
          have hrest := length_restTextWith rest
          rw [textWith, textWith, hquoted]
          simp only [String.length_append]
          omega
  | text _ | uuid _ | timestamp _ | date _ | json _ => exact length_inQuotes _
  | _ => rfl

theorem length_restTextWith (values : List Value) :
    (restTextWith inQuotes values).length =
      (restTextWith id values).length + 2 * quotedElements values := by
  cases values with
  | nil => rfl
  | cons value rest =>
      have hvalue := length_textWith value
      have hrest := length_restTextWith rest
      rw [restTextWith, restTextWith, quotedElements]
      simp only [String.length_append]
      omega

end

theorem toText_eq_plainText_iff (value : Value) :
    value.toText = value.plainText ↔ value.quoted = 0 := by
  rw [toText_eq, plainText]
  constructor
  · intro h
    have hlength := length_textWith value
    rw [h] at hlength
    omega
  · exact textWith_of_quoted_eq_zero inQuotes id value

end EntityQuery.Value
