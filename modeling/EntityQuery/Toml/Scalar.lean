import EntityQuery.Number.Decimal
import EntityQuery.Number.Width
import EntityQuery.Text.Hex
import EntityQuery.Text.Pieces
import EntityQuery.Time.Date
import EntityQuery.Toml.Value

/-!
# Numbers, truth values and times in TOML

A decimal number has no leading zero, and other radices have no sign.  The form of a number is
checked where it is written, but an integer with underscores is checked around these only; a number
of the right form that no type holds is unreadable.
-/

namespace EntityQuery.Toml

/-- Whether an underscore may stand between any two of these groups: digits are on both of its
sides, or a single character is all that stands in front of the first. -/
def areGroups (isDigit : Char → Bool) : List (List Char) → Bool
  | group :: next :: rest =>
      (group.length == 1 || group.getLast?.any isDigit) && next.head?.any isDigit &&
        areGroups isDigit (next :: rest)
  | _ => true

/-- The text without its underscores. -/
def ungrouped? (isDigit : Char → Bool) (text : List Char) : Option (List Char) :=
  let groups := Text.piecesOf '_' text
  if areGroups isDigit groups then some groups.flatten else none

def signed : List Char → Bool × List Char
  | '-' :: rest => (true, rest)
  | '+' :: rest => (false, rest)
  | rest => (false, rest)

def isHexDigit (c : Char) : Bool :=
  (Text.hexDigit? c).isSome

def isRadixDigit (radix : Nat) (c : Char) : Bool :=
  (Text.hexDigit? c).any (· < radix)

/-- An integer has 128 bits, with or without a sign. -/
def Value.ofDigits (radix : Nat) (negative : Bool) (digits : List Char) : Value :=
  let size : Nat :=
    digits.foldl (fun value c => radix * value + (Text.hexDigit? c).getD 0) 0
  let value : Int := if negative then -(size : Int) else size
  if !digits.isEmpty && digits.all (isRadixDigit radix) &&
      (fitsSigned 128 value || fitsUnsigned 128 value) then
    .integer value
  else .unreadable

def radixInteger? (radix : Nat) (text : List Char) : Option Value :=
  if text.all fun c => isRadixDigit radix c || c == '_' then
    (ungrouped? isHexDigit text).map (.ofDigits radix false)
  else none

/-- Reads the text whose part behind the sign is given. -/
def integer? (text unsigned : List Char) : Option Value := do
  if unsigned.head? = some '0' ∧ 1 < unsigned.length then none
  let (negative, digits) := signed (← ungrouped? isHexDigit text)
  some (.ofDigits 10 negative digits)

/-- Splits off digits with underscores among them. -/
def spanDigits? (text : List Char) : Option (List Char × List Char) :=
  let digits := text.takeWhile fun c => c.isDigit || c == '_'
  if digits.any Char.isDigit then some (digits, text.drop digits.length) else none

def isExponentMark (c : Char) : Bool :=
  c == 'e' || c == 'E'

def dropPlaces? : List Char → Option (List Char)
  | '.' :: rest => (spanDigits? rest).map Prod.snd
  | rest => some rest

def dropExponent? : List Char → Option (List Char)
  | [] => some []
  | c :: rest =>
      if isExponentMark c then (spanDigits? (signed rest).2).map Prod.snd else some (c :: rest)

/-- Reads the text whose part behind the sign is given. -/
def float? (text unsigned : List Char) : Option Value := do
  let (whole, rest) ← spanDigits? unsigned
  if whole.head? = some '0' ∧ 1 < whole.countP Char.isDigit then none
  if (← dropExponent? (← dropPlaces? rest)) ≠ [] then none
  let (negative, digits) := signed (← ungrouped? Char.isDigit text)
  let value := Binary64.ofDecimalText negative (← Decimal.read? digits)
  some (if value.isFinite then .real value else .unreadable)

/-- A number of exactly so many digits. -/
def fixed? (width : Nat) (text : List Char) : Option (Nat × List Char) :=
  let digits := text.take width
  if digits.length = width ∧ digits.all Char.isDigit then
    some (Decimal.digitsValue digits, text.drop width)
  else none

def char? (c : Char) : List Char → Option (List Char)
  | first :: rest => if first = c then some rest else none
  | [] => none

def date? (text : List Char) : Option (List Char) := do
  let (year, text) ← fixed? 4 text
  let (month, text) ← fixed? 2 (← char? '-' text)
  let (day, text) ← fixed? 2 (← char? '-' text)
  (Date.ofNumbers? year month day).map fun _ => text

/-- The rest behind a fraction of a second, if there is one. -/
def fraction? : List Char → Option (List Char)
  | '.' :: text => if text.head?.any Char.isDigit then some (text.dropWhile Char.isDigit) else none
  | text => some text

def time? (text : List Char) : Option (List Char) := do
  let (hour, text) ← fixed? 2 text
  let (minute, text) ← fixed? 2 (← char? ':' text)
  if 24 ≤ hour ∨ 60 ≤ minute then none
  match text with
  | ':' :: text => do
      let (second, text) ← fixed? 2 text
      if 60 < second then none
      fraction? text
  | text => some text

def offset? : List Char → Option (List Char)
  | [] => some []
  | 'Z' :: text | 'z' :: text => some text
  | sign :: text => do
      if sign ≠ '+' ∧ sign ≠ '-' then none
      let (hour, text) ← fixed? 2 text
      let (minute, text) ← fixed? 2 (← char? ':' text)
      if 24 ≤ hour ∨ 60 ≤ minute then none
      some text

def isDateTime (text : List Char) : Bool :=
  match date? text with
  | some [] => true
  | some (mark :: rest) =>
      (mark == 'T' || mark == 't' || mark == ' ') && ((time? rest).bind offset?) == some []
  | none => time? text == some []

def dateTime? (text : List Char) : Option Value :=
  if isDateTime text then some (.dateTime (String.ofList text)) else none

/-- A number in base ten, or a time: what follows the first digits tells which. -/
def numberOrTime? (text : List Char) : Option Value :=
  let unsigned := (signed text).2
  if unsigned.head?.any fun c => c.isDigit || c == '_' then
    match unsigned.dropWhile Char.isDigit with
    | '-' :: _ | ':' :: _ => dateTime? text
    | rest =>
        if rest.any fun c => c == '.' || isExponentMark c then float? text unsigned
        else if rest.isEmpty || rest.head? == some '_' then integer? text unsigned
        else none
  else none

def scalar? (text : List Char) : Option Value :=
  if text = "true".toList then some (.bool true)
  else if text = "false".toList then some (.bool false)
  else
    let (negative, unsigned) := signed text
    if unsigned = "inf".toList then some (.real (.infinity negative))
    else if unsigned = "nan".toList then some (.real .nan)
    else
      match text with
      | '0' :: 'x' :: rest => radixInteger? 16 rest
      | '0' :: 'o' :: rest => radixInteger? 8 rest
      | '0' :: 'b' :: rest => radixInteger? 2 rest
      | _ => numberOrTime? text

end EntityQuery.Toml
