import EntityQuery.Number.Decimal
import EntityQuery.Text.Blank
import EntityQuery.Time.Timestamp

/-!
# Reading dates and timestamps

Two grammars.  The strict one is RFC 3339 with a colon in the offset.  The lenient one allows
blanks between the parts, numbers with fewer digits, signed years of any length, a missing colon
and the zone name `UTC`.
-/

namespace EntityQuery

namespace Reading

/-- A number of at least `least` and at most `most` digits. -/
def number? (least most : Nat) (text : List Char) : Option (Nat × List Char) :=
  let digits := (text.take most).takeWhile Char.isDigit
  if digits.length < least then none
  else some (Decimal.digitsValue digits, text.drop digits.length)

def char? (c : Char) : List Char → Option (List Char)
  | [] => none
  | d :: rest => if c = d then some rest else none

/-- The date and the time are separated by the letter T or a space. -/
def separator? : List Char → Option (List Char)
  | 'T' :: rest | 't' :: rest | ' ' :: rest => some rest
  | _ => none

/-- Digits after a point; those beyond the ninth are dropped. -/
def fraction? : List Char → Option (Nat × List Char)
  | '.' :: rest =>
      let (digits, rest) := Decimal.spanDigits rest
      if digits.isEmpty then none
      else
        let kept := digits.take 9
        some (Decimal.digitsValue kept * Nat.pow 10 (9 - kept.length), rest)
  | text => some (0, text)

def sign? : List Char → Option (Bool × List Char)
  | '+' :: rest => some (false, rest)
  | '-' :: rest | '−' :: rest => some (true, rest)
  | _ => none

/-- Seconds ahead of universal time; `separator` reads what stands between hours and minutes. -/
def offset? (separator : List Char → Option (List Char)) (text : List Char) :
    Option (Int × List Char) :=
  match text with
  | 'Z' :: rest | 'z' :: rest => some (0, rest)
  | text => do
      let (negative, text) ← sign? text
      let (hours, text) ← number? 2 2 text
      let text ← separator text
      let (minutes, text) ← number? 2 2 text
      if 60 ≤ minutes then none
      let seconds : Int := (hours * 3600 + minutes * 60 : Nat)
      some (if negative then -seconds else seconds, text)

/-- A year without a sign has at most four digits. -/
def lenientYear? (text : List Char) : Option (Int × List Char) :=
  match Text.trimStart text with
  | '-' :: rest => (number? 1 rest.length rest).map fun (year, rest) => (-(year : Int), rest)
  | '+' :: rest => (number? 1 rest.length rest).map fun (year, rest) => ((year : Int), rest)
  | rest => (number? 1 4 rest).map fun (year, rest) => ((year : Int), rest)

def lenientNumber? (text : List Char) : Option (Nat × List Char) :=
  number? 1 2 (Text.trimStart text)

def lenientChar? (c : Char) (text : List Char) : Option (List Char) :=
  char? c (Text.trimStart text)

def lenientDate? (text : List Char) : Option ((Int × Nat × Nat) × List Char) := do
  let (year, text) ← lenientYear? text
  let (month, text) ← lenientNumber? (← lenientChar? '-' text)
  let (day, text) ← lenientNumber? (← lenientChar? '-' text)
  some ((year, month, day), text)

def lenientOffset? (text : List Char) : Option (Int × List Char) :=
  match text with
  | a :: b :: c :: rest =>
      if [a, b, c].map Char.toUpper = ['U', 'T', 'C'] then some (0, rest)
      else offset? (fun text => some (text.dropWhile fun c => c == ':' || Text.isBlank c)) text
  | text => offset? (fun text => some (text.dropWhile fun c => c == ':' || Text.isBlank c)) text

end Reading

open Reading

def Date.readLenient? (text : String) : Option Date := do
  let ((year, month, day), rest) ← lenientDate? text.toList
  if !(Text.trimStart rest).isEmpty then none
  Date.ofNumbers? year month day

def Timestamp.read? (text : String) : Option Timestamp := do
  let (year, text) ← number? 4 4 text.toList
  let (month, text) ← number? 2 2 (← char? '-' text)
  let (day, text) ← number? 2 2 (← char? '-' text)
  let (hour, text) ← number? 2 2 (← separator? text)
  let (minute, text) ← number? 2 2 (← char? ':' text)
  let (second, text) ← number? 2 2 (← char? ':' text)
  let (nanosecond, text) ← fraction? text
  let (offset, text) ← offset? (char? ':') text
  if !text.isEmpty then none
  Timestamp.ofLocal? year month day hour minute second nanosecond offset

def Timestamp.readLenient? (text : String) : Option Timestamp := do
  let ((year, month, day), text) ← lenientDate? text.toList
  let (hour, text) ← lenientNumber? (← separator? text)
  let (minute, text) ← lenientNumber? (← lenientChar? ':' text)
  let (second, text) ← lenientNumber? (← lenientChar? ':' text)
  let (nanosecond, text) ← fraction? text
  let (offset, text) ← lenientOffset? (Text.trimStart text)
  if !(Text.trimStart text).isEmpty then none
  Timestamp.ofLocal? year month day hour minute second nanosecond offset

end EntityQuery
