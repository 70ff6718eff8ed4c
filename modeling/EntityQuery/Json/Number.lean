import EntityQuery.Json.Basic
import EntityQuery.Number.Width

/-!
# Numbers in JSON

A number without a fraction and an exponent is whole if sixty-four bits hold it, with or without a
sign; every other number is the nearest one in double precision, and so is a zero with a sign.  A
number beyond the greatest one is refused.
-/

namespace EntityQuery.Json

def isNumberChar (c : Char) : Bool :=
  c.isDigit || c == '.' || c == 'e' || c == 'E' || c == '+' || c == '-'

def hasLeadingZero : List Char → Bool
  | '0' :: c :: _ => c.isDigit
  | _ => false

/-- A point stands between digits. -/
def hasBarePoint (digits : List Char) : Bool :=
  match digits.dropWhile Char.isDigit with
  | '.' :: rest => !(rest.head?.any Char.isDigit)
  | _ => false

def ofFiniteReal? (value : Binary64) : Option Json :=
  if value.isFinite then some (.real value) else none

def numberOf? (token : List Char) : Option Json := do
  let (negative, digits) :=
    match token with
    | '-' :: rest => (true, rest)
    | rest => (false, rest)
  if !(digits.head?.any Char.isDigit) || hasLeadingZero digits || hasBarePoint digits then none
  let decimal ← Decimal.read? digits
  let value : Int := if negative then -(decimal.digits : Int) else decimal.digits
  let isWhole := digits.all Char.isDigit && (fitsSigned 64 value || fitsUnsigned 64 value)
  if isWhole && !(negative && value == 0) then some (.integer value)
  else ofFiniteReal? (.ofDecimalText negative decimal)

end EntityQuery.Json
