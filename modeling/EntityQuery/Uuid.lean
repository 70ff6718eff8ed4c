import EntityQuery.Text.Hex

/-!
# Universally unique identifiers

A number of 128 bits written as thirty-two hexadecimal digits in five groups.  Read are the grouped
form, the digits alone, the grouped form in braces and the one behind `urn:uuid:`.
-/

namespace EntityQuery

structure Uuid where
  value : Nat
deriving DecidableEq, Inhabited

namespace Uuid

def groupWidths : List Nat := [8, 4, 4, 4, 12]

def group : List Nat → List Char → List Char
  | [], _ => []
  | [width], digits => digits.take width
  | width :: widths, digits => digits.take width ++ '-' :: group widths (digits.drop width)

def text (uuid : Uuid) : String :=
  String.ofList (group groupWidths (Text.hexChars 32 uuid.value))

def ofDigits? (digits : List Char) : Option Uuid :=
  if digits.length = 32 then (Text.hexValue? digits).map Uuid.mk else none

/-- Hyphens stand exactly between the groups. -/
def ofGrouped? (text : List Char) : Option Uuid :=
  let digits := text.filter (· != '-')
  if digits.length = 32 ∧ group groupWidths digits = text then ofDigits? digits else none

def urnMark : String := "urn:uuid:"

def read? (text : String) : Option Uuid :=
  let chars := text.toList
  match chars.length with
  | 32 => ofDigits? chars
  | 36 => ofGrouped? chars
  | 38 =>
      if chars.head? = some '\x7b' ∧ chars.getLast? = some '\x7d' then
        ofGrouped? (chars.drop 1).dropLast
      else none
  | 45 =>
      if (chars.take 9).map Char.toLower = urnMark.toList then ofGrouped? (chars.drop 9)
      else none
  | _ => none

end Uuid

end EntityQuery
