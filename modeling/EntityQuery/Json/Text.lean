import EntityQuery.Json.Basic
import EntityQuery.Text.Hex

/-!
# JSON text

Compact text of a value: nothing between the tokens, control characters escaped, everything else
as it is.
-/

namespace EntityQuery.Json

/-- Numbers in double precision show a point or an exponent, which is written from ten to the
sixteenth and below ten to the minus fifth. -/
def realLayout : Layout where
  tieToEven := true
  wholeEnding := ".0"
  positional := fun point => -5 < point && point ≤ 16
  infinite := "null"

def escapeChar (c : Char) : List Char :=
  if c = '"' then ['\\', '"']
  else if c = '\\' then ['\\', '\\']
  else if c = '\n' then ['\\', 'n']
  else if c = '\r' then ['\\', 'r']
  else if c = '\t' then ['\\', 't']
  else if c = '\x08' then ['\\', 'b']
  else if c = '\x0c' then ['\\', 'f']
  else if c.toNat < 0x20 then '\\' :: 'u' :: Text.hexChars 4 c.toNat
  else [c]

def quoted (text : String) : String :=
  "\"" ++ String.ofList (text.toList.flatMap escapeChar) ++ "\""

mutual

def text : Json → String
  | .null => "null"
  | .bool value => if value then "true" else "false"
  | .integer value => toString value
  | .real value => if value.isFinite then value.text realLayout else "null"
  | .string value => quoted value
  | .array [] => "[]"
  | .array (first :: rest) => "[" ++ first.text ++ elementsText rest ++ "]"
  | .object [] => "\x7b\x7d"
  | .object ((key, first) :: rest) =>
      "\x7b" ++ quoted key ++ ":" ++ first.text ++ membersText rest ++ "\x7d"

/-- The elements after the first. -/
def elementsText : List Json → String
  | [] => ""
  | element :: rest => "," ++ element.text ++ elementsText rest

def membersText : List (String × Json) → String
  | [] => ""
  | (key, value) :: rest => "," ++ quoted key ++ ":" ++ value.text ++ membersText rest

end

end EntityQuery.Json
