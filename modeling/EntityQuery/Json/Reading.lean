import EntityQuery.Json.Number
import EntityQuery.Text.Hex

/-!
# Reading JSON

A value is read from the front of a text, and what follows it is handed on.  Half of a surrogate
pair is refused.
-/

namespace EntityQuery.Json

def isSpace (c : Char) : Bool :=
  c == ' ' || c == '\n' || c == '\r' || c == '\t'

def skipSpace (text : List Char) : List Char :=
  text.dropWhile isSpace

def readUnit? (text : List Char) : Option (Nat × List Char) := do
  if text.length < 4 then none
  some (← Text.hexValue? (text.take 4), text.drop 4)

/-- The character written after the mark of an escaped code unit, in one or two units. -/
def readEscapedCode? (text : List Char) : Option (Char × List Char) := do
  let (unit, rest) ← readUnit? text
  if 0xDC00 ≤ unit ∧ unit < 0xE000 then none
  else if 0xD800 ≤ unit ∧ unit < 0xDC00 then
    match rest with
    | '\\' :: 'u' :: rest =>
        let (low, rest) ← readUnit? rest
        if 0xDC00 ≤ low ∧ low < 0xE000 then
          some (Char.ofNat (0x10000 + (unit - 0xD800) * 0x400 + (low - 0xDC00)), rest)
        else none
    | _ => none
  else some (Char.ofNat unit, rest)

def readEscape? : List Char → Option (Char × List Char)
  | '"' :: rest => some ('"', rest)
  | '\\' :: rest => some ('\\', rest)
  | '/' :: rest => some ('/', rest)
  | 'b' :: rest => some ('\x08', rest)
  | 'f' :: rest => some ('\x0c', rest)
  | 'n' :: rest => some ('\n', rest)
  | 'r' :: rest => some ('\r', rest)
  | 't' :: rest => some ('\t', rest)
  | 'u' :: rest => readEscapedCode? rest
  | _ => none

/-- The rest of a string whose opening quote is read; `done` holds its characters, the latest
first. -/
def readString? : Nat → List Char → List Char → Option (String × List Char)
  | 0, _, _ => none
  | _ + 1, _, [] => none
  | fuel + 1, done, c :: rest =>
      if c = '"' then some (String.ofList done.reverse, rest)
      else if c = '\\' then do
        let (escaped, rest) ← readEscape? rest
        readString? fuel (escaped :: done) rest
      else if c.toNat < 0x20 then none
      else readString? fuel (c :: done) rest

mutual

def readValue? : Nat → List Char → Option (Json × List Char)
  | 0, _ => none
  | fuel + 1, text =>
      match skipSpace text with
      | 'n' :: 'u' :: 'l' :: 'l' :: rest => some (.null, rest)
      | 't' :: 'r' :: 'u' :: 'e' :: rest => some (.bool true, rest)
      | 'f' :: 'a' :: 'l' :: 's' :: 'e' :: rest => some (.bool false, rest)
      | '"' :: rest => do
          let (value, rest) ← readString? (rest.length + 1) [] rest
          some (.string value, rest)
      | '[' :: rest =>
          match skipSpace rest with
          | ']' :: rest => some (.array [], rest)
          | rest => do
              let (elements, rest) ← readElements? fuel rest
              some (.array elements, rest)
      | '\x7b' :: rest =>
          match skipSpace rest with
          | '\x7d' :: rest => some (.object [], rest)
          | rest => do
              let (members, rest) ← readMembers? fuel rest
              some (ofMembers members, rest)
      | text => do
          let value ← numberOf? (text.takeWhile isNumberChar)
          some (value, text.dropWhile isNumberChar)

def readElements? : Nat → List Char → Option (List Json × List Char)
  | 0, _ => none
  | fuel + 1, text => do
      let (element, rest) ← readValue? fuel text
      match skipSpace rest with
      | ',' :: rest => do
          let (elements, rest) ← readElements? fuel rest
          some (element :: elements, rest)
      | ']' :: rest => some ([element], rest)
      | _ => none

def readMembers? : Nat → List Char → Option (List (String × Json) × List Char)
  | 0, _ => none
  | fuel + 1, text =>
      match skipSpace text with
      | '"' :: rest => do
          let (key, rest) ← readString? (rest.length + 1) [] rest
          match skipSpace rest with
          | ':' :: rest => do
              let (value, rest) ← readValue? fuel rest
              match skipSpace rest with
              | ',' :: rest => do
                  let (members, rest) ← readMembers? fuel rest
                  some ((key, value) :: members, rest)
              | '\x7d' :: rest => some ([(key, value)], rest)
              | _ => none
          | _ => none
      | _ => none

end

/-- Reads a text that holds one value and nothing else but spaces. -/
def read? (text : String) : Option Json := do
  let chars := text.toList
  let (value, rest) ← readValue? (2 * chars.length + 2) chars
  if (skipSpace rest).isEmpty then some value else none

end EntityQuery.Json
