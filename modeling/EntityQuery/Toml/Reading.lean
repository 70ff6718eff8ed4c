import EntityQuery.Toml.Basic
import EntityQuery.Toml.Scalar
import EntityQuery.Toml.Text

/-!
# Reading TOML

A document is a list of lines, each a header, a value under a key, or nothing.  The result is the
table of its values.
-/

namespace EntityQuery.Toml

/-- Arrays and inline tables stand in each other at most so deep, and a key has at most so many
names. -/
def maxDepth : Nat := 80

def mark : Char := '\ufeff'

def skipBlanks (text : List Char) : List Char :=
  text.dropWhile isBlank

def endsComment (c : Char) : Bool :=
  c == '\n' || c == '\r'

/-- The rest behind a comment, up to the end of its line. -/
def comment? (text : List Char) : Option (List Char) :=
  match text with
  | '#' :: text =>
      if (text.takeWhile fun c => !endsComment c).all isPlain then
        some (text.dropWhile fun c => !endsComment c)
      else none
  | text => some text

/-- The rest behind the end of a line. -/
def endLine? (text : List Char) : Option (List Char) := do
  match ← comment? (skipBlanks text) with
  | [] => some []
  | text => newline? text

/-- Skips blanks, comments and ends of lines. -/
def skipLines? : Nat → List Char → Option (List Char)
  | 0, _ => none
  | fuel + 1, text => do
      match ← comment? (skipBlanks text) with
      | [] => some []
      | text =>
          match newline? text with
          | some text => skipLines? fuel text
          | none => some text

def skip? (text : List Char) : Option (List Char) :=
  skipLines? (text.length + 1) text

def isKeyChar (c : Char) : Bool :=
  ('a' ≤ c && c ≤ 'z') || ('A' ≤ c && c ≤ 'Z') || ('0' ≤ c && c ≤ '9') || c == '_' || c == '-'

/-- One name of a key; a string of several lines is none. -/
def readName? (text : List Char) : Option (String × List Char) :=
  match text with
  | '"' :: '"' :: '"' :: _ | '\'' :: '\'' :: '\'' :: _ => none
  | '"' :: _ | '\'' :: _ => readString? text
  | text =>
      let name := text.takeWhile isKeyChar
      if name.isEmpty then none else some (String.ofList name, text.drop name.length)

def readNames? : Nat → List Char → Option (Key × List Char)
  | 0, _ => none
  | fuel + 1, text => do
      let (name, text) ← readName? (skipBlanks text)
      match skipBlanks text with
      | '.' :: text => do
          let (names, text) ← readNames? fuel text
          some (name :: names, text)
      | text => some ([name], text)

def readKey? (text : List Char) : Option (Key × List Char) := do
  let (key, text) ← readNames? (text.length + 1) text
  if key.length ≤ maxDepth then some (key, text) else none

def endsScalar (c : Char) : Bool :=
  isBlank c || endsComment c || "#,=[]\x7b\x7d".toList.contains c

/-- A date and a time may have one space between them. -/
def scalarText (text : List Char) : List Char :=
  let first := text.takeWhile fun c => !endsScalar c
  match date? first, text.drop first.length with
  | some [], ' ' :: c :: rest =>
      if c.isDigit then first ++ ' ' :: (c :: rest).takeWhile fun c => !endsScalar c else first
  | _, _ => first

mutual

def readValue? (levels : Nat) : Nat → List Char → Option (Value × List Char)
  | 0, _ => none
  | steps + 1, text =>
      match text, levels with
      | '"' :: _, _ | '\'' :: _, _ => do
          let (content, rest) ← readString? text
          some (.string content, rest)
      | '[' :: rest, levels + 1 => do
          let (elements, rest) ← readElements? levels steps (← skip? rest)
          some (.array elements, rest)
      | '\x7b' :: rest, levels + 1 => do
          let (members, rest) ← readMembers? levels steps [] (← skip? rest)
          some (.table (membersValue members), rest)
      | text, _ => do
          let token := scalarText text
          some (← scalar? token, text.drop token.length)

/-- The elements of an array from here on, and the rest behind its end. -/
def readElements? (levels : Nat) : Nat → List Char → Option (List Value × List Char)
  | 0, _ => none
  | _ + 1, ']' :: rest => some ([], rest)
  | steps + 1, text => do
      let (element, rest) ← readValue? levels steps text
      match ← skip? rest with
      | ',' :: rest => do
          let (elements, rest) ← readElements? levels steps (← skip? rest)
          some (element :: elements, rest)
      | ']' :: rest => some ([element], rest)
      | _ => none

/-- The members of an inline table from here on, added to those already read. -/
def readMembers? (levels : Nat) : Nat → Members → List Char → Option (Members × List Char)
  | 0, _, _ => none
  | _ + 1, members, '\x7d' :: rest => some (members, rest)
  | steps + 1, members, text => do
      let (key, rest) ← readKey? text
      match ← skip? rest with
      | '=' :: rest => do
          let (content, rest) ← readValue? levels steps (← skip? rest)
          let members ← members.set key content
          match ← skip? rest with
          | ',' :: rest => readMembers? levels steps members (← skip? rest)
          | '\x7d' :: rest => some (members, rest)
          | _ => none
      | _ => none

end

/-- A document read in part: all of its tables, and which one is open. -/
structure Document where
  members : Members
  current : Key

namespace Document

def empty : Document := ⟨[], []⟩

def openTable? (document : Document) (key : Key) : Option Document := do
  let name ← key.getLast?
  some ⟨← Members.within (Members.openTable name) key.dropLast document.members, key⟩

def addTable? (document : Document) (key : Key) : Option Document := do
  let name ← key.getLast?
  some ⟨← Members.within (Members.addTable name) key.dropLast document.members, key⟩

def set? (document : Document) (key : Key) (content : Value) : Option Document := do
  let set (members : Members) : Option Members := members.set key content
  some { document with members := ← Members.within set document.current document.members }

/-- Reads a header or a value under a key. -/
def readEntry? (document : Document) (text : List Char) : Option (Document × List Char) := do
  match text with
  | '[' :: '[' :: rest => do
      let (key, rest) ← readKey? rest
      match rest with
      | ']' :: ']' :: rest => some (← document.addTable? key, rest)
      | _ => none
  | '[' :: rest => do
      let (key, rest) ← readKey? rest
      match rest with
      | ']' :: rest => some (← document.openTable? key, rest)
      | _ => none
  | text => do
      let (key, rest) ← readKey? text
      match rest with
      | '=' :: rest => do
          let text := skipBlanks rest
          let (content, rest) ← readValue? maxDepth (2 * text.length + 2) text
          some (← document.set? key content, rest)
      | _ => none

def readLines? : Nat → Document → List Char → Option Document
  | 0, _, _ => none
  | fuel + 1, document, text => do
      match ← skip? text with
      | [] => some document
      | text => do
          let (document, rest) ← document.readEntry? text
          readLines? fuel document (← endLine? rest)

end Document

def read? (text : String) : Option Value := do
  let chars :=
    match text.toList with
    | first :: rest => if first = mark then rest else first :: rest
    | [] => []
  let document ← Document.empty.readLines? (chars.length + 1) chars
  some (.table (membersValue document.members))

end EntityQuery.Toml
