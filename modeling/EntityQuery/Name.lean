/-!
# Names that may enter a statement

A name of a table or an alias is a plain identifier of at most sixty-three bytes.  A property
expression, which is written into a statement as it is, may also hold points and parentheses.
Every check lists what it refuses, in the order in which it looks.
-/

namespace EntityQuery

inductive NameError where
  | empty
  | tooLong (name : String)
  | badStart (name : String)
  | badCharacter (name : String)
  /-- `context` says what the expression is for. -/
  | notInlinable (context name : String)
deriving DecidableEq, Inhabited

namespace Name

def maxLength : Nat := 63

def isAsciiLetter (c : Char) : Bool :=
  ('a' ≤ c && c ≤ 'z') || ('A' ≤ c && c ≤ 'Z')

def isAsciiDigit (c : Char) : Bool :=
  '0' ≤ c && c ≤ '9'

def isStart (c : Char) : Bool :=
  isAsciiLetter c || c == '_'

def isPart (c : Char) : Bool :=
  isAsciiLetter c || isAsciiDigit c || c == '_'

def isExpressionPart (c : Char) : Bool :=
  isPart c || c == '.' || c == '(' || c == ')'

def checkIdentifier (name : String) : Except NameError Unit :=
  if name = "" then .error .empty
  else if maxLength < name.utf8ByteSize then .error (.tooLong name)
  else if !(name.toList.head?.any isStart) then .error (.badStart name)
  else if !(name.toList.all isPart) then .error (.badCharacter name)
  else .ok ()

def checkExpression (context name : String) : Except NameError Unit :=
  if name = "" then .error .empty
  else if !(name.toList.all isExpressionPart) then .error (.notInlinable context name)
  else .ok ()

end Name

def NameError.message : NameError → String
  | .empty => "Name cannot be empty"
  | .tooLong name =>
      "Name '" ++ name ++ "' is too long: " ++ toString name.utf8ByteSize ++ " characters (max " ++
        toString Name.maxLength ++ ")"
  | .badStart name => "Name '" ++ name ++ "' must start with a letter or underscore"
  | .badCharacter name =>
      "Invalid characters in name '" ++ name ++
        "': only alphanumeric characters and underscores are allowed"
  | .notInlinable context name =>
      context ++ " '" ++ name ++
        "' must only contain letters, digits, '_', '.' and parentheses"

end EntityQuery
