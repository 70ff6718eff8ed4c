import EntityQuery.Text.CaseData

/-!
# Upper and lower case

Case mappings of whole texts.  A character may map to several, and a capital sigma maps to the
final form exactly when it ends a word: a cased character stands before it and none after it, where
case-ignorable characters in between do not count.
-/

namespace EntityQuery.Text

def mapByRuns (runs : List CaseRun) (c : Char) : Char :=
  match runs.findSome? fun run => run.image? c.toNat with
  | some code => Char.ofNat code
  | none => c

def upperChar (c : Char) : List Char :=
  if c.toNat < 128 then [c.toUpper]
  else
    match upperExpansions.lookup c.toNat with
    | some codes => codes.map Char.ofNat
    | none => [mapByRuns upperRuns c]

/-- The lower case of a character away from the end of a word. -/
def lowerChar (c : Char) : List Char :=
  if c.toNat < 128 then [c.toLower]
  else if c = 'İ' then ['i', '\u0307']
  else [mapByRuns lowerRuns c]

def isCased (c : Char) : Bool :=
  inRanges casedRanges c.toNat

def isCaseIgnorable (c : Char) : Bool :=
  inRanges caseIgnorableRanges c.toNat

/-- Whether the first character that is not case-ignorable is cased. -/
def meetsCased : List Char → Bool
  | [] => false
  | c :: rest => if isCaseIgnorable c then meetsCased rest else isCased c

/-- `before` holds the characters already read, the latest first. -/
def lowerAfter (before : List Char) : List Char → List Char
  | [] => []
  | c :: rest =>
      (if c = 'Σ' && meetsCased before && !meetsCased rest then ['ς'] else lowerChar c)
        ++ lowerAfter (c :: before) rest

def lowerChars (text : List Char) : List Char :=
  lowerAfter [] text

def upperChars (text : List Char) : List Char :=
  text.flatMap upperChar

def upper (text : String) : String :=
  String.ofList (upperChars text.toList)

def lower (text : String) : String :=
  String.ofList (lowerChars text.toList)

end EntityQuery.Text
