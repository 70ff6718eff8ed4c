import EntityQuery.Text.Blank
import EntityQuery.Text.Word

/-!
# Environment files

A file of lines `NAME=value` that set variables which are not set yet.  A line may go on after its
end while a quote is open, values may refer to variables, and the first malformed line ends the
reading: what stands before it has been set.
-/

namespace EntityQuery

abbrev Variables := List (String × String)

namespace Environment

/-- Where a line stands after a character. -/
inductive LineState where
  | plain
  | blank
  | escape
  | single
  | singleEscape
  | double
  | doubleEscape
deriving DecidableEq, Inhabited

def LineState.next (c : Char) : LineState → LineState
  | .single => if c = '\\' then .singleEscape else if c = '\'' then .plain else .single
  | .double => if c = '\\' then .doubleEscape else if c = '"' then .plain else .double
  | .singleEscape => .single
  | .doubleEscape => .double
  | .escape => .plain
  | state =>
      if state = .plain ∧ Text.isBlank c ∧ c ≠ '\n' ∧ c ≠ '\r' then .blank
      else if c = '\\' then .escape
      else if c = '"' then .double
      else if c = '\'' then .single
      else .plain

/-- Follows a line to its end or to the comment that ends it; the characters before the comment are
kept. -/
def follow : LineState → List Char → List Char × Option LineState
  | state, [] => ([], some state)
  | state, c :: rest =>
      if state = .blank ∧ c = '#' then ([], none)
      else
        let (kept, ending) := follow (state.next c) rest
        (c :: kept, ending)

/-- The lines of a text, each with its end. -/
def endedLines : List Char → List (List Char)
  | [] => []
  | c :: rest =>
      if c = '\n' then [c] :: endedLines rest
      else
        match endedLines rest with
        | [] => [[c]]
        | line :: lines => (c :: line) :: lines

def dropLineEnd (line : List Char) : List Char :=
  match line.reverse with
  | '\n' :: '\r' :: rest | '\n' :: rest => rest.reverse
  | _ => line

/-- Joins lines while one is open; nothing stands for a line that is open at the end. -/
def joinLines : LineState → List Char → List (List Char) → List (Option (List Char))
  | .plain, _, [] => []
  | _, _, [] => [none]
  | state, before, line :: lines =>
      if (Text.trimStart (before ++ line)).head? = some '#' then
        some [] :: joinLines .plain [] lines
      else
        match follow state line with
        | (kept, none) => some (before ++ kept) :: joinLines .plain [] lines
        | (_, some .plain) => some (dropLineEnd (before ++ line)) :: joinLines .plain [] lines
        | (_, some state) => joinLines state (before ++ line) lines

def isNameStart (c : Char) : Bool :=
  c.isAlpha || c == '_'

def isNameChar (c : Char) : Bool :=
  c.isAlphanum || c == '_' || c == '.'

/-- Where a value stands after a character. -/
inductive ValueState where
  | plain
  | single
  | escape
  | ended
  /-- Behind a dollar sign and these letters. -/
  | variable (letters : List Char)
  | braced (letters : List Char)

def escaped? (c : Char) : Option Char :=
  if c = 'n' then some '\n' else if ['\\', '\'', '"', '$', ' '].contains c then some c else none

/-- The text of a value, where `value` gives the text of a variable and `quoted` says whether a
double quote is open. -/
def valueText? (value : List Char → List Char) :
    ValueState → Bool → List Char → Option (List Char)
  | .single, _, [] | .braced _, _, [] => none
  | .variable letters, quoted, [] => if quoted then none else some (value letters)
  | _, quoted, [] => if quoted then none else some []
  | .ended, quoted, c :: rest =>
      if c = ' ' ∨ c = '\t' then valueText? value .ended quoted rest
      else if c = '#' then some []
      else none
  | .escape, quoted, c :: rest => do
      let c ← escaped? c
      return c :: (← valueText? value .plain quoted rest)
  | .single, quoted, c :: rest =>
      if c = '\'' then valueText? value .plain quoted rest
      else do return c :: (← valueText? value .single quoted rest)
  | .variable letters, quoted, c :: rest =>
      if Text.isWordChar c then valueText? value (.variable (letters ++ [c])) quoted rest
      else if c = '\x7b' ∧ letters = [] then valueText? value (.braced []) quoted rest
      else if c = '$' then do
        return value letters ++ (← valueText? value (.variable []) quoted rest)
      else do return value letters ++ c :: (← valueText? value .plain quoted rest)
  | .braced letters, quoted, c :: rest =>
      if c = '\x7d' then do return value letters ++ (← valueText? value .plain quoted rest)
      else valueText? value (.braced (letters ++ [c])) quoted rest
  | .plain, quoted, c :: rest =>
      if c = '$' then valueText? value (.variable []) quoted rest
      else if c = '\\' then valueText? value .escape quoted rest
      else if c = '"' then valueText? value .plain (!quoted) rest
      else if !quoted && c = '\'' then valueText? value .single quoted rest
      else if !quoted && (c = ' ' || c = '\t') then valueText? value .ended quoted rest
      else do return c :: (← valueText? value .plain quoted rest)

/-- A name and the rest behind it and the blanks that follow. -/
def name? (text : List Char) : Option (String × List Char) :=
  if text.head?.any isNameStart then
    some (String.ofList (text.takeWhile isNameChar), Text.trimStart (text.dropWhile isNameChar))
  else none

def isNothing (text : List Char) : Bool :=
  text.isEmpty || text.head? == some '#'

/-- The name before the equals sign, which may follow the word `export`, and the rest behind. -/
def assignedName? (text : List Char) : Option (String × List Char) := do
  match ← name? text with
  | (name, '=' :: rest) => some (name, rest)
  | ("export", rest) => do
      match ← name? rest with
      | (name, '=' :: rest) => some (name, rest)
      | _ => none
  | _ => none

/-- Sets the variable of a line unless it is set; a line without content sets none. -/
def setLine? (vars : Variables) (line : List Char) : Option Variables := do
  let text := Text.trim line
  if isNothing text then return vars
  let (name, rest) ← assignedName? text
  let rest := Text.trimStart rest
  let known (letters : List Char) : List Char :=
    ((vars.lookup (String.ofList letters)).getD "").toList
  let value ← if isNothing rest then some [] else valueText? known .plain false rest
  match vars.lookup name with
  | some _ => return vars
  | none => return vars ++ [(name, String.ofList value)]

def setLines : Variables → List (Option (List Char)) → Variables
  | vars, some line :: lines =>
      match setLine? vars line with
      | some vars => setLines vars lines
      | none => vars
  | vars, _ => vars

/-- The variables after an environment file was read. -/
def load (content : String) (vars : Variables) : Variables :=
  let text :=
    match content.toList with
    | '\ufeff' :: rest => rest
    | rest => rest
  setLines vars (joinLines .plain [] (endedLines text))

end Environment

end EntityQuery
