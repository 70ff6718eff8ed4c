import EntityQuery.Text.Blank
import EntityQuery.Text.Word

/-!
# Source tokens

A type in a source text is only copied and asked for the arguments in its angle brackets, so it is
kept as its tokens.  Brackets are tokens of their own.
-/

namespace EntityQuery

abbrev Tokens := List String

namespace Tokens

def isNameChar (c : Char) : Bool :=
  Text.isWordChar c || c == '_'

/-- Whether two characters that stand side by side are of one token: of a name or a number, a
lifetime, a raw name, a literal with letters before its quote, or one of the three signs made of
several characters. -/
def isJoined (c next : Char) : Bool :=
  (isNameChar c || c == '\'' || c == '#') && isNameChar next ||
    isNameChar c && (next == '"' || next == '\'') ||
    [('r', '#'), ('#', '"'), (':', ':'), ('-', '>'), ('.', '.')].contains (c, next)

/-- The characters up to a quote, with it, and those after it; a backslash escapes a quote. -/
def throughQuote (quote : Char) : List Char → List Char × List Char
  | [] => ([], [])
  | '\\' :: c :: rest =>
      let (content, after) := throughQuote quote rest
      ('\\' :: c :: content, after)
  | c :: rest =>
      if c == quote then ([c], rest)
      else
        let (content, after) := throughQuote quote rest
        (c :: content, after)

/-- The literal that a quote starts, and the characters after it.  An apostrophe that starts a
lifetime has no other one behind the next character. -/
def quoted? : List Char → Option (List Char × List Char)
  | '"' :: rest => some ((throughQuote '"' rest).map ('"' :: ·) id)
  | '\'' :: '\\' :: rest => some ((throughQuote '\'' ('\\' :: rest)).map ('\'' :: ·) id)
  | '\'' :: c :: '\'' :: rest => some (['\'', c, '\''], rest)
  | _ => none

theorem length_throughQuote_le (quote : Char) (chars : List Char) :
    (throughQuote quote chars).2.length ≤ chars.length := by
  fun_induction throughQuote quote chars with
  | case1 => exact Nat.le_refl _
  | case2 c rest content after heq ih =>
      rw [heq] at ih
      exact Nat.le_succ_of_le (Nat.le_succ_of_le ih)
  | case3 c rest _ _ => exact Nat.le_succ _
  | case4 c rest _ _ content after heq ih =>
      rw [heq] at ih
      exact Nat.le_succ_of_le ih

theorem length_quoted?_lt {chars literal after : List Char}
    (h : quoted? chars = some (literal, after)) : after.length < chars.length := by
  unfold quoted? at h
  split at h
  · cases h
    exact Nat.lt_succ_of_le (length_throughQuote_le '"' _)
  · cases h
    exact Nat.lt_succ_of_le (length_throughQuote_le '\'' _)
  · cases h
    simp only [List.length_cons]
    omega
  · cases h

/-- The tokens, with an empty one for every blank. -/
def split : List Char → List (List Char)
  | [] => []
  | c :: rest =>
      if Text.isBlank c then [] :: split rest
      else
        match h : quoted? (c :: rest) with
        | some (literal, after) =>
            have := length_quoted?_lt h
            literal :: split after
        | none =>
            match split rest with
            | (next :: token) :: tokens =>
                if isJoined c next then (c :: next :: token) :: tokens
                else [c] :: (next :: token) :: tokens
            | tokens => [c] :: tokens
termination_by chars => chars.length
decreasing_by all_goals (simp only [List.length_cons] at *; omega)

def ofText (text : String) : Tokens :=
  ((split text.toList).filter (· ≠ [])).map String.ofList

def isOpening (token : String) : Bool :=
  token == "(" || token == "["

def isClosing (token : String) : Bool :=
  token == ")" || token == "]"

/-- The tokens with a blank between any two, except inside round and square brackets. -/
def text : Tokens → String
  | [] => ""
  | [token] => token
  | token :: next :: rest =>
      token ++ (if isOpening token || isClosing next then "" else " ") ++ text (next :: rest)

/-- The tokens without blanks. -/
def closeText (tokens : Tokens) : String :=
  String.ofList ((String.join tokens).toList.filter (· ≠ ' '))

/-! ## Angle brackets -/

/-- How many brackets are open; angle brackets inside others are not counted. -/
structure Depth where
  angles : Nat
  others : Nat

namespace Depth

def none : Depth := ⟨0, 0⟩

def isOutside (depth : Depth) : Bool :=
  depth.angles == 0 && depth.others == 0

def after (depth : Depth) (token : String) : Depth :=
  if ["(", "[", "\x7b"].contains token then { depth with others := depth.others + 1 }
  else if [")", "]", "\x7d"].contains token then { depth with others := depth.others - 1 }
  else if depth.others ≠ 0 then depth
  else if token = "<" then { depth with angles := depth.angles + 1 }
  else if token = ">" then { depth with angles := depth.angles - 1 }
  else depth

end Depth

/-- The tokens up to the angle bracket that closes one opened before them, and the tokens after
it. -/
def untilClosed? (depth : Depth) : Tokens → Option (Tokens × Tokens)
  | [] => none
  | token :: rest =>
      if depth.isOutside && token == ">" then some ([], rest)
      else (untilClosed? (depth.after token) rest).map fun (inside, after) =>
        (token :: inside, after)

/-- The parts between the commas that stand outside all brackets. -/
def parts (depth : Depth) : Tokens → List Tokens
  | [] => [[]]
  | token :: rest =>
      if depth.isOutside && token == "," then [] :: parts depth rest
      else
        match parts (depth.after token) rest with
        | [] => [[token]]
        | part :: more => (token :: part) :: more

def standsOutside (sign : String) (depth : Depth) : Tokens → Bool
  | [] => false
  | token :: rest =>
      depth.isOutside && token == sign || standsOutside sign (depth.after token) rest

def isName (token : String) : Bool :=
  token.toList.head?.any fun c => isNameChar c && !c.isDigit

def isLiteral (token : String) : Bool :=
  token.toList.head?.any Char.isDigit ||
    token.toList.getLast?.any fun c => c == '"' || c == '\''

/-- Whether an argument in angle brackets is a type: no lifetime, no constant, no binding.  A
lifetime that a sum starts with is a bound of a type. -/
def isType (argument : Tokens) : Bool :=
  match argument with
  | [] => false
  | token :: rest =>
      let isConstant := ["true", "false", "-", "\x7b"].contains token || isLiteral token
      let isLifetime := token.startsWith "'" && rest.head? != some "+"
      !isConstant && !isLifetime &&
        !standsOutside "=" .none argument && !standsOutside ":" .none argument

theorem length_untilClosed? {depth : Depth} {tokens inside after : Tokens}
    (h : untilClosed? depth tokens = some (inside, after)) :
    inside.length + after.length < tokens.length := by
  induction tokens generalizing depth inside after with
  | nil => simp [untilClosed?] at h
  | cons token rest ih =>
      simp only [untilClosed?] at h
      split at h
      · simp_all
      · obtain ⟨⟨inner, outer⟩, hinner, heq⟩ := Option.map_eq_some_iff.1 h
        simp only [Prod.mk.injEq] at heq
        obtain ⟨rfl, rfl⟩ := heq
        have := ih hinner
        simp only [List.length_cons]
        omega

/-- The last name of a path and the types in the angle brackets after it. -/
def lastSegment? : Tokens → Option (String × List Tokens)
  | [] => none
  | name :: rest =>
      if !isName name then none
      else
        match rest with
        | [] => some (name, [])
        | "::" :: "<" :: opened | "<" :: opened =>
            match h : untilClosed? .none opened with
            | some (inside, []) => some (name, (parts .none inside).filter isType)
            | some (_, "::" :: after) =>
                have := length_untilClosed? h
                lastSegment? after
            | _ => none
        | "::" :: rest => lastSegment? rest
        | _ => none
termination_by tokens => tokens.length
decreasing_by all_goals (simp_all; try omega)

/-- The last name and the type arguments of a type that is a path. -/
def applied? : Tokens → Option (String × List Tokens)
  | "::" :: path => lastSegment? path
  | path => lastSegment? path

/-- A type without the wrappers that hold one value or none. -/
def unwrapped (type : Tokens) : Tokens :=
  match applied? type with
  | some (name, [inner]) =>
      if _ : (name = "Option" ∨ name = "Box") ∧ inner.length < type.length then unwrapped inner
      else type
  | _ => type
termination_by type.length

end Tokens

end EntityQuery
