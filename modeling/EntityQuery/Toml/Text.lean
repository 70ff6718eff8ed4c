import EntityQuery.Text.Hex

/-!
# Strings in TOML

Basic strings have escapes and literal strings have none; both come in a form for several lines,
which ends at three quotes and may have two more right before them.  Ends of lines are kept as they
are written.  Every reader starts behind the opening quotes and returns the rest behind the closing
ones.
-/

namespace EntityQuery.Toml

def isBlank (c : Char) : Bool :=
  c == ' ' || c == '\t'

/-- Control characters other than a tab are never written as they are. -/
def isPlain (c : Char) : Bool :=
  c == '\t' || (0x20 ≤ c.toNat && c.toNat != 0x7f)

def newline? : List Char → Option (List Char)
  | '\n' :: rest => some rest
  | '\r' :: '\n' :: rest => some rest
  | _ => none

/-- A character of a string of several lines; a carriage return stands in front of a newline only.
-/
def isPlainBefore (c : Char) (rest : List Char) : Bool :=
  isPlain c || c == '\n' || (c == '\r' && rest.head? == some '\n')

def dropBlankLines : List Char → List Char
  | ' ' :: rest | '\t' :: rest | '\n' :: rest | '\r' :: '\n' :: rest => dropBlankLines rest
  | rest => rest

/-- The character whose code is given in so many hexadecimal digits. -/
def readCode? (width : Nat) (text : List Char) : Option (Char × List Char) := do
  if text.length < width then none
  let code ← Text.hexValue? (text.take width)
  if code.isValidChar then some (Char.ofNat code, text.drop width) else none

def readEscape? : List Char → Option (Char × List Char)
  | '"' :: rest => some ('"', rest)
  | '\\' :: rest => some ('\\', rest)
  | 'b' :: rest => some ('\x08', rest)
  | 'e' :: rest => some ('\x1b', rest)
  | 'f' :: rest => some ('\x0c', rest)
  | 'n' :: rest => some ('\n', rest)
  | 'r' :: rest => some ('\r', rest)
  | 't' :: rest => some ('\t', rest)
  | 'x' :: rest => readCode? 2 rest
  | 'u' :: rest => readCode? 4 rest
  | 'U' :: rest => readCode? 8 rest
  | _ => none

/-- `done` holds the characters read so far, the latest first. -/
def readBasic? : Nat → List Char → List Char → Option (String × List Char)
  | 0, _, _ => none
  | _ + 1, _, [] => none
  | fuel + 1, done, c :: rest =>
      if c = '"' then some (String.ofList done.reverse, rest)
      else if c = '\\' then do
        let (escaped, rest) ← readEscape? rest
        readBasic? fuel (escaped :: done) rest
      else if isPlain c then readBasic? fuel (c :: done) rest
      else none

def readLiteral? (text : List Char) : Option (String × List Char) :=
  let content := text.takeWhile (· != '\'')
  match text.drop content.length with
  | [] => none
  | _ :: rest => if content.all isPlain then some (String.ofList content, rest) else none

/-- What a run of quotes means inside a string of several lines. -/
inductive QuoteRun where
  /-- The quotes belong to the content. -/
  | inside (count : Nat)
  /-- The string ends after some quotes of content. -/
  | ending (count : Nat)
  | tooMany

def quoteRun (quote : Char) (text : List Char) : QuoteRun :=
  let count := (text.takeWhile (· == quote)).length
  if count < 3 then .inside count
  else if count ≤ 5 then .ending (count - 3)
  else .tooMany

/-- A string of several lines; `escapes` says whether a backslash is special. -/
def readLines? (quote : Char) (escapes : Bool) :
    Nat → List Char → List Char → Option (String × List Char)
  | 0, _, _ => none
  | _ + 1, _, [] => none
  | fuel + 1, done, c :: rest =>
      if c = quote then
        match quoteRun quote (c :: rest) with
        | .inside count =>
            readLines? quote escapes fuel (List.replicate count quote ++ done)
              ((c :: rest).drop count)
        | .ending count =>
            some (String.ofList (List.replicate count quote ++ done).reverse,
              (c :: rest).drop (count + 3))
        | .tooMany => none
      else if escapes && c = '\\' then
        match newline? (rest.dropWhile isBlank) with
        | some rest => readLines? quote escapes fuel done (dropBlankLines rest)
        | none => do
            let (escaped, rest) ← readEscape? rest
            readLines? quote escapes fuel (escaped :: done) rest
      else if isPlainBefore c rest then readLines? quote escapes fuel (c :: done) rest
      else none

/-- Reads the string at the start of the text.  A newline right behind three quotes is dropped. -/
def readString? (text : List Char) : Option (String × List Char) :=
  let lines (quote : Char) (rest : List Char) : Option (String × List Char) :=
    readLines? quote (quote == '"') (rest.length + 1) [] ((newline? rest).getD rest)
  match text with
  | '"' :: '"' :: '"' :: rest => lines '"' rest
  | '\'' :: '\'' :: '\'' :: rest => lines '\'' rest
  | '"' :: rest => readBasic? (rest.length + 1) [] rest
  | '\'' :: rest => readLiteral? rest
  | _ => none

end EntityQuery.Toml
