import EntityQuery.Number.Decimal
import EntityQuery.Number.Width
import EntityQuery.Text.Hex
import EntityQuery.Text.Pieces

/-!
# Addresses

What a client makes of the text of a connection, read as a generic URL.  Since nothing in the text
is escaped, a separator inside a name moves the borders of the parts, and some texts cannot be read.
Behind a question mark there are parameters, which may replace the host and the port.
-/

namespace EntityQuery

/-- Nothing stands for a missing port.  A host that starts with a slash is a place in the file
system. -/
structure Address where
  host : String
  port : Option Nat
  /-- Whether only an encrypted connection will do. -/
  isSecure : Bool
deriving DecidableEq, Inhabited

namespace Address

def scheme : String := "postgresql://"

/-- Tabs and ends of lines are skipped, and so are blanks and controls at the end. -/
def visible (text : List Char) : List Char :=
  let trimmed := (text.reverse.dropWhile fun c => c.toNat ≤ 0x20).reverse
  trimmed.filter fun c => !(c == '\t' || c == '\n' || c == '\r')

def endsAuthority (c : Char) : Bool :=
  c == '/' || c == '?' || c == '#'

/-- The parts before and behind the last sign of this kind. -/
def splitLast (sign : Char) (text : List Char) : Option (List Char × List Char) :=
  let behind := (text.reverse.takeWhile (· != sign)).reverse
  if behind.length = text.length then none
  else some (text.take (text.length - behind.length - 1), behind)

/-- The host, where a colon between brackets belongs to it, and the rest behind. -/
def splitHost : Bool → List Char → List Char × List Char
  | _, [] => ([], [])
  | bracketed, c :: rest =>
      if c = ':' ∧ !bracketed then ([], c :: rest)
      else
        let (host, behind) := splitHost (c = '[' || (bracketed && c != ']')) rest
        (c :: host, behind)

def isGroup (text : List Char) : Bool :=
  1 ≤ text.length && text.length ≤ 4 && text.all fun c => (Text.hexDigit? c).isSome

def isByte (text : List Char) : Bool :=
  !text.isEmpty && text.all Char.isDigit && (text.length == 1 || text.head? != some '0') &&
    Decimal.digitsValue text ≤ 255

/-- The number of groups, of which four bytes make two; only the last piece may be bytes. -/
def groupCount? : List (List Char) → Option Nat
  | [] => some 0
  | [piece] =>
      let bytes := Text.piecesOf '.' piece
      if isGroup piece then some 1
      else if bytes.length = 4 ∧ bytes.all isByte then some 2 else none
  | piece :: rest => if isGroup piece then (groupCount? rest).map (· + 1) else none

/-- The parts around the first two colons in a row. -/
def splitGap : List Char → Option (List Char × List Char)
  | ':' :: ':' :: rest => some ([], rest)
  | c :: rest => (splitGap rest).map fun (before, behind) => (c :: before, behind)
  | [] => none

def groups (text : List Char) : List (List Char) :=
  if text.isEmpty then [] else Text.piecesOf ':' text

/-- Eight groups, or fewer with one gap. -/
def isNetworkAddress (text : List Char) : Bool :=
  match splitGap text with
  | none => groupCount? (groups text) == some 8
  | some (before, behind) =>
      before.all (· != '.') &&
        match groupCount? (groups before), groupCount? (groups behind) with
        | some a, some b => a + b ≤ 7
        | _, _ => false

def isHostChar (c : Char) : Bool :=
  !([' ', '#', '/', ':', '<', '>', '?', '@', '[', '\\', ']', '^', '|'].contains c) && c.toNat != 0

def isHost (text : List Char) : Bool :=
  match text with
  | '[' :: rest => rest.getLast? == some ']' && isNetworkAddress rest.dropLast
  | text => text.all isHostChar

/-- A port, and the rest that a backslash starts. -/
def port? : List Char → Option (Option Nat × List Char)
  | ':' :: text =>
      let digits := text.takeWhile Char.isDigit
      let rest := text.dropWhile Char.isDigit
      let port := Decimal.digitsValue digits
      if 65535 < port ∨ !(rest.isEmpty || rest.head? == some '\\') then none
      else some (if digits.isEmpty then none else some port, rest)
  | rest => some (none, rest)

/-- The bytes of a text, where a percent sign and two hexadecimal digits are one byte. -/
def decodedBytes : List Char → List UInt8
  | [] => []
  | '%' :: a :: b :: rest =>
      match Text.hexValue? [a, b] with
      | some byte => UInt8.ofNat byte :: decodedBytes rest
      | none => 0x25 :: decodedBytes (a :: b :: rest)
  | c :: rest => (String.singleton c).toUTF8.toList ++ decodedBytes rest

/-- The text with its percent signs decoded, unless that gives no text. -/
def decoded? (text : List Char) : Option String :=
  String.fromUTF8? (ByteArray.mk (decodedBytes text).toArray)

/-- A parameter's name or value, where a plus sign is a space; a character of its own stands for
what is no text. -/
def formText (text : List Char) : String :=
  (decoded? (text.map fun c => if c = '+' then ' ' else c)).getD "\ufffd"

def parameters (text : List Char) : List (String × String) :=
  ((Text.piecesOf '&' text).filter (!·.isEmpty)).map fun piece =>
    let name := piece.takeWhile (· != '=')
    (formText name, formText (piece.drop (name.length + 1)))

def natural? (bits : Nat) (text : String) : Option Nat :=
  let digits :=
    match text.toList with
    | '+' :: digits => digits
    | digits => digits
  let value := Decimal.digitsValue digits
  if !digits.isEmpty && digits.all Char.isDigit && fitsUnsigned bits value then some value else none

/-- Whether a mode of encryption demands it. -/
def isSecureMode? (mode : String) : Option Bool :=
  let mode := String.ofList (mode.toList.map Char.toLower)
  if ["disable", "allow", "prefer"].contains mode then some false
  else if ["require", "verify-ca", "verify-full"].contains mode then some true
  else none

def isNumericHost (host : List Char) : Bool :=
  let bytes := Text.piecesOf '.' host
  (bytes.length == 4 && bytes.all isByte) || isNetworkAddress host

/-- A host replaces another, but no place in the file system. -/
def withHost (address : Address) (host : String) : Address :=
  if address.host.toList.head? = some '/' then address else { address with host }

def withParameter? (address : Address) (name value : String) : Option Address :=
  if name = "sslmode" ∨ name = "ssl-mode" then
    (isSecureMode? value).map fun isSecure => { address with isSecure }
  else if name = "statement-cache-capacity" then (natural? 64 value).map fun _ => address
  else if name = "host" then some (address.withHost value)
  else if name = "hostaddr" then
    if isNumericHost value.toList then some (address.withHost value) else none
  else if name = "port" then (natural? 16 value).map fun port => { address with port := some port }
  else some address

def ofText? (text : String) : Option Address := do
  let visible := visible text.toList
  if !scheme.toList.isPrefixOf visible then none
  let text := visible.drop scheme.length
  let authority := text.takeWhile fun c => !endsAuthority c
  let behind := text.drop authority.length
  let (credentials, place) := (splitLast '@' authority).getD ([], authority)
  let (host, rest) := splitHost false place
  if host.isEmpty && (!rest.isEmpty || !(credentials.isEmpty || credentials == [':'])) then none
  if host.isEmpty && authority == ['@'] then none
  if !isHost host then none
  let (port, rest) ← port? rest
  let path := (rest ++ behind).takeWhile fun c => c != '?' && c != '#'
  if (decoded? credentials).isNone || (decoded? path).isNone then none
  let address : Address := ⟨← decoded? host, port, false⟩
  match (rest ++ behind).drop path.length with
  | '?' :: query =>
      (parameters (query.takeWhile (· != '#'))).foldlM
        (fun address (name, value) => address.withParameter? name value) address
  | _ => some address

end Address

end EntityQuery
