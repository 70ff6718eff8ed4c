import EntityQuery.Number.Binary64

/-!
# Decimal text of numbers

Writes a number with the fewest decimal digits that read back as the same number, and reads
decimal text.  The digits are found on the coarsest power-of-ten grid that has a point in the
interval of values rounding to the number; a `Layout` says where the point goes and when an
exponent is written.
-/

namespace EntityQuery

/-- The value `digits` times ten to the `exponent`. -/
structure Decimal where
  digits : Nat
  exponent : Int
deriving DecidableEq, Inhabited

/-- How the shortest digits are written out. -/
structure Layout where
  /-- Of two equally near candidates the even one is taken, else the larger. -/
  tieToEven : Bool
  /-- What follows a number without a fractional part. -/
  wholeEnding : String
  /-- Positions of the point, counted from the first digit, that need no exponent. -/
  positional : Int → Bool
  infinite : String

namespace Binary64

/-- Four times the ends of the interval that rounds to `x`, as multiples of a quarter of the unit
of the last place. -/
def intervalEnds (x : Binary64) : Nat × Nat :=
  let m := x.significand
  (4 * m - (if m = hiddenBit ∧ 1 < x.exponentField then 1 else 2), 4 * m + 2)

/-- Two numerators over the common denominator that `x` and a grid of step ten to the `k` share. -/
def gridFactors (x : Binary64) (k : Int) : Nat × Nat :=
  let quarter := x.scale - 2
  let num := Nat.pow 10 (-k).toNat <<< quarter.toNat
  let den := Nat.pow 10 k.toNat <<< (-quarter).toNat
  (num, den)

/-- The point of the grid of step ten to the `k` that rounds to `x` and is nearest to it. -/
def gridPoint? (tieToEven : Bool) (x : Binary64) (k : Int) : Option Nat :=
  let (num, den) := x.gridFactors k
  let (low, high) := x.intervalEnds
  let value := 4 * x.significand * num
  let closed := x.significand % 2 = 0
  let inside (point : Nat) : Bool :=
    if closed then low * num ≤ point * den && point * den ≤ high * num
    else low * num < point * den && point * den < high * num
  let below := value / den
  let remainder := 2 * (value % den)
  let nearest :=
    if remainder < den then below
    else if den < remainder then below + 1
    else if tieToEven && below % 2 = 0 then below else below + 1
  let other := if nearest = below then below + 1 else below
  if inside nearest then some nearest
  else if inside other then some other
  else none

def searchGrid (tieToEven : Bool) (x : Binary64) : Nat → Int → Decimal
  | 0, k => ⟨0, k⟩
  | steps + 1, k =>
      match x.gridPoint? tieToEven k with
      | some point => ⟨point, k⟩
      | none => searchGrid tieToEven x steps (k - 1)

/-- The decimal of fewest digits that rounds to the finite number `x` of nonzero value. -/
def shortest (tieToEven : Bool) (x : Binary64) : Decimal :=
  let binary : Int := x.significand.log2 + x.scale
  x.searchGrid tieToEven 24 (Int.fdiv (binary * 30103) 100000 + 2)

end Binary64

namespace Decimal

def digitChars (n : Nat) : List Char :=
  Nat.toDigits 10 n

/-- The digits without the zeros that end them, and the place of the point after the first digit. -/
def normalDigits (d : Decimal) : List Char × Int :=
  let all := digitChars d.digits
  ((all.reverse.dropWhile (· == '0')).reverse, all.length + d.exponent)

def positionalText (wholeEnding : String) (digits : List Char) (point : Int) : String :=
  let length : Int := digits.length
  if point ≤ 0 then
    "0." ++ String.ofList (List.replicate (-point).toNat '0' ++ digits)
  else if point < length then
    String.ofList (digits.take point.toNat) ++ "." ++ String.ofList (digits.drop point.toNat)
  else
    String.ofList (digits ++ List.replicate (point - length).toNat '0') ++ wholeEnding

def exponentText (digits : List Char) (point : Int) : String :=
  let power := point - 1
  let mantissa :=
    match digits with
    | [] => "0"
    | [digit] => String.ofList [digit]
    | digit :: rest => String.ofList (digit :: '.' :: rest)
  mantissa ++ "e" ++ (if power < 0 then "-" else "+") ++ toString power.natAbs

end Decimal

namespace Binary64

def magnitudeText (layout : Layout) (x : Binary64) : String :=
  if x.isZero then "0" ++ layout.wholeEnding
  else
    let (digits, point) := (x.shortest layout.tieToEven).normalDigits
    if layout.positional point then Decimal.positionalText layout.wholeEnding digits point
    else Decimal.exponentText digits point

def text (layout : Layout) (x : Binary64) : String :=
  if x.isNaN then "NaN"
  else
    (if x.negative then "-" else "") ++
      (if x.isFinite then x.magnitudeText layout else layout.infinite)

/-- Plain text never has an exponent, and a whole number no point. -/
def plainLayout : Layout where
  tieToEven := false
  wholeEnding := ""
  positional := fun _ => true
  infinite := "inf"

def plainText (x : Binary64) : String :=
  x.text plainLayout

end Binary64

namespace Decimal

/-- Splits off the decimal digits at the front. -/
def spanDigits (text : List Char) : List Char × List Char :=
  (text.takeWhile Char.isDigit, text.dropWhile Char.isDigit)

def digitsValue (digits : List Char) : Nat :=
  digits.foldl (fun value c => 10 * value + (c.toNat - '0'.toNat)) 0

/-- A sign and digits, as after the mark of an exponent. -/
def readInteger? (text : List Char) : Option Int :=
  let (negative, digits) :=
    match text with
    | '-' :: rest => (true, rest)
    | '+' :: rest => (false, rest)
    | rest => (false, rest)
  if digits.isEmpty || !digits.all Char.isDigit then none
  else some (if negative then -(digitsValue digits : Int) else digitsValue digits)

/-- Digits with an optional point and exponent; a digit stands on at least one side of the
point. -/
def read? (text : List Char) : Option Decimal :=
  let (whole, rest) := spanDigits text
  let (places, rest) :=
    match rest with
    | '.' :: rest => spanDigits rest
    | rest => ([], rest)
  if whole.isEmpty && places.isEmpty then none
  else
    let digits := digitsValue (whole ++ places)
    match rest with
    | [] => some ⟨digits, -(places.length : Int)⟩
    | 'e' :: power | 'E' :: power =>
        (readInteger? power).map fun power => ⟨digits, power - places.length⟩
    | _ => none

end Decimal

namespace Binary64

def ofDecimalText (negative : Bool) (decimal : Decimal) : Binary64 :=
  ofDecimal negative decimal.digits decimal.exponent

def readMagnitude? (negative : Bool) (text : List Char) : Option Binary64 :=
  let name := String.ofList (text.map Char.toLower)
  if name = "inf" ∨ name = "infinity" then some (infinity negative)
  else if name = "nan" then
    some (if negative then ofMagnitude true nan.magnitude else nan)
  else (Decimal.read? text).map (ofDecimalText negative)

/-- Reads an optional sign and a decimal or one of the names of the other values. -/
def read? (text : String) : Option Binary64 :=
  match text.toList with
  | '-' :: rest => readMagnitude? true rest
  | '+' :: rest => readMagnitude? false rest
  | rest => readMagnitude? false rest

end Binary64

end EntityQuery
