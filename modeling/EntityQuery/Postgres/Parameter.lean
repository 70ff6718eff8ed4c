import EntityQuery.Statement.Basic
import EntityQuery.Value.Text

/-!
# Parameters on the wire

The type and the bytes under which a value is sent to a PostgreSQL server.  An array has elements of
one type: texts, integers of one width or identifiers as they are, and any other mix as texts.
-/

namespace EntityQuery.Postgres

abbrev Bytes := List UInt8

/-- A value as it is sent; null has no bytes. -/
structure Parameter where
  type : Nat
  bytes : Option Bytes
deriving DecidableEq, Inhabited

namespace Bytes

/-- The number in two's complement, the highest byte first. -/
def ofInt (width : Nat) (n : Int) : Bytes :=
  (List.range width).map fun place =>
    let bits := 8 * (width - 1 - place)
    UInt8.ofNat ((n % (1 <<< (8 * width) : Nat)).toNat >>> bits % 256)

def ofString (text : String) : Bytes :=
  text.toUTF8.toList

end Bytes

/-- Types by their numbers. -/
def boolType : Nat := 16

def bigIntType : Nat := 20

def smallIntType : Nat := 21

def integerType : Nat := 23

def textType : Nat := 25

def floatType : Nat := 701

def textArrayType : Nat := 1009

def integerArrayType : Nat := 1007

def bigIntArrayType : Nat := 1016

def dateType : Nat := 1082

def timestampType : Nat := 1184

def uuidType : Nat := 2950

def uuidArrayType : Nat := 2951

def jsonType : Nat := 3802

/-- Day numbers are sent relative to 2000-01-01. -/
def epochDay : Int := 10957

def dateBytes (date : Date) : Bytes :=
  Bytes.ofInt 4 (date.dayNumber - epochDay)

/-- Microseconds since 2000-01-01, cut off towards that time. -/
def timestampBytes (time : Timestamp) : Bytes :=
  Bytes.ofInt 8 ((time.nanoseconds - epochDay * 86400 * 1000000000).tdiv 1000)

def uuidBytes (uuid : Uuid) : Bytes :=
  Bytes.ofInt 16 uuid.value

/-- The elements of an array in one type. -/
inductive Elements where
  | texts (elements : List String)
  | integers (elements : List Int32)
  | bigInts (elements : List Int64)
  | uuids (elements : List Uuid)
deriving DecidableEq, Inhabited

namespace Elements

def text? : Value → Option String
  | .text value => some value
  | _ => none

def integer? : Value → Option Int32
  | .integer value => some value
  | _ => none

def bigInt? : Value → Option Int64
  | .bigInt value => some value
  | .integer value => some value.toInt64
  | _ => none

def uuid? : Value → Option Uuid
  | .uuid value => some value
  | _ => none

/-- The text of a value inside an array of texts. -/
def textOf : Value → String
  | .text value | .decimal value => value
  | value => value.toText

/-- The first type in which all the values have a form of their own. -/
def ofValues (values : List Value) : Elements :=
  match values.mapM text? with
  | some elements => .texts elements
  | none =>
      match values.mapM integer? with
      | some elements => .integers elements
      | none =>
          match values.mapM bigInt? with
          | some elements => .bigInts elements
          | none =>
              match values.mapM uuid? with
              | some elements => .uuids elements
              | none => .texts (values.map textOf)

def arrayType : Elements → Nat
  | .texts _ => textArrayType
  | .integers _ => integerArrayType
  | .bigInts _ => bigIntArrayType
  | .uuids _ => uuidArrayType

def elementType : Elements → Nat
  | .texts _ => textType
  | .integers _ => integerType
  | .bigInts _ => bigIntType
  | .uuids _ => uuidType

def elementBytes : Elements → List Bytes
  | .texts elements => elements.map Bytes.ofString
  | .integers elements => elements.map fun n => Bytes.ofInt 4 n.toInt
  | .bigInts elements => elements.map fun n => Bytes.ofInt 8 n.toInt
  | .uuids elements => elements.map uuidBytes

/-- One dimension that starts at one, and each element behind its length. -/
def bytes (elements : Elements) : Bytes :=
  let parts := elements.elementBytes
  Bytes.ofInt 4 1 ++ Bytes.ofInt 4 0 ++ Bytes.ofInt 4 elements.elementType ++
    Bytes.ofInt 4 parts.length ++ Bytes.ofInt 4 1 ++
    parts.flatMap fun part => Bytes.ofInt 4 part.length ++ part

end Elements

namespace Parameter

def present (type : Nat) (bytes : Bytes) : Parameter := ⟨type, some bytes⟩

def ofValue : Value → Parameter
  | .null => ⟨textType, none⟩
  | .text value | .decimal value => present textType (Bytes.ofString value)
  | .integer value => present integerType (Bytes.ofInt 4 value.toInt)
  | .bigInt value => present bigIntType (Bytes.ofInt 8 value.toInt)
  | .smallInt value => present smallIntType (Bytes.ofInt 2 value.toInt)
  | .float value => present floatType (Bytes.ofInt 8 value.bits.toNat)
  | .boolean value => present boolType [if value then 1 else 0]
  | .uuid value => present uuidType (uuidBytes value)
  | .timestamp value => present timestampType (timestampBytes value)
  | .date value => present dateType (dateBytes value)
  | .json value => present jsonType (1 :: Bytes.ofString value.text)
  | .array values =>
      let elements := Elements.ofValues values
      present elements.arrayType elements.bytes

end Parameter

end EntityQuery.Postgres
