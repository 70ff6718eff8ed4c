import EntityQuery.Time.Date

/-!
# Timestamps

Points in universal time with nanoseconds.  A leap second is the last second of a minute with a
billion nanoseconds or more.
-/

namespace EntityQuery

structure Timestamp where
  /-- Days since 1970-01-01. -/
  dayNumber : Int
  /-- Second of the day. -/
  second : Nat
  nanosecond : Nat
deriving DecidableEq, Inhabited

namespace Timestamp

def nanosecondsPerSecond : Nat := 1000000000

def isLeapSecond (t : Timestamp) : Bool :=
  nanosecondsPerSecond ≤ t.nanosecond

/-- The point in time with this local date and time of day, `offset` seconds ahead of universal
time.  The sixtieth second is a leap second. -/
def ofLocal? (year : Int) (month day hour minute second nanosecond : Nat) (offset : Int) :
    Option Timestamp := do
  let date ← Date.ofNumbers? year month day
  if 24 ≤ hour ∨ 60 ≤ minute ∨ 60 < second ∨ 86400 ≤ offset.natAbs then none
  let leap := second = 60
  let localSecond : Int := (hour * 3600 + minute * 60 + if leap then 59 else second : Nat)
  let total := date.dayNumber * 86400 + localSecond - offset
  let dayNumber := total / 86400
  if !Date.isSupportedDayNumber dayNumber then none
  some ⟨dayNumber, (total % 86400).toNat,
    if leap then nanosecond + nanosecondsPerSecond else nanosecond⟩

/-- Three, six or nine digits after a point, as many as needed, or nothing. -/
def fractionText (nanosecond : Nat) : String :=
  if nanosecond = 0 then ""
  else if nanosecond % 1000000 = 0 then "." ++ Date.padded 3 (nanosecond / 1000000)
  else if nanosecond % 1000 = 0 then "." ++ Date.padded 6 (nanosecond / 1000)
  else "." ++ Date.padded 9 nanosecond

/-- The text of the point in time, ended by `zone`. -/
def textWith (zone : String) (t : Timestamp) : String :=
  let second := t.second % 60 + if t.isLeapSecond then 1 else 0
  (Date.ofDayNumber t.dayNumber).text ++ "T" ++ Date.padded 2 (t.second / 3600) ++ ":" ++
    Date.padded 2 (t.second / 60 % 60) ++ ":" ++ Date.padded 2 second ++
    fractionText (t.nanosecond % nanosecondsPerSecond) ++ zone

def text (t : Timestamp) : String :=
  t.textWith "+00:00"

/-- Nanoseconds since 1970-01-01; a leap second counts as the first second of the next minute. -/
def nanoseconds (t : Timestamp) : Int :=
  (t.dayNumber * 86400 + t.second) * nanosecondsPerSecond + t.nanosecond

end Timestamp

end EntityQuery
