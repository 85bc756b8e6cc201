import Multimeter.Toml.Quoted
/-!
# Dates and times

A moment is a day, a time of day, both, or both with an offset from universal time. Days exist in
the calendar, hours and minutes are those of a clock, and a minute may have a leap second.
-/

namespace Multimeter.Toml

/-- A day of the calendar. -/
structure Day where
  year : Nat
  month : Nat
  day : Nat
  deriving DecidableEq, Repr

/-- A time of day. -/
structure Clock where
  hour : Nat
  minute : Nat
  second : Nat
  /-- The digits of the fraction of a second. -/
  fraction : List Nat
  deriving DecidableEq, Repr

/-- A point in time, as far as it is given. -/
inductive Moment where
  | day (day : Day)
  | clock (clock : Clock)
  /-- A day and a time, with the offset from universal time in minutes if it is given. -/
  | dayAndClock (day : Day) (clock : Clock) (offset : Option Int)
  deriving DecidableEq, Repr

/-- The year has a leap day. -/
def isLeapYear (year : Nat) : Bool := year % 4 = 0 && (year % 100 ≠ 0 || year % 400 = 0)

/-- The number of days in a month. -/
def daysIn (year month : Nat) : Nat :=
  if month = 2 then if isLeapYear year then 29 else 28
  else if month ∈ [4, 6, 9, 11] then 30
  else 31

/-- Read decimal digits. -/
def digitRun : Reader (List Nat) := do
  let text ← takeWhile Char.isDigit
  return text.map fun c => c.toNat - '0'.toNat

/-- Read a number of exactly `count` digits. -/
def number (count : Nat) : Reader Nat := do
  let digits ← digitRun
  guard (digits.length = count)
  return ofDigits 10 digits

/-- Read a day. -/
def day : Reader Day := do
  let year ← number 4
  char '-'
  let month ← number 2
  char '-'
  let day ← number 2
  guard (1 ≤ month ∧ month ≤ 12 ∧ 1 ≤ day ∧ day ≤ daysIn year month)
  return { year, month, day }

/-- Read the fraction of a second, if there is one. -/
def secondFraction : Reader (List Nat) := do
  if ← char? '.' then
    let digits ← digitRun
    guard (digits ≠ [])
    return digits
  else return []

/-- Read a time of day; the seconds may be left out. -/
def clock : Reader Clock := do
  let hour ← number 2
  char ':'
  let minute ← number 2
  guard (hour ≤ 23 ∧ minute ≤ 59)
  if ← char? ':' then
    let second ← number 2
    guard (second ≤ 60)
    let fraction ← secondFraction
    return { hour, minute, second, fraction }
  else return { hour, minute, second := 0, fraction := [] }

/-- Read hours and minutes of an offset, less than one day. -/
def offsetMinutes : Reader Int := do
  let hours ← number 2
  char ':'
  let minutes ← number 2
  guard (hours ≤ 23 ∧ minutes ≤ 59)
  return ((hours * 60 + minutes : Nat) : Int)

/-- Read an offset from universal time, if there is one. -/
def offset : Reader (Option Int) := do
  match ← charIf? (· ∈ ['Z', 'z', '+', '-']) with
  | none => return none
  | some '+' => return some (← offsetMinutes)
  | some '-' => return some (-(← offsetMinutes))
  | some _ => return some 0

/-- Read a day and what may follow it. -/
def dayAndMore : Reader Moment := do
  let day ← day
  match ← charIf? (· ∈ ['T', 't', ' ']) with
  | none => return .day day
  | some _ =>
    let clock ← clock
    return .dayAndClock day clock (← offset)

/-- The moment that a text spells. -/
def moment? (text : List Char) : Option Moment :=
  dayAndMore.whole? text <|> (clock.whole? text).map .clock

end Multimeter.Toml
