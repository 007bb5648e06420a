import FileServer.Calendar
import FileServer.Text.Blank
import FileServer.Text.Reader

/-!
# Dates in header fields

A point of time is written in one form, the fixed-length one, and read in that form, in the older
form with the full name of the weekday and two digits of the year, and in the form called
`asctime`. What is read has to be a date that exists, with the right weekday and a year from 1970
to 9999. Times are whole seconds since the beginning of 1970.

* `asSeconds?_of_seconds`: the check accepts the fields of every point of time before the year
  10000 and gives its seconds back.
-/

namespace FileServer.HttpDate

/-- The names of the weekdays; Sunday is day 0. -/
def weekdays : List Text :=
  ["Sunday".toList, "Monday".toList, "Tuesday".toList, "Wednesday".toList, "Thursday".toList,
    "Friday".toList, "Saturday".toList]

/-- The three letters of the weekdays; Sunday is day 0. -/
def shortWeekdays : List Text := weekdays.map (·.take 3)

/-- What a date says. -/
structure Fields where
  weekday : Nat
  time : DateTime
  deriving DecidableEq, Repr

namespace Fields

/-- What the date of a point of time says. -/
def ofSeconds (n : Nat) : Fields := ⟨Date.weekday (n / 86400), .ofSeconds n⟩

/-- Whether each number is within its range. -/
def inRange (fields : Fields) : Bool :=
  let t := fields.time
  t.second < 60 && t.minute < 60 && t.hour < 24 && 1 ≤ t.date.day && t.date.day ≤ 31 &&
    1 ≤ t.date.month && t.date.month ≤ 12 && 1970 ≤ t.date.year && t.date.year ≤ 9999

/-- The point of time, if the fields are those of one. -/
def asSeconds? (fields : Fields) : Option Nat :=
  let n := fields.time.toSeconds
  if fields.inRange ∧ ofSeconds n = fields then some n else none

theorem asSeconds?_of_seconds {n : Nat} (h : (ofSeconds n).inRange) :
    (ofSeconds n).asSeconds? = some n := by
  have hn : (ofSeconds n).time.toSeconds = n := DateTime.toSeconds_ofSeconds n
  simp [asSeconds?, hn, h]

end Fields

/-- The seconds that count from the beginning of 1970 up to the year 10000. -/
def secondsBefore10000 : Nat := 253402300800

/-- The date of a point of time before the year 10000, such as `Sun, 06 Nov 1994 08:49:37 GMT`.
There is no such date of a later time: the form has room for four digits of the year. -/
def render (n : Nat) : Text :=
  let fields := Fields.ofSeconds n
  let date := fields.time.date
  shortWeekdays.getD fields.weekday [] ++ ", ".toList ++ Decimal.padded 2 date.day ++ [' '] ++
    monthName date.month ++ [' '] ++ Decimal.padded 4 date.year ++ [' '] ++ fields.time.clock ++
    " GMT".toList

open Reader

/-- Reads the name of a month. -/
def month : Reader Nat := (· + 1) <$> oneOf monthNames

/-- Reads a time of day on a date. -/
def timeOn (date : Date) : Reader DateTime := do
  let hour ← number 2
  literal [':']
  let minute ← number 2
  literal [':']
  let second ← number 2
  return ⟨date, hour, minute, second⟩

/-- Reads a form like `Sun, 06 Nov 1994 08:49:37 GMT`. -/
def fixedForm : Reader Fields := do
  let weekday ← oneOf shortWeekdays
  literal ", ".toList
  let day ← number 2
  literal [' ']
  let month ← month
  literal [' ']
  let year ← number 4
  literal [' ']
  let time ← timeOn ⟨year, month, day⟩
  literal " GMT".toList
  return ⟨weekday, time⟩

/-- The year that two digits stand for: one from 1970 to 2069. -/
def fullYear (n : Nat) : Nat := if n < 70 then 2000 + n else 1900 + n

/-- Reads a form like `Sunday, 06-Nov-94 08:49:37 GMT`. Any character may stand between the date
and the time. -/
def fullForm : Reader Fields := do
  let weekday ← oneOf weekdays
  literal ", ".toList
  let day ← number 2
  literal ['-']
  let month ← month
  literal ['-']
  let year ← fullYear <$> number 2
  let _ ← anyChar
  let time ← timeOn ⟨year, month, day⟩
  literal " GMT".toList
  return ⟨weekday, time⟩

/-- Reads a form like `Sun Nov  6 08:49:37 1994`. -/
def asctimeForm : Reader Fields := do
  let weekday ← oneOf shortWeekdays
  literal [' ']
  let month ← month
  literal [' ']
  let day ← (do literal [' ']; number 1) <|> number 2
  literal [' ']
  let time ← timeOn ⟨0, month, day⟩
  literal [' ']
  let year ← number 4
  return ⟨weekday, { time with date := ⟨year, month, day⟩ }⟩

/-- Reads a date in any of the three forms. Blanks around it do not matter. -/
def parse? (t : Text) : Option Nat :=
  if t.all (·.toNat < 128) then
    let t := Text.trim t
    match readAll fixedForm t <|> readAll fullForm t <|> readAll asctimeForm t with
    | some fields => fields.asSeconds?
    | none => none
  else none

end FileServer.HttpDate
