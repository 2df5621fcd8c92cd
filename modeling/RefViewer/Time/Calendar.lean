/-!
# Calendar

Days of the Gregorian calendar, extended to all years, as a count from 1 March of the year
zero. A year that begins in March ends with its leap day, so the days before a month follow
one rule.
-/

namespace RefViewer

structure Date where
  year : Int
  month : Nat
  day : Nat
  deriving DecidableEq, Repr

namespace Date

def isLeap (year : Int) : Bool := (year % 4 = 0 && year % 100 ≠ 0) || year % 400 = 0

def daysIn (year : Int) (month : Nat) : Nat :=
  match month with
  | 2 => if isLeap year then 29 else 28
  | 4 | 6 | 9 | 11 => 30
  | _ => 31

def isValid (date : Date) : Bool :=
  1 ≤ date.month && date.month ≤ 12 && 1 ≤ date.day && date.day ≤ daysIn date.year date.month

/-- Days before the month with this number, March being the first with number 0. -/
def daysBefore (month : Nat) : Nat := (153 * month + 2) / 5

/-- Days since 1 March of the year zero. -/
def toDays (date : Date) : Int :=
  let year := if date.month ≤ 2 then date.year - 1 else date.year
  let month := (date.month + 9) % 12
  365 * year + year / 4 - year / 100 + year / 400 + daysBefore month + (date.day - 1 : Nat)

def ofDays (days : Int) : Date :=
  let era := days / 146097
  let day := (days % 146097).toNat
  let yearOfEra := (day - day / 1460 + day / 36524 - day / 146096) / 365
  let dayOfYear := day - (365 * yearOfEra + yearOfEra / 4 - yearOfEra / 100)
  let month := (5 * dayOfYear + 2) / 153
  { year := era * 400 + yearOfEra + (if month < 10 then 0 else 1)
    month := if month < 10 then month + 3 else month - 9
    day := dayOfYear - daysBefore month + 1 }

def monthName (month : Nat) : String :=
  let names :=
    ["Jan", "Feb", "Mar", "Apr", "May", "Jun", "Jul", "Aug", "Sep", "Oct", "Nov", "Dec"]
  (names[month - 1]?).getD ""

end Date

end RefViewer
