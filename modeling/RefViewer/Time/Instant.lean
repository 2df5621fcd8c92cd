import RefViewer.Time.Calendar

/-!
# Instants

A point in universal time, from its written form: a date, a time of day and the offset of a
time zone. A leap second is kept as a second that lasts twice as long. Elapsed time counts a
leap second that lies strictly within it on one day.
-/

namespace RefViewer

structure Instant where
  days : Int
  /-- Second of the day. -/
  second : Nat
  /-- A thousand million and more within a leap second. -/
  nanos : Nat
  deriving DecidableEq, Repr

namespace Instant

def billion : Nat := 1000000000

def takeDigits (count : Nat) (text : List Char) : Option (Nat × List Char) :=
  let digits := text.take count
  if digits.length = count && digits.all Char.isDigit then
    some (digits.foldl (fun n c => 10 * n + (c.toNat - 48)) 0, text.drop count)
  else none

def takeChar (allowed : List Char) : List Char → Option (List Char)
  | c :: rest => if allowed.contains c then some rest else none
  | [] => none

/-- Nine digits count, further ones are read over. -/
def takeFraction : List Char → Option (Nat × List Char)
  | '.' :: text =>
    let digits := text.takeWhile Char.isDigit
    if digits = [] then none
    else
      let nine := (digits ++ List.replicate 9 '0').take 9
      some (nine.foldl (fun n c => 10 * n + (c.toNat - 48)) 0, text.dropWhile Char.isDigit)
  | text => some (0, text)

/-- Seconds that local time is ahead of universal time, less than a day either way. -/
def takeOffset : List Char → Option (Int × List Char)
  | [] => none
  | sign :: text =>
    if sign = 'Z' || sign = 'z' then some (0, text)
    else if sign = '+' || sign = '-' || sign = '−' then do
      let (hours, text) ← takeDigits 2 text
      let text ← takeChar [':'] text
      let (minutes, text) ← takeDigits 2 text
      let seconds := 3600 * hours + 60 * minutes
      if minutes < 60 && seconds < 86400 then
        some (if sign = '+' then (seconds : Int) else -(seconds : Int), text)
      else none
    else none

def ofChars? (text : List Char) : Option Instant := do
  let (year, text) ← takeDigits 4 text
  let text ← takeChar ['-'] text
  let (month, text) ← takeDigits 2 text
  let text ← takeChar ['-'] text
  let (day, text) ← takeDigits 2 text
  let text ← takeChar ['T', 't', ' '] text
  let (hour, text) ← takeDigits 2 text
  let text ← takeChar [':'] text
  let (minute, text) ← takeDigits 2 text
  let text ← takeChar [':'] text
  let (second, text) ← takeDigits 2 text
  let (fraction, text) ← takeFraction text
  let (offset, text) ← takeOffset text
  let date : Date := ⟨year, month, day⟩
  if text = [] && date.isValid && hour < 24 && minute < 60 && second ≤ 60 then
    let leap := second = 60
    let clock : Int := 3600 * hour + 60 * minute + (if leap then 59 else second : Nat) - offset
    some
      { days := date.toDays + clock / 86400
        second := (clock % 86400).toNat
        nanos := if leap then billion + fraction else fraction }
  else none

def ofText? (text : String) : Option Instant := ofChars? text.toList

def date (instant : Instant) : Date := .ofDays instant.days

def since (later earlier : Instant) : Int :=
  let seconds : Int := later.second - earlier.second
  let leap : Int :=
    if earlier.second < later.second && billion ≤ earlier.nanos then 1
    else if later.second < earlier.second && billion ≤ later.nanos then -1
    else 0
  ((later.days - earlier.days) * 86400 + seconds + leap) * billion
    + (later.nanos - earlier.nanos)

def padded (width n : Nat) : String :=
  let digits := Nat.toDigits 10 n
  .ofList (List.replicate (width - digits.length) '0' ++ digits)

/-- Four digits, and a sign where they do not suffice. -/
def yearText (year : Int) : String :=
  if 0 ≤ year && year ≤ 9999 then padded 4 year.toNat
  else (if year < 0 then "-" else "+") ++ padded 4 year.natAbs

/-- Such as `Mar 4, 2025, 01:30 PM UTC`. -/
def text (instant : Instant) : String :=
  let date := instant.date
  let hour := instant.second / 3600
  let minute := padded 2 (instant.second / 60 % 60)
  let clock := padded 2 (if hour % 12 = 0 then 12 else hour % 12)
  let half := if hour < 12 then "AM" else "PM"
  let month := Date.monthName date.month
  let year := yearText date.year
  s!"{month} {date.day}, {year}, {clock}:{minute} {half} UTC"

def fractionText (nanos : Nat) : String :=
  if nanos = 0 then ""
  else if nanos % 1000000 = 0 then "." ++ padded 3 (nanos / 1000000)
  else if nanos % 1000 = 0 then "." ++ padded 6 (nanos / 1000)
  else "." ++ padded 9 nanos

/-- Such as `2025-03-04T13:30:00+00:00`. -/
def standardText (instant : Instant) : String :=
  let date := instant.date
  let leap := billion ≤ instant.nanos
  let second := instant.second % 60 + (if leap then 1 else 0)
  let nanos := if leap then instant.nanos - billion else instant.nanos
  yearText date.year ++ "-" ++ padded 2 date.month ++ "-" ++ padded 2 date.day ++ "T" ++
    padded 2 (instant.second / 3600) ++ ":" ++ padded 2 (instant.second / 60 % 60) ++ ":" ++
    padded 2 second ++ fractionText nanos ++ "+00:00"

end Instant

end RefViewer
