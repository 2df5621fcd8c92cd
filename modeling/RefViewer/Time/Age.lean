import RefViewer.Dataset
import RefViewer.Time.Instant

/-!
# Age of a dataset

A timestamp is shown with the whole days and hours that have passed since. What is not a
timestamp is shown as it is, and a dataset without one counts as updated just now.
-/

namespace RefViewer.Age

def hourNanos : Nat := 3600 * Instant.billion

def dayNanos : Nat := 24 * hourNanos

def whole (unit : Nat) (span : Int) : Int := span.tdiv unit

def plural (n : Int) (unit : String) : String :=
  if n = 1 then s!"{n} {unit}" else s!"{n} {unit}s"

/-- Days, and the hours beside them; a part that is not positive is left out. -/
def phraseOf (span : Int) : String :=
  let days := whole dayNanos span
  let hours := whole hourNanos span - days * 24
  if 0 < days then
    if 0 < hours then plural days "day" ++ " and " ++ plural hours "hour" else plural days "day"
  else if 0 < hours then plural hours "hour"
  else "less than an hour"

def phrase (now updated : Instant) : String := phraseOf (now.since updated)

def text (timestamp : String) (now : Instant) : String :=
  match Instant.ofText? timestamp with
  | some updated => updated.text ++ " (" ++ phrase now updated ++ " ago)"
  | none => timestamp

end RefViewer.Age

namespace RefViewer

def Metadata.updatedText (metadata : Metadata) (now : Instant) : String :=
  Age.text (metadata.updated.getD now.standardText) now

end RefViewer
