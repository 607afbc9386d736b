/-!
# Clock

Instants as milliseconds since the Unix epoch, and their calendar text.

The calendar date of a day count follows the proleptic Gregorian calendar in eras of 400
years (146097 days); within an era the year starts on the first of March, so the leap day is
the last day of its year and needs no special case. The text is the RFC 3339 form in UTC with
the fraction of a second written only as far as its last non-zero digit.
-/

namespace BrowserSessions.Clock

/-- Milliseconds in a day. -/
def msPerDay : Nat := 86400000

/-- The year, month and day of a day count from 1970-01-01. -/
def civil (days : Nat) : Nat × Nat × Nat :=
  let z := days + 719468
  let era := z / 146097
  let doe := z % 146097
  let yoe := (doe - doe / 1460 + doe / 36524 - doe / 146096) / 365
  let doy := doe - (365 * yoe + yoe / 4 - yoe / 100)
  let mp := (5 * doy + 2) / 153
  let d := doy - (153 * mp + 2) / 5 + 1
  let m := if mp < 10 then mp + 3 else mp - 9
  let y := yoe + era * 400 + (if m ≤ 2 then 1 else 0)
  (y, m, d)

/-- A number in at least `width` digits, with leading zeros. -/
def padded (width n : Nat) : String :=
  let s := toString n
  String.ofList (List.replicate (width - s.length) '0') ++ s

/-- The fraction of a second in milliseconds as `.ddd` without trailing zeros, or nothing. -/
def fraction (ms : Nat) : String :=
  if ms == 0 then ""
  else
    let ds := (padded 3 ms).toList
    "." ++ String.ofList (ds.reverse.dropWhile (· == '0')).reverse

/-- The RFC 3339 text of an instant, in UTC. -/
def rfc3339 (ms : Nat) : String :=
  let (y, m, d) := civil (ms / msPerDay)
  let inDay := ms % msPerDay
  let secs := inDay / 1000
  padded 4 y ++ "-" ++ padded 2 m ++ "-" ++ padded 2 d ++ "T" ++ padded 2 (secs / 3600) ++ ":" ++
    padded 2 (secs / 60 % 60) ++ ":" ++ padded 2 (secs % 60) ++ fraction (inDay % 1000) ++ "Z"

/-- The ISO 8601 text of an instant in UTC with milliseconds always written, as log lines carry
    it. -/
def logStamp (ms : Nat) : String :=
  let (y, m, d) := civil (ms / msPerDay)
  let inDay := ms % msPerDay
  let secs := inDay / 1000
  padded 4 y ++ "-" ++ padded 2 m ++ "-" ++ padded 2 d ++ "T" ++ padded 2 (secs / 3600) ++ ":" ++
    padded 2 (secs / 60 % 60) ++ ":" ++ padded 2 (secs % 60) ++ "." ++ padded 3 (inDay % 1000) ++ "Z"

/-- The day of the week of a day count from 1970-01-01, Sunday being `0`; that first day was a
    Thursday. -/
def weekday (days : Nat) : Nat := (days + 4) % 7

/-- The time of day of an instant as `hh:mm:ss`. -/
def timeOfDay (ms : Nat) : String :=
  let secs := ms % msPerDay / 1000
  padded 2 (secs / 3600) ++ ":" ++ padded 2 (secs / 60 % 60) ++ ":" ++ padded 2 (secs % 60)

/-- The text of an instant in the `Date` header of a response: weekday, day, month, year and
    time in GMT. -/
def httpDate (ms : Nat) : String :=
  let days := ms / msPerDay
  let (y, m, d) := civil days
  let dayName := ["Sun", "Mon", "Tue", "Wed", "Thu", "Fri", "Sat"].getD (weekday days) ""
  let monthName := ["Jan", "Feb", "Mar", "Apr", "May", "Jun", "Jul", "Aug", "Sep", "Oct", "Nov",
    "Dec"].getD (m - 1) ""
  dayName ++ ", " ++ padded 2 d ++ " " ++ monthName ++ " " ++ padded 4 y ++ " " ++ timeOfDay ms ++
    " GMT"

/-- The date and time that start a line of the program's own messages, as `yyyy/mm/dd hh:mm:ss`. -/
def consoleStamp (ms : Nat) : String :=
  let (y, m, d) := civil (ms / msPerDay)
  padded 4 y ++ "/" ++ padded 2 m ++ "/" ++ padded 2 d ++ " " ++ timeOfDay ms

end BrowserSessions.Clock
