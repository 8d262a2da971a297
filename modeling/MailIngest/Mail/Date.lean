import MailIngest.Time.DateTime
import MailIngest.Text.Blank
import MailIngest.Text.Case
import MailIngest.Text.Numeral

/-!
# Dates of mail headers

A date header reads `Wed, 01 May 2024 10:00:00 +0200`, but mail in the wild bends every part
of it, and the reading (`stamp?`) follows the long-standing lenient rules: the day name is
optional and may be glued to a comma, day and month may swap, the time may come before the
year, `HH:MM`, `HH:MM:SS` and periods for colons are accepted, two-digit years are taken as
1969 to 2068, and the zone is a numeric offset or one of the North American zone names. A zone
of `-0000`, or one not understood, leaves the time without an offset.

A reading becomes a date and time (`toDateTime`) only when the calendar allows it: a value past
what a machine integer holds is an overflow, a day or hour out of range is an invalid value,
and so is a zone of a day or more, which is checked first.

A date is written back (`format`) with the English day and month names, and `-0000` for a time
without an offset.
-/

namespace MailIngest.Mail.Date

open Time

def monthNames : List String :=
  ["jan", "feb", "mar", "apr", "may", "jun", "jul", "aug", "sep", "oct", "nov", "dec",
   "january", "february", "march", "april", "may", "june", "july", "august", "september",
   "october", "november", "december"]

def dayNames : List String := ["mon", "tue", "wed", "thu", "fri", "sat", "sun"]

/-- The zone names a date may end with, with their offsets as `HHMM`. -/
def zoneNames : List (String × Int) :=
  [("UT", 0), ("UTC", 0), ("GMT", 0), ("Z", 0), ("AST", -400), ("ADT", -300), ("EST", -500),
   ("EDT", -400), ("CST", -600), ("CDT", -500), ("MST", -700), ("MDT", -600), ("PST", -800),
   ("PDT", -700)]

/-- A decimal integer as a token holds it: an optional sign and digits of any script, grouped
by single underscores. -/
def readInt (s : String) : Option Int := Text.readNumeral? s

/-- A date as read: year, month, day, hour, minute, second, and the offset in seconds. -/
structure Stamp where
  year : Int
  month : Nat
  day : Int
  hour : Int
  minute : Int
  second : Int
  zone : Option Int
deriving DecidableEq, Inhabited

def afterLastComma (s : String) : String :=
  let cs := s.toList
  if cs.contains ',' then String.ofList (cs.reverse.takeWhile (· ≠ ',')).reverse else s

def findChar (c : Char) (s : String) : Option Nat := s.toList.findIdx? (· = c)

def dropComma (s : String) : String :=
  if s.endsWith "," then String.ofList s.toList.dropLast else s

/-- The words of a date, with a leading day name dropped, an RFC 850 date split at its
hyphens, and a zone glued to the time split off; fewer than five is no date. -/
def dateWords (data : String) : Option (List String) := do
  let ws := Text.words data
  let first ← ws.head?
  let ws := if first.endsWith "," || dayNames.contains (Text.lower first) then ws.tail
    else (afterLastComma first) :: ws.tail
  let ws := match ws with
    | [a, b, c] =>
      match a.splitOn "-" with
      | [x, y, z] => [x, y, z, b, c]
      | _ => ws
    | _ => ws
  let ws := match ws with
    | [a, b, c, s] =>
      let i := match findChar '+' s with
        | some i => some i
        | none => findChar '-' s
      match i with
      | some (i + 1) => [a, b, c, String.ofList (s.toList.take (i + 1)),
          String.ofList (s.toList.drop (i + 1))]
      | _ => [a, b, c, s, ""]
    | _ => ws
  if ws.length < 5 then none else pure (ws.take 5)

/-- The index of a month name, from one; the long names count from one again. -/
def monthOf (m : String) : Option Nat :=
  (monthNames.findIdx? (· = m)).map fun i => if i + 1 > 12 then i + 1 - 12 else i + 1

def clockOf (tm : String) : Option (String × String × String) :=
  match tm.splitOn ":" with
  | [h, m] => some (h, m, "0")
  | [h, m, s] => some (h, m, s)
  | [one] =>
    if one.toList.contains '.' then
      match one.splitOn "." with
      | [h, m] => some (h, m, "0")
      | [h, m, s] => some (h, m, s)
      | _ => none
    else none
  | _ => none

def zoneOf (tz : String) : Option Int :=
  let tz := Text.upper tz
  let off := match zoneNames.find? (·.1 = tz) with
    | some (_, v) => some v
    | none =>
      match readInt tz with
      | some 0 => if tz.startsWith "-" then none else some 0
      | r => r
  off.map fun o =>
    if o = 0 then 0
    else
      let a := o.natAbs
      let s : Int := (a / 100 * 3600 + a % 100 * 60 : Nat)
      if o < 0 then -s else s

def stamp? (data : String) : Option Stamp := do
  let ws ← dateWords data
  match ws with
  | [dd, mm, yy, tm, tz] =>
    if dd.isEmpty || mm.isEmpty || yy.isEmpty then none
    else
      let mm := Text.lower mm
      let (dd, month) ← match monthOf mm with
        | some m => some (dd, m)
        | none => (monthOf (Text.lower dd)).map fun m => (mm, m)
      let dd := dropComma dd
      let (yy, tm) := match findChar ':' yy with
        | some (_ + 1) => (tm, yy)
        | _ => (yy, tm)
      let yy ← if yy.endsWith "," then
          let y := dropComma yy
          if y.isEmpty then none else some y
        else some yy
      let (yy, tz) := if (yy.toList.head?.map Text.isDigitChar).getD false then (yy, tz) else (tz, yy)
      let tm := dropComma tm
      let (h, mi, s) ← clockOf tm
      let year ← readInt yy
      let day ← readInt dd
      let hour ← readInt h
      let minute ← readInt mi
      let second ← readInt s
      let year := if year < 100 then (if year > 68 then year + 1900 else year + 2000) else year
      pure { year, month, day, hour, minute, second, zone := zoneOf tz }
  | _ => none

def fitsInt (n : Int) : Bool := -2147483648 ≤ n && n ≤ 2147483647

/-- A date as a date and time: an overflow for a number no machine integer holds, an invalid
value for one out of its range or a zone of a day or more. -/
def toDateTime (st : Stamp) : Except String DateTime := do
  let offset ← match st.zone with
    | none => pure none
    | some z =>
      if (Int.fdiv z 86400).natAbs > 999999999 then .error "OverflowError"
      else if z ≤ -86400 || z ≥ 86400 then .error "ValueError"
      else pure (some (z * usSecond))
  if !([st.year, st.month, st.day, st.hour, st.minute, st.second].all fitsInt) then
    .error "OverflowError"
  else if st.year < 1 || st.year > 9999 then .error "ValueError"
  else if st.day < 1 || st.day > monthDays st.year st.month then .error "ValueError"
  else if st.hour < 0 || st.hour > 23 || st.minute < 0 || st.minute > 59 ||
      st.second < 0 || st.second > 59 then .error "ValueError"
  else pure (DateTime.ofParts st.year st.month st.day.toNat st.hour.toNat st.minute.toNat
    st.second.toNat 0 offset)

/-- A date header's text as a date and time: an invalid value when it is no date. -/
def parse (data : String) : Except String DateTime :=
  match stamp? data with
  | none => .error "ValueError"
  | some st => toDateTime st

/-- The English short names of the days of the week, from Monday. -/
def weekdayNames : List String := ["Mon", "Tue", "Wed", "Thu", "Fri", "Sat", "Sun"]

def shortMonths : List String :=
  ["Jan", "Feb", "Mar", "Apr", "May", "Jun", "Jul", "Aug", "Sep", "Oct", "Nov", "Dec"]

/-- An offset written as a mail zone: sign, hours and minutes, seconds when there are some. -/
def zoneText (o : Int) : String :=
  let sign := if o < 0 then "-" else "+"
  let a := o.natAbs / 1000000
  let base := sign ++ DateTime.pad 2 (a / 3600) ++ DateTime.pad 2 (a / 60 % 60)
  if a % 60 = 0 then base else base ++ DateTime.pad 2 (a % 60)

def format (t : DateTime) : String :=
  let (y, m, d, hh, mi, ss, _) := t.parts
  let days := Int.fdiv t.wall usDay
  let weekday := ((days + 3) % 7).toNat
  weekdayNames.getD weekday "Mon" ++ ", " ++ DateTime.pad 2 d ++ " " ++
    shortMonths.getD (m - 1) "Jan" ++ " " ++ DateTime.pad 4 y.toNat ++ " " ++ DateTime.pad 2 hh ++
    ":" ++ DateTime.pad 2 mi ++ ":" ++ DateTime.pad 2 ss ++ " " ++
    (match t.offset with
      | some o => zoneText o
      | none => "-0000")


example : format ⟨0, some 0⟩ = "Thu, 01 Jan 1970 00:00:00 +0000" := by decide

end MailIngest.Mail.Date
