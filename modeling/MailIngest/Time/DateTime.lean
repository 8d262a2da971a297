import MailIngest.Time.Civil
import MailIngest.Error.Fault
import MailIngest.Decimal.Shortest

/-!
# Date and time of day

A `DateTime` is a wall-clock reading to the microsecond, counted from 1970-01-01T00:00 of its
own wall clock, and either an offset from UTC (an aware reading) or none (a naive one). Years
run from 1 to 9999; arithmetic that leaves them fails. Two aware readings compare by the instant
they name.

Readings are written in ISO 8601 extended form: date, `T`, time, a six-digit fraction only when
there is one, and the offset as `+HH:MM`. Reading accepts the date alone or with a time of
hours, minutes, seconds and any fraction (cut to microseconds), and an offset or `Z`.

- `addMicros_zero` : adding nothing changes nothing.
-/

namespace MailIngest.Time

def usSecond : Int := 1000000

def usMinute : Int := 60 * usSecond

def usHour : Int := 60 * usMinute

def usDay : Int := 24 * usHour

/-- A wall-clock reading, with its offset from UTC in microseconds if it is aware. -/
structure DateTime where
  wall : Int
  offset : Option Int
deriving DecidableEq, Inhabited

namespace DateTime

def ofParts (y : Int) (mo d hh mi ss us : Nat) (offset : Option Int) : DateTime :=
  ⟨daysOfCivil y mo d * usDay + hh * usHour + mi * usMinute + ss * usSecond + us, offset⟩

def minWall : Int := daysOfCivil 1 1 1 * usDay

def maxWall : Int := (daysOfCivil 9999 12 31 + 1) * usDay - 1

/-- The civil parts: year, month, day, hour, minute, second, microsecond. -/
def parts (t : DateTime) : Int × Nat × Nat × Nat × Nat × Nat × Nat :=
  let day := Int.fdiv t.wall usDay
  let rest := (t.wall - day * usDay).toNat
  let (y, m, d) := civilOfDays day
  (y, m, d, rest / 3600000000, rest / 60000000 % 60, rest / 1000000 % 60, rest % 1000000)

/-- The instant of an aware reading, in microseconds since the epoch. -/
def instant (t : DateTime) : Int := t.wall - t.offset.getD 0

/-- A reading moved by some microseconds; leaving the calendar is a failure. -/
def addMicros (t : DateTime) (us : Int) : Outcome DateTime :=
  let w := t.wall + us
  if w < minWall ∨ w > maxWall then .error (Fault.named "OverflowError")
  else .ok { t with wall := w }

def withOffset (t : DateTime) (o : Option Int) : DateTime := { t with offset := o }

def assumeUtc (t : DateTime) : DateTime := if t.offset.isSome then t else t.withOffset (some 0)

/-- Whether the first aware reading is not later than the second. -/
def le (a b : DateTime) : Bool := a.instant ≤ b.instant

def pad (w : Nat) (n : Nat) : String :=
  let s := toString n
  String.ofList (List.replicate (w - s.length) '0') ++ s

/-- The offset text: sign, hours and minutes, and seconds and microseconds when present. -/
def offsetText (o : Int) : String :=
  let sign := if o < 0 then "-" else "+"
  let a := o.natAbs
  let base := sign ++ pad 2 (a / 3600000000) ++ ":" ++ pad 2 (a / 60000000 % 60)
  let secs := a / 1000000 % 60
  let us := a % 1000000
  if secs = 0 ∧ us = 0 then base
  else if us = 0 then base ++ ":" ++ pad 2 secs
  else base ++ ":" ++ pad 2 secs ++ "." ++ pad 6 us

def localText (t : DateTime) : String :=
  let (y, m, d, hh, mi, ss, us) := t.parts
  pad 4 y.toNat ++ "-" ++ pad 2 m ++ "-" ++ pad 2 d ++ "T" ++ pad 2 hh ++ ":" ++ pad 2 mi ++
    ":" ++ pad 2 ss ++ (if us = 0 then "" else "." ++ pad 6 us)

def iso (t : DateTime) : String :=
  t.localText ++ match t.offset with
    | some o => offsetText o
    | none => ""

def isoZulu (t : DateTime) : String :=
  t.localText ++ match t.offset with
    | some 0 => "Z"
    | some o => offsetText o
    | none => ""

def takeDigits (n : Nat) (cs : List Char) : Option (Nat × List Char) :=
  let ds := cs.take n
  if ds.length = n ∧ ds.all Char.isDigit then
    some (ds.foldl (fun a c => a * 10 + (c.toNat - 48)) 0, cs.drop n)
  else none

/-- A fraction of a second: its digits cut to six, as microseconds. -/
def readFraction (cs : List Char) : Option Nat :=
  if cs.isEmpty ∨ !cs.all Char.isDigit then none
  else
    let six := (cs.take 6 ++ List.replicate (6 - min 6 cs.length) '0')
    (takeDigits 6 six).map (·.1)

/-- A time of day: hours, then optionally minutes, seconds and a fraction. -/
def readClock (cs : List Char) : Option (Nat × Nat × Nat × Nat) := do
  let (hh, r1) ← takeDigits 2 cs
  match r1 with
  | [] => pure (hh, 0, 0, 0)
  | ':' :: r2 =>
    let (mi, r3) ← takeDigits 2 r2
    match r3 with
    | [] => pure (hh, mi, 0, 0)
    | ':' :: r4 =>
      let (ss, r5) ← takeDigits 2 r4
      match r5 with
      | [] => pure (hh, mi, ss, 0)
      | c :: frac => if c = '.' ∨ c = ',' then pure (hh, mi, ss, ← readFraction frac) else none
    | _ => none
  | _ => none

def readOffset (cs : List Char) : Option Int := do
  let (hh, mi, ss, us) ← readClock cs
  pure (hh * usHour + mi * usMinute + ss * usSecond + us)

def splitZone (cs : List Char) : List Char × Option (List Char) :=
  match cs.findIdx? (fun c => c = 'Z' ∨ c = '+' ∨ c = '-') with
  | some i => (cs.take i, some (cs.drop i))
  | none => (cs, none)

/-- Reads an ISO 8601 date with an optional time and offset. -/
def parse? (s : String) : Option DateTime := do
  let cs := s.toList
  let (y, r1) ← takeDigits 4 cs
  let r1 ← match r1 with
    | '-' :: r => some r
    | _ => none
  let (mo, r2) ← takeDigits 2 r1
  let r2 ← match r2 with
    | '-' :: r => some r
    | _ => none
  let (d, r3) ← takeDigits 2 r2
  if mo < 1 ∨ mo > 12 ∨ d < 1 ∨ d > monthDays y mo ∨ y < 1 then none
  match r3 with
  | [] => pure (ofParts y mo d 0 0 0 0 none)
  | _ :: time =>
    let (clock, zone) := splitZone time
    let (hh, mi, ss, us) ← readClock clock
    if hh > 23 ∨ mi > 59 ∨ ss > 59 then none
    let off ← match zone with
      | none => some none
      | some ['Z'] => some (some 0)
      | some ('+' :: z) => (readOffset z).map some
      | some ('-' :: z) => (readOffset z).map (fun o => some (-o))
      | some _ => none
    if off.any (fun o => o.natAbs ≥ usDay) then none
    pure (ofParts y mo d hh mi ss us off)

/-- Adding nothing changes nothing, within the calendar. -/
theorem addMicros_zero (t : DateTime) (h1 : minWall ≤ t.wall) (h2 : t.wall ≤ maxWall) :
    t.addMicros 0 = .ok t := by
  simp only [addMicros, Int.add_zero]
  rw [if_neg (by omega)]

end DateTime

/-- A span of whole seconds in microseconds; spans beyond a billion days are a failure. -/
def secondsMicros (n : Int) : Outcome Int :=
  if n.natAbs > 999999999 * 86400 + 86399 then .error (Fault.named "OverflowError")
  else .ok (n * usSecond)

/-- A span of float seconds in microseconds, rounded half to even. -/
def floatSecondsMicros (x : Float) : Outcome Int :=
  if x.isNaN || x.isInf then .error (Fault.named "OverflowError")
  else match Decimal.Binary.ofFloat x with
    | none => .ok 0
    | some b =>
      let num : Nat := b.mant * 1000000 * Decimal.pow2 b.exp
      let den : Nat := Decimal.pow2 (-b.exp)
      let q := num / den
      let r := num % den
      let q' := if 2 * r > den ∨ (2 * r = den ∧ q % 2 = 1) then q + 1 else q
      let v : Int := if x < 0.0 then -(q' : Int) else q'
      if v.natAbs > (999999999 * 86400 + 86399) * 1000000 then .error (Fault.named "OverflowError")
      else .ok v

end MailIngest.Time
