import MailIngest.Json.Value
import MailIngest.Error.Fault
import MailIngest.Time.DateTime
import MailIngest.Text.Base64
import MailIngest.Text.Utf8

/-!
# Reading requests

A request is a JSON object of named fields. A field that must be there and is missing is a
`KeyError`; a field that must be a text and is not is an `AttributeError`, as when a text
operation meets another kind of value. Optional fields fall back to their defaults, and so does
an explicit `null` where the default is no value.

- `text_of_str` : a text field reads as its text.
-/

namespace MailIngest.Api

/-- The services the surroundings supply: the prefix that seeds the random stream, how the
scratch directory and the home directory are written in answers, and where the clocks start:
the wall clock, the pending-sign-in clock in seconds, the moment a message without a readable
date is taken to have arrived, and the moment the command line's own clock reads. -/
structure Host where
  seedPrefix : String
  scratch : String
  home : String
  wallClock : Time.DateTime
  pendingClock : Float
  arrivalClock : Time.DateTime
  commandClock : Time.DateTime
deriving Inhabited

def need (req : Json) (key : String) : Outcome Json :=
  match req.get? key with
  | some v => .ok v
  | none => .error (Fault.named "KeyError")

def asText : Json → Outcome String
  | .str s => .ok s
  | _ => .error (Fault.named "AttributeError")

def text (req : Json) (key : String) : Outcome String := do asText (← need req key)

def fieldD (req : Json) (key : String) (dflt : Json) : Json := (req.get? key).getD dflt

def textD (req : Json) (key : String) (dflt : String) : Outcome String :=
  match req.get? key with
  | some v => asText v
  | none => .ok dflt

/-- A moment as a request writes it; one without an offset is in UTC. -/
def asTime : Json → Outcome Time.DateTime
  | .str s => match Time.DateTime.parse? s with
    | some t => .ok t.assumeUtc
    | none => .error (Fault.named "ValueError")
  | _ => .error (Fault.named "TypeError")

/-- An optional moment field, `dflt` when missing or `null`. -/
def timeD (req : Json) (key : String) (dflt : Time.DateTime) : Outcome Time.DateTime :=
  match req.get? key with
  | none | some .null => .ok dflt
  | some v => asTime v

/-- A field that holds bytes: its sibling with the suffix `_b64` in base64 wins, else the
field's text in UTF-8. -/
def bytesField (req : Json) (key : String) : Outcome (List UInt8) :=
  match req.get? (key ++ "_b64") with
  | some v => do
    let t ← asText v
    if !t.toList.all (·.toNat < 0x80) then throw (Fault.named "ValueError")
    match Text.Base64.decode false t.toList with
    | some bs => pure bs
    | none => throw (Fault.named "Error")
  | none => do pure (Text.Utf8.encode (← text req key))

theorem text_of_str (req : Json) (key s : String) (h : req.get? key = some (.str s)) :
    text req key = .ok s := by
  simp [text, need, h, asText, bind, Except.bind]

end MailIngest.Api
