import MailIngest.Schema.Coerce
import MailIngest.Text.Literal

/-!
# Sync positions

A position records, per mailbox path, the highest UID already handed over, and an optional
note about the last cycle. On the wire it is `{"imap": {path: {"maxUid": n}}}` with the note
as `statusMessage` when there is one.

Reading the wire form is forgiving: an empty payload is the empty position, a missing or empty
entry is UID 0, and a UID may be written as a number (a fraction is cut off), a truth value or
a text of digits. Values of the wrong shape are failures of the kind that reading them raises.
A negative UID is refused, naming the mailbox.

A `PositionStore` keeps one position per ingestion source, each stored in its wire form.

- `lastUid_empty` : the empty position has UID 0 everywhere.
-/

namespace MailIngest.Sync

open Schema

/-- Highest handed-over UID per mailbox path, and a note. -/
structure Position where
  mailboxes : List (String × Int) := []
  statusMessage : Option String := none
deriving Inhabited

def Position.lastUid (p : Position) (path : String) : Int :=
  ((p.mailboxes.find? (·.1 = path)).map (·.2)).getD 0

def Position.toWire (p : Position) : Json :=
  .obj ([("imap", .obj (p.mailboxes.map fun (k, n) => (k, .obj [("maxUid", .int n)])))] ++
    match p.statusMessage with
    | some m => if m.isEmpty then [] else [("statusMessage", .str m)]
    | none => [])

/-- Every UID has at most 4300 digits, the most a number written as JSON text may have. -/
def Position.writable (p : Position) : Bool :=
  p.mailboxes.all fun e => (Nat.toDigits 10 e.2.natAbs).length ≤ 4300

def Position.toJson (p : Position) : Json :=
  .obj [("mailboxes", .obj (p.mailboxes.map fun (k, n) => (k, .int n))),
    ("status_message", Json.optStr p.statusMessage), ("wire", p.toWire)]

def checkUids (ms : List (String × Int)) : Validated (List (String × Int)) :=
  match ms.find? (·.2 < 0) with
  | some (path, _) => .failValue ("UID for " ++ Text.literal path ++ " must be >= 0")
  | none => .ok ms

def Position.make (ms : List (String × Int)) (note : Json) : Validated Position :=
  Position.mk <$> (checkUids ms).under "mailboxes" <*> (optional text note).under "status_message"

/-- A UID as the wire gives it: a number cut to a whole one, a truth value or a text. -/
def wireUid : Json → Outcome Int
  | .int n => .ok n
  | .bool b => .ok (if b then 1 else 0)
  | .float x => match Number.wholePart? x with
    | some (n, _) => .ok n
    | none => .error (Fault.named (if x.isNaN then "ValueError" else "OverflowError"))
  | .str s => match Decimal.readGroupedInt? (Text.trim s) with
    | some n => .ok n
    | none => .error (Fault.named "ValueError")
  | _ => .error (Fault.named "TypeError")

def entryUid (entry : Json) : Outcome Int :=
  if !entry.truthy then .ok 0
  else match entry with
    | .obj ms => match Json.lookup "maxUid" ms with
      | some v => if v.truthy then wireUid v else .ok 0
      | none => .ok 0
    | _ => .error (Fault.named "AttributeError")

def Position.ofWire (payload : Json) : Outcome Position :=
  if !payload.truthy then .ok {}
  else match payload with
    | .obj ms => do
      let imap := (Json.lookup "imap" ms).getD .null
      let entries ← if !imap.truthy then pure [] else match imap with
        | .obj es => es.mapM fun (path, e) => do pure (path, ← entryUid e)
        | _ => throw (Fault.named "AttributeError")
      (Position.make entries ((Json.lookup "statusMessage" ms).getD .null)).toOutcome
    | _ => .error (Fault.named "AttributeError")

def Position.check : Check Position := fun j => (object j).andThen fun ms =>
  (Position.mk
    <$> opt ms "mailboxes" [] (fun v => (mapping v).andThen fun es =>
        (Validated.traverse (fun (k, x) => ((integer x).under k).map (k, ·)) es).andThen checkUids)
    <*> opt ms "status_message" none (optional text))

/-- Positions by ingestion source, each kept in its wire form. -/
structure PositionStore where
  rows : List (String × Json) := []
deriving Inhabited

namespace PositionStore

/-- Stores a position in its wire form. Written out as JSON text, a UID of more than 4300 digits
fails with a `ValueError`, and nothing is stored. -/
def upsert (s : PositionStore) (source : String) (p : Position) : Outcome PositionStore :=
  if p.writable then .ok ⟨Json.setMember source p.toWire s.rows⟩ else .error (Fault.named "ValueError")

def fetch (s : PositionStore) (source : String) : Outcome (Option Position) :=
  match Json.lookup source s.rows with
  | some w => some <$> Position.ofWire w
  | none => .ok none

def remove (s : PositionStore) (source : String) : PositionStore :=
  ⟨s.rows.filter (·.1 ≠ source)⟩

def sources (s : PositionStore) : List String :=
  (s.rows.map (·.1)).mergeSort (fun a b => decide (a ≤ b))

end PositionStore

theorem lastUid_empty (path : String) : ({} : Position).lastUid path = 0 := rfl

end MailIngest.Sync
