import MailIngest.Json.Parse
import MailIngest.Json.Render
import MailIngest.Decimal.Read
import MailIngest.Text.Blank
import MailIngest.Number

/-!
# Pending sign-ins

Between sending a user to the provider and the provider's callback, the PKCE verifier waits
under the request's `state`. An entry can be taken once, and only before it is as old as the
time to live. Times are seconds on the pending clock.

Two kinds of store keep the entries: one in the process, which a sweep clears of expired
entries, and a shared one on a Redis server, where each entry is a JSON text
`{"code_verifier": …, "created_at": …}` that the server drops at its expiry. A shared entry
that cannot be read is as good as none.

- `take_put` : a fresh entry is taken back;
- `take_take` : an entry is taken at most once.
-/

namespace MailIngest.OAuth

def expired (created now ttl : Float) : Bool := now - created ≥ ttl

/-- The in-process store: entries in the order they were made, and whether its sweeper
runs. -/
structure LocalPending where
  ttl : Float := 600.0
  sweepInterval : Float := 600.0
  entries : List (String × String × Float) := []
  sweeping : Bool := false
deriving Inhabited

namespace LocalPending

def putEntry (state : String) (e : String × Float) :
    List (String × String × Float) → List (String × String × Float)
  | [] => [(state, e)]
  | (k, v) :: rest => if k = state then (k, e) :: rest else (k, v) :: putEntry state e rest

def put (p : LocalPending) (state verifier : String) (now : Float) : LocalPending :=
  { p with entries := putEntry state (verifier, now) p.entries }

/-- The verifier kept under a state, if its entry is still fresh. -/
def fresh? (p : LocalPending) (state : String) (now : Float) : Option String :=
  match p.entries.find? (·.1 = state) with
  | none => none
  | some (_, v, created) => if expired created now p.ttl then none else some v

def erase (p : LocalPending) (state : String) : LocalPending :=
  { p with entries := p.entries.filter (·.1 ≠ state) }

/-- Takes the verifier of a state if it is still fresh; the entry is gone either way. -/
def take (p : LocalPending) (state : String) (now : Float) : Option String × LocalPending :=
  (p.fresh? state now, p.erase state)

def sweep (p : LocalPending) (now : Float) : Nat × LocalPending :=
  let keep := p.entries.filter fun (_, _, c) => !expired c now p.ttl
  (p.entries.length - keep.length, { p with entries := keep })

end LocalPending

/-- A Redis server's keys: value and expiry time. -/
structure Redis where
  keys : List (String × Json × Float) := []
deriving Inhabited

namespace Redis

def putKey (key : String) (e : Json × Float) :
    List (String × Json × Float) → List (String × Json × Float)
  | [] => [(key, e)]
  | (k, v) :: rest => if k = key then (k, e) :: rest else (k, v) :: putKey key e rest

def setex (r : Redis) (key : String) (ttl : Float) (value : Json) (now : Float) : Redis :=
  ⟨putKey key (value, now + ttl) r.keys⟩

def getdel (r : Redis) (key : String) (now : Float) : Option Json × Redis :=
  let r' : Redis := ⟨r.keys.filter (·.1 ≠ key)⟩
  match r.keys.find? (·.1 = key) with
  | some (_, v, expiry) => (if now < expiry then some v else none, r')
  | none => (none, r')

end Redis

def sharedPrefix : String := "mailarchive:pending_auth:"

def sharedEntry (verifier : String) (now : Float) : String :=
  Json.render (.obj [("code_verifier", .str verifier), ("created_at", .float now)])

/-- The time a shared entry was made, read from its JSON value: a number, a truth value or
a decimal text. `none` when the value is of no such form; an integer too large for a float
is a fault. -/
def timeOf : Json → Outcome (Option Float)
  | .float x => .ok (some x)
  | .int n => some <$> Number.intToFloat n
  | .bool b => .ok (some (if b then 1.0 else 0.0))
  | .str s => .ok (Decimal.readGroupedFloat? (Text.trim s))
  | _ => .ok none

/-- The verifier of a shared entry, if its text can be read and the entry is still fresh.
The verifier is whatever value the entry holds under its key. -/
def readShared (raw : Json) (now ttl : Float) : Outcome (Option Json) :=
  match raw with
  | .str text =>
    match Json.parse text with
    | .ok (.obj ms) =>
      match Json.lookup "code_verifier" ms, Json.lookup "created_at" ms with
      | some v, some c => do
        match ← timeOf c with
        | some created => pure (if expired created now ttl then none else some v)
        | none => pure none
      | _, _ => .ok none
    | _ => .ok none
  | _ => .ok none

/-- Putting an entry makes it the one found under its state. -/
theorem find_putEntry (state : String) (e : String × Float) (xs : List (String × String × Float)) :
    (LocalPending.putEntry state e xs).find? (·.1 = state) = some (state, e) := by
  induction xs with
  | nil => simp [LocalPending.putEntry]
  | cons kv rest ih =>
    obtain ⟨k, v⟩ := kv
    by_cases h : k = state
    · subst h
      simp [LocalPending.putEntry]
    · simp [LocalPending.putEntry, h, ih]

theorem take_put (p : LocalPending) (state v : String) (now : Float)
    (h : expired now now p.ttl = false) : ((p.put state v now).take state now).1 = some v := by
  simp [LocalPending.take, LocalPending.fresh?, LocalPending.put, find_putEntry, h]

theorem take_take (p : LocalPending) (state : String) (now later : Float) :
    (((p.take state now).2).take state later).1 = none := by
  have hnone : (p.entries.filter (·.1 ≠ state)).find? (·.1 = state) = none := by
    simp [List.find?_eq_none]
  simp only [LocalPending.take, LocalPending.fresh?, LocalPending.erase]
  rw [hnone]

end MailIngest.OAuth
