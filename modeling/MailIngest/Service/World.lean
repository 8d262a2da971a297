import MailIngest.Vault.Sealer
import MailIngest.Store.Credentials
import MailIngest.Settings.Model
import MailIngest.OAuth.Pending
import MailIngest.OAuth.Endpoint
import MailIngest.OAuth.Provider
import MailIngest.Imap.Server
import MailIngest.Imap.Account
import MailIngest.Retry.Policy
import MailIngest.Sync.Position

/-!
# The world a service runs in

Everything a running service reads and changes: the wall clock (and whether token times read
it without its offset), the pending-sign-in clock, the vault, the credential store, the OAuth
settings and provider, the pending sign-ins, the token endpoint, the mail server and the
connection to it, and what earlier steps left for later ones.

A step of the service is an `Act`: it changes the world and yields a value or stops with a
fault, and the changes made before a fault stay. `sealing`, `onServer` and the other lifts run
the steps of one part of the world inside an `Act`.

- `sealing_pure` : a vault step that only yields a value changes nothing.
-/

namespace MailIngest.Service

/-- Where pending sign-ins wait: in the process, or in a shared store, whose client is
closed with the service and cannot be opened again. -/
inductive PendingStore where
  | inProcess (p : OAuth.LocalPending)
  | shared (r : OAuth.Redis) (ttl : Float) (live : Bool)
deriving Inhabited

/-- The states of a mail server connection. -/
inductive LinkState where
  | disconnected
  | connecting
  | connected
  | fetching
  | backoff
deriving DecidableEq, Inhabited

def LinkState.name : LinkState → String
  | disconnected => "disconnected"
  | connecting => "connecting"
  | connected => "connected"
  | fetching => "fetching"
  | backoff => "error_backoff"

/-- A connection to the mail server: the account, whether OAuth tokens can be resolved, the
retry policy with its jitter, the timeout, the live client with the mailbox it has open, the
state, the waits between attempts so far, and what its client factory raises, by class name,
instead of making a client (the test server's factory makes every client). -/
structure Link where
  account : Imap.Account
  withFlow : Bool := true
  policy : Retry.Policy := {}
  jitter : Retry.Jitter := {}
  timeout : Number := .real 30.0
  client : Option (Option String) := none
  state : LinkState := .disconnected
  sleeps : List Number := []
  refusal : Option String := none
deriving Inhabited

/-- The world of a service. -/
structure World where
  wall : Time.DateTime
  /-- The moment a message without a readable date is taken to have arrived. -/
  arrival : Time.DateTime
  naive : Bool := false
  /-- The clock the token lifecycle reads when it is not the wall clock. -/
  tokenClock : Option Time.DateTime := none
  pendingNow : Float
  sealer : Vault.Sealer
  store : Store.Credentials := {}
  settings : Settings.OAuth := {}
  provider : Json := .str OAuth.microsoft
  pending : PendingStore := .inProcess {}
  endpoint : OAuth.Endpoint := {}
  seen : List String := []
  lastSeen : Option String := none
  lastState : Option String := none
  server : Imap.Server := {}
  link : Option Link := none
  lastPosition : Option Sync.Position := none
deriving Inhabited

abbrev Act := ExceptT Fault (StateM World)

def sealing {α : Type} (m : Vault.SealM α) : Act α := do
  let r ← modifyGet fun w =>
    let (r, s) := m.run.run w.sealer
    (r, { w with sealer := s })
  MonadExcept.ofExcept r

/-- Runs a client step on the world's mail server; its trouble is returned, not raised. -/
def onServer {α : Type} (m : Imap.ServerM α) : Act (Except Imap.Trouble α) :=
  modifyGet fun w =>
    let (r, s) := m.run.run w.server
    (r, { w with server := s })

def onStore {α : Type} (f : Store.Credentials → α × Store.Credentials) : Act α :=
  modifyGet fun w =>
    let (a, s) := f w.store
    (a, { w with store := s })

def store : Act Store.Credentials := do pure (← get).store

/-- The time as the token lifecycle reads it: its own clock if it has one, else the wall
clock, or the wall clock's local time taken as UTC when it is read without its offset. -/
def utcNow : Act Time.DateTime := do
  let w ← get
  match w.tokenClock with
  | some t => pure t
  | none => pure (if w.naive then w.wall.withOffset (some 0) else w.wall)

def storeNow : Act Time.DateTime := do pure (← get).wall

/-- A vault step that only yields a value changes nothing. -/
theorem sealing_pure {α : Type} (a : α) (w : World) :
    ((sealing (pure a : Vault.SealM α)).run.run w) = (.ok a, w) := rfl

end MailIngest.Service
