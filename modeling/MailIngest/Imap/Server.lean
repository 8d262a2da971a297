import MailIngest.Json.Value

/-!
# The mail server

The server an account talks to: an ordered listing of mailboxes, the stored messages of each
mailbox by UID (each under a body key, or under none), the mailboxes that fail to open, and
counters of trouble still to come: transport failures, rejected logins, failing logouts and
failing shutdowns. It also keeps the history a test can see: every client made, every login,
logout, shutdown and fetch.

A client operation first uses up one pending transport failure, if there is one. Opening a
broken mailbox fails. A fetch of `*` finds the highest UID; a fetch of a range finds the
messages with a UID in it, or every message of a mailbox that ignores ranges.

- `inRange_bounds` : a range fetch of a mailbox that honours ranges stays inside the range.
-/

namespace MailIngest.Imap

/-- A stored message: its UID, the key its source is filed under, and the source. -/
structure Stored where
  uid : Nat
  key : Option String
  source : List UInt8
deriving Inhabited

/-- One entry of the mailbox listing. -/
structure Listing where
  path : String
  flags : List String
  delimiter : Option String
  /-- Whether a range fetch returns every message of the mailbox. -/
  sloppy : Bool := false
deriving Inhabited

/-- What goes wrong on the server's side. -/
inductive Trouble where
  /-- A protocol failure of the client connection. -/
  | transport
  /-- The server refused the login. -/
  | rejected
  /-- The socket failed. -/
  | socket
deriving Inhabited, DecidableEq

/-- The server with its messages, its scheduled trouble and its history. -/
structure Server where
  listing : List Listing := []
  boxes : List (String × List Stored) := []
  broken : List String := []
  failing : Nat := 0
  rejecting : Nat := 0
  logoutFailing : Nat := 0
  shutdownFailing : Nat := 0
  clients : Nat := 0
  logins : List (String × String × String) := []
  logouts : Nat := 0
  shutdowns : Nat := 0
  fetches : List (String × String) := []
  connects : List Json := []
deriving Inhabited

abbrev ServerM := ExceptT Trouble (StateM Server)

namespace Server

def messages (s : Server) (path : String) : List Stored :=
  ((s.boxes.find? (·.1 = path)).map (·.2)).getD []

/-- Files messages into a mailbox, replacing those with the same UID. -/
def file (s : Server) (path : String) (ms : List Stored) : Server :=
  let merged := ms.foldl (fun acc m => if acc.any (·.uid = m.uid)
    then acc.map (fun x => if x.uid = m.uid then m else x) else acc ++ [m]) (s.messages path)
  if s.boxes.any (·.1 = path) then
    { s with boxes := s.boxes.map fun (p, xs) => if p = path then (p, merged) else (p, xs) }
  else { s with boxes := s.boxes ++ [(path, merged)] }

def sloppy (s : Server) (path : String) : Bool :=
  (s.listing.find? (·.path = path)).any (·.sloppy)

def hiccup : ServerM Unit := do
  let s ← get
  if s.failing > 0 then
    set { s with failing := s.failing - 1 }
    throw .transport

def connect (record : Json) : ServerM Unit :=
  modify fun s => { s with clients := s.clients + 1, connects := s.connects ++ [record] }

/-- Logs in with a password or a bearer token; the server may refuse. -/
def login (kind user secret : String) : ServerM Unit := do
  let s ← get
  set { s with logins := s.logins ++ [(kind, user, secret)] }
  if s.rejecting > 0 then
    modify fun s => { s with rejecting := s.rejecting - 1 }
    throw .rejected

def listFolders : ServerM (List Listing) := do
  hiccup
  pure (← get).listing

def select (path : String) : ServerM Nat := do
  hiccup
  let s ← get
  if s.broken.contains path then throw .transport
  pure (s.messages path).length

def noteFetch (opened : String) (criteria : String) : ServerM Unit :=
  modify fun s => { s with fetches := s.fetches ++ [(opened, criteria)] }

/-- The highest UID of the open mailbox, if it holds any message. -/
def fetchHighest (opened : String) : ServerM (Option Nat) := do
  hiccup
  noteFetch opened "*"
  pure (((← get).messages opened).map (·.uid) |>.max?)

def inRange (s : Server) (path : String) (lo hi : Nat) : List Stored :=
  let ms := s.messages path
  if s.sloppy path then ms else ms.filter fun m => lo ≤ m.uid ∧ m.uid ≤ hi

/-- The messages of the open mailbox with a UID from `lo` to `hi`. -/
def fetchRange (opened : String) (lo hi : Nat) : ServerM (List Stored) := do
  hiccup
  noteFetch opened (toString lo ++ ":" ++ toString hi)
  pure ((← get).inRange opened lo hi)

def noop : ServerM Unit := hiccup

def logout : ServerM Unit := do
  let s ← get
  set { s with logouts := s.logouts + 1 }
  if s.logoutFailing > 0 then
    modify fun s => { s with logoutFailing := s.logoutFailing - 1 }
    throw .transport

def shutdown : ServerM Unit := do
  let s ← get
  set { s with shutdowns := s.shutdowns + 1 }
  if s.shutdownFailing > 0 then
    modify fun s => { s with shutdownFailing := s.shutdownFailing - 1 }
    throw .socket

def snapshot (s : Server) : Json :=
  .obj [("clients", .int s.clients),
    ("logins", .arr (s.logins.map fun (k, u, p) => Json.strs [k, u, p])),
    ("logouts", .int s.logouts), ("shutdowns", .int s.shutdowns),
    ("fetch_calls", .arr (s.fetches.map fun (p, c) => Json.strs [p, c]))]

end Server

/-- A range fetch of a mailbox that honours ranges stays inside the range. -/
theorem inRange_bounds (s : Server) (path : String) (lo hi : Nat)
    (h : s.sloppy path = false) : ∀ m ∈ s.inRange path lo hi, lo ≤ m.uid ∧ m.uid ≤ hi := by
  intro m hm
  simp only [Server.inRange, h] at hm
  simpa using (List.mem_filter.mp hm).2

end MailIngest.Imap
