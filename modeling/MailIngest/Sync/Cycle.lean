import MailIngest.Sync.Position
import MailIngest.Service.Connection
import MailIngest.Archive.Message
import MailIngest.Mailbox.Info
import MailIngest.Settings.Model

/-!
# Sync cycles

A sync cycle walks the selectable mailboxes of an account, in the order the server lists them,
and hands over the messages whose UID is above the position's mark for their mailbox, in
ascending UID order, each read into the archive's record (`MailIngest.Archive.Message`).

- Mailboxes that cannot be selected are left out, and so are trash and junk unless the archive
  is all-inclusive.
- A mailbox's messages are fetched in batches of UIDs; a message without source is left out,
  and one that cannot be read ends its mailbox or is left out, as the policy says.
- Each mailbox stands alone: when its operations keep failing, or a message ends it, the
  failure is noted for it and the cycle goes on with the next mailbox, with a note on the
  position for a failing server; a credential that gives no token ends the cycle, as it does
  before any mailbox is listed.
- The position after the cycle (`Engine.position`) marks, for each mailbox, the highest UID
  handed over.

The messages are handed over one at a time to a consumer (`Consumer`), which may stop the
cycle or fail after any of them; the connection is logged out when the cycle ends, however it
ends.

The main statement is `setMark_get`: a mark set is the one found.
-/

namespace MailIngest.Sync

open Service

def rateLimitNote : String :=
  "Sync paused due to reaching the mail server rate limit. The process will automatically resume later."

/-- The note a cycle leaves when the credentials were refused. -/
def credentialsNote : String :=
  "Sync paused because the mail server or OAuth provider rejected the account credentials. " ++
    "Reconnect the account to resume."

/-- What a cycle is told: the batch size, whether trash and junk are archived, and what a
message that cannot be read does to its mailbox. -/
structure Options where
  batchSize : Int := 250
  allInclusive : Bool := false
  policy : Settings.ParsePolicy := .abortMailbox
deriving Inhabited

/-- A value set under a key: in place of the first entry of the key, else at the end. -/
def setKey {α : Type} : List (String × α) → String → α → List (String × α)
  | [], k, v => [(k, v)]
  | (k', v') :: rest, k, v => if k' = k then (k, v) :: rest else (k', v') :: setKey rest k v

def setDefault {α : Type} (m : List (String × α)) (k : String) (v : α) : List (String × α) :=
  if m.any (·.1 = k) then m else m ++ [(k, v)]

def markOf (m : List (String × Int)) (k : String) : Option Int := (m.find? (·.1 = k)).map (·.2)

/-- What a cycle keeps: its options, the moment of arrival of a message without date, the
markup converter, the failures noted by mailbox, the marks, the note, and the messages handed
over. -/
structure Engine where
  options : Options
  now : Time.DateTime
  converter : Html.Converter := {}
  errors : List (String × String) := []
  marks : List (String × Int) := []
  status : Option String := none
  handed : List Archive.Message := []
deriving Inhabited

def Engine.position (e : Engine) : Position := { mailboxes := e.marks, statusMessage := e.status }

/-- How a cycle stops early: a failure inside it, a failure of its consumer, or its consumer
having had enough. -/
inductive Halt where
  | fault (f : Fault)
  | consumer (f : Fault)
  | stop
deriving Inhabited

/-- A step of a cycle: on the world of the service and the engine; the engine's state stays
when the step stops. -/
abbrev CycleM := ExceptT Halt (StateM (World × Engine))

/-- A step of the service inside a cycle; its failure stops the cycle. -/
def act {α : Type} (a : Act α) : CycleM α := do
  let r ← modifyGet fun (w, e) =>
    let (r, w') := a.run.run w
    (r, (w', e))
  match r with
  | .ok v => pure v
  | .error f => throw (.fault f)

def engine : CycleM Engine := do pure (← get).2

def modifyEngine (f : Engine → Engine) : CycleM Unit := modify fun (w, e) => (w, f e)

/-- What takes the messages of a cycle: what it does after the n-th message (and before the
first), and after how many messages it stops or fails. -/
structure Consumer where
  react : Nat → Act Unit
  take : Option Nat
  raiseAfter : Option Nat

def listed : Act (List Mailbox.Entry) := do
  let ls ← withRetry (clientStep Imap.Server.listFolders) "list mailboxes"
  pure (ls.map fun l => { path := l.path, flags := l.flags, delimiter := l.delimiter })

/-- The mailboxes a cycle archives: the selectable ones, without trash and junk unless the
archive is all-inclusive. -/
def archived (allInclusive : Bool) (es : List Mailbox.Entry) : List Mailbox.Entry :=
  es.filter fun e => e.selectable && (allInclusive || !e.isTrashOrJunk)

def highestUid (path : String) : Act Nat := do
  let n ← openMailbox path
  if n = 0 then return 0
  pure ((← clientStep (Imap.Server.fetchHighest (← opened))).getD 0)

/-- The messages of a mailbox with a UID from `lo` to `hi`, as the server gives them, by UID. -/
def fetchBatch (path : String) (lo hi : Int) : Act (List Imap.Stored) := do
  let _ ← openMailbox path
  let ms ← clientStep (Imap.Server.fetchRange (← opened) lo.toNat hi.toNat)
  pure (ms.mergeSort fun a b => a.uid ≤ b.uid)

/-- The source of a fetched message, filed under the full body or the message key. -/
def sourceOf (m : Imap.Stored) : Option (List UInt8) :=
  if (m.key = some "BODY[]" || m.key = some "RFC822") && !m.source.isEmpty then some m.source else none

/-- A message handed to the consumer: the mark of its mailbox raised to its UID; the consumer
may then stop the cycle or fail. -/
def handOver (c : Consumer) (path : String) (m : Archive.Message) : CycleM Unit := do
  modifyEngine fun e =>
    let marks := if m.uid > (markOf e.marks path).getD 0 then setKey e.marks path m.uid else e.marks
    { e with marks, handed := e.handed ++ [m] }
  let n := (← engine).handed.length
  let r ← modifyGet fun (w, e) =>
    let (r, w') := (c.react n).run.run w
    (r, (w', e))
  match r with
  | .error f => throw (.consumer f)
  | .ok () =>
    if c.raiseAfter.any (n ≥ ·) then throw (.consumer (Fault.named "RuntimeError"))
    if c.take.any (n ≥ ·) then throw .stop

/-- A message read into the record, by the engine's converter. -/
def readMessage (raw : List UInt8) (path : String) (uid : Nat) : CycleM (Except Archive.Failure Archive.Message) := do
  let e ← engine
  let (r, conv) := (Archive.read e.now raw path (.ofInt uid)).run.run e.converter
  modifyEngine fun e => { e with converter := conv }
  pure r

/-- The messages of one batch handed over in order, after the position's mark of the mailbox. -/
def batchMessages (c : Consumer) (path : String) (lastUid : Int) : List Imap.Stored → CycleM Unit
  | [] => pure ()
  | m :: rest => do
    if m.uid ≤ lastUid then return ← batchMessages c path lastUid rest
    match sourceOf m with
    | none => batchMessages c path lastUid rest
    | some raw =>
      match ← readMessage raw path m.uid with
      | .error f =>
        if (← engine).options.policy = .abortMailbox then
          throw (.fault (Fault.withMessage .messageParse f.message))
        batchMessages c path lastUid rest
      | .ok msg =>
        handOver c path msg
        batchMessages c path lastUid rest

/-- What a mailbox's loop of batches ends with once it has run as many rounds as the mailbox
has UIDs to read and is still short of the highest: its batches do not move on (a batch size
below one), so it would fetch without end. -/
def endless : Fault := .runtime "EndlessLoop" (some "the batches never pass the highest UID")

/-- The batches of a mailbox from `start` to `top`, at most `fuel` of them; a positive batch size
moves `start` up at each one, so a loop still short of `top` after them is `endless`. -/
def batches (c : Consumer) (path : String) (lastUid top : Int) : Nat → Int → CycleM Unit
  | 0, start => if start > top then pure () else throw (.fault endless)
  | fuel + 1, start => do
    if start > top then return
    let size := (← engine).options.batchSize
    let stop := min (start + size - 1) top
    let ms ← act (withRetry (fetchBatch path start stop)
      ("fetch " ++ path ++ " " ++ toString start ++ ":" ++ toString stop))
    act (modifyLink fun l => { l with state := .fetching })
    batchMessages c path lastUid ms
    act (modifyLink fun l => { l with state := .connected })
    batches c path lastUid top fuel (stop + 1)

def syncMailbox (c : Consumer) (path : String) (lastUid : Int) : CycleM Unit := do
  modifyEngine fun e => { e with marks := setDefault e.marks path lastUid }
  let top ← act (withRetry (highestUid path) ("select " ++ path))
  if top ≤ lastUid then return
  batches c path lastUid top ((top - lastUid).toNat + 1) (lastUid + 1)

/-- Notes a mailbox's failure, and the note the position gets. -/
def noteFailure (path : String) (f : Fault) (note : String) : CycleM Unit :=
  modifyEngine fun e => { e with errors := setKey e.errors path (f.message?.getD ""), status := some note }

/-- Whether a failure comes from credentials that give no token, or from the vault. -/
def credentialFailure (f : Fault) : Bool := f.isA .authorization || f.isA .encryption

/-- One mailbox of a cycle, its failures noted; false when the cycle must end. -/
def mailbox (c : Consumer) (position : Position) (path : String) : CycleM Bool :=
  tryCatch (do syncMailbox c path (position.lastUid path); pure true) fun
    | .fault f =>
      if f.isA .retriesExhausted then do
        let login := match f with
          | .raised _ _ _ (some cause) => cause.isA .login
          | _ => false
        noteFailure path f (if login then credentialsNote else rateLimitNote)
        pure true
      else if f.isA .connection then do
        noteFailure path f rateLimitNote
        pure true
      else if credentialFailure f then do
        noteFailure path f credentialsNote
        pure false
      else if f.isA .messageParse then do
        modifyEngine fun e => { e with errors := setKey e.errors path (f.message?.getD "") }
        pure true
      else throw (.fault f)
    | h => throw h

def mailboxes (c : Consumer) (position : Position) : List Mailbox.Entry → CycleM Unit
  | [] => pure ()
  | m :: rest => do
    if ← mailbox c position m.path then mailboxes c position rest

/-- The messages of a cycle from a position: the mailboxes listed, then each in turn; a
credential failure while listing ends the cycle with a note. -/
def messages (c : Consumer) (position : Position) : CycleM Unit := do
  modifyEngine fun e => { e with marks := position.mailboxes, errors := [], status := none }
  let listing ← tryCatch (some <$> act listed) fun
    | .fault f =>
      if credentialFailure f then do
        modifyEngine fun e => { e with status := some credentialsNote }
        pure none
      else throw (.fault f)
    | h => throw h
  match listing with
  | none => pure ()
  | some es => mailboxes c position (archived (← engine).options.allInclusive es)

/-- A whole cycle: the consumer's first reaction, the messages, and the logout however the cycle
ends; the failure that ended it, if one did, from inside or from the consumer. -/
def run (c : Consumer) (position : Option Position) : CycleM (Option Fault) := do
  let outcome ← tryCatch (do
      let r ← modifyGet fun (w, e) =>
        let (r, w') := (c.react 0).run.run w
        (r, (w', e))
      match r with
      | .error f => throw (Halt.consumer f)
      | .ok () => messages c (position.getD {})
      pure none) fun
    | .stop => pure none
    | .fault f => pure (some f)
    | .consumer f => pure (some f)
  act logout
  pure outcome

def listMailboxes (allInclusive : Bool) : Act (List Mailbox.Entry) := do
  pure (archived allInclusive (← listed))

/-- Checks the connection: one operation, then the logout, whether it worked or not. -/
def testConnection : Act Bool := do
  let r ← tryCatch (do withRetry (clientStep Imap.Server.noop) "noop"; pure none) fun f => pure (some f)
  logout
  match r with
  | some f => throw f
  | none => pure true

theorem setMark_get (m : List (String × Int)) (k : String) (v : Int) :
    markOf (setKey m k v) k = some v := by
  induction m with
  | nil => simp [setKey, markOf]
  | cons x rest ih =>
    obtain ⟨k', v'⟩ := x
    by_cases h : k' = k
    · simp [setKey, markOf, h]
    · simp only [markOf] at ih
      simp [setKey, markOf, h, ih]

end MailIngest.Sync
