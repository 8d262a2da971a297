import MailIngest.Console.Machine
import MailIngest.Service.Accounts
import MailIngest.Sync.Cycle
import MailIngest.Error.Catalogue

/-!
# Running commands

A command line runs on a machine and leaves a `Transcript`: its exit status, the JSON it
printed in the JSON modes, its other lines, the code of the library error it reported, the
class of a failure nobody caught, and the waits and token endpoint posts it made.

- A refused line exits with status 2 and changes nothing; asking for help exits with 0.
- Settings that cannot be read are a failure nobody catches.
- The mailbox connection commands report a library error with its code and exit with 1; the
  listing does not catch one.
- A sync first checks the account given: exactly one way to sign in, a port from 1 to 65535;
  a bad account exits with 1. It then runs one cycle from the stored position, writes every
  message it hands over as a file when asked to, and stores the position the cycle reaches. A
  library error ends it with its code, and the position is not stored.
- Showing a position without one stored exits with 1.

- `refused_exit` : a refused line exits with status 2;
- `refused_machine` : a refused line leaves the machine as it was.
-/

namespace MailIngest.Console

/-- What a command line leaves behind besides the machine. -/
structure Transcript where
  exit : Nat := 0
  printed : Option Json := none
  lines : List String := []
  errorCode : Option String := none
  exception : Option String := none
  sleeps : List Number := []
  posts : List Json := []
deriving Inhabited

def crash (f : Fault) : Transcript := { exit := 1, exception := some f.name }

/-- A library error reported with its code; any other failure is not caught. -/
def reported (f : Fault) : Transcript :=
  match f with
  | .raised k _ details _ => { exit := 1, errorCode := some k.code
                               lines := [Catalogue.cliReport (some k.code) k.code details] }
  | _ => crash f

def callerOf (user : String) : Option Service.Caller := some { userId := user, email := "" }

/-- A moment as a listing prints it, UTC written `Z`; a text that is no moment as it is. -/
def listedTime (t : String) : Json :=
  match Store.readTime t with
  | some d => .str d.isoZulu
  | none => .str t

/-- A credential as a listing prints it, without its tokens. -/
def summaryJson (c : Store.Summary) : Json :=
  .obj [("id", .str c.id), ("provider", .str c.provider), ("email", .str c.email),
    ("expires_at", match c.expiresAt with
      | some t => listedTime t
      | none => .null),
    ("scope", Json.optStr c.scope), ("created_at", listedTime c.createdAt),
    ("updated_at", listedTime c.updatedAt)]

def summaryLine (c : Store.Summary) : String :=
  " ".intercalate [c.id, c.provider, c.email, c.expiresAt.getD "-", c.updatedAt]

/-- Runs service steps in the world of a command, on the database its settings name. -/
def serviceRun {α : Type} (m : Machine) (r : Settings.Root) (act : Service.Act α) :
    Outcome α × Service.World × Machine :=
  let path := r.storage.databasePath
  let (res, w) := act.run.run (m.world r (m.database path))
  (res, w, m.absorb w path)

/-- A command that runs with its settings: a failure to read them is not caught. -/
def withSettings (m : Machine) (config : String)
    (k : Settings.Root → Machine → Transcript × Machine) : Transcript × Machine :=
  match m.settings config with
  | (.error f, m) => (crash f, m)
  | (.ok r, m) => k r m

def Machine.listAccounts (m : Machine) (user : String) (json : Bool) (config : String) :
    Transcript × Machine :=
  withSettings m config fun r m =>
    let (res, w, m) := serviceRun m r (Service.listConnections (callerOf user))
    let t : Transcript := match res with
      | .error f => crash f
      | .ok cs =>
        if json then { printed := some (.arr (cs.map summaryJson)) }
        else if cs.isEmpty then { lines := ["No OAuth accounts connected"] }
        else { lines := cs.map summaryLine }
    ({ t with posts := w.endpoint.posts }, m)

def Machine.deleteAccount (m : Machine) (id user config : String) : Transcript × Machine :=
  withSettings m config fun r m =>
    let (res, w, m) := serviceRun m r (Service.deleteConnection (callerOf user) id)
    let t : Transcript := match res with
      | .error f => reported f
      | .ok () => { lines := ["Deleted credential " ++ id] }
    ({ t with posts := w.endpoint.posts }, m)

def Machine.refreshAccount (m : Machine) (id user config : String) : Transcript × Machine :=
  withSettings m config fun r m =>
    let (res, w, m) := serviceRun m r (Service.renewConnection (callerOf user) id)
    let t : Transcript := match res with
      | .error f => reported f
      | .ok e => { lines := ["Refreshed credential " ++ id ++ " (" ++ e.getD "no expiry reported" ++ ")"] }
    ({ t with posts := w.endpoint.posts }, m)

/-- The account a sync is given, as it is checked; an empty password is none. -/
def accountJson (q : SyncRequest) : Json :=
  .obj [("host", .str q.host), ("port", .int q.port), ("username", .str q.username),
    ("password", match q.password with
      | some p => if p.isEmpty then .null else .str p
      | none => .null),
    ("oauth_credential_id", Json.optStr q.credentialId), ("allow_insecure_cert", .bool q.insecure)]

/-- The connection of a sync, with the retry policy and timeout of the settings. -/
def syncLink (m : Machine) (r : Settings.Root) (q : SyncRequest) (a : Imap.Account) : Service.Link :=
  { account := a
    withFlow := Imap.present q.credentialId
    policy := { maxAttempts := r.sync.maxAttempts, backoffBase := .real r.sync.backoffBase
                maxJitter := .real r.sync.maxJitterSeconds }
    jitter := { fractions := m.jitter }
    timeout := .real r.sync.connectionTimeoutSeconds }

def takeAll : Sync.Consumer := { react := fun _ => pure (), take := none, raiseAfter := none }

/-- Runs one sync cycle of an account and stores the position it reaches. -/
def Machine.sync (m : Machine) (q : SyncRequest) : Transcript × Machine :=
  withSettings m q.config fun r m =>
    match (Imap.Account.check (accountJson q)).toOutcome with
    | .error _ => ({ exit := 1, lines := ["Invalid account options"] }, m)
    | .ok account =>
      let path := r.storage.databasePath
      let db := m.database path
      match db.positions.fetch q.source with
      | .error f => (reported f, m)
      | .ok start =>
        let options : Sync.Options :=
          { batchSize := r.sync.batchSize
            allInclusive := q.allInclusive.getD r.sync.allInclusiveArchive
            policy := r.sync.parseFailurePolicy }
        let w := { m.world r db with link := some (syncLink m r q account) }
        let (res, w, e) := (Sync.run takeAll start).run.run (w, { options, now := m.clock })
        let m := m.absorb w path
        let m := match q.emlDir with
          | some dir => e.handed.foldl (fun m msg => m.writeMessage dir msg) m
          | none => m
        let done : Transcript := { sleeps := (w.link.map (·.sleeps)).getD [], posts := w.endpoint.posts }
        match res with
        | .ok none =>
          let db := m.database path
          match db.positions.upsert q.source e.position with
          | .error f => ({ crash f with sleeps := done.sleeps, posts := done.posts }, m)
          | .ok positions =>
            let m := m.putDatabase path { db with positions }
            let lines := e.position.mailboxes.map fun (p, n) => p ++ " " ++ toString n
            ({ done with lines := lines ++ e.position.statusMessage.toList }, m)
        | .ok (some f) =>
          let t := reported f
          ({ t with sleeps := done.sleeps, posts := done.posts }, m)
        | .error _ => ({ crash (Fault.named "RuntimeError") with sleeps := done.sleeps, posts := done.posts }, m)

def Machine.showPosition (m : Machine) (source : String) (json : Bool) (config : String) :
    Transcript × Machine :=
  withSettings m config fun r m =>
    match (m.database r.storage.databasePath).positions.fetch source with
    | .error f => (crash f, m)
    | .ok none => ({ exit := 1, lines := ["No sync position stored for " ++ source] }, m)
    | .ok (some p) =>
      if json then ({ printed := some p.toWire }, m)
      else ({ lines := (p.mailboxes.map fun (k, n) => k ++ " " ++ toString n) ++
          p.statusMessage.toList }, m)

def Command.perform (m : Machine) : Command → Transcript × Machine
  | .listAccounts user json config => m.listAccounts user json config
  | .deleteAccount id user config => m.deleteAccount id user config
  | .refreshAccount id user config => m.refreshAccount id user config
  | .sync q => m.sync q
  | .showPosition source json config => m.showPosition source json config

def Machine.run (m : Machine) (words : List String) : Transcript × Machine :=
  match invocation m.home m.env words with
  | .refused u => ({ exit := 2, lines := [u.message] }, m)
  | .help => ({ lines := ["Usage: imap COMMAND [OPTIONS]"] }, m)
  | .run c => c.perform m

theorem refused_exit (m : Machine) (words : List String) (u : Usage)
    (h : invocation m.home m.env words = .refused u) : (m.run words).1.exit = 2 := by
  simp [Machine.run, h]

theorem refused_machine (m : Machine) (words : List String) (u : Usage)
    (h : invocation m.home m.env words = .refused u) : (m.run words).2 = m := by
  simp [Machine.run, h]

end MailIngest.Console
