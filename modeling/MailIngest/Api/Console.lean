import MailIngest.Api.Scenario.Mailserver
import MailIngest.Api.Scenario.Credentials
import MailIngest.Api.Configuration
import MailIngest.Console.Commands
import MailIngest.Digest.Sha256
import MailIngest.Text.Hex
import MailIngest.Text.Replace

/-!
# Requests that run command lines

A request runs several command lines, one after another, on one machine in the scratch
directory's `cli` directory. The machine's settings file holds a database path there, the
vault key and no backoff jitter, with the request's settings merged in one level deep. Before
the first line, the request's credentials are stored on the wall clock, the request's positions
are stored, and the mail server and the token endpoint are set up as the request says.

Each line reports its exit status, its printed JSON, the code of the error it reported, the
failure nobody caught, its waits and token endpoint posts, and the machine after it: the mail
server's history, the stored positions, the credentials of the request's users with their
tokens opened, the message files under `cli/eml` with their sizes and digests, and the
keychain's entries.
-/

namespace MailIngest.Api

open Console

/-- Merges one setting into a settings object one level deep: objects merge member by member,
anything else replaces. -/
def mergeShallow (acc : List (String × Json)) (kv : String × Json) : List (String × Json) :=
  match kv.2, Json.lookup kv.1 acc with
  | .obj vs, some (.obj bs) =>
    Json.setMember kv.1 (.obj (vs.foldl (fun b (k, v) => Json.setMember k v b) bs)) acc
  | v, _ => Json.setMember kv.1 v acc

def consoleKey (req : Json) : Json := fieldD req "vault_key" (.str defaultVaultKey)

def consoleConfig (host : Host) (req : Json) : Json :=
  let base := [("storage", .obj [("database_path", .str (host.scratch ++ "/cli/mailarchive.db"))]),
    ("security", .obj [("encryption_key", consoleKey req)]),
    ("sync", .obj [("max_jitter_seconds", .int 0)])]
  .obj ((fieldD req "config" (.obj [])).members.foldl mergeShallow base)

def consoleConfigPath (host : Host) : String := host.scratch ++ "/cli/config.json"

def consoleDatabase (host : Host) (config : Json) : String :=
  match (config.get? "storage").bind (·.get? "database_path") with
  | some (.str p) => Text.normalizePath p
  | _ => host.scratch ++ "/cli/mailarchive.db"

/-- Stores the request's credentials, through the token lifecycle on the wall clock. -/
def seedCredentials (host : Host) (req : Json) (path : String) (m : Machine) : Outcome Machine := do
  let db := m.database path
  let w : Service.World :=
    { wall := host.wallClock, arrival := host.arrivalClock, pendingNow := host.pendingClock,
      sealer := { configured := consoleKey req, entropy := m.entropy }, store := db.credentials }
  let specs := (fieldD req "credentials" (.arr [])).getArr?.getD []
  let seed : Service.Act Unit := specs.forM fun spec => do
    let user ← decoded (textD spec "user_id" "alice")
    let provider ← decoded (textD spec "provider" OAuth.microsoft)
    let email ← decoded (textD spec "email" "alice@example.com")
    let tokens ← decoded (do (OAuth.Tokens.check (← need spec "tokens")).toOutcome)
    let _ ← Service.storeToken user provider email tokens
  let (r, w) := seed.run.run w
  r
  pure { m.putDatabase path { db with credentials := w.store } with entropy := w.sealer.entropy }

def seedPositions (req : Json) (path : String) (m : Machine) : Outcome Machine := do
  let db := m.database path
  let positions ← (fieldD req "positions" (.obj [])).members.foldlM
    (fun s (src, wire) => do s.upsert src (← Sync.Position.ofWire wire)) db.positions
  pure (m.putDatabase path { db with positions })

/-- The mail server as the request sets it up, with the trouble it starts with. -/
def consoleServer (req : Json) : Outcome Imap.Server := do
  let s ← setupServer req
  let failing ← countOf (fieldD req "fail_next" (.int 0))
  let rejecting ← countOf (fieldD req "rejected_logins" (.int 0))
  pure { s with failing, rejecting }

def consoleEndpoint (req : Json) : Outcome OAuth.Endpoint :=
  ((fieldD req "queue" (.arr [])).getArr?.getD []).foldlM
    (fun e q => do pure (e.enqueue { reply := ← replyOf q })) {}

def consoleMachine (host : Host) (req : Json) : Outcome Machine := do
  let config := consoleConfig host req
  let path := consoleDatabase host config
  let jitter ← ((fieldD req "jitter" (.arr [.float 0.0])).getArr?.getD []).mapM fun j =>
    numberField (.obj [("u", j)]) "u" (.real 0.0)
  let m : Machine :=
    { home := host.home, workdir := host.scratch,
      files := [(consoleConfigPath host, Text.Utf8.encode (Json.render config))],
      env := envOf req, server := ← consoleServer req,
      endpoint := ← consoleEndpoint req, entropy := { seed := host.seedPrefix },
      storeClock := host.wallClock, clock := host.commandClock, jitter }
  let m ← seedCredentials host req path m
  seedPositions req path m

/-- A command line with the settings file and the scratch directory filled in. -/
def consoleWords (host : Host) (words : List Json) : Outcome (List String) :=
  words.mapM fun w => do
    let t ← asText w
    pure (Text.replaceAll "$TMP" host.scratch (Text.replaceAll "$CONFIG" (consoleConfigPath host) t))

/-- A credential with its tokens opened by the request's vault key. -/
def openedCredential (req : Json) (c : Store.Credential) : Json :=
  let opened (token : String) : Json :=
    match ((Vault.decrypt (.str token)).run.run { configured := consoleKey req, entropy := { seed := "" } }).1 with
    | .ok s => .str s
    | .error f => faultJson f
  .obj [("id", .str c.id), ("user_id", .str c.userId), ("email", .str c.email),
    ("access_plain", opened c.accessToken),
    ("refresh_plain", match c.refreshToken with
      | some r => if r.isEmpty then .null else opened r
      | none => .null),
    ("expires_at", timeJson c.expiresAt)]

/-- Whether one keychain entry comes before another: by service, key, then value. -/
def entryBefore (a b : (String × String) × String) : Bool :=
  decide (a.1.1 < b.1.1) || (a.1.1 = b.1.1 && (decide (a.1.2 < b.1.2) ||
    (a.1.2 = b.1.2 && decide (a.2 ≤ b.2))))

def lineReport (host : Host) (req : Json) (path : String) (t : Transcript) (m : Machine) : Json :=
  let db := m.database path
  let users := ((fieldD req "users" (Json.strs ["alice"])).getArr?.getD []).filterMap Json.getStr?
  let files := (m.filesUnder (host.scratch ++ "/cli/eml")).map fun (p, c) =>
    Json.arr [.str p, .int c.length, .str (Text.Hex.hex (Digest.sha256 c))]
  let keyring := (m.keychain.entries.mergeSort entryBefore).map fun ((s, k), v) => Json.strs [s, k, v]
  .obj ([("exit_code", .int t.exit), ("stdout_json", t.printed.getD .null),
    ("error_code", Json.optStr t.errorCode)] ++
    (match t.exception with
      | some e => [("exception", .str e)]
      | none => []) ++
    [("sleeps", .arr (t.sleeps.map Number.toJson)), ("server", m.server.snapshot),
     ("posts", .arr t.posts),
     ("positions", .obj ((db.positions.sources.filterMap fun s =>
        (Json.lookup s db.positions.rows).map (s, ·)))),
     ("credentials", .arr (users.flatMap fun u => (db.credentials.listFor u).map (openedCredential req))),
     ("eml_files", .arr files), ("keyring", .arr keyring)])

def consoleLines (host : Host) (req : Json) (path : String) : Machine → List Json → Outcome (List Json)
  | _, [] => .ok []
  | m, line :: rest => do
    let words ← consoleWords host ((line.getArr?).getD [])
    let (t, m) := m.run words
    pure (lineReport host req path t m :: (← consoleLines host req path m rest))

def console (host : Host) (req : Json) : Outcome Json := do
  let m ← consoleMachine host req
  let path := consoleDatabase host (consoleConfig host req)
  let results ← consoleLines host req path m ((fieldD req "runs" (.arr [])).getArr?.getD [])
  pure (.obj [("results", .arr results)])

end MailIngest.Api
