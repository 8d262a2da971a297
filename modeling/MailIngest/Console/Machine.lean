import MailIngest.Console.Grammar
import MailIngest.Service.Tokens
import MailIngest.Settings.Load
import MailIngest.Archive.Message
import MailIngest.Archive.Layout
import MailIngest.Text.Path
import MailIngest.Text.Utf8
import MailIngest.Json.Render

/-!
# The machine commands run on

Commands run on a machine that outlives each of them: the files on disk, the environment, the
keychain, the database files (each a credential store and a store of sync positions), the mail
server and the provider's token endpoint it reaches, the random
stream, the clock the credential store stamps rows with, and the clock of the commands' own
token lifecycle.

A command reads its settings first: the settings file it names, or the defaults, written to
that file, when it is not there; then the environment, with the secrets reconciled
with the keychain. It then works on the database its settings name; a database kept in memory
starts empty every time and keeps nothing.

A command's service steps run in a `Service.World` made of the machine and its settings;
afterwards the machine takes back what the steps changed.

- `entryOf_putEntry` : an entry set is the one found.
-/

namespace MailIngest.Console

/-- What one database file holds: credentials and sync positions. -/
structure Database where
  credentials : Store.Credentials := {}
  positions : Sync.PositionStore := {}
deriving Inhabited

def entryOf {α : Type} (k : String) (xs : List (String × α)) : Option α :=
  (xs.find? (·.1 = k)).map (·.2)

/-- Sets the entry of a key, in place when there is one, else at the end. -/
def putEntry {α : Type} (k : String) (v : α) : List (String × α) → List (String × α)
  | [] => [(k, v)]
  | (k', w) :: rest => if k' = k then (k', v) :: rest else (k', w) :: putEntry k v rest

def inMemory : String := ":memory:"

/-- The machine commands run on. -/
structure Machine where
  home : String
  /-- The directory relative paths start from. -/
  workdir : String
  env : List (String × String) := []
  keychain : Secrets.Keychain := {}
  databases : List (String × Database) := []
  /-- The files on disk by their paths in normal form. -/
  files : List (String × List UInt8) := []
  server : Imap.Server := {}
  endpoint : OAuth.Endpoint := {}
  entropy : Entropy
  /-- The clock the credential store stamps rows with. -/
  storeClock : Time.DateTime
  /-- The clock of the commands' own token lifecycle and message reading. -/
  clock : Time.DateTime
  /-- The fractions the backoff jitter is drawn with. -/
  jitter : List Number := [.real 0.0]
deriving Inhabited

namespace Machine

/-- Whether a path starts at a root: the file system's, the working directory or the home
directory. -/
def isAbsolute (m : Machine) (p : String) : Bool :=
  p.startsWith "/" || [m.workdir, m.home].any fun d => p = d || p.startsWith (d ++ "/")

/-- A path as the machine resolves it: relative paths start from the working directory, and
the result is in normal form. -/
def resolve (m : Machine) (p : String) : String :=
  if m.isAbsolute p then Text.normalizePath p else Text.normalizePath (m.workdir ++ "/" ++ p)

def isDirectory (m : Machine) (path : String) : Bool :=
  m.files.any fun (p, _) => p.startsWith (path ++ "/")

def database (m : Machine) (path : String) : Database :=
  if path = inMemory then {} else (entryOf path m.databases).getD {}

/-- Stores the database at a path; one kept in memory keeps nothing. -/
def putDatabase (m : Machine) (path : String) (db : Database) : Machine :=
  if path = inMemory then m else { m with databases := putEntry path db m.databases }

/-- The settings a command runs with, from the settings file it names, which is written with
the defaults when it is not there; the keychain keeps the secrets they bring. A directory
cannot be read as a file. -/
def settings (m : Machine) (config : String) : Outcome Settings.Root × Machine :=
  let path := m.resolve config
  if m.isDirectory path then (.error (Fault.named "IsADirectoryError"), m)
  else
    let a := Settings.bootstrap m.home (entryOf path m.files) m.env [] {} (some m.keychain) {}
    let files := match a.written with
      | some j => putEntry path (Text.Utf8.encode (Json.render j)) m.files
      | none => m.files
    (a.result, { m with keychain := a.keychain.getD m.keychain, files })

def world (m : Machine) (r : Settings.Root) (db : Database) : Service.World :=
  { wall := m.storeClock
    arrival := m.clock
    tokenClock := some m.clock
    pendingNow := 0.0
    sealer := { configured := Json.optStr r.security.encryptionKey
                keychain := some m.keychain
                service := r.security.keyringService
                entry := r.security.keyringKeyId
                entropy := m.entropy }
    store := db.credentials
    settings := r.oauth
    endpoint := m.endpoint.clearPosts
    server := m.server }

/-- Takes back what a command's service steps changed: the keychain, the random stream, the
credentials of the database at `path`, the mail server and the token endpoint. -/
def absorb (m : Machine) (w : Service.World) (path : String) : Machine :=
  let db := m.database path
  let m := m.putDatabase path { db with credentials := w.store }
  { m with keychain := w.sealer.keychain.getD m.keychain
           entropy := w.sealer.entropy
           server := w.server
           endpoint := w.endpoint }

/-- Writes a message as a file under a directory: in the directory named after its mailbox,
under its UID. -/
def writeMessage (m : Machine) (dir : String) (msg : Archive.Message) : Machine :=
  let path := m.resolve (dir ++ "/" ++ Archive.safeDirname msg.path ++ "/" ++ toString msg.uid ++ ".eml")
  { m with files := putEntry path msg.source m.files }

/-- The files under a directory, by their paths inside it, in order of those paths. -/
def filesUnder (m : Machine) (dir : String) : List (String × List UInt8) :=
  let base := m.resolve dir ++ "/"
  let inside := m.files.filterMap fun (p, c) =>
    if p.startsWith base then some (String.ofList (p.toList.drop base.length), c) else none
  inside.mergeSort fun a b => decide (a.1 ≤ b.1)

end Machine

theorem entryOf_putEntry {α : Type} (k : String) (v : α) (xs : List (String × α)) :
    entryOf k (putEntry k v xs) = some v := by
  induction xs with
  | nil => simp [putEntry, entryOf]
  | cons x rest ih =>
    obtain ⟨k', w⟩ := x
    by_cases h : k' = k
    · simp [putEntry, entryOf, h]
    · simp only [entryOf] at ih
      simp [putEntry, entryOf, h, ih]

end MailIngest.Console
