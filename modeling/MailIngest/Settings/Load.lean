import MailIngest.Settings.Model
import MailIngest.Json.Parse
import MailIngest.Secrets.Keychain
import MailIngest.Decimal.Read
import MailIngest.Text.Literal
import MailIngest.Text.Utf8

/-!
# Loading, saving and assembling settings

The settings file is JSON in UTF-8. `load` reads it: a missing file, text that is not JSON and
content that does not validate are three different failures; the last two are the library's
configuration error. Bytes that are no UTF-8, an integer too long to convert and arrays or
objects nested deeper than the interpreter's recursion limit allows fail otherwise, each with
the interpreter's own error. `stored` is what `save` writes.

`bootstrap` assembles the settings a process runs with: the file's settings (written with the
defaults first if there is no file), then the caller's overrides merged in object by object,
then the environment's variables, and the result validated again. Last, the two secrets are
reconciled with the secret store: a plain secret is moved into the store; an empty or masked
one is taken from the store, or left out when the store has none.

- `mergeMembers_nil` : merging no overrides changes nothing.
-/

namespace MailIngest.Settings

def invalid (cause : Fault) : Fault :=
  .raised .configuration "Invalid configuration" [] (some cause)

/-- How many arrays and objects the interpreter's recursion limit leaves room for, one inside
another, when the settings file is read. -/
def nestingRoom : Nat := 990

def load (home : String) : Option (List UInt8) → Outcome Root
  | none => .error (.runtime "FileNotFoundError" (some "Settings file not found"))
  | some bytes =>
    match Text.Utf8.decode? bytes with
    | none => .error (Fault.named "UnicodeDecodeError")
    | some text =>
      match Json.parseWithin nestingRoom text with
      | .error .longInteger => .error (Fault.named "ValueError")
      | .error .tooDeep => .error (Fault.named "RecursionError")
      | .error _ => .error (invalid (Fault.named "JSONDecodeError"))
      | .ok j => match (Root.check home j).toOutcome with
        | .ok r => .ok r
        | .error f => .error (invalid f)

def stored (r : Root) : Json := r.toJson true

mutual

/-- An override applied onto a value: objects merge member by member, anything else replaces. -/
def mergeValue (base : Json) : Json → Json
  | .obj ms => match base with
    | .obj bs => .obj (mergeMembers bs ms)
    | _ => .obj ms
  | v => v

def mergeMembers (bs : List (String × Json)) : List (String × Json) → List (String × Json)
  | [] => bs
  | (k, v) :: rest =>
    let merged := match v, Json.lookup k bs with
      | .obj _, some (.obj b) => mergeValue (.obj b) v
      | _, _ => v
    mergeMembers (Json.setMember k merged bs) rest

end

/-- How an environment variable's text becomes a value. -/
inductive Cast where
  | text
  | integer
  | flag

/-- The environment variables that override settings: the section (none for the root), the
field, the variable and its cast, in the order they are applied. -/
def envOverrides : List (Option String × String × String × Cast) :=
  [(some "oauth", "client_id", "MAILARCHIVE_MS_CLIENT_ID", .text),
   (some "oauth", "client_secret", "MAILARCHIVE_MS_CLIENT_SECRET", .text),
   (some "oauth", "redirect_uri", "MAILARCHIVE_MS_REDIRECT_URI", .text),
   (some "oauth", "public_base_url", "MAILARCHIVE_APP_URL", .text),
   (some "pending_auth", "redis_url", "MAILARCHIVE_REDIS_URL", .text),
   (some "pending_auth", "ttl_seconds", "MAILARCHIVE_PENDING_AUTH_TTL", .integer),
   (some "sync", "batch_size", "MAILARCHIVE_SYNC_BATCH_SIZE", .integer),
   (some "sync", "max_attempts", "MAILARCHIVE_SYNC_MAX_ATTEMPTS", .integer),
   (some "sync", "all_inclusive_archive", "MAILARCHIVE_ALL_INCLUSIVE_ARCHIVE", .flag),
   (some "sync", "parse_failure_policy", "MAILARCHIVE_PARSE_FAILURE_POLICY", .text),
   (some "storage", "database_path", "MAILARCHIVE_DATABASE_PATH", .text),
   (some "security", "encryption_key", "MAILARCHIVE_ENCRYPTION_KEY", .text),
   (none, "log_level", "MAILARCHIVE_LOG_LEVEL", .text)]

def castValue (var raw : String) : Cast → Outcome Json
  | .text => .ok (.str raw)
  | .flag => .ok (.bool (["1", "true", "yes"].contains (Text.lower raw)))
  | .integer => match Decimal.readGroupedInt? (Text.trim raw) with
    | some n => .ok (.int n)
    | none => .error (.raised .configuration
        (var ++ " must be an integer, got " ++ Text.literal raw) [] none)

/-- Sets a field of an object; other values cannot take fields. -/
def setField (target : Json) (key : String) (v : Json) : Outcome Json :=
  match target with
  | .obj ms => .ok (.obj (Json.setMember key v ms))
  | _ => .error (Fault.named "TypeError")

def applyEnvOne (env : List (String × String)) (data : Json) :
    Option String × String × String × Cast → Outcome Json
  | (part, key, var, cast) => do
    let withSection := match part with
      | some sec => if (data.get? sec).isSome then data else data.set sec (.obj [])
      | none => data
    match env.find? (·.1 = var) with
    | none => pure withSection
    | some (_, raw) =>
      let v ← castValue var raw cast
      match part with
      | none => setField withSection key v
      | some sec =>
        let inner ← setField ((withSection.get? sec).getD .null) key v
        pure (withSection.set sec inner)

def applyEnv (env : List (String × String)) (data : Json) : Outcome Json :=
  envOverrides.foldlM (applyEnvOne env) data

def clientSecretKey : String := "oauth:client_secret"

def encryptionKeyKey : String := "vault:encryption_key"

def mask : String := "***"

/-- Reconciles one secret with the store: a plain one is stored, an empty or masked one is
taken from the store. -/
def hydrate (store : Secrets.SecretStore) (kc : Option Secrets.Keychain) (key : String) :
    Option String → Outcome (Option String × Option Secrets.Keychain)
  | some v =>
    if v ≠ "" ∧ v ≠ mask then do
      let k ← store.set kc key v
      pure (some v, some k)
    else fromStore
  | none => fromStore
where
  fromStore : Outcome (Option String × Option Secrets.Keychain) := do
    let got ← store.get kc key
    pure (match got with
      | some s => if s.isEmpty then none else some s
      | none => none, kc)

/-- What making the folders the settings need raises, if anything: the settings file's folder,
when the file is written with the defaults, and the folder of a database path. -/
structure Folders where
  settings : Option Fault := none
  database : String → Option Fault := fun _ => none

/-- What assembling settings leaves behind: the result, what was written to the settings file
if anything, and the keychain. -/
structure Assembled where
  result : Outcome Root
  written : Option Json
  keychain : Option Secrets.Keychain

def bootstrap (home : String) (file : Option (List UInt8)) (env : List (String × String))
    (overrides : List (String × Json)) (store : Secrets.SecretStore)
    (kc : Option Secrets.Keychain) (folders : Folders) : Assembled :=
  let base : Outcome (Root × Option Json) := match file with
    | some _ => (load home file).map (·, none)
    | none => match folders.settings with
      | some f => .error f
      | none => .ok (Root.default home, some (stored (Root.default home)))
  match base with
  | .error f => ⟨.error f, none, kc⟩
  | .ok (settings, written) =>
    let resolved : Outcome Root := do
      let merged := mergeValue (settings.toJson false) (.obj overrides)
      let withEnv ← applyEnv env merged
      match (Root.check home withEnv).toOutcome with
      | .ok r => pure r
      | .error f => throw (invalid f)
    match resolved with
    | .error f => ⟨.error f, written, kc⟩
    | .ok r =>
      match folders.database r.storage.databasePath with
      | some f => ⟨.error f, written, kc⟩
      | none =>
        match hydrate store kc clientSecretKey r.oauth.clientSecret with
        | .error f => ⟨.error f, written, kc⟩
        | .ok (secret, kc1) =>
          match hydrate store kc1 encryptionKeyKey r.security.encryptionKey with
          | .error f => ⟨.error f, written, kc1⟩
          | .ok (key, kc2) =>
            ⟨.ok { r with oauth := { r.oauth with clientSecret := secret },
                          security := { r.security with encryptionKey := key } }, written, kc2⟩

theorem mergeMembers_nil (bs : List (String × Json)) : mergeMembers bs [] = bs := by
  simp [mergeMembers]

end MailIngest.Settings
