import MailIngest.Schema.Coerce
import MailIngest.Text.Case

/-!
# Settings

The operator's configuration, one record per concern: the OAuth provider, pending sign-ins,
mailbox synchronization, local storage, and the credential vault's key, with the log level at
the root. Every field has a default and a range, and `check` reads a record from JSON with the
lenient field rules of `Schema`, reporting every issue. URLs must be `http://` or `https://`
and lose trailing slashes; a Redis URL must name a Redis or socket scheme; log levels are
compared in upper case.

A record is written back in two forms: `toJson` shows the secrets, `toStored` is what goes to
the settings file, where a non-empty secret is written `***`.

- `Storage.check_empty` : empty storage settings read as the defaults.
-/

namespace MailIngest.Settings

open Schema

/-- The OAuth provider settings. -/
structure OAuth where
  clientId : Option String := none
  clientSecret : Option String := none
  redirectUri : Option String := none
  publicBaseUrl : String := "http://localhost:4000"
  expirySkewSeconds : Int := 60
  requestTimeoutSeconds : Float := 15.0
deriving Inhabited

/-- Pending sign-in settings. -/
structure Pending where
  ttlSeconds : Int := 600
  sweepIntervalSeconds : Int := 600
  redisUrl : Option String := none
deriving Inhabited

/-- What a sync does with a message it cannot read. -/
inductive ParsePolicy where
  | abortMailbox
  | skip
deriving DecidableEq, Inhabited

def ParsePolicy.name : ParsePolicy → String
  | abortMailbox => "abort_mailbox"
  | skip => "skip"

def ParsePolicy.ofName (s : String) : ParsePolicy := if s = "skip" then skip else abortMailbox

/-- Mailbox synchronization settings. -/
structure Sync where
  batchSize : Int := 250
  maxAttempts : Int := 5
  backoffBase : Float := 2.0
  maxJitterSeconds : Float := 1.0
  allInclusiveArchive : Bool := false
  parseFailurePolicy : ParsePolicy := .abortMailbox
  connectionTimeoutSeconds : Float := 30.0
deriving Inhabited

/-- Local storage settings. -/
structure Storage where
  databasePath : String
deriving Inhabited

/-- Credential vault key settings. -/
structure Security where
  encryptionKey : Option String := none
  keyringService : String := "mailarchive"
  keyringKeyId : String := "credential_vault_key"
deriving Inhabited

/-- The whole configuration. -/
structure Root where
  oauth : OAuth := {}
  pending : Pending := {}
  sync : Sync := {}
  storage : Storage
  security : Security := {}
  logLevel : String := "INFO"
deriving Inhabited

/-- The directory that holds the library's files, under the home directory. -/
def dataDir (home : String) : String := home ++ "/.mailarchive"

def Storage.default (home : String) : Storage := ⟨dataDir home ++ "/mailarchive.db"⟩

def Root.default (home : String) : Root := { storage := Storage.default home }

def checkUrl (u : String) : Validated String :=
  if u.startsWith "http://" || u.startsWith "https://" then .ok (Text.trimCharsBack ['/'] u)
  else .failValue "URL must start with http:// or https://"

/-- A Redis URL of a Redis or socket scheme; an empty one is none. -/
def checkRedisUrl : Option String → Validated (Option String)
  | none => .ok none
  | some "" => .ok none
  | some u =>
    if u.startsWith "redis://" || u.startsWith "rediss://" || u.startsWith "unix://" then
      .ok (some u)
    else .failValue "redis_url must start with redis://, rediss:// or unix://"

def logLevels : List String := ["DEBUG", "INFO", "WARNING", "ERROR", "CRITICAL"]

def checkLogLevel (s : String) : Validated String :=
  let u := Text.upper s
  if logLevels.contains u then .ok u else .failValue ("Unknown log level: " ++ u)

def OAuth.check : Check OAuth := fun j => (object j).andThen fun ms =>
  OAuth.mk
    <$> opt ms "client_id" none (optional text)
    <*> opt ms "client_secret" none (optional text)
    <*> opt ms "redirect_uri" none (fun v => (optional text v).andThen fun
        | none => .ok none
        | some u => (checkUrl u).map some)
    <*> opt ms "public_base_url" "http://localhost:4000" (fun v => (text v).andThen checkUrl)
    <*> opt ms "expiry_skew_seconds" 60 (integerIn { ge := some 0, le := some 3600 })
    <*> opt ms "request_timeout_seconds" 15.0 (realIn { gt := some 0.0, le := some 120.0 })

def Pending.check : Check Pending := fun j => (object j).andThen fun ms =>
  Pending.mk
    <$> opt ms "ttl_seconds" 600 (integerIn { ge := some 60, le := some 3600 })
    <*> opt ms "sweep_interval_seconds" 600 (integerIn { ge := some 1, le := some 3600 })
    <*> opt ms "redis_url" none (fun v => (optional text v).andThen checkRedisUrl)

def Sync.check : Check Sync := fun j => (object j).andThen fun ms =>
  Sync.mk
    <$> opt ms "batch_size" 250 (integerIn { ge := some 1, le := some 2000 })
    <*> opt ms "max_attempts" 5 (integerIn { ge := some 1, le := some 10 })
    <*> opt ms "backoff_base" 2.0 (realIn { ge := some 1.0, le := some 10.0 })
    <*> opt ms "max_jitter_seconds" 1.0 (realIn { ge := some 0.0, le := some 10.0 })
    <*> opt ms "all_inclusive_archive" false flag
    <*> opt ms "parse_failure_policy" .abortMailbox
        (fun v => (literal ["abort_mailbox", "skip"] v).map ParsePolicy.ofName)
    <*> opt ms "connection_timeout_seconds" 30.0 (realIn { gt := some 0.0, le := some 600.0 })

def Storage.check (home : String) : Check Storage := fun j => (object j).andThen fun ms =>
  Storage.mk <$> opt ms "database_path" (Storage.default home).databasePath path

def Security.check : Check Security := fun j => (object j).andThen fun ms =>
  Security.mk
    <$> opt ms "encryption_key" none (optional text)
    <*> opt ms "keyring_service" "mailarchive" text
    <*> opt ms "keyring_key_id" "credential_vault_key" text

def Root.check (home : String) : Check Root := fun j => (object j).andThen fun ms =>
  Root.mk
    <$> opt ms "oauth" {} OAuth.check
    <*> opt ms "pending_auth" {} Pending.check
    <*> opt ms "sync" {} Sync.check
    <*> opt ms "storage" (Storage.default home) (Storage.check home)
    <*> opt ms "security" {} Security.check
    <*> opt ms "log_level" "INFO" (fun v => (text v).andThen checkLogLevel)

/-- How a secret is written: as itself, or as it goes to the settings file. -/
def secretJson (stored : Bool) : Option String → Json
  | none => .null
  | some s => if stored && !s.isEmpty then .str "***" else .str s

def OAuth.toJson (o : OAuth) (stored : Bool) : Json :=
  .obj [("client_id", Json.optStr o.clientId), ("client_secret", secretJson stored o.clientSecret),
    ("redirect_uri", Json.optStr o.redirectUri), ("public_base_url", .str o.publicBaseUrl),
    ("expiry_skew_seconds", .int o.expirySkewSeconds),
    ("request_timeout_seconds", .float o.requestTimeoutSeconds)]

def Pending.toJson (p : Pending) : Json :=
  .obj [("ttl_seconds", .int p.ttlSeconds), ("sweep_interval_seconds", .int p.sweepIntervalSeconds),
    ("redis_url", Json.optStr p.redisUrl)]

def Sync.toJson (s : Sync) : Json :=
  .obj [("batch_size", .int s.batchSize), ("max_attempts", .int s.maxAttempts),
    ("backoff_base", .float s.backoffBase), ("max_jitter_seconds", .float s.maxJitterSeconds),
    ("all_inclusive_archive", .bool s.allInclusiveArchive),
    ("parse_failure_policy", .str s.parseFailurePolicy.name),
    ("connection_timeout_seconds", .float s.connectionTimeoutSeconds)]

def Storage.toJson (s : Storage) : Json := .obj [("database_path", .str s.databasePath)]

def Security.toJson (s : Security) (stored : Bool) : Json :=
  .obj [("encryption_key", secretJson stored s.encryptionKey),
    ("keyring_service", .str s.keyringService), ("keyring_key_id", .str s.keyringKeyId)]

def Root.toJson (r : Root) (stored : Bool) : Json :=
  .obj [("oauth", r.oauth.toJson stored), ("pending_auth", r.pending.toJson),
    ("sync", r.sync.toJson), ("storage", r.storage.toJson),
    ("security", r.security.toJson stored), ("log_level", .str r.logLevel)]

theorem Storage.check_empty (home : String) :
    Storage.check home (.obj []) = .ok (Storage.default home) := by
  rfl


end MailIngest.Settings
