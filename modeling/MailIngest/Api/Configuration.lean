import MailIngest.Settings.Load
import MailIngest.Json.Render
import MailIngest.Api.Request
import MailIngest.Api.Answer

/-!
# Requests about settings and secrets

Validation of each settings record, saving and reloading, loading a settings file, assembling
the settings of a process, and direct use of the secret store.
-/

namespace MailIngest.Api

open Settings

def syncOptionsJson (s : Sync) : Json :=
  .obj [("batch_size", .int s.batchSize), ("all_inclusive_archive", .bool s.allInclusiveArchive),
    ("parse_failure_policy", .str s.parseFailurePolicy.name)]

def retryPolicyJson (s : Sync) : Json :=
  .obj [("max_attempts", .int s.maxAttempts), ("backoff_base", .float s.backoffBase),
    ("max_jitter", .float s.maxJitterSeconds)]

def settingsValidate (host : Host) (req : Json) : Outcome Json := do
  let data := fieldD req "data" (.obj [])
  let model ← textD req "model" "Settings"
  let shown (j : Json) : Json := .obj [("settings", j)]
  match model with
  | "Settings" => (fun r => shown (r.toJson false)) <$> (Root.check host.home data).toOutcome
  | "OAuthSettings" => (fun r => shown (r.toJson false)) <$> (OAuth.check data).toOutcome
  | "PendingAuthSettings" => (fun r => shown r.toJson) <$> (Pending.check data).toOutcome
  | "StorageSettings" => (fun r => shown r.toJson) <$> (Storage.check host.home data).toOutcome
  | "SecuritySettings" => (fun r => shown (r.toJson false)) <$> (Security.check data).toOutcome
  | "SyncSettings" =>
    (fun r => .obj [("settings", r.toJson), ("sync_options", syncOptionsJson r),
      ("retry_policy", retryPolicyJson r)]) <$> (Sync.check data).toOutcome
  | _ => throw (Fault.named "AttributeError")

def settingsSave (host : Host) (req : Json) : Outcome Json := do
  let r ← (Root.check host.home (fieldD req "data" (.obj []))).toOutcome
  let saved := stored r
  let back ← load host.home (some (Text.Utf8.encode (Json.render saved)))
  pure (.obj [("saved", saved), ("reloaded", back.toJson false)])

/-- The settings file of a request: its raw text, or a JSON value written out. -/
def configFile (req : Json) : Option String :=
  match req.get? "config_text" with
  | some (.str t) => some t
  | _ => (req.get? "config").map Json.render

def settingsLoad (host : Host) (req : Json) : Outcome Json := do
  let r ← load host.home ((configFile req).map Text.Utf8.encode)
  pure (.obj [("settings", r.toJson false)])

/-- The secret store entries of a request; `null` means no keychain. -/
def keychainOf (service : String) : Json → Option Secrets.Keychain
  | .null => none
  | j => some { entries := j.members.filterMap fun (k, v) => v.getStr?.map ((service, k), ·) }

def keychainJson : Option Secrets.Keychain → Json
  | none => .null
  | some k => .obj (k.entries.map fun ((_, key), v) => (key, .str v))

def envOf (req : Json) : List (String × String) :=
  (fieldD req "env" (.obj [])).members.filterMap fun (k, v) => v.getStr?.map (k, ·)

def settingsBootstrap (host : Host) (req : Json) : Json :=
  let store : Secrets.SecretStore := {}
  let kc := keychainOf store.service (fieldD req "keyring" (.obj []))
  let a := bootstrap host.home ((configFile req).map Text.Utf8.encode) (envOf req)
    (fieldD req "overrides" (.obj [])).members store kc {}
  let file : Json := match req.get? "config_text", req.get? "config" with
    | some (.str _), _ => .null
    | _, some c => c
    | _, none => a.written.getD .null
  let extra := [("file", file), ("keyring", keychainJson a.keychain)]
  match a.result with
  | .ok r => .obj ([("settings", r.toJson false)] ++ extra)
  | .error f => .obj ((faultJson f).members ++ extra)

def secretStep (store : Secrets.SecretStore) (kc : Option Secrets.Keychain) (step : Json) :
    Json × Option Secrets.Keychain :=
  let key := step.strD "key" ""
  match step.strD "op" "" with
  | "set" => match store.set kc key (step.strD "value" "") with
    | .ok k => (.obj [("ok", .bool true)], some k)
    | .error f => (faultJson f, kc)
  | "get" => match store.get kc key with
    | .ok v => (.obj [("value", Json.optStr v)], kc)
    | .error f => (faultJson f, kc)
  | "delete" => match store.delete kc key with
    | .ok k => (.obj [("ok", .bool true)], k)
    | .error f => (faultJson f, kc)
  | other => (unknownStep other, kc)
where
  unknownStep (op : String) : Json :=
    .obj [("error", .str "BadRequest"), ("message", .str ("unknown step: " ++ op))]

def secretStore (req : Json) : Json :=
  let service := req.strD "service" "mailarchive"
  let store : Secrets.SecretStore := { service }
  let kc := keychainOf service (fieldD req "keyring" (.obj []))
  let (results, _) := ((fieldD req "steps" (.arr [])).getArr?.getD []).foldl
    (fun (acc, k) step => let (r, k') := secretStep store k step; (acc ++ [r], k')) ([], kc)
  .obj [("results", .arr results)]

end MailIngest.Api
