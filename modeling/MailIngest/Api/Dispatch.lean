import MailIngest.Json.Parse
import MailIngest.Json.Render
import MailIngest.Api.Answer
import MailIngest.Api.Diagnostics
import MailIngest.Api.Headers
import MailIngest.Api.Mailboxes
import MailIngest.OAuth.Pkce
import MailIngest.Api.Configuration
import MailIngest.Api.Authorization
import MailIngest.Api.Positions
import MailIngest.Api.Vault
import MailIngest.Api.Scenario
import MailIngest.Api.Messages
import MailIngest.Api.Console

/-!
# Answering requests

One request is one JSON object whose `op` names the operation; the answer is one JSON object.
A line that is no JSON object, or that names no known operation, is a bad request.
-/

namespace MailIngest.Api

def badRequest (why : String) : Json := .obj [("error", .str "BadRequest"), ("message", .str why)]

def challengeOf (req : Json) : Outcome Json := do
  let v ← text req "verifier"
  pure (.obj [("challenge", .str (← OAuth.codeChallenge v))])

def operation (host : Host) (op : String) (req : Json) : Option (Outcome Json) :=
  match op with
  | "error_info" => some (errorInfo req)
  | "user_message" => some (userMessage req)
  | "thread_id" => some (threadIdOf req)
  | "normalize_message_id" => some (normalizedId req)
  | "mailbox_info" => some (mailboxInfo req)
  | "safe_dirname" => some (dirname req)
  | "retry_delays" => some (retryDelays req)
  | "code_challenge" => some (challengeOf req)
  | "settings_validate" => some (settingsValidate host req)
  | "settings_save" => some (settingsSave host req)
  | "settings_load" => some (settingsLoad host req)
  | "settings_bootstrap" => some (.ok (settingsBootstrap host req))
  | "secret_store" => some (.ok (secretStore req))
  | "provider_config" => some (providerConfig req)
  | "authorization_url" => some (authorizationUrl req)
  | "generate_pkce" => some (generatePkce host req)
  | "token_response" => some (tokenResponse host req)
  | "pending_factory" => some (pendingFactory req)
  | "imap_account" => some (account req)
  | "sync_position" => some (syncPosition req)
  | "position_store" => some (.ok (positionStore req))
  | "vault" => some (.ok (vault host req))
  | "scenario" => some (scenario host req)
  | "parse_email" => some (parseEmail host req)
  | "cli" => some (console host req)
  | _ => none

def answer (host : Host) (req : Json) : Json :=
  match req.get? "op" with
  | some (.str op) =>
    match operation host op req with
    | some r => outcomeJson r
    | none => badRequest ("unknown op: " ++ op)
  | _ => badRequest "missing op"

def respond (host : Host) (line : String) : String :=
  match Json.parse line with
  | .ok req@(.obj _) => Json.render (answer host req)
  | _ => Json.render (badRequest "request is not a JSON object")

end MailIngest.Api
