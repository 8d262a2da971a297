import MailIngest.Api.Scenario.Setup
import MailIngest.Service.Accounts

/-!
# Scenario steps about credentials

Steps on the clocks, the token lifecycle, the credential store, the mailbox connection
service and its pending sign-ins. A credential is shown with its tokens opened by the vault; a
token that does not open is shown as the failure.
-/

namespace MailIngest.Api

open Service

def timeJson : Option String → Json
  | some t => .str t
  | none => .null

/-- A sealed token opened for a view: its text, or the failure as an answer. -/
def openedJson (token : String) : Act Json :=
  tryCatch (Json.str <$> openText token) fun f => pure (faultJson f)

/-- A credential as a scenario shows it, with its tokens opened. -/
def credentialView (c : Store.Credential) : Act Json := do
  let access ← openedJson c.accessToken
  let refresh ← match c.refreshToken with
    | some r => if r.isEmpty then pure .null else openedJson r
    | none => pure .null
  pure (.obj [("id", .str c.id), ("user_id", .str c.userId), ("provider", .str c.provider),
    ("email", .str c.email), ("access_token", .str c.accessToken),
    ("refresh_token", Json.optStr c.refreshToken), ("access_plain", access),
    ("refresh_plain", refresh), ("expires_at", timeJson c.expiresAt),
    ("scope", Json.optStr c.scope), ("created_at", .str c.createdAt),
    ("updated_at", .str c.updatedAt)])

def optionalView : Option Store.Credential → Act Json
  | some c => credentialView c
  | none => pure .null

def summaryJson (c : Store.Summary) : Json :=
  .obj [("id", .str c.id), ("provider", .str c.provider), ("email", .str c.email),
    ("expires_at", timeJson c.expiresAt), ("scope", Json.optStr c.scope),
    ("created_at", .str c.createdAt), ("updated_at", .str c.updatedAt)]

def replyOf (step : Json) : Outcome OAuth.Reply :=
  match step.get? "raise" with
  | some (.str "timeout") => .ok (.unreachable true)
  | some (.str _) => .ok (.unreachable false)
  | _ => do
    let status ← match fieldD step "status" (.int 200) with
      | .int n => pure n
      | _ => throw (Fault.named "TypeError")
    pure (.response status (match step.get? "payload" with
      | none | some .null => none
      | some p => some p))

def clockStep (op : String) (step : Json) : Option (Act Json) :=
  match op with
  | "set_time" => some do
    let t ← decoded (do asTime (← need step "now"))
    modify fun w => { w with wall := t }
    pure (.obj [("now", .str t.iso)])
  | "advance" => some do
    let secs ← decoded (floatD step "seconds" 0.0)
    let us ← decoded (Time.floatSecondsMicros secs)
    let t ← decoded ((← get).wall.addMicros us)
    modify fun w => { w with wall := t }
    pure (.obj [("now", .str t.iso)])
  | "pending_advance" => some do
    let secs ← decoded (floatD step "seconds" 0.0)
    modify fun w => { w with pendingNow := w.pendingNow + secs }
    pure (.obj [("pending_now", .float (← get).pendingNow)])
  | _ => none

def tokenStep (op : String) (step : Json) : Option (Act Json) :=
  match op with
  | "queue" => some do
    let reply ← decoded (replyOf step)
    let vanishing ← match step.get? "delete_during_post" with
      | none | some .null => pure none
      | some _ => some <$> credentialRef (.obj [("credential", fieldD step "delete_during_post" .null)])
    modify fun w => { w with endpoint := w.endpoint.enqueue { reply, vanishing } }
    pure (.obj [("queued", .int (← get).endpoint.queue.length)])
  | "store_token" => some do
    let user ← decoded (textD step "user_id" "alice")
    let provider ← decoded (textD step "provider" OAuth.microsoft)
    let email ← decoded (textD step "email" "alice@example.com")
    let tokens ← decoded (do (OAuth.Tokens.check (← need step "tokens")).toOutcome)
    let c ← storeToken user provider email tokens
    see c.id
    pure (.obj [("credential", ← credentialView c)])
  | "exchange_code" => some do
    let config ← Service.providerConfig (fieldD step "provider" (.str OAuth.microsoft))
    let t ← exchangeCode config (fieldD step "code" (.str "auth-code"))
      (fieldD step "verifier" (.str "verifier"))
    pure (.obj [("tokens", t.toJson)])
  | "refresh" => some do
    let c ← refresh (← credentialRef step)
    pure (.obj [("credential", ← credentialView c)])
  | "resolve_access_token" => some do
    let t ← resolveAccessToken (← credentialRef step) (flagD step "force_refresh" false)
    pure (.obj [("token", .str t)])
  | "needs_refresh" => some do
    match (← store).get (← credentialRef step) with
    | none => pure (.obj [("result", .null)])
    | some c => pure (.obj [("result", .bool (← needsRefresh c))])
  | "find_credential" => some do
    let user ← decoded (textD step "user_id" "alice")
    let email ← decoded (textD step "email" "alice@example.com")
    let provider ← decoded (textD step "provider" OAuth.microsoft)
    pure (.obj [("credential", ← optionalView (← findCredential user email provider))])
  | "get" => some do
    pure (.obj [("credential", ← optionalView ((← store).get (← credentialRef step)))])
  | "decrypt_access_token" => some do
    match (← store).get (← credentialRef step) with
    | none => fail (Fault.named "AttributeError")
    | some c => pure (.obj [("token", .str (← openText c.accessToken))])
  | "list" => some do
    let user ← decoded (textD step "user_id" "alice")
    let views ← ((← store).listFor user).mapM credentialView
    pure (.obj [("credentials", .arr views)])
  | "delete" => some do
    let id ← credentialRef step
    let gone ← onStore fun s => let (s', b) := s.delete id; (b, s')
    pure (.obj [("deleted", .bool gone)])
  | "ensure_user" => some do
    ensureUser (← decoded (text step "user_id")) (← decoded (optText step "email"))
    pure (.obj [("ok", .bool true)])
  | "delete_user" => some do
    let user ← decoded (text step "user_id")
    let gone ← onStore fun s => let (s', b) := s.deleteUser user; (b, s')
    pure (.obj [("deleted", .bool gone)])
  | "tamper" => some do
    let id ← credentialRef step
    match (← store).get id with
    | none => pure (.obj [("credential", .null)])
    | some c =>
      let access ← decoded (textD step "access_token" c.accessToken)
      let refresh ← match step.get? "refresh_token" with
        | none => pure none
        | some _ => some <$> decoded (optText step "refresh_token")
      let expires ← match step.get? "expires_at" with
        | none => pure c.expiry
        | some _ => decoded (optMoment step "expires_at")
      let now ← storeNow
      let updated ← onStore fun s => s.updateTokens id access expires refresh now
      pure (.obj [("credential", ← optionalView updated)])
  | "upsert_raw" => some do
    let g : Store.Grant :=
      { userId := ← decoded (text step "user_id")
        provider := ← decoded (textD step "provider" OAuth.microsoft)
        email := ← decoded (text step "email")
        accessToken := ← decoded (text step "access_token")
        refreshToken := ← decoded (optText step "refresh_token")
        expiresAt := ← decoded (optMoment step "expires_at")
        scope := ← decoded (optText step "scope") }
    let now ← storeNow
    let c ← decoded (← onStore fun s => s.upsert g now)
    see c.id
    pure (.obj [("credential", ← credentialView c)])
  | _ => none

def callbackJson (r : CallbackResult) : Json :=
  .obj [("success", .bool r.success), ("redirect_url", .str r.redirectUrl),
    ("email", Json.optStr r.email), ("credential_id", Json.optStr r.credentialId),
    ("reason", r.reason.getD .null)]

/-- The state a step names; `$last` is the state of the last sign-in started. -/
def stateRef (step : Json) : Act Json := do
  match fieldD step "state" (.str "$last") with
  | .str "$last" => pure (match (← get).lastState with
    | some s => .str s
    | none => .null)
  | v => pure v

/-- The steps of the mailbox connection service and its pending sign-ins. -/
def serviceStep (op : String) (step : Json) : Option (Act Json) :=
  match op with
  | "start" => some do
    let (url, state) ← startAuthorization (← decoded (callerOf step))
    modify fun w => { w with lastState := some state }
    pure (.obj [("authorization_url", .str url), ("state", .str state)])
  | "callback" => some do
    let caller ← decoded (callerOf step)
    let state ← stateRef step
    let r ← handleCallback caller (fieldD step "code" (.str "auth-code")) state
      (fieldD step "error" .null) (fieldD step "error_description" .null)
    match r.credentialId with
    | some id => if r.success then see id
    | none => pure ()
    pure (.obj [("result", callbackJson r)])
  | "service_list" => some do
    let cs ← listConnections (← decoded (callerOf step))
    pure (.obj [("credentials", .arr (cs.map summaryJson))])
  | "service_delete" => some do
    let caller ← decoded (callerOf step)
    deleteConnection caller (← credentialRef step)
    pure (.obj [("ok", .bool true)])
  | "service_refresh" => some do
    let caller ← decoded (callerOf step)
    let e ← renewConnection caller (← credentialRef step)
    pure (.obj [("expires_at", timeJson e)])
  | "service_close" => some do
    pendingClose
    pure (.obj [("ok", .bool true)])
  | "service_context" => some do
    pendingClose
    pure (.obj [("same", .bool true)])
  | "pending_put" => some do
    pendingPut (← decoded (text step "state")) (← decoded (text step "verifier"))
    pure (.obj [("ok", .bool true)])
  | "pending_take" => some do
    let v ← pendingTake (← stateRef step).plainText
    pure (.obj [("verifier", v.getD .null)])
  | "pending_sweep" => some do
    let w ← get
    match w.pending with
    | .inProcess p =>
      let (n, p') := p.sweep w.pendingNow
      set { w with pending := .inProcess p' }
      pure (.obj [("removed", .int n)])
    | .shared .. => fail (Fault.named "AttributeError")
  | "pending_len" => some do
    match (← get).pending with
    | .inProcess p => pure (.obj [("len", .int p.entries.length)])
    | .shared .. => fail (Fault.named "TypeError")
  | "redis_raw" => some do
    let state ← decoded (text step "state")
    let ttl ← decoded (floatD step "ttl" 600.0)
    let w ← get
    match w.pending with
    | .shared r t live =>
      set { w with pending := .shared (r.setex (OAuth.sharedPrefix ++ state) ttl
        (fieldD step "value" .null) w.pendingNow) t live }
      pure (.obj [("ok", .bool true)])
    | .inProcess _ => fail (Fault.named "AttributeError")
  | _ => none

end MailIngest.Api
