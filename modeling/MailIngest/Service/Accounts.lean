import MailIngest.Service.Tokens
import MailIngest.OAuth.Pkce
import MailIngest.Text.FormEncode

/-!
# Connecting mailboxes

What a signed-in user does with their mailbox connections: start a sign-in with the provider,
complete it when the provider calls back, list their connections, remove one, or renew one by
hand. Every operation needs a caller with a user id, and a connection that belongs to someone
else is reported as missing.

A callback never fails for the browser's sake: a provider error, missing parameters, an unknown
or expired state and a failed exchange all give a failed result with a reason, and the browser
goes back to the dashboard either way.

The pending sign-ins live in the store the world holds; a shared store's client is gone once
the service is closed.

- `requireCaller_none` : without a caller nothing runs.
-/

namespace MailIngest.Service

open OAuth

/-- The user on whose behalf an operation runs. -/
structure Caller where
  userId : String
  email : String
deriving Inhabited

/-- The caller of an operation; without one, or without a user id, nothing runs. -/
def requireCaller : Option Caller → Act Caller
  | some c => if c.userId.isEmpty then fail (.ofKind .unauthorized) else pure c
  | none => fail (.ofKind .unauthorized)

/-- The failure of a shared store whose client was closed: it has no address to reopen. -/
def closedStore : Fault := Fault.named "ValueError"

/-- A time to live cut to whole seconds, as the shared store takes it. -/
def wholeSeconds (x : Float) : Float := if x < 0 then Float.ceil x else Float.floor x

def pendingPut (state verifier : String) : Act Unit := do
  let w ← get
  match w.pending with
  | .inProcess p => set { w with pending := .inProcess (p.put state verifier w.pendingNow) }
  | .shared r ttl live =>
    if !live then fail closedStore
    else set { w with pending := .shared (r.setex (sharedPrefix ++ state) (wholeSeconds ttl)
      (.str (sharedEntry verifier w.pendingNow)) w.pendingNow) ttl live }

/-- Takes the verifier of a state from the pending store, if it is there and fresh. -/
def pendingTake (state : String) : Act (Option Json) := do
  let w ← get
  match w.pending with
  | .inProcess p =>
    let (v, p') := p.take state w.pendingNow
    set { w with pending := .inProcess p' }
    pure (v.map Json.str)
  | .shared r ttl live =>
    if !live then fail closedStore
    else
      let (raw, r') := r.getdel (sharedPrefix ++ state) w.pendingNow
      set { w with pending := .shared r' ttl live }
      match raw with
      | none => pure none
      | some v => do
        match ← readShared v w.pendingNow ttl with
        | some .null => pure none
        | found => pure found

/-- Closes the pending store: an in-process sweeper stops, a shared client is dropped. -/
def pendingClose : Act Unit :=
  modify fun w => { w with pending := match w.pending with
    | .inProcess p => .inProcess { p with sweeping := false }
    | .shared r ttl _ => .shared r ttl false }

def drawing {α : Type} (f : Entropy → α × Entropy) : Act α :=
  sealing (modifyGet fun s => let (a, e) := f s.entropy; (a, { s with entropy := e }))

/-- Starts a sign-in: a fresh challenge and state, the state kept pending with the verifier,
and the consent address. -/
def startAuthorization (caller : Option Caller) : Act (String × String) := do
  let _ ← requireCaller caller
  let config ← providerConfig (← get).provider
  let challenge ← drawing Challenge.generate
  let state ← drawing generateState
  pendingPut state challenge.verifier
  pure (authorizationUrl config state challenge, state)

/-- How a sign-in ended. -/
structure CallbackResult where
  success : Bool
  redirectUrl : String
  email : Option String := none
  credentialId : Option String := none
  reason : Option Json := none

def dashboardUrl (params : List (String × String)) : Act String := do
  pure ((← get).settings.publicBaseUrl ++ "/dashboard/settings/oauth-accounts?" ++
    Text.formEncode params)

def failure (reason : Json) : Act CallbackResult := do
  pure { success := false, redirectUrl := ← dashboardUrl [("error", reason.plainText)],
         reason := some reason }

/-- Exchanges the code and stores the tokens of a completed sign-in. -/
def completeSignIn (c : Caller) (code verifier : Json) : Act Store.Credential := do
  let w ← get
  let config ← providerConfig w.provider
  let tokens ← exchangeCode config code verifier
  ensureUser c.userId (some c.email)
  storeToken c.userId w.provider.plainText c.email tokens

def handleCallback (caller : Option Caller) (code state error description : Json) :
    Act CallbackResult := do
  let c ← requireCaller caller
  if error.truthy then failure (if description.truthy then description else error)
  else if !code.truthy || !state.truthy then failure (.str "Invalid callback parameters")
  else
    match ← pendingTake state.plainText with
    | none => failure (.str ErrorKind.pendingExpired.defaultMessage)
    | some verifier =>
      let signedIn ← tryCatch (Sum.inr <$> completeSignIn c code verifier) fun f =>
        if f.isA .authorization then pure (Sum.inl f) else fail f
      match signedIn with
      | .inl f => failure (.str ((f.message?).getD ""))
      | .inr cred =>
        pure { success := true
               redirectUrl := ← dashboardUrl [("success", "true"), ("email", c.email)]
               email := some c.email
               credentialId := some cred.id }

/-- The caller's connections, newest first, without their tokens. -/
def listConnections (caller : Option Caller) : Act (List Store.Summary) := do
  let c ← requireCaller caller
  pure (((← store).listFor c.userId).map Store.Credential.summary)

def owned (c : Caller) (id : String) : Act Store.Credential := do
  let missing := raisedOr .credentialNotFound none (credentialDetails id)
  match (← store).get id with
  | some cred => if cred.userId = c.userId then pure cred else fail missing
  | none => fail missing

def deleteConnection (caller : Option Caller) (id : String) : Act Unit := do
  let c ← requireCaller caller
  let _ ← owned c id
  onStore fun s => ((), (s.delete id).1)

def renewConnection (caller : Option Caller) (id : String) : Act (Option String) := do
  let c ← requireCaller caller
  let _ ← owned c id
  pure (← refresh id).expiresAt

theorem requireCaller_none (w : World) :
    (requireCaller none).run.run w = (.error (.ofKind .unauthorized), w) := rfl

end MailIngest.Service
