import MailIngest.Service.World
import MailIngest.OAuth.Tokens
import MailIngest.Json.Plain
import MailIngest.Text.Utf8

/-!
# The token lifecycle

Exchanging an authorization code for tokens, sealing and storing them, refreshing an access
token with the stored refresh token, and deciding when a token needs refreshing.

The endpoint's answer decides the failure: an endpoint that cannot be reached, a status other
than 200 (its body may carry an error code and a description, and the description becomes the
message), or a body that is no valid token response. During a refresh a status in the 400s
means the provider rejected the refresh token; any other failure may pass. A stored row is
written only after a successful response, so a failed refresh leaves the credential as it was.

A token needs refreshing once its expiry is no later than the skew past now.

- `needsRefresh_none` : a credential without an expiry never needs refreshing.
-/

namespace MailIngest.Service

open OAuth

def fail {α : Type} (f : Fault) : Act α := throw f

def providerConfig (provider : Json) : Act ProviderConfig := do
  OAuth.resolve provider (← get).settings

/-- Posts a form to the token endpoint and takes its reply; a credential that vanishes with
the reply is deleted first. -/
def postForm (url : String) (form : List (String × Json)) : Act Reply := do
  let w ← get
  let (q, e) := w.endpoint.post url form w.settings.requestTimeoutSeconds
  set { w with endpoint := e }
  match q.vanishing with
  | some id => onStore fun s => ((), (s.delete id).1)
  | none => pure ()
  pure q.reply

/-- The error code and description of an endpoint body, `null` when it has none. -/
def errorFields : Option Json → Json × Json
  | some (.obj ms) => ((Json.lookup "error" ms).getD .null,
      (Json.lookup "error_description" ms).getD .null)
  | _ => (.null, .null)

/-- A description that stands as a message: a value that is not false, in its plain form. -/
def described (d : Json) : Option String := if d.truthy then some d.plainText else none

/-- The client fields of every form: the client id, and the secret when there is one. -/
def clientSecretField (c : ProviderConfig) : List (String × Json) :=
  match c.clientSecret with
  | some s => [("client_secret", .str s)]
  | none => []

def tokensOf (body : Option Json) : Option Tokens :=
  match body with
  | some j => match Tokens.check j with
    | .ok t => some t
    | .bad _ => none
  | none => none

/-- Exchanges an authorization code and its verifier for tokens. -/
def exchangeCode (c : ProviderConfig) (code verifier : Json) : Act Tokens := do
  let form := [("client_id", .str c.clientId), ("code", code), ("redirect_uri", .str c.redirectUri),
    ("grant_type", .str "authorization_code"), ("code_verifier", verifier)] ++ clientSecretField c
  match ← postForm c.tokenEndpoint form with
  | .unreachable _ => fail (.withMessage .authExchange "Token endpoint unreachable")
  | .response status body =>
    if status ≠ 200 then
      let (err, desc) := errorFields body
      fail (.raised .authExchange
        ((described desc).getD ("Token endpoint returned " ++ toString status))
        [("status", .int status), ("error", err)] none)
    else match tokensOf body with
      | some t => pure t
      | none => fail (.withMessage .authExchange "Token endpoint returned an invalid response")

def sealText (s : String) : Act String := sealing (Vault.encrypt (Text.Utf8.encode s) none)

def sealRefresh : Option String → Act (Option String)
  | some r => if r.isEmpty then pure none else some <$> sealText r
  | none => pure none

def ensureUser (user : String) (email : Option String) : Act Unit :=
  onStore fun s => ((), s.ensureUser user email)

def storeToken (user provider email : String) (t : Tokens) : Act Store.Credential := do
  let access ← sealText t.accessToken
  let refresh ← sealRefresh t.refreshToken
  ensureUser user none
  let expires ← t.expiresAt (← utcNow)
  let now ← storeNow
  let r ← onStore fun s => s.upsert
    { userId := user, provider := provider, email := email, accessToken := access,
      refreshToken := refresh, expiresAt := expires, scope := t.scope } now
  MonadExcept.ofExcept r

def credentialDetails (id : String) : List (String × Json) := [("credential_id", .str id)]

def load (id : String) : Act Store.Credential := do
  match (← store).get id with
  | some c => pure c
  | none => fail (.raised .credentialNotFound ErrorKind.credentialNotFound.defaultMessage
      (credentialDetails id) none)

def openText (token : String) : Act String := sealing (Vault.decrypt (.str token))

/-- A library error with the default message of its kind when none is given. -/
def raisedOr (k : ErrorKind) (msg : Option String) (details : List (String × Json)) : Fault :=
  .raised k (msg.getD k.defaultMessage) details none

/-- Posts the stored refresh token of a credential to the provider's token endpoint, and takes
the endpoint's reply. The credential must exist and hold a refresh token the vault can open. -/
def askRenewal (id : String) : Act Reply := do
  let c ← load id
  let missing := raisedOr .noRefreshToken none (credentialDetails id)
  let stored ← match c.refreshToken with
    | some r => if r.isEmpty then fail missing else pure r
    | none => fail missing
  let token ← tryCatch (openText stored) fun f =>
    if f.isA .decryption then
      fail (.raised .refreshRejected "Stored refresh token is unreadable; re-authorize the mailbox"
        (credentialDetails id) none)
    else fail f
  let config ← providerConfig (.str c.provider)
  postForm config.tokenEndpoint ([("client_id", .str config.clientId), ("refresh_token", .str token),
    ("grant_type", .str "refresh_token")] ++ clientSecretField config)

/-- Seals and stores the tokens of a successful refresh; the stored refresh token stays when the
response brings none. -/
def storeRenewal (id : String) (t : Tokens) : Act Store.Credential := do
  let access ← sealText t.accessToken
  let rotated ← sealRefresh t.refreshToken
  let expires ← t.expiresAt (← utcNow)
  let now ← storeNow
  let updated ← onStore fun s => s.updateTokens id access expires (rotated.map some) now
  match updated with
  | some u => pure u
  | none => fail (raisedOr .credentialNotFound none (credentialDetails id))

def renewalReply (id : String) : Reply → Act Store.Credential
  | .unreachable _ =>
    fail (.raised .tokenRefresh "Token endpoint unreachable" (credentialDetails id) none)
  | .response status body =>
    if status ≠ 200 then
      let (err, desc) := errorFields body
      let details := credentialDetails id ++ [("status", .int status), ("error", err)]
      if 400 ≤ status ∧ status < 500 then fail (raisedOr .refreshRejected (described desc) details)
      else fail (raisedOr .tokenRefresh (described desc) details)
    else match tokensOf body with
      | none => fail (.raised .tokenRefresh "Token endpoint returned an invalid response"
          (credentialDetails id) none)
      | some t => storeRenewal id t

/-- Obtains a new access token with the stored refresh token. -/
def refresh (id : String) : Act Store.Credential := do
  renewalReply id (← askRenewal id)

/-- Whether a credential's access token has expired, or expires within the skew. -/
def needsRefresh (c : Store.Credential) : Act Bool := do
  match c.expiry with
  | none => pure false
  | some e =>
    let skew ← Time.secondsMicros (← get).settings.expirySkewSeconds
    let limit ← (← utcNow).addMicros skew
    pure (e.le limit)

/-- A usable access token, refreshed first when asked or when needed; a forced refresh does
not look at the expiry. -/
def resolveAccessToken (id : String) (force : Bool) : Act String := do
  let c ← load id
  let stale ← (if force then pure true else needsRefresh c : Act Bool)
  let c ← if stale then refresh id else pure c
  openText c.accessToken

/-- The credential of a mailbox, refreshed when it has expired and can be. -/
def findCredential (user email provider : String) : Act (Option Store.Credential) := do
  match (← store).find user provider email with
  | none => pure none
  | some c =>
    let stale ← needsRefresh c
    let renewable := match c.refreshToken with
      | some r => !r.isEmpty
      | none => false
    if stale && renewable then some <$> refresh c.id else pure (some c)

/-- A credential without an expiry never needs refreshing. -/
theorem needsRefresh_none (c : Store.Credential) (w : World) (h : c.expiry = none) :
    (needsRefresh c).run.run w = (.ok false, w) := by
  simp only [needsRefresh, h]
  rfl

end MailIngest.Service
