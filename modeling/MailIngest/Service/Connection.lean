import MailIngest.Service.Tokens

/-!
# The mail server connection

One connection serves a whole sync cycle. It connects and signs in when an operation needs a
live client, and every operation goes through `withRetry`: a failed attempt drops the client
(its protocol state is unknown), waits the policy's backoff and tries again with a fresh one.

Failures fall into three classes. Token and vault failures are not retried: the token
lifecycle already made its one refresh. Transport failures, socket failures and refused logins
are retried. Anything else passes through untouched. When every attempt failed, the operation
fails with the number of attempts and the last failure as its cause.

A sign-in with a bearer token that the server refuses is tried once more with a forcibly
refreshed token, if the credential has no known expiry and can be refreshed.
-/

namespace MailIngest.Service

/-- How a connection signs in. -/
inductive Auth where
  | password (username secret : String)
  | bearer (username token credentialId : String)

def troubleFault : Imap.Trouble → Fault
  | .transport => Fault.named "error"
  | .rejected => Fault.named "LoginError"
  | .socket => Fault.named "OSError"

/-- Whether a failure ends the operation at once: a token or vault failure. -/
def fatal (f : Fault) : Bool := f.isA .authorization || f.isA .encryption

/-- Whether a failure is worth another attempt: transport, socket and login failures, and the
library's connection failures. -/
def retryable (f : Fault) : Bool :=
  f.isA .connection || ["error", "LoginError", "OSError"].contains f.name

def link : Act Link := do
  match (← get).link with
  | some l => pure l
  | none => fail (Fault.named "NoConnection")

def modifyLink (f : Link → Link) : Act Unit :=
  modify fun w => { w with link := w.link.map f }

/-- Runs a client operation on the server, its trouble raised as a failure. -/
def clientStep {α : Type} (m : Imap.ServerM α) : Act α := do
  match ← onServer m with
  | .ok a => pure a
  | .error t => fail (troubleFault t)

/-- How a connection asks the server to connect: address, TLS and its settings, timeout. -/
def connectRecord (l : Link) : Json :=
  let a := l.account
  .obj [("host", .str a.host), ("port", .int a.port), ("ssl", .bool a.secure),
    ("ssl_context", if a.secure then
        .obj [("verify_none", .bool a.allowInsecureCert),
          ("check_hostname", .bool !a.allowInsecureCert), ("minimum_version", .str "TLSv1_2")]
      else .null),
    ("timeout", l.timeout.toJson), ("use_uid", .bool true)]

/-- How the account signs in now; a bearer token is resolved, refreshed when asked. -/
def resolveAuth (force : Bool) : Act Auth := do
  let a := (← link).account
  match a.oauthCredentialId with
  | some id =>
    if id.isEmpty then pure (.password a.username (a.password.getD ""))
    else pure (.bearer a.username (← resolveAccessToken id force) id)
  | none => pure (.password a.username (a.password.getD ""))

/-- Whether a refused bearer login justifies one forced refresh: the credential has no known
expiry and holds a refresh token. -/
def canRefreshAfterRejection : Act Bool := do
  let l ← link
  match l.account.oauthCredentialId with
  | some id =>
    if id.isEmpty || !l.withFlow then pure false
    else match (← store).get id with
      | some c => pure (c.expiresAt.isNone && (c.refreshToken.map (!·.isEmpty)).getD false)
      | none => pure false
  | none => pure false

def login : Auth → Act Bool
  | .password u p => do
    match ← onServer (Imap.Server.login "password" u p) with
    | .ok () => pure true
    | .error _ => pure false
  | .bearer u t _ => do
    match ← onServer (Imap.Server.login "oauth2" u t) with
    | .ok () => pure true
    | .error _ => pure false

def loginRefused : Act Fault := do
  pure (.raised .login ErrorKind.login.defaultMessage [("host", .str (← link).account.host)] none)

/-- Whether a refused login is tried once more: only with a bearer token whose credential can
be refreshed. -/
def mayRetry : Auth → Act Bool
  | .bearer .. => canRefreshAfterRejection
  | .password .. => pure false

/-- Signs in, once more with a refreshed token when a bearer login is refused and may be. -/
def authenticate : Act Unit := do
  let auth ← resolveAuth false
  if ← login auth then return
  if !(← mayRetry auth) then fail (← loginRefused)
  let auth ← resolveAuth true
  if !(← login auth) then fail (← loginRefused)

/-- Drops the client without logging out; a failing shutdown is ignored. -/
def discard : Act Unit := do
  let l ← link
  modifyLink fun l => { l with client := none, state := .disconnected }
  if l.client.isSome then
    let _ ← onServer Imap.Server.shutdown

/-- Logs out cleanly; a failing logout is ignored, and the connection ends disconnected. -/
def logout : Act Unit := do
  let l ← link
  modifyLink fun l => { l with client := none }
  if l.client.isSome then
    let _ ← onServer Imap.Server.logout
  modifyLink fun l => { l with state := .disconnected }

/-- Opens a client and signs in; a failed sign-in drops the client. -/
def establish : Act Unit := do
  modifyLink fun l => { l with state := .connecting }
  let l ← link
  match l.refusal with
  | some name => fail (Fault.named name)
  | none =>
    let _ ← onServer (Imap.Server.connect (connectRecord l))
    modifyLink fun l => { l with client := some none }
    tryCatch authenticate fun f => do
      discard
      fail f
    modifyLink fun l => { l with state := .connected }

def ensureConnected : Act Unit := do
  let l ← link
  if l.client.isSome && (l.state = .connected || l.state = .fetching) then return
  establish

/-- Opens a mailbox on the live client: how many messages it holds. -/
def openMailbox (path : String) : Act Nat := do
  let n ← clientStep (Imap.Server.select path)
  modifyLink fun l => { l with client := some (some path) }
  pure n

def opened : Act String := do
  match (← link).client with
  | some (some p) => pure p
  | _ => pure ""

def exhausted (context : String) (attempts : Int) (last : Option Fault) : Fault :=
  .raised .retriesExhausted (context ++ " failed after " ++ toString attempts ++ " attempts")
    [("attempts", .int attempts), ("context", .str context)] last

def backOff (attempt : Nat) : Act Unit := do
  let l ← link
  let (d, j) ← l.policy.delayFor l.jitter attempt
  modifyLink fun l => { l with jitter := j, state := .backoff, sleeps := l.sleeps ++ [d] }
  modifyLink fun l => { l with state := .disconnected }

/-- Attempts `attempt` to `max` of an operation; `fuel` counts the attempts left. -/
def attempts {α : Type} (op : Act α) (context : String) (max : Nat) : Nat → Nat → Act α
  | 0, _ => fail (exhausted context max none)
  | fuel + 1, attempt => do
    let r ← tryCatch (Except.ok <$> (do ensureConnected; op)) fun f => pure (.error f)
    match r with
    | .ok a => pure a
    | .error f =>
      if fatal f then
        discard
        fail f
      else if retryable f then
        discard
        if attempt = max then fail (exhausted context max (some f))
        backOff attempt
        attempts op context max fuel (attempt + 1)
      else fail f

/-- Runs an operation on a live client, retrying as the policy allows. -/
def withRetry {α : Type} (op : Act α) (context : String) : Act α := do
  let max := (← link).policy.maxAttempts
  if max ≤ 0 then fail (exhausted context max none)
  attempts op context max.toNat max.toNat 1


end MailIngest.Service
