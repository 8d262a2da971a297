import MailIngest.Schema.Coerce

/-!
# IMAP accounts

An account names a server (host, port, whether to use implicit TLS, whether to accept any
certificate) and how to sign in: exactly one of a password and the id of a stored OAuth
credential. The sign-in method follows from which one is given.

- `authMode_oauth` : an account with a credential id signs in with OAuth.
-/

namespace MailIngest.Imap

open Schema

/-- How an account signs in. -/
inductive AuthMode where
  | password
  | oauth2
deriving DecidableEq, Inhabited

def AuthMode.name : AuthMode → String
  | password => "password"
  | oauth2 => "oauth2"

/-- A mailbox server and the means to sign in to it. -/
structure Account where
  host : String
  port : Int := 993
  secure : Bool := true
  username : String
  password : Option String := none
  oauthCredentialId : Option String := none
  allowInsecureCert : Bool := false
deriving Inhabited

def present : Option String → Bool
  | some s => !s.isEmpty
  | none => false

def Account.checkCredentials (a : Account) : Validated Account :=
  if present a.password == present a.oauthCredentialId then
    .failValue "Provide either password or oauth_credential_id"
  else .ok a

def Account.check : Check Account := fun j => (object j).andThen fun ms =>
  (Account.mk
    <$> req ms "host" (textAtLeast 1)
    <*> opt ms "port" 993 (integerIn { ge := some 1, le := some 65535 })
    <*> opt ms "secure" true flag
    <*> req ms "username" (textAtLeast 1)
    <*> opt ms "password" none (optional text)
    <*> opt ms "oauth_credential_id" none (optional text)
    <*> opt ms "allow_insecure_cert" false flag).andThen Account.checkCredentials

def Account.authMode (a : Account) : AuthMode :=
  if present a.oauthCredentialId then .oauth2 else .password

def Account.toJson (a : Account) : Json :=
  .obj [("host", .str a.host), ("port", .int a.port), ("secure", .bool a.secure),
    ("username", .str a.username), ("password", Json.optStr a.password),
    ("oauth_credential_id", Json.optStr a.oauthCredentialId),
    ("allow_insecure_cert", .bool a.allowInsecureCert), ("auth_mode", .str a.authMode.name)]

/-- An account with a credential id signs in with OAuth. -/
theorem authMode_oauth (a : Account) (c : String) (h : a.oauthCredentialId = some c)
    (hc : c ≠ "") : a.authMode = .oauth2 := by
  simp [Account.authMode, present, h, hc]

end MailIngest.Imap
