import MailIngest.OAuth.Pkce
import MailIngest.Settings.Model
import MailIngest.Text.FormEncode
import MailIngest.Json.Plain

/-!
# OAuth providers

One provider is configured: the Microsoft identity platform, whose IMAP scope grants mailbox
access. Its client id defaults to a public client that needs no registration, the redirect
address defaults to the callback under the public base URL, and an empty client secret is none.
Any other provider name is refused.

The authorization URL sends the user to the provider's consent page with the client id, the
response type `code`, the redirect address, the space-separated scopes, the `state`, and the
PKCE challenge, form-encoded in that order.

- `resolve_other` : every name but `microsoft` is refused.
-/

namespace MailIngest.OAuth

def microsoft : String := "microsoft"

def publicClientId : String := "9e5f94bc-e8a4-4e73-b8be-63364c29d753"

/-- The path of the sign-in callback under the public base URL. -/
def callbackPath : String := "/api/v1/auth/outlook/callback"

/-- What a client needs to know about a provider. -/
structure ProviderConfig where
  name : String
  clientId : String
  clientSecret : Option String
  redirectUri : String
  authorizationEndpoint : String
  tokenEndpoint : String
  scopes : List String
deriving Inhabited

def isMicrosoft : Json → Bool
  | .str p => p = microsoft
  | _ => false

/-- The configuration of a provider under the given settings. -/
def resolve (provider : Json) (s : Settings.OAuth) : Outcome ProviderConfig :=
  if isMicrosoft provider then
    .ok { name := microsoft
          clientId := match s.clientId with
            | some c => if c.isEmpty then publicClientId else c
            | none => publicClientId
          clientSecret := s.clientSecret.bind fun c => if c.isEmpty then none else some c
          redirectUri := match s.redirectUri with
            | some r => if r.isEmpty then s.publicBaseUrl ++ callbackPath else r
            | none => s.publicBaseUrl ++ callbackPath
          authorizationEndpoint := "https://login.microsoftonline.com/common/oauth2/v2.0/authorize"
          tokenEndpoint := "https://login.microsoftonline.com/common/oauth2/v2.0/token"
          scopes := ["https://outlook.office365.com/IMAP.AccessAsUser.All", "offline_access",
            "openid", "profile", "email"] }
  else
    .error (.raised .unsupportedProvider ("Unsupported OAuth provider: " ++ provider.plainText)
      [("provider", provider)] none)

def ProviderConfig.toJson (c : ProviderConfig) : Json :=
  .obj [("name", .str c.name), ("client_id", .str c.clientId),
    ("client_secret", Json.optStr c.clientSecret), ("redirect_uri", .str c.redirectUri),
    ("authorization_endpoint", .str c.authorizationEndpoint),
    ("token_endpoint", .str c.tokenEndpoint), ("scopes", Json.strs c.scopes)]

/-- The address of the provider's consent page for a request. -/
def authorizationUrl (c : ProviderConfig) (state : String) (ch : Challenge) : String :=
  c.authorizationEndpoint ++ "?" ++ Text.formEncode
    [("client_id", c.clientId), ("response_type", "code"), ("redirect_uri", c.redirectUri),
     ("scope", String.intercalate " " c.scopes), ("state", state),
     ("code_challenge", ch.challenge), ("code_challenge_method", ch.method),
     ("response_mode", "query")]

theorem resolve_other (p : Json) (s : Settings.OAuth) (h : isMicrosoft p = false) :
    (resolve p s).toOption = none := by
  simp [resolve, h, Except.toOption]

end MailIngest.OAuth
