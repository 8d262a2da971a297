import MailIngest.Schema.Coerce
import MailIngest.Time.DateTime

/-!
# Token endpoint responses

A successful token response carries a non-empty access token and optionally a refresh token,
a lifetime in whole non-negative seconds, a token type (`Bearer` by default) and the granted
scope. The access token expires the lifetime after the moment of the response.

- `expiresAt_none` : a response without a lifetime does not expire.
-/

namespace MailIngest.OAuth

open Schema

/-- A successful token endpoint response. -/
structure Tokens where
  accessToken : String
  refreshToken : Option String := none
  expiresIn : Option Int := none
  tokenType : String := "Bearer"
  scope : Option String := none
deriving Inhabited

def Tokens.check : Check Tokens := fun j => (object j).andThen fun ms =>
  Tokens.mk
    <$> req ms "access_token" (textAtLeast 1)
    <*> opt ms "refresh_token" none (optional text)
    <*> opt ms "expires_in" none (optional (integerIn { ge := some 0 }))
    <*> opt ms "token_type" "Bearer" text
    <*> opt ms "scope" none (optional text)

def Tokens.toJson (t : Tokens) : Json :=
  .obj [("access_token", .str t.accessToken), ("refresh_token", Json.optStr t.refreshToken),
    ("expires_in", Json.optInt t.expiresIn), ("token_type", .str t.tokenType),
    ("scope", Json.optStr t.scope)]

/-- When the access token expires, for a response received at `now`. -/
def Tokens.expiresAt (t : Tokens) (now : Time.DateTime) : Outcome (Option Time.DateTime) :=
  match t.expiresIn with
  | none => .ok none
  | some n => do
    let us ← Time.secondsMicros n
    some <$> now.addMicros us

theorem expiresAt_none (t : Tokens) (now : Time.DateTime) (h : t.expiresIn = none) :
    t.expiresAt now = .ok none := by
  simp [Tokens.expiresAt, h]

end MailIngest.OAuth
