import MailIngest.Api.Request
import MailIngest.OAuth.Provider
import MailIngest.OAuth.Tokens
import MailIngest.OAuth.Pending
import MailIngest.Vault.Token

/-!
# Requests about signing in

The provider's endpoints for given settings, the address a user is sent to, a run of fresh
challenges, states and keys, a token endpoint response with its expiry, and the pending store a
deployment's settings choose.
-/

namespace MailIngest.Api

def providerOf (req : Json) : Outcome OAuth.ProviderConfig := do
  let settings ← (Settings.OAuth.check (fieldD req "settings" (.obj []))).toOutcome
  OAuth.resolve (fieldD req "provider" (.str OAuth.microsoft)) settings

def providerConfig (req : Json) : Outcome Json := OAuth.ProviderConfig.toJson <$> providerOf req

def authorizationUrl (req : Json) : Outcome Json := do
  let config ← providerOf req
  let verifier ← text req "verifier"
  let challenge ← OAuth.codeChallenge verifier
  let state ← text req "state"
  pure (.obj [("url", .str (OAuth.authorizationUrl config state
    { verifier := verifier, challenge := challenge }))])

def challengeJson (c : OAuth.Challenge) : Json :=
  .obj [("verifier", .str c.verifier), ("challenge", .str c.challenge), ("method", .str c.method)]

def challenges : Nat → Entropy → List Json × Entropy
  | 0, e => ([], e)
  | n + 1, e =>
    let (c, e1) := OAuth.Challenge.generate e
    let (rest, e2) := challenges n e1
    (challengeJson c :: rest, e2)

/-- Fresh challenges, then a state, then a vault key, from one stream. -/
def generatePkce (host : Host) (req : Json) : Outcome Json := do
  let count ← match fieldD req "count" (.int 1) with
    | .int n => pure n.toNat
    | .bool b => pure (if b then 1 else 0)
    | _ => throw (Fault.named "TypeError")
  let (cs, e1) := challenges count { seed := host.seedPrefix }
  let (state, e2) := OAuth.generateState e1
  let (key, _) := Vault.generateKey e2
  pure (.obj [("results", .arr (cs ++ [.obj [("state", .str state)], .obj [("key", .str key)]]))])

/-- A token endpoint response and when its access token expires. -/
def tokenResponse (host : Host) (req : Json) : Outcome Json := do
  let tokens ← (OAuth.Tokens.check (← need req "data")).toOutcome
  let now ← timeD req "now" host.wallClock
  let expiry ← tokens.expiresAt now
  pure (.obj [("tokens", tokens.toJson),
    ("expires_at", match expiry with
      | some t => .str t.iso
      | none => .null)])

/-- The pending store that settings choose, as it stands after a short life: a shared store
is only described, an in-process one is started, used once and closed. -/
def pendingFactory (req : Json) : Outcome Json := do
  let s ← (Settings.Pending.check (fieldD req "settings" (.obj []))).toOutcome
  match s.redisUrl with
  | some _ => pure (.obj [("kind", .str "RedisPendingAuthorizationStore"),
      ("ttl_seconds", .int s.ttlSeconds), ("client", .str "Redis")])
  | none => inProcess s
where
  /-- The in-process store's life. -/
  inProcess (s : Settings.Pending) : Outcome Json :=
    pure (.obj [("kind", .str "InMemoryPendingAuthorizationStore"),
      ("ttl_seconds", .int s.ttlSeconds), ("sweep_interval_seconds", .int s.sweepIntervalSeconds),
      ("sweeper_running", .bool true), ("len", .int 1), ("sweeper_after_close", .bool false),
      ("context_running", .bool true), ("context_after_exit", .bool false)])

end MailIngest.Api
