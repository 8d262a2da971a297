import MailIngest.Api.Request
import MailIngest.Api.Answer
import MailIngest.Service.Accounts

/-!
# Scenario worlds

The world a scenario starts in, and how its steps read their fields and name credentials.

Steps name credentials by reference: `@last` is the credential seen last, `@k` the `k`-th
distinct one, and any other text is the id itself. A reference to a credential never seen is
`missing`. Credentials are seen when a step stores or writes one, and when a sign-in completes.
-/

namespace MailIngest.Api

open Service

/-- The key the vault uses unless a scenario gives one: bytes 0 to 31. -/
def defaultVaultKey : String := "AAECAwQFBgcICQoLDA0ODxAREhMUFRYXGBkaGxwdHh8="

def floatD (req : Json) (key : String) (dflt : Float) : Outcome Float :=
  match req.get? key with
  | none => .ok dflt
  | some (.int n) => .ok (Float.ofInt n)
  | some (.float x) => .ok x
  | some _ => .error (Fault.named "TypeError")

/-- A boolean field, `dflt` when missing; a value counts by whether it is true. -/
def flagD (req : Json) (key : String) (dflt : Bool) : Bool :=
  match req.get? key with
  | none => dflt
  | some v => v.truthy

def startWorld (host : Host) (req : Json) : Outcome World := do
  let wall ← timeD req "now" host.wallClock
  let pendingNow ← floatD req "pending_now" host.pendingClock
  let settings ← (Settings.OAuth.check (fieldD req "oauth_settings" (.obj []))).toOutcome
  let ttl ← floatD req "pending_ttl" 600.0
  let pending : PendingStore := match req.get? "pending" with
    | some (.str "redis") => .shared {} ttl true
    | _ => .inProcess { ttl := ttl }
  pure { wall := wall
         arrival := host.arrivalClock
         naive := flagD req "naive_clock" false
         pendingNow := pendingNow
         sealer := { configured := fieldD req "vault_key" (.str defaultVaultKey),
                     entropy := { seed := host.seedPrefix } }
         settings := settings
         provider := fieldD req "provider" (.str OAuth.microsoft)
         pending := pending }

def see (id : String) : Act Unit :=
  modify fun w => { w with seen := if w.seen.contains id then w.seen else w.seen ++ [id],
                           lastSeen := some id }

def credentialRef (step : Json) : Act String := do
  let w ← get
  let r ← textD step "credential" "@last"
  if r = "@last" then pure (w.lastSeen.getD "missing")
  else match r.toList with
    | '@' :: digits => match (String.ofList digits).toNat? with
      | some k => pure ((w.seen[k]?).getD "missing")
      | none => pure r
    | _ => pure r

def decoded {α : Type} (r : Outcome α) : Act α := MonadExcept.ofExcept r

/-- The caller a step names; the default is alice, `null` is no caller. -/
def callerOf (step : Json) : Outcome (Option Caller) :=
  match step.get? "caller" with
  | none => .ok (some { userId := "alice", email := "alice@example.com" })
  | some .null => .ok none
  | some c => do
    let u ← text c "user_id"
    let e ← text c "email"
    pure (some { userId := u, email := e })

def optText (step : Json) (key : String) : Outcome (Option String) :=
  match step.get? key with
  | none | some .null => .ok none
  | some v => some <$> asText v

/-- A step's optional moment, read as written: one without an offset stays without. -/
def optMoment (step : Json) (key : String) : Outcome (Option Time.DateTime) :=
  match step.get? key with
  | none | some .null => .ok none
  | some (.str s) => match Time.DateTime.parse? s with
    | some t => .ok (some t)
    | none => .error (Fault.named "ValueError")
  | some _ => .error (Fault.named "TypeError")

end MailIngest.Api
