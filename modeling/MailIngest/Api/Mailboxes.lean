import MailIngest.Mailbox.Info
import MailIngest.Archive.Layout
import MailIngest.Retry.Policy
import MailIngest.Api.Request
import MailIngest.Imap.Account

/-!
# Requests about mailboxes and waiting

`mailboxInfo` classifies one entry of a server listing, `dirname` names a mailbox's export
directory, `retryDelays` lists the waits of a backoff policy, and `account` checks the
settings of a mail server account.
-/

namespace MailIngest.Api

def mailboxInfo (req : Json) : Outcome Json := do
  let path ← text req "name"
  let flags ← ((fieldD req "flags" .null).getArr?.getD []).mapM asText
  let delim ← match fieldD req "delimiter" .null with
    | .null => pure none
    | v => some <$> asText v
  let e : Mailbox.Entry := { path, flags, delimiter := delim }
  pure (.obj [("path", .str e.path), ("flags", Json.strs e.flags),
    ("delimiter", Json.optStr e.delimiter), ("normalized_flags", Json.strs e.normalizedFlags),
    ("selectable", .bool e.selectable), ("is_trash_or_junk", .bool e.isTrashOrJunk)])

def dirname (req : Json) : Outcome Json := do
  let p ← text req "path"
  pure (.obj [("value", .str (Archive.safeDirname p))])

def numberD (req : Json) (key : String) (dflt : Number) : Outcome Number :=
  match req.get? key with
  | none => pure dflt
  | some v => match Number.ofJson? v with
    | some n => pure n
    | none => throw (Fault.named "TypeError")

/-- The jitter source of a request: its `jitter` fractions in a cycle. -/
def jitterOf (req : Json) : Outcome Retry.Jitter := do
  match req.get? "jitter" with
  | none | some .null => pure {}
  | some v =>
    let fs ← (v.getArr?.getD []).mapM fun x => match Number.ofJson? x with
      | some n => pure n
      | none => throw (Fault.named "TypeError")
    pure { fractions := fs }

def retryDelays (req : Json) : Outcome Json := do
  let base ← numberD req "backoff_base" (.real 2.0)
  let jit ← numberD req "max_jitter" (.real 1.0)
  let attempts ← ((fieldD req "attempts" (.arr [.int 1, .int 2, .int 3, .int 4])).getArr?.getD
    []).mapM fun a => match a.getInt? with
      | some n => pure n
      | none => throw (Fault.named "TypeError")
  let p : Retry.Policy := { backoffBase := base, maxJitter := jit }
  let (ds, _) ← p.delays (← jitterOf req) attempts
  pure (.obj [("delays", .arr (ds.map Number.toJson))])

def account (req : Json) : Outcome Json := do
  let a ← (Imap.Account.check (fieldD req "data" (.obj []))).toOutcome
  pure a.toJson

end MailIngest.Api
