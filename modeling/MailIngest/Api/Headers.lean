import MailIngest.Mail.Thread
import MailIngest.Api.Request

/-!
# Requests about threading headers

`threadIdOf` finds a conversation identifier from a header map given as an object of value
lists; `normalizedId` normalizes one message id.
-/

namespace MailIngest.Api

/-- A header map from an object of value lists; a value that is no list counts as none. -/
def headerMapOf (j : Json) : Outcome Mail.HeaderMap :=
  j.members.mapM fun (k, v) => do
    let vs ← (v.getArr?.getD []).mapM asText
    pure (k, vs)

/-- The thread identifier of a header map and raw header block. -/
def threadIdOf (req : Json) : Outcome Json := do
  let h ← headerMapOf (fieldD req "headers" (.obj []))
  let raw ← textD req "raw_headers" ""
  pure (.obj [("thread_id", .str (Mail.threadId h raw))])

def normalizedId (req : Json) : Outcome Json := do
  let v ← text req "value"
  pure (.obj [("value", .str (Mail.normalizeMessageId v))])

end MailIngest.Api
