import MailIngest.Error.Report
import MailIngest.Api.Request
import MailIngest.Text.Case

/-!
# Requests about errors

`errorInfo` builds a library error from a request and shows it every way a caller sees it;
`userMessage` looks a code, or a foreign failure's class, up in the catalogue.
-/

namespace MailIngest.Api

def extraKeys : List String := ["attempts", "context", "uid", "mailbox_path"]

/-- A library error built from a request, shown as record, text, suggestion, terminal report
and chain of kinds. -/
def errorInfo (req : Json) : Outcome Json := do
  let name ← text req "kind"
  let some k := ErrorKind.ofName? name | throw (Fault.named "AttributeError")
  let extras := extraKeys.filterMap fun key => (req.get? key).map (key, ·)
  let r ← Error.Report.build k (fieldD req "message" .null) (fieldD req "user_message" .null)
    (fieldD req "details" .null) extras
  let cli ← r.terminal
  pure (.obj [("to_dict", r.toRecord), ("str", .str r.text),
    ("recovery_suggestion", .str (Catalogue.suggestion k.code)), ("cli", .str cli),
    ("ancestors", Json.strs (k.ancestors.map ErrorKind.name))])

/-- The catalogue entries of a code, or of a foreign failure's class. -/
def userMessage (req : Json) : Outcome Json := do
  let lookup ← match req.get? "exception" with
    | some (.str cls) => pure (Text.upper cls)
    | _ => text req "code"
  pure (.obj [("user_message", .str (Catalogue.userMessage lookup)),
    ("recovery_suggestion", .str (Catalogue.suggestion lookup)),
    ("cli", .str (Catalogue.cliReport none lookup []))])

end MailIngest.Api
