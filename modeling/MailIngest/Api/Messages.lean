import MailIngest.Archive.Message
import MailIngest.Api.Request
import MailIngest.Api.Answer
import MailIngest.Schema.Coerce

/-!
# Requests about archived messages

`parseEmail` reads a message's source into the record the archive keeps and answers it as an
object; a message that cannot be read is answered as a parse error.
-/

namespace MailIngest.Api

open Archive

def participantJson (p : Participant) : Json :=
  .obj [("name", .str p.name), ("address", .str p.address)]

def attachmentJson (a : Attachment) : Json :=
  .obj [("filename", Json.text a.filename), ("content_type", .str a.contentType),
    ("size", .int a.content.length), ("content_b64", .str (Text.Base64.encode .standard a.content))]

def messageJson (m : Message) : Json :=
  .obj [("id", .str m.id), ("uid", .int m.uid), ("thread_id", .str m.threadId),
    ("subject", .str m.subject), ("path", .str m.path),
    ("from_addresses", .arr (m.senders.map participantJson)),
    ("to", .arr (m.primary.map participantJson)), ("cc", .arr (m.cc.map participantJson)),
    ("bcc", .arr (m.bcc.map participantJson)), ("body", Json.text m.body), ("html", Json.text m.html),
    ("headers", .obj (m.headers.map fun (k, vs) => (k, Json.strs vs))),
    ("raw_headers", .str m.rawHeaders), ("attachments", .arr (m.attachments.map attachmentJson)),
    ("has_attachments", .bool !m.attachments.isEmpty),
    ("received_at", .str m.receivedAt.iso),
    ("eml_b64", .str (Text.Base64.encode .standard m.source))]

/-- The fault a failure to archive a message is reported as. -/
def failureFault (f : Failure) : Fault :=
  match f with
  | .emptySource | .noHeaders => .withMessage .messageParse f.message
  | .broken cause => .raised .messageParse f.message [] (some (.named cause))
  | .badUid rule => .raised .messageParse f.message [] (some (.invalid [⟨["uid"], rule, none⟩]))

/-- A value as a message shows it: an integer in decimal, a float in its shortest form, a
truth value as `True` or `False`, a text as itself; a list or an object, which never stands for
a number, as nothing. -/
def shownValue : Json → String
  | .int n => toString n
  | .float x => Decimal.render .plain x
  | .bool b => if b then "True" else "False"
  | .str s => s
  | .null => "None"
  | _ => ""

/-- The mailbox number of a request as given: its text, and the integer it reads as. -/
def givenUid (v : Json) : GivenUid :=
  ⟨shownValue v, match Schema.integer v with
    | .ok n => .ok n
    | .bad is => .error ((is.head?.map (·.rule)).getD "int_type")⟩

/-- The source bytes of a request: the field `raw`, or none. -/
def sourceField (req : Json) : Outcome (List UInt8) :=
  if (req.get? "raw_b64").isSome || (req.get? "raw").isSome then bytesField req "raw" else pure []

/-- A message read from the request's source by a new markup converter. -/
def parseEmail (host : Host) (req : Json) : Outcome Json := do
  let raw ← sourceField req
  let uid := givenUid (fieldD req "uid" (.int 1))
  let path ← textD req "mailbox_path" "INBOX"
  let now ← timeD req "now" host.arrivalClock
  match ((Archive.read now raw path uid).run.run {}).1 with
  | .ok m => pure (messageJson m)
  | .error f => throw (failureFault f)


end MailIngest.Api
