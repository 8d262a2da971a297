import MailIngest.Mail.Flatten
import MailIngest.Mail.Recipients
import MailIngest.Mail.Thread
import MailIngest.Mail.Date
import MailIngest.Html.Markdown

/-!
# Messages as the archive keeps them

A message fetched from a mailbox is archived as a record (`Message`): its identifier, thread,
participants, subject, a plain text body, the markup body if it has one, its header texts, its
attachments with their content, the moment it arrived and its source bytes.

- The identifier is the `Message-ID` text, or the mailbox number when there is none.
- The body is the first plain text part that is no attachment, else the first markup part
  converted to Markdown text (`MailIngest.Html.Converter`), else empty; the leaf parts are
  found depth first, an attached message counting as one leaf.
- A part is an attachment when its disposition says so or it names a file; the attachments of
  a multipart message are its leaf parts that are attachments, each with its content decoded,
  an attached message written back as bytes.
- The moment of arrival is read from the `Date` text, in UTC when it names no offset; a message
  without a readable date arrived at the moment given for that.

Reading fails (`Failure`) for empty source, for a message without header fields, for any
failure in reading the message, and for a mailbox number that is no integer of at least one.

The main statement is `read_blank` (blank source is refused).
-/

namespace MailIngest.Archive

open Mail

/-- A participant of a message: a display name and an address, each possibly empty. -/
structure Participant where
  name : String
  address : String
deriving DecidableEq, Inhabited

/-- An attachment: its file name, media type and decoded content. -/
structure Attachment where
  filename : List Text.CodePoint
  contentType : String
  content : Bytes
deriving Inhabited

/-- A message as the archive keeps it. -/
structure Message where
  id : String
  uid : Int
  threadId : String
  senders : List Participant
  /-- The primary recipients, those the `To` field names. -/
  primary : List Participant
  cc : List Participant
  bcc : List Participant
  subject : String
  body : List Text.CodePoint
  html : List Text.CodePoint
  headers : HeaderMap
  rawHeaders : String
  attachments : List Attachment
  receivedAt : Time.DateTime
  source : Bytes
  path : String
deriving Inhabited

/-- Why a message could not be archived. -/
inductive Failure where
  /-- The source is empty or blank. -/
  | emptySource
  /-- The message has no header field. -/
  | noHeaders
  /-- Reading the message failed, with the name of the failure. -/
  | broken (cause : String)
  /-- The mailbox number is no integer of at least one: the rule it breaks. -/
  | badUid (rule : String)
deriving DecidableEq, Inhabited

/-- A mailbox number as the caller gave it: the text it is shown as, and the integer it stands
for or the rule by which it is none. -/
structure GivenUid where
  text : String
  value : Except String Int

def GivenUid.ofInt (n : Int) : GivenUid := ⟨toString n, .ok n⟩

/-- The message a failure is reported with; a failure in reading the message is reported
without the text of what failed. -/
def Failure.message : Failure → String
  | .emptySource => "Empty message source"
  | .noHeaders => "Message has no headers"
  | .broken _ | .badUid _ => "Email parsing failed"

/-- Reading a message: it may fail, and it carries the markup converter along, whose state
outlives each message. -/
abbrev Normalizing := ExceptT Failure (StateM Html.Converter)

def lift {α : Type} : Except String α → Normalizing α
  | .ok a => pure a
  | .error e => throw (.broken e)

def isBlankByte (b : UInt8) : Bool :=
  b = 0x20 || b = 0x09 || b = 0x0A || b = 0x0D || b = 0x0B || b = 0x0C

def findBytes (sep : Bytes) : Nat → Bytes → Option Nat
  | _, [] => none
  | i, b :: rest => if sep.isPrefixOf (b :: rest) then some i else findBytes sep (i + 1) rest

/-- The header block of a source: the text before its first empty line, CRLF lines first, else
LF lines, else the whole source; bytes that are no UTF-8 read as replacement characters. -/
def headerBlock (raw : Bytes) : String :=
  match findBytes [0x0D, 0x0A, 0x0D, 0x0A] 0 raw with
  | some i => Text.Utf8.decodeReplacing (raw.take i)
  | none =>
    match findBytes [0x0A, 0x0A] 0 raw with
    | some i => Text.Utf8.decodeReplacing (raw.take i)
    | none => Text.Utf8.decodeReplacing raw

/-- A header text added under its name in lower case, after the texts of that name. -/
def addHeader (m : HeaderMap) (kv : String × String) : HeaderMap :=
  if m.any (·.1 = kv.1) then m.map fun (k, vs) => if k = kv.1 then (k, vs ++ [kv.2]) else (k, vs)
  else m ++ [(kv.1, [kv.2])]

/-- The texts of a message's fields by their names in lower case, in the order of the fields. -/
def collectHeaders (fields : List Field) : Except String HeaderMap := do
  let texts ← fields.mapM fun f => do pure (Text.lower f.name, ← f.text)
  pure (texts.foldl addHeader [])

mutual

/-- The leaf parts of an entity, depth first, an attached message counting as one, and the
failure that stopped the search, if one did. -/
def leafParts : Entity → List Entity × Option String
  | .single h p =>
    match attachedMessage (.single h p) with
    | .ok _ => ([.single h p], none)
    | .error e => ([], some e)
  | .composite h ps =>
    match attachedMessage (.composite h ps) with
    | .ok true => ([.composite h ps], none)
    | .ok false => leafPartsOf ps
    | .error e => ([], some e)

/-- The leaf parts of entities in order, and the failure that stopped the search, if one did. -/
def leafPartsOf : List Entity → List Entity × Option String
  | [] => ([], none)
  | p :: rest =>
    match leafParts p with
    | (found, some e) => (found, some e)
    | (found, none) =>
      let (more, e) := leafPartsOf rest
      (found ++ more, e)

/-- Whether an entity is a message given as an attachment; the disposition is read only for a
message. -/
def attachedMessage (e : Entity) : Except String Bool :=
  if e.mainType = "message" then do pure ((← e.disposition) = some "attachment")
  else pure false

end

/-- Whether a part is an attachment: its disposition says so, or it names a file. -/
def isAttachment (e : Entity) : Except String Bool := do
  if (← e.disposition) = some "attachment" then return true
  match ← e.filename with
  | some f => pure !f.isEmpty
  | none => pure false

/-- The first plain text and the first markup text among leaf parts that are no attachments. -/
def bodies (parts : List Entity) :
    Except String (Option (List Text.CodePoint) × Option (List Text.CodePoint)) :=
  parts.foldlM (fun (plain, html) p => do
    if ← isAttachment p then return (plain, html)
    if p.mediaType = "text/plain" && plain.isNone then
      let t ← p.textContent
      return (some t, html)
    if p.mediaType = "text/html" && html.isNone then
      let t ← p.textContent
      return (plain, some t)
    return (plain, html)) (none, none)

/-- The bodies of a message's leaf parts, found as the search for them goes on: a failure in
reading a part comes before a failure in finding the next one. -/
def bodiesOf (found : List Entity × Option String) :
    Except String (Option (List Text.CodePoint) × Option (List Text.CodePoint)) := do
  let b ← bodies found.1
  match found.2 with
  | some e => .error e
  | none => pure b

/-- An attachment with its content: an attached message written back as bytes, other parts
decoded; a part that names no file is untitled. -/
def attachmentOf (e : Entity) : Except String Attachment := do
  let content ← if e.mainType = "message" then
      match e.parts with
      | p :: _ => p.toBytes false
      | [] => pure []
    else pure ((← e.decoded).getD [])
  let name ← e.filename
  pure ⟨(name.filter (!·.isEmpty)).getD (Text.CodePoint.ofString "untitled"), e.mediaType, content⟩

/-- The participants named by the fields of a name: those with a name or an address, both
without blanks around. -/
def participants (h : Head) (name : String) : Except String (List Participant) := do
  let values ← (h.fields.filter fun f => Text.lower f.name = name).mapM Field.text
  pure ((Recipients.recipients values).filterMap fun (n, a) =>
    if n.isEmpty && a.isEmpty then none else some ⟨Text.trim n, Text.trim a⟩)

/-- The moment a message arrived: its date read back from the `Date` text, in UTC when it names
no offset, or `now` when there is no readable date; a date past what the calendar's numbers
hold is a failure, not an unreadable date. -/
def receivedAt (now : Time.DateTime) (h : Head) : Except String Time.DateTime := do
  match ← h.text? "date" with
  | some t =>
    if t.isEmpty then pure now
    else match Date.parse t with
      | .ok d => pure d.assumeUtc
      | .error failure => if failure = "OverflowError" then throw failure else pure now
  | none => pure now

/-- The plain text body: the plain part without blanks around, else the markup part converted,
else empty. The converter reads a lone surrogate of the markup as the replacement character. -/
def plainBody (plain html : Option (List Text.CodePoint)) : Normalizing (List Text.CodePoint) :=
  match plain with
  | some p => pure (Text.CodePoint.trim p)
  | none =>
    match html with
    | some h =>
      if h.isEmpty then pure []
      else do
        let (c, r) := (← get).convert (Text.CodePoint.replaced h)
        set c
        (Text.CodePoint.ofString ∘ Text.trim) <$> lift r
    | none => pure []

/-- A message read from its source, fetched from the mailbox `path` under the number `uid`;
`now` is the moment of arrival of a message without a readable date. -/
def read (now : Time.DateTime) (raw : Bytes) (path : String) (given : GivenUid) :
    Normalizing Message := do
  if raw.all isBlankByte then throw .emptySource
  let root ← lift (Mail.readMessage raw)
  if root.head.fields.isEmpty then throw .noHeaders
  let rawHeaders := headerBlock raw
  let headers ← lift (collectHeaders root.head.fields)
  let messageId := Text.trim ((← lift (root.head.text? "message-id")).getD "")
  let found := leafParts root
  let (plain, html) ← lift (bodiesOf found)
  let senders ← lift (participants root.head "from")
  let primary ← lift (participants root.head "to")
  let cc ← lift (participants root.head "cc")
  let bcc ← lift (participants root.head "bcc")
  let subject := Text.trim ((← lift (root.head.text? "subject")).getD "")
  let body ← plainBody plain html
  let attachments ← if root.isComposite then
      lift ((← lift (found.1.filterM isAttachment)).mapM attachmentOf)
    else pure []
  let arrived ← lift (receivedAt now root.head)
  let uid ← match given.value with
    | .error rule => throw (.badUid rule)
    | .ok n => if n < 1 then throw (.badUid "greater_than_equal") else pure n
  pure {
    id := if messageId.isEmpty then given.text else messageId
    uid, threadId := threadId headers rawHeaders, senders, primary, cc, bcc, subject, body,
    html := html.getD [], headers, rawHeaders, attachments, receivedAt := arrived,
    source := raw, path }

theorem read_blank (now : Time.DateTime) (path : String) (uid : GivenUid) (c : Html.Converter) :
    ((read now [0x20, 0x0A] path uid).run.run c).1 = .error .emptySource := by
  rfl


end MailIngest.Archive
