import MailIngest.Mail.Date
import MailIngest.Mail.Syntax.MessageId
import MailIngest.Mail.Syntax.Parameters

/-!
# Header fields and their text

A header field is its name, as written, and its value as it stands in the message: the text
after the colon with the leading blanks of its first line dropped, its continuation lines
joined, and the final line break dropped. The value is kept as glyphs, so that the bytes of a
message that is not ASCII survive.

The text of a field (`Field.text`) is what a reader of the header sees: line breaks are
dropped, and the value is read by the grammar of the field's kind (`FieldKind.ofName`), then
written back: encoded words decoded, addresses and dates normalized. A value the grammar cannot
read may stop the reading with an error, named as `Field.text` reports it, and text written
back that holds a surrogate alone cannot be shown (`UnicodeEncodeError`).
-/

namespace MailIngest.Mail

open Syntax

/-- How a header field's value is read. -/
inductive FieldKind where
  /-- Free text, with encoded words. -/
  | text
  /-- A date. -/
  | date
  /-- A list of addresses and groups. -/
  | addresses
  /-- A MIME version number. -/
  | mimeVersion
  /-- A media type with its parameters. -/
  | contentType
  /-- A disposition with its parameters. -/
  | contentDisposition
  /-- A transfer encoding. -/
  | transferEncoding
  /-- A message identifier. -/
  | messageId
deriving DecidableEq, Repr

def FieldKind.ofName (name : String) : FieldKind :=
  match Text.lower name with
  | "date" | "resent-date" | "orig-date" => .date
  | "sender" | "resent-sender" | "to" | "resent-to" | "cc" | "resent-cc" | "bcc"
  | "resent-bcc" | "from" | "resent-from" | "reply-to" => .addresses
  | "mime-version" => .mimeVersion
  | "content-type" => .contentType
  | "content-disposition" => .contentDisposition
  | "content-transfer-encoding" => .transferEncoding
  | "message-id" => .messageId
  | _ => .text

/-- A header field: its name as written and its value as it stands in the message. -/
structure Field where
  name : String
  value : Glyphs
deriving DecidableEq, Inhabited

/-- The name of the error that a stop of the grammar raises. -/
def Syntax.Stop.errorName : Stop → String
  | .mismatch => "HeaderParseError"
  | .malformed => "_InvalidEwError"
  | .fault n => n

def settle {α : Type} (r : Read α) : Except String α := r.mapError Stop.errorName

/-- A character a date reader sees for a glyph: a byte is no letter, digit or blank. -/
def Glyph.dateChar : Glyph → Char
  | .char c => c
  | _ => '�'

def shownChecked (t : Node) : Read Glyphs := do
  let s ← shown t
  checkDefects t
  pure s

/-- The text of a date field: the date written back, the value itself when it is no date, and
empty for an empty value; a date past the calendar's numbers is an error. -/
def dateText (value : Glyphs) : Except String String :=
  if value.isEmpty then .ok ""
  else match Date.parse (String.ofList (value.map Glyph.dateChar)) with
    | .ok t => .ok (Date.format t)
    | .error "ValueError" => .ok (render value)
    | .error e => .error e

/-- The text of an address field: its groups and addresses written back. -/
def addressesText (value : Glyphs) : Read Glyphs := do
  let list ← addressList value
  let groups ← groupsOf list
  pure (groupsText groups)

/-- The text of a value read as a field of the given kind: written back, then shown, which fails
when it holds a lone unit. -/
def FieldKind.read (k : FieldKind) (value : Glyphs) : Except String String :=
  match k with
  | .text => settle (unstructured value >>= shown) >>= renderChecked
  | .date => dateText value
  | .addresses => settle (addressesText value) >>= renderChecked
  | .mimeVersion => settle (Syntax.mimeVersion value >>= shownChecked) >>= renderChecked
  | .contentType => settle (Syntax.contentType value >>= shownChecked) >>= renderChecked
  | .contentDisposition =>
    settle (Syntax.contentDisposition value >>= shownChecked) >>= renderChecked
  | .transferEncoding => settle (Syntax.transferEncoding value >>= shownChecked) >>= renderChecked
  | .messageId => settle (Syntax.messageId value >>= shownChecked) >>= renderChecked

/-- The value with its line breaks dropped, as a reader of the field gets it. -/
def Field.unfolded (f : Field) : Glyphs := f.value.filter fun g => !(g.is '\r' || g.is '\n')

/-- The text of a field, or the name of the error that reading it raises. -/
def Field.text (f : Field) : Except String String := (FieldKind.ofName f.name).read f.unfolded



end MailIngest.Mail
