import MailIngest.Text.Blank
import MailIngest.Text.Case
import MailIngest.Text.Base64
import MailIngest.Text.Hex
import MailIngest.Text.Utf8
import MailIngest.Digest.Sha256

/-!
# Conversation identifiers

Messages of one conversation share a thread identifier, found from the threading headers in
this order of preference:

1. a provider thread id (`x-gm-thrid`), as `gm:<id>`;
2. a `thread-index` whose base64 holds at least 22 bytes, as `ti:` and the hex of those 22
   bytes, which name the conversation's first message;
3. the first message id in `references`, else in `in-reply-to`, else the message's own
   `message-id`, normalized;
4. otherwise `sha256:` and the hex digest of the raw header block.

A message id is normalized by trimming blanks, then angle brackets, then blanks, and
lowercasing. In a header value the first `<…>` with no angle bracket inside gives the id; a
value without one gives its first word.

- `threadId_gm` : a provider thread id wins over everything else.
-/

namespace MailIngest.Mail

/-- Header values by lower-cased header name, in header order. -/
abbrev HeaderMap := List (String × List String)

/-- The first value of header `name`, trimmed; empty when there is none. -/
def HeaderMap.first (h : HeaderMap) (name : String) : String :=
  match (h.find? (·.1 = name)).map (·.2) with
  | some (v :: _) => Text.trim v
  | _ => ""

/-- A message id without surrounding blanks and angle brackets, lowercased. -/
def normalizeMessageId (s : String) : String :=
  Text.lower (Text.trim (Text.trimChars ['<', '>'] (Text.trim s)))

/-- Whether a character may stand inside angle brackets of an id. -/
def isIdChar (c : Char) : Bool := c ≠ '<' ∧ c ≠ '>'

/-- The text of the first `<…>` whose inside is non-empty and bracket-free. -/
def firstBracketed : List Char → Option (List Char)
  | [] => none
  | c :: rest =>
    if c = '<' then
      let body := rest.takeWhile isIdChar
      match rest.drop body.length with
      | '>' :: _ => if body.isEmpty then firstBracketed rest else some body
      | _ => firstBracketed rest
    else firstBracketed rest

def firstMessageId (value : String) : Option String :=
  match firstBracketed value.toList with
  | some body =>
    let id := normalizeMessageId (String.ofList body)
    if id.isEmpty then none else some id
  | none =>
    match Text.words value with
    | w :: _ => some (normalizeMessageId w)
    | [] => none

/-- The number of leading `thread-index` bytes that name a conversation. -/
def threadIndexRoot : Nat := 22

/-- The conversation root named by a `thread-index` value, if it is long enough. -/
def threadIndexId (value : String) : Option String :=
  if value.toList.any (·.toNat ≥ 0x80) then none
  else match Text.Base64.decode false value.toList with
    | some bytes =>
      if bytes.length ≥ threadIndexRoot then some ("ti:" ++ Text.Hex.hex (bytes.take threadIndexRoot))
      else none
    | none => none

/-- The first non-empty message id among the threading headers. -/
def referencedId (h : HeaderMap) : List String → Option String
  | [] => none
  | name :: rest =>
    let v := h.first name
    match (if v.isEmpty then none else firstMessageId v) with
    | some id => if id.isEmpty then referencedId h rest else some id
    | none => referencedId h rest

/-- The thread identifier of a message from its headers and raw header block. -/
def threadId (h : HeaderMap) (rawHeaders : String) : String :=
  let gm := h.first "x-gm-thrid"
  if !gm.isEmpty then "gm:" ++ gm
  else
    let ti := h.first "thread-index"
    match (if ti.isEmpty then none else threadIndexId ti) with
    | some id => id
    | none =>
      match referencedId h ["references", "in-reply-to", "message-id"] with
      | some id => id
      | none => "sha256:" ++ Text.Hex.hex (Digest.sha256 (Text.Utf8.encode rawHeaders))

theorem threadId_gm (h : HeaderMap) (raw : String) (hg : h.first "x-gm-thrid" ≠ "") :
    threadId h raw = "gm:" ++ h.first "x-gm-thrid" := by
  simp [threadId, hg]

end MailIngest.Mail
