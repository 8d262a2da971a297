import MailIngest.Mail.Field
import MailIngest.Mail.LooseParams
import MailIngest.Mail.Transfer

/-!
# Message entities

A message, and every part of a MIME message, is an entity: header fields, then a body. The body
is text (`Entity.single`), kept as the bytes it was written in, or a list of entities
(`Entity.composite`): the parts of a multipart entity, the one message a `message/rfc822`
entity holds, or the header blocks of a delivery report. A multipart entity also keeps the text
before its first boundary and after its last one.

The media type of an entity is read once, when the entity is read, and kept in its head: the
first `Content-Type` field's text up to its first semicolon, in lower case, or `text/plain` when
that is not one type and one subtype; an entity without the field has the default type of
where it stands (`message/rfc822` among the parts of a digest, `text/plain` elsewhere).

The other facts about an entity are read from its fields when they are asked for, each a
reading that may fail as reading its field does: the disposition, the loose parameters, the
file name, the boundary, and the body with its transfer encoding undone (`Entity.decoded`).

The main statement is `decoded_plain` (a body without a transfer encoding is kept as it is).
-/

namespace MailIngest.Mail

abbrev Bytes := List UInt8

/-- What an entity knows besides its body: its fields, its default media type, the media type
read when it was read, and the text around its parts when it is multipart. -/
structure Head where
  fields : List Field
  defaultType : String
  mediaType : String
  preamble : Option Bytes := none
  epilogue : Option Bytes := none
deriving Inhabited

/-- A message or a part of one. -/
inductive Entity where
  /-- An entity whose body is text. -/
  | single (head : Head) (payload : Bytes)
  /-- An entity whose body is a list of entities. -/
  | composite (head : Head) (parts : List Entity)
deriving Inhabited

namespace Head

def field? (h : Head) (name : String) : Option Field :=
  h.fields.find? fun f => Text.lower f.name = Text.lower name

def has (h : Head) (name : String) : Bool := (h.field? name).isSome

def text? (h : Head) (name : String) : Except String (Option String) :=
  match h.field? name with
  | some f => some <$> f.text
  | none => pure none

end Head

/-- A header's text up to its first semicolon, and what follows it, without blanks around. -/
def splitParam (s : String) : String × Option String :=
  match s.toList.findIdx? (· = ';') with
  | some i => (Text.trim (String.ofList (s.toList.take i)), some (Text.trim (String.ofList (s.toList.drop (i + 1)))))
  | none => (Text.trim s, none)

/-- The media type a `Content-Type` text names: one type and one subtype, or `text/plain`. -/
def mediaTypeOf (text : String) : String :=
  let t := Text.lower (splitParam text).1
  if t.toList.count '/' ≠ 1 then "text/plain" else t

/-- The media type of a head's fields, with a default for when none is named. -/
def readMediaType (fields : List Field) (default : String) : Except String String := do
  match ← ({ fields, defaultType := default, mediaType := default } : Head).text? "content-type" with
  | some t => pure (mediaTypeOf t)
  | none => pure default

/-- The main type of a media type: the part before its first slash. -/
def mainTypeOf (t : String) : String := String.ofList (t.toList.takeWhile (· ≠ '/'))

/-- The subtype of a media type: the part after its first slash, up to the next one. -/
def subTypeOf (t : String) : String :=
  String.ofList (((t.toList.dropWhile (· ≠ '/')).drop 1).takeWhile (· ≠ '/'))

namespace Entity

def head : Entity → Head
  | .single h _ => h
  | .composite h _ => h

def mediaType (e : Entity) : String := e.head.mediaType

def mainType (e : Entity) : String := mainTypeOf e.mediaType

def isComposite : Entity → Bool
  | .single .. => false
  | .composite .. => true

def parts : Entity → List Entity
  | .single .. => []
  | .composite _ ps => ps

/-- The disposition of an entity, in lower case, if it has one. -/
def disposition (e : Entity) : Except String (Option String) := do
  match ← e.head.text? "content-disposition" with
  | some t => pure (some (Text.lower (splitParam t).1))
  | none => pure none

/-- A loose parameter of a field of an entity, if the field has it. -/
def param (e : Entity) (header name : String) : Except String (Option LooseParams.Value) := do
  match ← e.head.text? header with
  | some t => do
    let ps ← LooseParams.params t
    pure (LooseParams.find ps name)
  | none => pure none

/-- The file name an entity gives, from its disposition or else from its media type. -/
def filename (e : Entity) : Except String (Option (List Text.CodePoint)) := do
  let v ← match ← e.param "content-disposition" "filename" with
    | some v => pure (some v)
    | none => e.param "content-type" "name"
  match v with
  | some v => pure (some (Text.CodePoint.trim (← LooseParams.collapse v)))
  | none => pure none

def boundary (e : Entity) : Except String (Option (List Text.CodePoint)) := do
  let v ← e.param "content-type" "boundary"
  match v with
  | some v => pure (some (Text.CodePoint.trimBack (← LooseParams.collapse v)))
  | none => pure none

def isUuName (cte : String) : Bool :=
  cte = "x-uuencode" || cte = "uuencode" || cte = "uue" || cte = "x-uue"

/-- A body with its transfer encoding undone; none for an entity whose body is entities. -/
def decoded (e : Entity) : Except String (Option Bytes) := do
  match e with
  | .composite .. => pure none
  | .single h payload =>
    let cte := Text.lower ((← h.text? "content-transfer-encoding").getD "")
    if cte = "quoted-printable" then pure (some (Transfer.decodeQuotedPrintable payload))
    else if cte = "base64" then
      pure (some (Transfer.decodeBase64 (payload.filter fun b => b ≠ 0x0A && b ≠ 0x0D)))
    else if isUuName cte then pure (some ((Transfer.decodeUu payload).getD payload))
    else pure (some payload)

/-- The text of an entity's body: its bytes read in the character set it names (ASCII when it
names none) with replacement, lone surrogates kept, or as UTF-8 when the name is unknown or
reading fails with a Unicode error; any other failure stops. -/
def textContent (e : Entity) : Except String (List Text.CodePoint) := do
  let content := (← e.decoded).getD []
  let asUtf8 := Text.CodePoint.ofString (Text.Utf8.decodeReplacing content)
  match (← e.param "content-type" "charset").getD (.plain "ASCII") with
  | .plain cs =>
    match Text.Charset.decodeNamed? cs content with
    | some (.ok s) => pure s
    | some (.error failure) => if failure = "RuntimeError" then .error failure else pure asUtf8
    | none => pure asUtf8
  | .extended .. => .error "TypeError"

end Entity


/-- A body without a transfer encoding is kept as it is. -/
theorem decoded_plain (payload : Bytes) (d m : String) :
    (Entity.single { fields := [], defaultType := d, mediaType := m } payload).decoded =
      .ok (some payload) := by
  rfl

end MailIngest.Mail
