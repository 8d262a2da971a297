import MailIngest.Mail.Feed
import MailIngest.Mail.Refold

/-!
# Writing a message back as bytes

An attached message is archived as the bytes of the message it holds, written back from the
entity that was read: each field as `Name: value` with its lines joined by line feeds, or
folded afresh when a line is too long, an empty line, then the body, with every line break
written as a line feed. Inside a signed multipart body no line is too long: what was signed is
written as it was read.

- A text body is written line by line.
- A multipart body is its preamble, the parts between boundary lines `--boundary`, the closing
  line `--boundary--`, and its epilogue; a multipart entity whose parts were never found is
  written as the text it holds, as it is.
- A message body is the message it holds; a delivery report is its header blocks, separated by
  empty lines.

Writing stops with an error where the entity cannot be written as bytes: a multipart entity
whose text holds bytes past ASCII, read as text in its character set, no longer fits in ASCII,
and neither does a boundary that is not ASCII.
-/

namespace MailIngest.Mail

def lineFeed : Bytes := [0x0A]

def breaksToFeeds : Bytes → Bytes
  | [] => []
  | 0x0D :: 0x0A :: rest => 0x0A :: breaksToFeeds rest
  | 0x0D :: rest => 0x0A :: breaksToFeeds rest
  | b :: rest => b :: breaksToFeeds rest

/-- Whether a byte ends a line of a field's value as written back: a line feed, a carriage
return, a vertical tab, a form feed, or a file, group or record separator, the line breaks of
text. -/
def isFieldBreak (b : UInt8) : Bool :=
  b = 0x0A || b = 0x0D || b = 0x0B || b = 0x0C || b = 0x1C || b = 0x1D || b = 0x1E

/-- The lines of a field's value, at most `fuel` of them; a final break ends the last line
without starting another. -/
def fieldLinesOf : Nat → Bytes → List Bytes
  | 0, _ => []
  | _, [] => []
  | fuel + 1, bs =>
    let line := bs.takeWhile fun b => !isFieldBreak b
    match bs.drop line.length with
    | 0x0D :: 0x0A :: rest => line :: fieldLinesOf fuel rest
    | _ :: rest => line :: fieldLinesOf fuel rest
    | [] => [line]

def fieldLines (bs : Bytes) : List Bytes := fieldLinesOf (bs.length + 1) bs

/-- A field written back: its name, a colon and a space, and its lines joined by line feeds,
then a line feed; a name is ASCII. -/
def fieldBytes (f : Field) : Bytes :=
  let lines := fieldLines (f.value.flatMap Glyph.bytes)
  Text.Utf8.toBytes f.name ++ [0x3A, 0x20] ++ (lineFeed.intercalate lines) ++ lineFeed

/-- A field written back: folded afresh when a line is too long, and no line is when `wide`,
else as it stands. -/
def Field.written (wide : Bool) (f : Field) : Except String Bytes :=
  if !wide && f.needsRefold then f.folded else pure (fieldBytes f)

def fieldsBytes (wide : Bool) (fs : List Field) : Except String Bytes := do
  pure (← fs.mapM (Field.written wide)).flatten

/-- How an entity's body is written, by its media type. -/
inductive BodyStyle where
  | text
  | multipart
  /-- A signed multipart body, whose parts are written with no width. -/
  | signed
  | message
  | report
deriving DecidableEq

/-- The style of a media type: the name of main type and subtype joined, with hyphens as
underscores, picks a delivery report or a signed multipart; otherwise the main type decides,
and anything unknown is written as text. -/
def BodyStyle.ofMediaType (t : String) : BodyStyle :=
  let dash := fun (s : String) => s.map fun c => if c = '-' then '_' else c
  let specific := dash (mainTypeOf t ++ "_" ++ subTypeOf t)
  if specific = "message_delivery_status" then .report
  else if specific = "multipart_signed" then .signed
  else match dash (mainTypeOf t) with
    | "text" => .text
    | "multipart" => .multipart
    | "message" => .message
    | _ => .text

def hasHighBytes (bs : Bytes) : Bool := bs.any (· ≥ 0x80)

/-- A delivery report's block without the final empty line its writing ends with. -/
def trimBlock (bs : Bytes) : Bytes :=
  if bs.getLast? = some 0x0A then bs.dropLast else bs

/-- A text body written back: a multipart entity whose parts were never found keeps its text as
it is, which must then be ASCII; other text has its line breaks written as line feeds. -/
def singleBody (h : Head) (payload : Bytes) : Except String Bytes := do
  if [BodyStyle.multipart, .signed].contains (BodyStyle.ofMediaType h.mediaType) then
    if hasHighBytes payload then
      match ← (Entity.single h []).param "content-type" "charset" with
      | some (.extended ..) => .error "TypeError"
      | _ => .error "UnicodeEncodeError"
    else
      let _ ← h.text? "content-transfer-encoding"
      pure payload
  else
    if !hasHighBytes payload then
      let _ ← h.text? "content-transfer-encoding"
    pure (breaksToFeeds payload)

mutual

/-- An entity written back as bytes; no field is too long when `wide`. -/
def Entity.toBytes (wide : Bool) : Entity → Except String Bytes
  | .single h payload => do
    let body ← singleBody h payload
    pure ((← fieldsBytes wide h.fields) ++ lineFeed ++ body)
  | .composite h ps => do
    let style := BodyStyle.ofMediaType h.mediaType
    let body ← match style with
      | .multipart | .signed => do
        let texts ← partsBytes (wide || style = .signed) ps
        let sep ← match separatorBytes ((← (Entity.composite h []).boundary).getD []) with
          | some sep => pure sep
          | none => .error "UnicodeEncodeError"
        let pre := match h.preamble with
          | some p => breaksToFeeds p ++ lineFeed
          | none => []
        let middle := match texts with
          | [] => []
          | t :: more => t ++ more.flatMap fun m => lineFeed ++ sep ++ lineFeed ++ m
        let post := match h.epilogue with
          | some e => breaksToFeeds e
          | none => []
        pure (pre ++ sep ++ lineFeed ++ middle ++ lineFeed ++ sep ++ [0x2D, 0x2D] ++ lineFeed ++ post)
      | .report => do
        let texts ← partsBytes wide ps
        pure (lineFeed.intercalate (texts.map trimBlock))
      | _ =>
        match ps with
        | p :: _ => p.toBytes wide
        | [] => .error "IndexError"
    pure ((← fieldsBytes wide h.fields) ++ lineFeed ++ body)

/-- Entities written back, in order; no field is too long when `wide`. -/
def partsBytes (wide : Bool) : List Entity → Except String (List Bytes)
  | [] => pure []
  | e :: more => do
    let b ← e.toBytes wide
    let bs ← partsBytes wide more
    pure (b :: bs)

end



end MailIngest.Mail
