import MailIngest.Mail.Entity

/-!
# Reading a message from its bytes

A message is read line by line, a line ending at a line feed, a carriage return, or both. The
header block is the run of lines that look like fields (`Name:`, a continuation that starts
with a blank, or an envelope line `From `); it ends at an empty line, which is dropped, or at
the first other line, which starts the body.

What the body is depends on the media type:

- a delivery report (`message/delivery-status`) is header blocks separated by empty lines;
- any other `message/*` type holds one message;
- a multipart type with a boundary is its parts, each starting after a line `--boundary`; the
  line `--boundary--` closes it; the text before the first boundary line is the preamble and
  the text after the closing line the epilogue;
- anything else, a multipart type without a boundary among them, is text up to the end.

While the parts of a multipart entity are read, a line that is the boundary of this entity or
of any entity around it ends the part being read, and a delivery report's header block ends at
an empty line; so the reader keeps a stack of those ends (`Feed`).

The line break before a boundary line belongs to the boundary: it is dropped from the body of
the part before it, or, when that part is itself multipart, from its epilogue (`dropBreak`).
-/

namespace MailIngest.Mail

abbrev Line := List UInt8

/-- The lines of some bytes, at most `fuel` of them, each with its line break. -/
def linesOf : Nat → Bytes → List Line
  | 0, _ => []
  | _, [] => []
  | fuel + 1, bs =>
    let body := bs.takeWhile fun b => b ≠ 0x0A && b ≠ 0x0D
    let rest := bs.drop body.length
    match rest with
    | 0x0D :: 0x0A :: more => (body ++ [0x0D, 0x0A]) :: linesOf fuel more
    | b :: more => (body ++ [b]) :: linesOf fuel more
    | [] => [body]

def splitLines (bs : Bytes) : List Line := linesOf (bs.length + 1) bs

def isBreakLine (l : Line) : Bool :=
  match l with
  | b :: _ => b = 0x0A || b = 0x0D
  | [] => false

def isLineEnd (bs : Bytes) : Bool :=
  bs = [] || bs = [0x0A] || bs = [0x0D] || bs = [0x0D, 0x0A]

def dropBreak (l : Bytes) : Bytes :=
  if l.getLast? = some 0x0A then
    if l.dropLast.getLast? = some 0x0D then l.dropLast.dropLast else l.dropLast
  else if l.getLast? = some 0x0D then l.dropLast
  else l

def dropLeadingBreak (l : Bytes) : Bytes :=
  match l with
  | 0x0D :: 0x0A :: rest => rest
  | 0x0D :: rest => rest
  | 0x0A :: rest => rest
  | _ => l

/-- The bytes of a boundary line's start, `--` and the boundary; none when the boundary holds a
character that is not ASCII, which no line of bytes can spell. Lines are read with each byte
past ASCII escaped as a lone surrogate from U+DC80 to U+DCFF, so such a unit in the boundary
spells the byte it escapes. -/
def separatorBytes (boundary : List Text.CodePoint) : Option Bytes :=
  (boundary.mapM fun (p : Text.CodePoint) => match p with
    | .char c => if c.toNat < 0x80 then some c.toNat.toUInt8 else none
    | .lone u => Text.CodePoint.escapedByte? u).map ([0x2D, 0x2D] ++ ·)

/-- Whether a line is a boundary line of a separator, and if so whether it closes and whether
it ends with a line break. -/
def boundaryMatch (sep : Bytes) (l : Line) : Option (Bool × Bool) :=
  if !sep.isPrefixOf l then none
  else
    let rest := l.drop sep.length
    let blank := fun (b : UInt8) => b = 0x20 || b = 0x09
    let tail (bs : Bytes) := bs.dropWhile blank
    match rest with
    | 0x2D :: 0x2D :: more =>
      if isLineEnd (tail more) then some (true, !(tail more).isEmpty)
      else if isLineEnd (tail rest) then some (false, !(tail rest).isEmpty)
      else none
    | _ => if isLineEnd (tail rest) then some (false, !(tail rest).isEmpty) else none

/-- An end of the text being read: an empty line, or a boundary line of a separator. -/
inductive Stopper where
  | blank
  | boundary (sep : Bytes)
deriving DecidableEq

def Stopper.hits : Stopper → Line → Bool
  | .blank, l => isBreakLine l
  | .boundary sep, l => (boundaryMatch sep l).isSome

/-- The lines still to read and the stack of stoppers: at a line that any stopper hits, the
text being read ends. -/
structure Feed where
  lines : List Line
  stoppers : List Stopper

namespace Feed

/-- The next line, or nothing at the end of the text being read; an empty line put back is
read as such an end. -/
def read (f : Feed) : Line × Feed :=
  match f.lines with
  | [] => ([], f)
  | l :: rest => if f.stoppers.any (·.hits l) then ([], f) else (l, { f with lines := rest })

def unread (l : Line) (f : Feed) : Feed := { f with lines := l :: f.lines }

def push (s : Stopper) (f : Feed) : Feed := { f with stoppers := s :: f.stoppers }

def pop (f : Feed) : Feed := { f with stoppers := f.stoppers.drop 1 }

/-- The lines up to the end of the text being read, at most `fuel` of them. -/
def readRest : Nat → List Line → Feed → List Line × Feed
  | 0, acc, f => (acc.reverse, f)
  | fuel + 1, acc, f =>
    let (l, f) := f.read
    if l.isEmpty then (acc.reverse, f) else readRest fuel (l :: acc) f

def rest (f : Feed) : List Line × Feed := readRest (f.lines.length + 1) [] f

end Feed

def isNameByte (b : UInt8) : Bool := 0x21 ≤ b && b ≤ 0x7E && b ≠ 0x3A

def envelopeStart : Bytes := [0x46, 0x72, 0x6F, 0x6D, 0x20]

def isHeaderLine (l : Line) : Bool :=
  envelopeStart.isPrefixOf l ||
    (match l.dropWhile isNameByte with
      | 0x3A :: _ => true
      | _ => false) ||
    (match l with
      | b :: _ => b = 0x20 || b = 0x09
      | [] => false)

/-- The lines of a header block, at most `fuel` of them; the empty line after it is dropped and
another line is put back. -/
def headerLines : Nat → List Line → Feed → List Line × Feed
  | 0, acc, f => (acc.reverse, f)
  | fuel + 1, acc, f =>
    let (l, f') := f.read
    if l.isEmpty then (acc.reverse, f')
    else if isHeaderLine l then headerLines fuel (l :: acc) f'
    else if isBreakLine l then (acc.reverse, f')
    else (acc.reverse, f'.unread l)

/-- A field from its lines: the name before the first colon; the value after it, without its
leading blanks, joined with the continuation lines as they are, and the final line breaks
dropped. -/
def fieldOfLines (first : Line) (more : List Line) : Field :=
  let name := first.takeWhile (· ≠ 0x3A)
  let value := (first.drop (name.length + 1)).dropWhile (fun b => b = 0x20 || b = 0x09) ++
    more.flatten
  let value := (value.reverse.dropWhile (fun b => b = 0x0A || b = 0x0D)).reverse
  ⟨Text.Utf8.ofBytes name, ofBytes value⟩

/-- The fields of a header block's lines, and the line to put back when the last line is an
envelope line, which starts the body. Continuation lines without a field before them, envelope
lines elsewhere and lines that start with a colon are dropped. -/
def fieldsOfLines (lines : List Line) : List Field × Option Line :=
  let last := lines.length - 1
  let close := fun (open? : Option (Line × List Line)) (acc : List Field) =>
    match open? with
    | some (first, more) => acc ++ [fieldOfLines first more.reverse]
    | none => acc
  let rec go : Nat → List Line → Option (Line × List Line) → List Field → List Field × Option Line
    | _, [], open?, acc => (close open? acc, none)
    | i, l :: rest, open?, acc =>
      match l with
      | b :: _ =>
        if b = 0x20 || b = 0x09 then
          match open? with
          | some (first, more) => go (i + 1) rest (some (first, l :: more)) acc
          | none => go (i + 1) rest none acc
        else
          let acc := close open? acc
          if envelopeStart.isPrefixOf l then
            if i = 0 then go (i + 1) rest none acc
            else if i = last then (acc, some l)
            else go (i + 1) rest none acc
          else if b = 0x3A then go (i + 1) rest none acc
          else go (i + 1) rest (some (l, [])) acc
      | [] => go (i + 1) rest open? acc
  go 0 lines none []

/-- An entity's body with the line break before the next boundary dropped: from the text of the
entity read last, which for a multipart entity is its epilogue (an empty one becomes none). -/
def dropLastBreak : Entity → Entity
  | .single h payload =>
    if mainTypeOf h.mediaType = "multipart" then .single { h with epilogue := trimEpilogue h.epilogue } payload
    else .single h (dropBreak payload)
  | .composite h ps =>
    if mainTypeOf h.mediaType = "multipart" then .composite { h with epilogue := trimEpilogue h.epilogue } ps
    else .composite h (dropLastOf ps)
where
  /-- An epilogue without its final line break. -/
  trimEpilogue : Option Bytes → Option Bytes
    | some [] => none
    | some e => some (dropBreak e)
    | none => none
  /-- The entities with the last one's line break dropped. -/
  dropLastOf : List Entity → List Entity
    | [] => []
    | [e] => [dropLastBreak e]
    | e :: more => e :: dropLastOf more

/-- Boundary lines skipped; the first other line, or the end, is put back. -/
def skipBoundaries (sep : Bytes) : Nat → Feed → Feed
  | 0, f => f
  | fuel + 1, f =>
    let (l, f') := f.read
    if (boundaryMatch sep l).isSome then skipBoundaries sep fuel f' else f'.unread l

mutual

/-- An entity read from the feed, at most `fuel` steps deep; `digest` tells whether it is a
part of a digest. -/
def readEntity : Nat → Bool → Feed → Except String (Entity × Feed)
  | 0, _, f => pure (.single { fields := [], defaultType := "text/plain", mediaType := "text/plain" } [], f)
  | fuel + 1, digest, f => do
    let (lines, f) := headerLines (f.lines.length + 1) [] f
    let (fields, back) := fieldsOfLines lines
    let f := match back with
      | some l => f.unread l
      | none => f
    let default := if digest then "message/rfc822" else "text/plain"
    let mediaType ← readMediaType fields default
    let head : Head := { fields, defaultType := default, mediaType }
    if mediaType = "message/delivery-status" then
      let (blocks, f) ← readBlocks fuel [] f
      pure (.composite head blocks, f)
    else if mainTypeOf mediaType = "message" then
      let (inner, f) ← readEntity fuel false f
      pure (.composite head [inner], f)
    else if mainTypeOf mediaType = "multipart" then
      match ← (Entity.single head []).boundary with
      | none =>
        let (ls, f) := f.rest
        pure (.single head ls.flatten, f)
      | some b =>
        let _ ← head.text? "content-transfer-encoding"
        readParts fuel head (mediaType = "multipart/digest") (separatorBytes b) true [] [] f
    else
      let (ls, f) := f.rest
      pure (.single head ls.flatten, f)

def readBlocks : Nat → List Entity → Feed → Except String (List Entity × Feed)
  | 0, acc, f => pure (acc, f)
  | fuel + 1, acc, f => do
    let (block, f) ← readEntity fuel false (f.push .blank)
    let f := f.pop
    let (_, f) := f.read
    let (l, f) := f.read
    if l.isEmpty then pure (acc ++ [block], f)
    else readBlocks fuel (acc ++ [block]) (f.unread l)

/-- The parts of a multipart entity, from where the reading stands: while `preface` holds, the
lines before the first boundary line are gathered. A boundary that is not ASCII is no
separator, and no line is its boundary line. -/
def readParts : Nat → Head → Bool → Option Bytes → Bool → List Line → List Entity → Feed →
    Except String (Entity × Feed)
  | 0, head, _, _, _, _, ps, f => pure (.composite head ps, f)
  | fuel + 1, head, digest, sep, preface, before, ps, f => do
    let (l, f) := f.read
    if l.isEmpty then
      if preface then pure (.single { head with epilogue := some [] } before.flatten, f)
      else pure (.composite head ps, f)
    else match sep, sep.bind (boundaryMatch · l) with
    | _, some (true, lineEnd) =>
      if preface then
        let (_, f) := f.rest
        pure (.single { head with epilogue := some [] } before.flatten, f)
      else
        let (after, f) := f.rest
        let after := match lineEnd, after with
          | false, first :: more => dropLeadingBreak first :: more
          | _, _ => after
        pure (.composite { head with epilogue := some after.flatten } ps, f)
    | some s, some (false, _) =>
      if preface then
        let head := match before.getLast? with
          | some last => { head with preamble := some ((before.dropLast ++ [dropBreak last]).flatten) }
          | none => head
        readParts fuel head digest sep false [] ps (f.unread l)
      else
        let f := (skipBoundaries s (f.lines.length + 1) f).push (.boundary s)
        let (part, f) ← readEntity fuel digest f
        readParts fuel head digest sep false [] (ps ++ [dropLastBreak part]) f.pop
    | _, _ =>
      if preface then readParts fuel head digest sep true (before ++ [l]) ps f
      else .error "AssertionError"

end

def readMessage (bs : Bytes) : Except String Entity := do
  let lines := splitLines bs
  let (e, _) ← readEntity (4 * lines.length + 8) false ⟨lines, []⟩
  pure e


example :
    boundaryMatch [0x2D, 0x2D, 0x62] [0x2D, 0x2D, 0x62, 0x2D, 0x2D, 0x0A] = some (true, true) := by
  decide

end MailIngest.Mail
