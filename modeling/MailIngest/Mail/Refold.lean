import MailIngest.Mail.Field
import MailIngest.Text.Base64

/-!
# Folding header fields afresh

A field written back keeps its lines when they are short and ASCII. When a line is longer than
78 characters, or the value holds bytes past ASCII, the field is folded afresh from the parse
tree of its kind (`Field.folded`).

The parts of the tree are laid into lines of at most 78 characters, largest parts first:

* A part that fits on the current line goes there. One that fits on a line of its own starts a
  new line, taking the space or tab that ended the previous one, when it is a break between
  major parts. Otherwise its own parts are laid one by one.
* Text that is not ASCII, a quoted character that is special, a line break, or a run too long
  for any line is written as encoded words where an encoded word may stand for it. Bytes that
  never decoded are written under the character set `unknown-8bit`, characters as UTF-8; each
  word is Q-encoded unless that is five or more characters longer than Base64. Encoded words
  already on the line are read back and written again together with the new text, whatever
  their character set, so text that mixes raw bytes with characters past ASCII, or that holds a
  lone unit, cannot be written and is an error.
* An encoded word may not stand for an address, a domain, a message identifier or a media
  type. Such a part is written as it is, on a line of its own when it needs one.
* MIME parameters are written one by one from their decoded values: quoted when ASCII, in the
  RFC 2231 form `name*=charset''%XX` otherwise, and in numbered sections when too long.

The lines are joined by line feeds and the whole is written as ASCII, bytes that never decoded
as themselves; a character past ASCII that is left is an error.
-/

namespace MailIngest.Mail

open Syntax

def foldWidth : Nat := 78

/-- The characters that end a line of a field's value, the line breaks of text: a line feed, a
carriage return, a vertical tab, a form feed, and the file, group and record separators. -/
def endsValueLine : Glyph → Bool
  | .char c => c = '\n' || c = '\r' || c = '\x0b' || c = '\x0c' || c = '\x1c' || c = '\x1d' ||
      c = '\x1e'
  | _ => false

/-- The lines of a value, at most `fuel` of them; a carriage return and line feed end one
line, and a final break starts no empty line. -/
def valueLinesOf : Nat → Glyphs → List Glyphs
  | 0, _ => []
  | _, [] => []
  | fuel + 1, gs =>
    let line := gs.takeWhile fun g => !endsValueLine g
    match gs.drop line.length with
    | .char '\r' :: .char '\n' :: rest => line :: valueLinesOf fuel rest
    | _ :: rest => line :: valueLinesOf fuel rest
    | [] => [line]

def valueLines (gs : Glyphs) : List Glyphs := valueLinesOf (gs.length + 1) gs

/-- Whether a field is folded afresh when written back: its first line with the name is longer
than the width, or a later line is. -/
def Field.needsRefold (f : Field) : Bool :=
  match valueLines f.value with
  | first :: more => first.length + f.name.length + 2 > foldWidth || more.any (·.length > foldWidth)
  | [] => false

/-- The character sets encoded words are written in. -/
inductive WordCharset where
  | usAscii
  | utf8
  | unknown8bit
deriving DecidableEq

def WordCharset.name : WordCharset → String
  | .usAscii => "us-ascii"
  | .utf8 => "utf-8"
  | .unknown8bit => "unknown-8bit"

/-- The bytes of text in a character set; `none` when a unit has no byte there: a byte that
never decoded is no UTF-8, a character past ASCII is not in `unknown-8bit`, and a lone unit is
in neither. -/
def WordCharset.bytes? (cs : WordCharset) (gs : Glyphs) : Option (List UInt8) :=
  (gs.mapM fun (g : Glyph) => match cs, g with
    | .unknown8bit, .char c => if c.toNat < 0x80 then some [c.toNat.toUInt8] else none
    | .unknown8bit, .byte b => some [b]
    | _, .char c => some (Glyph.bytes (.char c))
    | _, _ => none).map List.flatten

def upperHexDigit (n : Nat) : Char := if n < 10 then Char.ofNat (48 + n) else Char.ofNat (55 + n)

/-- A byte as `=` or `%` and two upper-case hexadecimal digits. -/
def escapedByte (mark : Char) (b : UInt8) : List Char :=
  [mark, upperHexDigit (b.toNat / 16), upperHexDigit (b.toNat % 16)]

/-- Whether a byte stands for itself in the Q encoding: a letter, a digit, or one of `-!*+/`. -/
def qSafe (b : UInt8) : Bool :=
  (0x41 ≤ b && b ≤ 0x5A) || (0x61 ≤ b && b ≤ 0x7A) || (0x30 ≤ b && b ≤ 0x39) ||
    b == 0x2D || b == 0x21 || b == 0x2A || b == 0x2B || b == 0x2F

/-- Bytes in the Q encoding: a space as `_`, a safe byte as itself, any other as `=XX`. -/
def qEncoded (bs : List UInt8) : List Char :=
  bs.flatMap fun b => if qSafe b then [Char.ofNat b.toNat] else if b == 0x20 then ['_']
    else escapedByte '=' b

def base64Length (n : Nat) : Nat := n / 3 * 4 + (if n % 3 = 0 then 0 else 4)

/-- An encoded word for bytes in a character set: Q-encoded unless that is at least five
characters longer than Base64. -/
def encodedWordOf (cs : String) (bs : List UInt8) : Glyphs :=
  let q := qEncoded bs
  if q.length < base64Length bs.length + 5 then glyphs ("=?" ++ cs ++ "?q?" ++ String.ofList q ++ "?=")
  else glyphs ("=?" ++ cs ++ "?b?" ++ Text.Base64.encode .standard bs ++ "?=")

/-- An encoded word for text known to have bytes in the character set. -/
def encodedWordFor (cs : WordCharset) (gs : Glyphs) : Glyphs :=
  encodedWordOf cs.name ((cs.bytes? gs).getD [])

/-- Lines being folded: the finished ones, latest first, and the current one. -/
structure FoldLines where
  done : List Glyphs := []
  cur : Glyphs := []

def FoldLines.add (l : FoldLines) (s : Glyphs) : FoldLines := { l with cur := l.cur ++ s }

def FoldLines.push (l : FoldLines) (s : Glyphs) : FoldLines := { done := l.cur :: l.done, cur := s }

/-- The lines with a space or tab that ends the current line taken off, and what was taken. -/
def FoldLines.steal (l : FoldLines) : FoldLines × Glyphs :=
  match l.cur.getLast? with
  | some g => if g.isIn wsp then ({ l with cur := l.cur.dropLast }, [g]) else (l, [])
  | none => (l, [])

def FoldLines.all (l : FoldLines) : List Glyphs := (l.cur :: l.done).reverse

/-- The room left on the current line; negative when it is already too long. -/
def FoldLines.room (l : FoldLines) : Int := (foldWidth : Int) - l.cur.length

/-- The longest front of some text, dropping one unit at a time from its end, whose encoded
word fits in `room` characters. -/
def fitWord (cs : WordCharset) (room : Int) : Nat → Glyphs → Glyphs
  | 0, w => w
  | fuel + 1, w =>
    if ((encodedWordFor cs w).length : Int) ≤ room then w else fitWord cs room fuel w.dropLast

/-- Text written as encoded words from the end of the current line on, a new line begun with a
space whenever a word ends before the text does, or when the current line has no room for
even the frame of a word. Gives the lines and the column where the last line's words begin;
a line begun for lack of room leaves that column as it was. -/
def wordLines (cs : WordCharset) (frame : Nat) : Nat → Glyphs → FoldLines → Nat → FoldLines × Nat
  | 0, _, l, start => (l, start)
  | _, [], l, start => (l, start)
  | fuel + 1, text, l, start =>
    let room := l.room
    let space := room - frame
    if space ≤ 0 then wordLines cs frame fuel text (l.push [.char ' ']) start
    else
      let part := text.take space.toNat
      let word := fitWord cs room (part.length + 1) part
      let l := l.add (encodedWordFor cs word)
      let text := text.drop word.length
      if text.isEmpty then (l, start)
      else
        let l := l.push [.char ' ']
        wordLines cs frame fuel text l l.cur.length

/-- Text written as encoded words after the current line. With `last`, the column where encoded
words begin on the current line, and `combine`, those words are read back and joined with the
text first. A space or tab at either end stays outside the words. Gives the lines and, when
later words may join these, the column where they begin. -/
def foldAsWords (text : Glyphs) (l : FoldLines) (last : Option Nat) (combine : Bool)
    (cs : WordCharset) : Read (FoldLines × Option Nat) := do
  let (text, l) ← match last, combine with
    | some i, true => do
      let joined ← unstructured (l.cur.drop i ++ text) >>= shown
      pure (joined, { l with cur := l.cur.take i })
    | _, _ => pure (text, l)
  let (text, l) ← match text with
    | [] => raise "IndexError"
    | g :: rest =>
      if g.isIn wsp then
        let l := if l.cur.length = foldWidth then (let (l, w) := l.steal; l.push w) else l
        pure (rest, l.add [g])
      else pure (text, l)
  let (text, trailing) ← match text.getLast? with
    | none => raise "IndexError"
    | some g => pure (if g.isIn wsp then (text.dropLast, [g]) else (text, []))
  let start := last.getD l.cur.length
  let encodeAs := if cs = .usAscii then WordCharset.utf8 else cs
  match encodeAs.bytes? text with
  | none => raise "UnicodeEncodeError"
  | some _ =>
    let (l, start) := wordLines encodeAs (encodeAs.name.length + 7) (3 * text.length + 3) text l start
    pure (l.add trailing, if combine then some start else none)

/-- Whether a unit is always written as itself in a percent-encoded value. -/
def percentSafe (b : UInt8) : Bool :=
  (0x41 ≤ b && b ≤ 0x5A) || (0x61 ≤ b && b ≤ 0x7A) || (0x30 ≤ b && b ≤ 0x39) ||
    b == 0x5F || b == 0x2E || b == 0x2D || b == 0x7E

/-- Text percent-encoded: its bytes, characters as UTF-8, each byte that is not a letter, digit
or one of `_.-~` as `%XX`. -/
def percentEncoded (gs : Glyphs) : Glyphs :=
  (gs.flatMap Glyph.bytes).flatMap fun b =>
    if percentSafe b then [.char (Char.ofNat b.toNat)] else (escapedByte '%' b).map .char

/-- Whether the current line, without the white space at its end, ends in a semicolon. -/
def endsInSemicolon (gs : Glyphs) : Bool :=
  match (gs.reverse.dropWhile Glyph.isSpace).head? with
  | some g => g.is ';'
  | none => false

/-- The longest front of a value whose percent encoding has at most `most` characters,
shortening from `split` characters one at a time. -/
def sectionSplit (value : Glyphs) (most : Int) : Nat → Nat → Nat
  | 0, split => split
  | fuel + 1, split =>
    if ((percentEncoded (value.take split)).length : Int) ≤ most then split
    else sectionSplit value most fuel (split - 1)

/-- A long parameter value in numbered, percent-encoded sections, each on a line of its own,
all but the last ending in a semicolon; the first names the character set. -/
def paramSections (name : Glyphs) (cs : String) : Nat → Nat → Glyphs → FoldLines → FoldLines
  | 0, _, _, l => l
  | _, _, [], l => l
  | fuel + 1, index, value, l =>
    let extra := if index = 0 then cs ++ "''" else ""
    let frame := name.length + (toString index).length + 3 + extra.length
    let most : Int := (foldWidth : Int) - frame - 2
    let split := sectionSplit value most (value.length + 1) (min most.toNat value.length)
    let l := l.push (.char ' ' :: name ++ glyphs ("*" ++ toString index ++ "*=" ++ extra) ++
      percentEncoded (value.take split))
    let value := value.drop split
    let l := if value.isEmpty then l else l.add [.char ';']
    paramSections name cs fuel (index + 1) value l

/-- One MIME parameter written after the current line: after a semicolon, then a space and
`name="value"`, or `name*=charset''value` when the value is not ASCII; on a line of its own
when it does not fit, and in sections when no line holds it. -/
def foldParam (l : FoldLines) (p : Glyphs × Glyphs) : FoldLines :=
  let (name, value) := p
  let l := if endsInSemicolon l.cur then l else l.add [.char ';']
  let cs := if value.all isAsciiGlyph then WordCharset.usAscii
    else if hasBytes value then .unknown8bit else .utf8
  let text := if cs = .usAscii then name ++ [.char '='] ++ quoteString value
    else name ++ glyphs ("*=" ++ cs.name ++ "''") ++ percentEncoded value
  if l.cur.length + text.length + 1 < foldWidth then l.add (.char ' ' :: text)
  else if text.length + 2 ≤ foldWidth then l.push (.char ' ' :: text)
  else paramSections name cs.name (value.length + 1) 0 value l

/-- What is left to lay into lines: a part of the tree, or the end of the parts of a part that
encoded words may not stand for. -/
inductive FoldItem where
  | part (n : Node)
  | unblock

/-- The state of folding: the lines, the column where encoded words begin on the current line,
how many parts that refuse encoded words are open, and whether the next part is to be encoded. -/
structure Folding where
  lines : FoldLines := {}
  lastWord : Option Nat := none
  blocked : Nat := 0
  encode : Bool := false

namespace Syntax.Node

/-- Whether a node is the comma between the entries of a list. -/
def isListComma : Node → Bool
  | .leaf .mark _ [.char ','] => true
  | _ => false

def isPtext : Node → Read Bool
  | .leaf .ptext _ _ => pure true
  | .note _ => raise "AttributeError"
  | _ => pure false

/-- Whether a leaf holds text that was checked for raw bytes as it was read. -/
def checkedKind : Kind → Bool
  | .vtext | .ptext | .atext | .ttext | .attrtext | .extAttrtext => true
  | _ => false

/-- The character set for a part whose text is not ASCII: `unknown-8bit` for a checked run of
text that holds raw bytes, UTF-8 otherwise; a tree with a complaint among its parts fails. -/
def wordCharset : Node → Read WordCharset
  | .leaf k _ t => pure (if checkedKind k && hasBytes t then .unknown8bit else .utf8)
  | n => if hasNote n then raise "AttributeError" else pure .utf8

/-- Whether a node is a break between major parts, where a line may end. -/
def breaks : Node → Bool
  | .tree .mimeParameters _ | .tree .contentType _ | .tree .contentDisposition _ => false
  | n => !n.isListComma

/-- Whether encoded words for a node may join the encoded word before them. -/
def combines : Node → Bool
  | .tree (.displayName _) _ => false
  | _ => true

mutual

/-- Whether an encoded word may stand for a node: not for a list comma nor for addresses,
domains, identifiers and media types, and for other trees when it may for each of their
parts. -/
def wordAllowed : Node → Read Bool
  | .note _ => raise "AttributeError"
  | .leaf k f t => pure !(Node.leaf k f t).isListComma
  | .tree k xs =>
    match k with
    | .domain | .noFoldLiteral | .addrSpec | .obsLocalPart | .localPart | .domainLiteral
    | .contentType | .contentDisposition | .transferEncoding | .headerLabel | .msgId
    | .messageId => pure false
    | .dotAtomText => pure true
    | _ => wordAllowedAll xs

/-- Whether an encoded word may stand for each of the parts, looked at in order. -/
def wordAllowedAll : List Node → Read Bool
  | [] => pure true
  | x :: xs => do if ← wordAllowed x then wordAllowedAll xs else pure false

end

mutual

/-- Whether a node starts with white space that a folded line may start with: a leaf of white
space, whatever its text, or a tree whose first part does; a tree without parts fails. -/
def leadsWithBlank : Node → Read Bool
  | .leaf _ .word _ => pure false
  | .leaf .. => pure true
  | .note _ => raise "AttributeError"
  | .tree _ xs => firstLeadsWithBlank xs

/-- Whether the first of some parts starts with white space. -/
def firstLeadsWithBlank : List Node → Read Bool
  | [] => raise "IndexError"
  | x :: _ => leadsWithBlank x

end

end Syntax.Node

/-- The characters that make quoted text worth encoding: the specials and line breaks. -/
def specialsOrBreaks : List Char := specials ++ ['\n', '\r']

/-- A part laid as text: on the current line when it fits, else on a new line when it is a
break that fits there and white space can start the line, else its parts one by one, else
encoded after all, else on a new line or the current one as it is. -/
def placePart (part : Node) (rest : List FoldItem) (text : Glyphs) (st : Folding) :
    Read (Folding × List FoldItem) := do
  if (text.length : Int) ≤ st.lines.room then
    return ({ st with lines := st.lines.add text }, rest)
  if part.breaks && text.length + 1 ≤ foldWidth then
    let (l, w) := st.lines.steal
    if !w.isEmpty then return ({ st with lines := l.push (w ++ text), lastWord := none }, rest)
    if ← part.leadsWithBlank then
      return ({ st with lines := st.lines.push text, lastWord := none }, rest)
  match part with
  | .tree _ xs =>
    if ← part.wordAllowed then return (st, xs.map .part ++ rest)
    else return ({ st with blocked := st.blocked + 1 }, xs.map .part ++ [.unblock] ++ rest)
  | _ =>
    if (← part.wordAllowed) && st.blocked == 0 then
      return ({ st with encode := true }, .part part :: rest)
    let (l, w) := st.lines.steal
    if !w.isEmpty then return ({ st with lines := l.push (w ++ text) }, rest)
    if ← part.leadsWithBlank then return ({ st with lines := st.lines.push text }, rest)
    return ({ st with lines := st.lines.add text }, rest)

/-- How a part is laid after its encoding was considered: laid out as text, or already done
with what is left to lay. -/
inductive Laid where
  | text (st : Folding)
  | done (st : Folding) (rest : List FoldItem)

mutual

def foldParts : Nat → List FoldItem → Folding → Read Folding
  | 0, _, st => pure st
  | _, [], st => pure st
  | fuel + 1, .unblock :: rest, st => foldParts fuel rest { st with blocked := st.blocked - 1 }
  | fuel + 1, .part part :: rest, st => do
    let text ← shown part
    let st ← if st.encode then pure st else do
      let quoted ← part.isPtext
      pure { st with encode := text.any (·.isIn (if quoted then specialsOrBreaks else ['\n', '\r'])) }
    let (cs, st) ← if text.all isAsciiGlyph then pure (WordCharset.usAscii, st)
      else do pure (← part.wordCharset, { st with encode := true })
    if let .note _ := part then raise "AttributeError"
    if part.isA .mimeParameters then
      let ps ← params part.items
      foldParts fuel rest { st with lines := ps.foldl foldParam st.lines }
    else
      let laid ← if st.encode && st.blocked == 0 then encodePart fuel part rest text cs st
        else pure (.text st)
      match laid with
      | .done st rest => foldParts fuel rest st
      | .text st => do
        let (st, rest) ← placePart part rest text st
        foldParts fuel rest st
termination_by fuel => (fuel, 0)

/-- A part that is to be encoded: written on its own when encoded words may not stand for it
and it fits on a line, its parts laid one by one when it is a tree, written as encoded words
when it is a leaf they may stand for, and laid as text otherwise. -/
def encodePart : Nat → Node → List FoldItem → Glyphs → WordCharset → Folding → Read Laid
  | fuel, part, rest, text, cs, st => do
    let allowed ← part.wordAllowed
    let st := if allowed then st else { st with encode := false, lastWord := none }
    let single ← if !allowed && part.breaks then do
        let e ← partFolded fuel part
        pure (if e.any (·.is '\n') then none else some e)
      else pure none
    match single with
    | some e =>
      let lines := if (e.length : Int) > st.lines.room then (let (l, w) := st.lines.steal; l.push w)
        else st.lines
      pure (.done { st with lines := lines.add e } rest)
    | none =>
      match part with
      | .tree _ xs => pure (.done { st with encode := false } (xs.map .part ++ rest))
      | _ =>
        if allowed then do
          let (lines, lastWord) ← foldAsWords text st.lines st.lastWord part.combines cs
          pure (.done { st with lines, lastWord, encode := false } rest)
        else pure (.text { st with lastWord := none, encode := false })
termination_by fuel => (fuel, 2)

/-- A part folded on its own, as one text with line feeds between its lines: a message
identifier as its text, a tree by laying its parts afresh. -/
def partFolded : Nat → Node → Read Glyphs
  | fuel, part =>
    match part with
    | .tree .msgId _ | .tree .messageId _ => shown part
    | .tree _ xs => do
      let st ← foldParts fuel (xs.map .part) {}
      pure ([Glyph.char '\n'].intercalate st.lines.all)
    | _ => shown part
termination_by fuel => (fuel, 1)

end

def Syntax.Node.size : Node → Nat
  | .tree _ xs => 1 + sizeAll xs
  | _ => 1
where
  sizeAll : List Node → Nat
    | [] => 0
    | x :: xs => Node.size x + sizeAll xs

/-- A field folded from its name and the parse tree of its value: the name and a colon, a space
when the tree has parts, and the tree, laid into lines. -/
def foldField (name : String) (tree : Node) : Read (List Glyphs) := do
  let label := Node.tree .headerLabel [.leaf .label .word (glyphs name), Node.sign .mark ':']
  let space := if tree.items.isEmpty then [] else [Node.tree .cfws [.leaf .fws .blank [.char ' ']]]
  let fuel := (tree.size + 4) * (3 * tree.size + 12)
  let st ← foldParts fuel ((label :: space ++ [tree]).map .part) {}
  pure st.lines.all

/-- The parse tree a field's value is folded from, by the field's kind. Reading it stops with
the errors that reading the field's text stops with; a date is folded from its text written
back, and a value that is no date has an empty tree. -/
def FieldKind.tree (k : FieldKind) (value : Glyphs) : Except String Node :=
  match k with
  | .text => settle (unstructured value)
  | .date =>
    if value.isEmpty then pure (.tree .unstructured [])
    else match Date.parse (String.ofList (value.map Glyph.dateChar)) with
      | .ok t => settle (unstructured (glyphs (Date.format t)))
      | .error "ValueError" => pure (.tree .unstructured [])
      | .error e => .error e
  | .addresses => settle do
    let _ ← addressesText value
    addressList value
  | .mimeVersion => settle do
    let t ← Syntax.mimeVersion value
    let _ ← shownChecked t
    pure t
  | .contentType => settle do
    let t ← Syntax.contentType value
    let _ ← shownChecked t
    pure t
  | .contentDisposition => settle do
    let t ← Syntax.contentDisposition value
    let _ ← shownChecked t
    pure t
  | .transferEncoding => settle do
    let t ← Syntax.transferEncoding value
    let _ ← shownChecked t
    pure t
  | .messageId => settle do
    let t ← Syntax.messageId value
    let _ ← shownChecked t
    pure t

/-- Folded text as ASCII bytes, bytes that never decoded as themselves; a character past ASCII
has no byte. -/
def foldedBytes (gs : Glyphs) : Except String (List UInt8) :=
  match gs.mapM fun g => match g with
    | .char c => if c.toNat < 0x80 then some c.toNat.toUInt8 else none
    | .byte b => some b
    | .lone _ => none with
  | some bs => .ok bs
  | none => .error "UnicodeEncodeError"

/-- A field folded afresh from its value's lines joined, as bytes: its lines each ended by a
line feed. -/
def Field.folded (f : Field) : Except String (List UInt8) := do
  let tree ← (FieldKind.ofName f.name).tree (valueLines f.value).flatten
  let lines ← settle (foldField f.name tree)
  foldedBytes (lines.flatMap (· ++ [.char '\n']))



end MailIngest.Mail
