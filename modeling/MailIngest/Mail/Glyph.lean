import MailIngest.Text.Utf8
import MailIngest.Text.Blank
import MailIngest.Text.Case

/-!
# Header text

A header is read from bytes as ASCII; a byte of 128 or more is kept as a byte (`Glyph.byte`)
rather than guessed at, so that it stays out of every character class of the header grammar
and is not white space. Encoded words add real characters, bytes of their own where their
character set does not decode them, and the surrogate code units that some character sets
give alone (`Glyph.lone`): a surrogate from U+DC80 to U+DCFF is the byte of its low eight bits,
since that is how a raw byte is carried, and any other stays a lone unit.

When a header's text is finally shown, its bytes are read together with its characters as
UTF-8, each ill-formed run becoming U+FFFD (`render`): UTF-8 bytes that arrived raw come out as
their characters. A lone unit has no bytes, and text that holds one cannot be shown
(`Field.text` fails).

The main statements are `isIn_byte` (a raw byte is in no character class) and
`ofBytes_ascii` (ASCII bytes read as their characters).
-/

namespace MailIngest.Mail

/-- One unit of header text: a character, a byte that has not been decoded, or a surrogate code
unit that stands alone and is not a byte. -/
inductive Glyph where
  | char (c : Char)
  | byte (b : UInt8)
  | lone (unit : Nat)
deriving DecidableEq, Inhabited

namespace Glyph

/-- A byte of a header as it is read: ASCII as its character, anything else as a byte. -/
def ofByte (b : UInt8) : Glyph := if b < 0x80 then .char (Char.ofNat b.toNat) else .byte b

/-- The bytes a unit stands for when the text is shown: a character as UTF-8, and U+FFFD for a
lone unit, which text that is shown never holds. -/
def bytes : Glyph → List UInt8
  | .char c => if c.toNat < 0x80 then [c.toNat.toUInt8] else Text.Utf8.encode (String.singleton c)
  | .byte b => [b]
  | .lone _ => [0xEF, 0xBF, 0xBD]

def is (c : Char) : Glyph → Bool
  | .char d => d == c
  | _ => false

def isIn (set : List Char) : Glyph → Bool
  | .char d => set.contains d
  | _ => false

/-- Whether a unit is white space in the Unicode sense; a byte or lone unit never is. -/
def isSpace : Glyph → Bool
  | .char d => Text.isBlank d
  | _ => false

def isDigit : Glyph → Bool
  | .char d => d.isDigit
  | _ => false

def isLone : Glyph → Bool
  | .lone _ => true
  | _ => false

def lower : Glyph → List Glyph
  | .char d => (Text.lowerChar d).map .char
  | g => [g]

end Glyph

abbrev Glyphs := List Glyph

def ofBytes (bs : List UInt8) : Glyphs := bs.map Glyph.ofByte

def glyphs (s : String) : Glyphs := s.toList.map .char

/-- Header text shown: characters and bytes read together as UTF-8 with replacement. -/
def render (gs : Glyphs) : String := Text.Utf8.decodeReplacing (gs.flatMap Glyph.bytes)

/-- Header text shown as `render` shows it; text that holds a lone unit cannot be, and fails
as an encoding error. -/
def renderChecked (gs : Glyphs) : Except String String :=
  if gs.any Glyph.isLone then .error "UnicodeEncodeError" else .ok (render gs)

def lowerAll (gs : Glyphs) : Glyphs := gs.flatMap Glyph.lower

def stripSpace (gs : Glyphs) : Glyphs :=
  ((gs.dropWhile Glyph.isSpace).reverse.dropWhile Glyph.isSpace).reverse

def dropSpace (gs : Glyphs) : Glyphs := gs.filter fun g => !g.isSpace

/-- Header text as ASCII, if it is: the bytes, for text that holds raw bytes or plain
characters below 128 only, since a raw byte stands for itself. -/
def asciiBytes? : Glyphs → Option (List UInt8)
  | [] => some []
  | .char c :: rest =>
    if c.toNat < 0x80 then (c.toNat.toUInt8 :: ·) <$> asciiBytes? rest else none
  | .byte b :: rest => (b :: ·) <$> asciiBytes? rest
  | .lone _ :: _ => none

/-- Whether header text holds a unit that is no character: a raw byte or a lone unit. -/
def hasBytes (gs : Glyphs) : Bool := gs.any fun g => match g with
  | .char _ => false
  | _ => true

/-- The characters of the header grammar that only blank: space and tab. -/
def wsp : List Char := [' ', '\t']

def cfwsLeader : List Char := [' ', '\t', '(']

def specials : List Char := ['(', ')', '<', '>', '@', ',', ':', ';', '.', '\\', '"', '[', ']']

def atomEnds : List Char := specials ++ wsp

def dotAtomEnds : List Char := atomEnds.filter (· ≠ '.')

/-- The characters that end a phrase: periods, quotes and comments do not. -/
def phraseEnds : List Char := specials.filter fun c => c ≠ '.' && c ≠ '"' && c ≠ '('

def tspecials : List Char := (specials ++ ['/', '?', '=']).filter (· ≠ '.')

def tokenEnds : List Char := tspecials ++ wsp

/-- The apostrophe, which delimits the character set and language of an encoded parameter. -/
def apostrophe : Char := Char.ofNat 39

def attributeEnds : List Char := tspecials ++ ['*', apostrophe, '%'] ++ wsp

/-- The characters that end an encoded parameter value: percent signs do not. -/
def extendedAttributeEnds : List Char := attributeEnds.filter (· ≠ '%')

def hexDigits : List Char := "0123456789abcdefABCDEF".toList

/-- Where `pat` first occurs in `gs`: the text before it and after it. -/
def splitAt (pat : Glyphs) : Glyphs → Option (Glyphs × Glyphs)
  | [] => if pat.isEmpty then some ([], []) else none
  | g :: rest =>
    if pat.isPrefixOf (g :: rest) then some ([], (g :: rest).drop pat.length)
    else (splitAt pat rest).map fun (a, b) => (g :: a, b)

/-- Header text up to its first run of spaces and tabs, and the run with all after it. -/
def splitBlank (gs : Glyphs) : Glyphs × Glyphs := gs.span fun g => !g.isIn wsp

theorem length_dropWhile_le {α : Type} (p : α → Bool) (l : List α) :
    (l.dropWhile p).length ≤ l.length := by
  induction l with
  | nil => simp
  | cons a r ih =>
    simp only [List.dropWhile_cons]
    split
    · simp only [List.length_cons]; omega
    · simp

theorem isIn_byte (set : List Char) (b : UInt8) : (Glyph.byte b).isIn set = false := rfl

theorem ofBytes_ascii (b : UInt8) (h : b < 0x80) : Glyph.ofByte b = .char (Char.ofNat b.toNat) := by
  simp [Glyph.ofByte, h]

end MailIngest.Mail
