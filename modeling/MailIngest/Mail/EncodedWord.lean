import MailIngest.Mail.Glyph
import MailIngest.Mail.Transfer
import MailIngest.Text.Charset

/-!
# Encoded words

Header text outside ASCII travels as encoded words, `=?charset?q?text?=` or
`=?charset?b?text?=`: the text is the bytes of a character set, written quoted (`_` for a space,
`=XX` for a byte) or in base64. A language may follow the character set after `*`.

A word whose parts do not number exactly three between the delimiters, whose encoding is
neither `q` nor `b`, or whose text is not ASCII, is malformed. Bytes that the character set does
not decode are kept as raw bytes, and a character set this library does not know reads as ASCII
with the same rule; only a byte below 128 that still does not decode makes the word malformed.
A surrogate that the character set gives alone is kept: from U+DC80 to U+DCFF as the byte it
carries, otherwise as a lone unit. A failure of reading that is no decoding error
(`RuntimeError`) says nothing about the word and stops reading the header.

The main statements are `decodeQ_plain` (quoted text without `_` or `=` is its own bytes) and
`unfold_ascii` (an unknown character set keeps ASCII bytes as characters).
-/

namespace MailIngest.Mail.EncodedWord

/-- The bytes of quoted text: `_` is a space and `=XX` the byte of two hexadecimal digits; any
other `=` stands for itself. -/
def decodeQ : List UInt8 → List UInt8
  | [] => []
  | 0x5F :: r => 0x20 :: decodeQ r
  | 0x3D :: a :: b :: r =>
    if Transfer.isHexByte a && Transfer.isHexByte b then
      (Transfer.hexByteValue a * 16 + Transfer.hexByteValue b).toUInt8 :: decodeQ r
    else 0x3D :: decodeQ (a :: b :: r)
  | x :: r => x :: decodeQ r
termination_by bs => bs.length

def unfold (bs : List UInt8) : Glyphs := ofBytes bs

/-- The unit of a surrogate given alone: from U+DC80 to U+DCFF the byte of its low eight bits,
which is how raw bytes are carried, and otherwise a lone unit. -/
def loneGlyph (u : Nat) : Glyph :=
  if 0xDC80 ≤ u && u < 0xDD00 then .byte (u - 0xDC00).toUInt8 else .lone u

/-- Decoded pieces as header text: the bytes of each piece that does not decode are kept raw,
which fails for a byte below 128. -/
def keepBad : List Text.Charset.Piece → Option Glyphs
  | [] => some []
  | .char c :: rest => (Glyph.char c :: ·) <$> keepBad rest
  | .bad bs :: rest =>
    if bs.all (· ≥ 0x80) then (bs.map Glyph.byte ++ ·) <$> keepBad rest else none
  | .lone u :: rest => (loneGlyph u :: ·) <$> keepBad rest

/-- Bytes read in a named character set keeping undecodable bytes raw; an unknown name reads
as ASCII. An undecodable byte below 128 fails with a decoding error, and reading may fail
otherwise too. -/
def readKeepingRaw (charset : Glyphs) (bs : List UInt8) : Except String Glyphs :=
  if hasBytes charset then .ok (unfold bs)
  else match Text.Charset.lookup (render charset) with
    | none => .ok (unfold bs)
    | some codec => do
      match keepBad (← Text.Charset.decode codec .keepRaw bs) with
      | some gs => .ok gs
      | none => .error "UnicodeDecodeError"

/-- Whether a failure of reading is a decoding error, which makes an encoded word malformed;
any other failure stops reading the header. -/
def isDecodingError (failure : String) : Bool := failure != "RuntimeError"

/-- A failure of reading an encoded word: `none` when it makes the word malformed, else the
failure itself. -/
def malformedUnless (failure : String) : Except String (Option Glyphs) :=
  if isDecodingError failure then .ok none else .error failure

/-- Bytes read in a named character set; an unknown name reads as ASCII. Bytes that do not
decode strictly are read again keeping them raw; a decoding error makes the word malformed
(`none`), and any other failure stops reading. -/
def readCharset (charset : Glyphs) (bs : List UInt8) : Except String (Option Glyphs) :=
  if hasBytes charset then .ok (some (unfold bs))
  else match Text.Charset.lookup (render charset) with
    | none => .ok (some (unfold bs))
    | some codec =>
      let again : Unit → Except String (Option Glyphs) := fun _ =>
        match readKeepingRaw charset bs with
        | .ok gs => .ok (some gs)
        | .error failure => malformedUnless failure
      match Text.Charset.decode codec .strict bs with
      | .ok ps => if ps.any (· matches .bad _) then again () else .ok (keepBad ps)
      | .error failure => if failure = "UnicodeDecodeError" then again () else malformedUnless failure

/-- The parts of a word between its delimiters, split at each `?`. -/
def parts (gs : Glyphs) : List Glyphs :=
  gs.splitOn (Glyph.char '?')

/-- The bytes an encoded word's text stands for in its encoding, `none` when the encoding is
neither `q` nor `b` or the text is not ASCII. -/
def wordBytes (cte text : Glyphs) : Option (List UInt8) := do
  let bytes ← asciiBytes? text
  match cte with
  | [.char 'q'] | [.char 'Q'] => some (decodeQ bytes)
  | [.char 'b'] | [.char 'B'] => some (Transfer.decodeBase64 bytes)
  | _ => none

/-- The text of an encoded word given without its delimiters, `none` when it is malformed, or
the failure that stops reading the header. -/
def decode (word : Glyphs) : Except String (Option Glyphs) :=
  match parts word with
  | [charset, cte, text] =>
    match wordBytes cte text with
    | some raw => readCharset (charset.takeWhile fun g => !g.is '*') raw
    | none => .ok none
  | _ => .ok none

/-- Whether text starts with what looks like an encoded word: `=?`, a character set, `?`, an
encoding letter, `?`, and later `?=`. -/
def startsEncoded : Glyphs → Bool
  | .char '=' :: .char '?' :: rest =>
    match rest.dropWhile (fun g => !g.is '?') with
    | _ :: c :: .char '?' :: more =>
      c.isIn ['q', 'Q', 'b', 'B'] && (splitAt (glyphs "?=") more).isSome
    | _ => false
  | _ => false

/-- Whether text holds something that looks like an encoded word. -/
def looksEncoded : Glyphs → Bool
  | [] => false
  | g :: rest => startsEncoded (g :: rest) || looksEncoded rest

theorem decodeQ_plain (bs : List UInt8) (h : ∀ b ∈ bs, b ≠ 0x5F ∧ b ≠ 0x3D) :
    decodeQ bs = bs := by
  induction bs with
  | nil => simp [decodeQ]
  | cons b r ih =>
    have hb := h b (by simp)
    have hr : ∀ x ∈ r, x ≠ 0x5F ∧ x ≠ 0x3D := fun x hx => h x (by simp [hx])
    have step : decodeQ (b :: r) = b :: decodeQ r := by
      rw [decodeQ.eq_def]
      split
      · simp_all
      · simp_all
      · simp_all
      · simp_all
    rw [step, ih hr]

/-- An unknown character set keeps ASCII bytes as characters. -/
theorem unfold_ascii (b : UInt8) (h : b < 0x80) : unfold [b] = [.char (Char.ofNat b.toNat)] := by
  simp [unfold, ofBytes, Glyph.ofByte, h]

end MailIngest.Mail.EncodedWord
