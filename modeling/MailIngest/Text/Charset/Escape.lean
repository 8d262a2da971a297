import MailIngest.Text.Charset.Basic
import MailIngest.Text.CharName

/-!
# Backslash escapes

The escape encodings read each byte as the Latin-1 character of its number, except for
backslash escapes. The full form knows the escapes of string literals: a backslash before a
line feed is dropped, `\n`, `\t` and the other letters of control characters, one to three
octal digits, `\x` with two hexadecimal digits, `\u` with four and `\U` with eight, and `\N`
with a character name in braces. A backslash before any other byte stays, with the byte. The
raw form knows only `\u` and `\U`.

A hexadecimal escape with a byte that is no digit is an error over the escape up to that
byte, one past U+10FFFF an error over the whole escape, and an escape cut off by the end of
the bytes an error over all that remain. An escape of a surrogate gives the surrogate alone.
A name in braces after `\N` is looked up (`CharName.codeOf?`); `\N` is an error over `\N`
without a brace, over `\N{` with an empty name or with no closing brace after it (then over
all the bytes that remain), and through the closing brace when the name names no character.

The main statement is `unicodeEscapeStep_plain` (a byte other than a backslash is its own
character).
-/

namespace MailIngest.Text.Charset

def hexDigitValue (b : Nat) : Option Nat :=
  if 0x30 ≤ b && b ≤ 0x39 then some (b - 0x30)
  else if 0x61 ≤ b && b ≤ 0x66 then some (b - 0x61 + 10)
  else if 0x41 ≤ b && b ≤ 0x46 then some (b - 0x41 + 10)
  else none

/-- How reading a fixed number of hexadecimal digits ends. -/
inductive HexRead where
  /-- All digits were read: their value. -/
  | value (n : Nat)
  /-- A byte that is no digit came after this many digits. -/
  | stopped (digits : Nat)
  /-- The bytes ended first. -/
  | short

/-- Reads `count` hexadecimal digits, `read` of them already read with value `acc`. -/
def readHex : Nat → Nat → Nat → List UInt8 → HexRead
  | 0, _, acc, _ => .value acc
  | _ + 1, _, _, [] => .short
  | count + 1, read, acc, b :: rest =>
    match hexDigitValue b.toNat with
    | some d => readHex count (read + 1) (acc * 16 + d) rest
    | none => .stopped read

/-- The step of an escape of `count` hexadecimal digits after its two leading bytes. -/
def hexEscape (count : Nat) (whole : List UInt8) (digits : List UInt8) : Step :=
  match readHex count 0 0 digits with
  | .value n => if n > 0x10FFFF then .error (2 + count) else .code n (2 + count)
  | .stopped read => .error (2 + read)
  | .short => .error whole.length

/-- The control character a backslash and a letter stand for, and the quotes and backslash that
stand for themselves. -/
def simpleEscape (c : Nat) : Option Char :=
  if c = 0x5C || c = 0x27 || c = 0x22 then some (Char.ofNat c)
  else if c = 0x62 then some '\x08'
  else if c = 0x66 then some '\x0c'
  else if c = 0x74 then some '\t'
  else if c = 0x6E then some '\n'
  else if c = 0x72 then some '\r'
  else if c = 0x76 then some '\x0b'
  else if c = 0x61 then some '\x07'
  else none

def isOctalByte (b : Nat) : Bool := 0x30 ≤ b && b ≤ 0x37

/-- An octal escape: its first digit's value and the bytes after that digit; up to two more
digits are read. -/
def octalEscape (first : Nat) (after : List UInt8) : Step :=
  match after with
  | b :: c :: _ =>
    if isOctalByte b.toNat then
      let v := first * 8 + (b.toNat - 0x30)
      if isOctalByte c.toNat then .code (v * 8 + (c.toNat - 0x30)) 4 else .code v 3
    else .code first 2
  | [b] => if isOctalByte b.toNat then .code (first * 8 + (b.toNat - 0x30)) 3 else .code first 2
  | [] => .code first 2

/-- A character name escape after `\N`: the character its name in braces names. -/
def nameEscape (whole : List UInt8) (after : List UInt8) : Step :=
  match after with
  | [] => .error whole.length
  | b :: name =>
    if b != 0x7B then .error 2
    else match name.findIdx? (· = 0x7D) with
      | none => .error whole.length
      | some 0 => .error 3
      | some n =>
        match CharName.codeOf? ((name.take n).map fun x => Char.ofNat x.toNat) with
        | some c => .code c (n + 4)
        | none => .error (n + 4)

def unicodeEscapeStep (bs : List UInt8) : Step :=
  match bs with
  | [] => .error 1
  | b :: rest =>
    if b != 0x5C then .code b.toNat 1
    else match rest with
      | [] => .error 1
      | e :: more =>
        let c := e.toNat
        if c = 0x0A then .chars [] 2
        else match simpleEscape c with
          | some ch => .one ch 2
          | none =>
            if isOctalByte c then octalEscape (c - 0x30) more
            else if c = 0x78 then hexEscape 2 bs more
            else if c = 0x75 then hexEscape 4 bs more
            else if c = 0x55 then hexEscape 8 bs more
            else if c = 0x4E then nameEscape bs more
            else .chars ['\\', Char.ofNat c] 2

def rawUnicodeEscapeStep (bs : List UInt8) : Step :=
  match bs with
  | [] => .error 1
  | b :: rest =>
    if b != 0x5C then .code b.toNat 1
    else match rest with
      | [] => .code b.toNat 1
      | e :: more =>
        if e = 0x75 then hexEscape 4 bs more
        else if e = 0x55 then hexEscape 8 bs more
        else .chars ['\\', Char.ofNat e.toNat] 2

/-- A byte other than a backslash is its own character. -/
theorem unicodeEscapeStep_plain (b : UInt8) (bs : List UInt8) (h : b ≠ 0x5C) :
    unicodeEscapeStep (b :: bs) = .code b.toNat 1 := by
  simp [unicodeEscapeStep, h]


end MailIngest.Text.Charset
