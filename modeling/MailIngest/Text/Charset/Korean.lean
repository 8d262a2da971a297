import MailIngest.Text.Charset.Ksc

/-!
# Korean multibyte encodings

EUC-KR sets the high bit of both bytes of a KS X 1001 cell. KS X 1001 lists only 2350 Hangul
syllables; any other is written as eight bytes, the filler 0xA4D4 followed by its initial,
medial and final letters, each behind 0xA4. Windows code page 949 adds the remaining syllables
as pairs outside the KS X 1001 range. Johab instead builds a syllable from three five-bit
fields of one sixteen-bit code, and places the other KS X 1001 cells at first bytes 0xD9 to
0xF9.

The main statement is `eucKrStep_ascii` (a byte below 0x80 is its own character).
-/

namespace MailIngest.Text.Charset

/-- The index among the initials of Hangul syllables of the KS X 1001 letters 0xA1 to 0xBE;
none for a letter that begins no syllable. -/
def makeUpInitials : List (Option Nat) :=
  [some 0, some 1, none, some 2, none, none, some 3, some 4, some 5, none, none, none, none,
   none, none, none, some 6, some 7, some 8, none, some 9, some 10, some 11, some 12, some 13,
   some 14, some 15, some 16, some 17, some 18]

/-- The index among the finals of Hangul syllables of the KS X 1001 letters 0xA1 to 0xBE;
none for a letter that ends no syllable. -/
def makeUpFinals : List (Option Nat) :=
  [some 1, some 2, some 3, some 4, some 5, some 6, some 7, none, some 8, some 9, some 10,
   some 11, some 12, some 13, some 14, some 15, some 16, some 17, none, some 18, some 19,
   some 20, some 21, some 22, none, some 23, some 24, some 25, some 26, some 27]

/-- The Hangul syllable of an initial, a medial and a final (zero for none). -/
def syllable (initial medial final : Nat) : Nat := 0xAC00 + initial * 588 + medial * 28 + final

/-- The letter of a KS X 1001 byte from 0xA1 to 0xBE in a table of letters. -/
def letterOf (table : List (Option Nat)) (b : Nat) : Option Nat :=
  if 0xA1 ≤ b && b ≤ 0xBE then table.getD (b - 0xA1) none else none

/-- The eight-byte form of a syllable, after the filler 0xA4D4: its letters each behind 0xA4,
the final 0xA4D4 meaning none. -/
def madeUpSyllable (bs : List UInt8) : Step :=
  if byteAt bs 2 != 0xA4 || byteAt bs 4 != 0xA4 || byteAt bs 6 != 0xA4 then .error 1
  else
    let y := byteAt bs 5
    let z := byteAt bs 7
    let medial := if 0xBF ≤ y && y ≤ 0xD3 then some (y - 0xBF) else none
    let final := if z = 0xD4 then some 0 else letterOf makeUpFinals z
    match letterOf makeUpInitials (byteAt bs 3), medial, final with
    | some a, some b, some d => .code (syllable a b d) 8
    | _, _, _ => .error 1

def eucKrStep (bs : List UInt8) : Step :=
  let c := byteAt bs 0
  if c < 0x80 then .code c 1
  else needing 2 bs fun _ =>
    if c = 0xA4 && byteAt bs 1 = 0xD4 then needing 8 bs fun _ => madeUpSyllable bs
    else .orError (ksX1001.get? (c ^^^ 0x80) (byteAt bs 1 ^^^ 0x80)) 2

/-- One step of Windows code page 949: KS X 1001, then the Unified Hangul Code additions. -/
def cp949Step (bs : List UInt8) : Step :=
  let c := byteAt bs 0
  if c < 0x80 then .code c 1
  else needing 2 bs fun _ =>
    let c2 := byteAt bs 1
    .orError ((ksX1001.get? (c ^^^ 0x80) (c2 ^^^ 0x80)).orElse fun _ => uhc.get? c c2) 2

/-- What a five-bit field of a Johab syllable code stands for. -/
inductive JamoSlot where
  /-- A value no letter has. -/
  | absent
  /-- The filler: no letter in this place. -/
  | filler
  /-- A letter, by its index among the letters of its place in a syllable. -/
  | letter (n : Nat)
deriving DecidableEq

def johabInitials : List JamoSlot :=
  [.absent, .filler] ++ (List.range 19).map .letter ++ List.replicate 11 .absent

def johabMedials : List JamoSlot :=
  [.absent, .absent, .filler, .letter 0, .letter 1, .letter 2, .letter 3, .letter 4, .absent,
   .absent, .letter 5, .letter 6, .letter 7, .letter 8, .letter 9, .letter 10, .absent, .absent,
   .letter 11, .letter 12, .letter 13, .letter 14, .letter 15, .letter 16, .absent, .absent,
   .letter 17, .letter 18, .letter 19, .letter 20, .absent, .absent]

def johabFinals : List JamoSlot :=
  [.absent, .filler] ++ (List.range' 1 16).map .letter ++ [.absent] ++
    (List.range' 17 11).map .letter ++ [.absent, .absent]

/-- The compatibility letters (less U+3100) of the initials of Johab's first field. -/
def johabInitialLetters : List Nat :=
  [0, 0, 0x31, 0x32, 0x34, 0x37, 0x38, 0x39, 0x41, 0x42, 0x43, 0x45, 0x46, 0x47, 0x48, 0x49,
   0x4A, 0x4B, 0x4C, 0x4D, 0x4E]

/-- The compatibility letters (less U+3100) of the medials of Johab's second field. -/
def johabMedialLetters : List Nat :=
  [0, 0, 0, 0x4F, 0x50, 0x51, 0x52, 0x53, 0, 0, 0x54, 0x55, 0x56, 0x57, 0x58, 0x59, 0, 0, 0x5A,
   0x5B, 0x5C, 0x5D, 0x5E, 0x5F, 0, 0, 0x60, 0x61, 0x62, 0x63]

/-- The compatibility letters (less U+3100) of the finals of Johab's third field. -/
def johabFinalLetters : List Nat :=
  [0, 0, 0x31, 0x32, 0x33, 0x34, 0x35, 0x36, 0x37, 0x39, 0x3A, 0x3B, 0x3C, 0x3D, 0x3E, 0x3F,
   0x40, 0x41, 0, 0x42, 0x44, 0x45, 0x46, 0x47, 0x48, 0x4A, 0x4B, 0x4C, 0x4D, 0x4E]

/-- The character of a Johab Hangul code from its three fields: a syllable, a lone letter
between fillers, or the ideographic space for three fillers. -/
def johabHangul (i m f : Nat) : Step :=
  match johabInitials.getD i .absent, johabMedials.getD m .absent, johabFinals.getD f .absent with
  | .absent, _, _ | _, .absent, _ | _, _, .absent => .error 1
  | .filler, .filler, .filler => .code 0x3000 2
  | .filler, .filler, .letter _ => .code (0x3100 + johabFinalLetters.getD f 0) 2
  | .filler, .letter _, .filler => .code (0x3100 + johabMedialLetters.getD m 0) 2
  | .filler, .letter _, .letter _ => .error 1
  | .letter _, .filler, .filler => .code (0x3100 + johabInitialLetters.getD i 0) 2
  | .letter _, .filler, .letter _ => .error 1
  | .letter a, .letter b, .filler => .code (syllable a b 0) 2
  | .letter a, .letter b, .letter d => .code (syllable a b d) 2

/-- The KS X 1001 cell of a Johab pair outside the Hangul area. -/
def johabSymbol (c c2 : Nat) : Step :=
  if c < 0xD9 || c = 0xDF || c > 0xF9 || c2 < 0x31 || (0x80 ≤ c2 && c2 < 0x91) ||
      c2 % 0x80 = 0x7F || (c = 0xDA && 0xA1 ≤ c2 && c2 ≤ 0xD3) then .error 1
  else
    let t1 := if c < 0xE0 then 2 * (c - 0xD9) else 2 * c - 0x197
    let t2 := if c2 < 0x91 then c2 - 0x31 else c2 - 0x43
    let row := t1 + (if t2 < 0x5E then 0 else 1) + 0x21
    .orError (ksX1001.get? row ((if t2 < 0x5E then t2 else t2 - 0x5E) + 0x21)) 2

def johabStep (bs : List UInt8) : Step :=
  let c := byteAt bs 0
  if c < 0x80 then .code c 1
  else needing 2 bs fun _ =>
    let c2 := byteAt bs 1
    if c < 0xD8 then johabHangul (c / 4 % 32) ((c * 8 + c2 / 32) % 32) (c2 % 32)
    else johabSymbol c c2

theorem eucKrStep_ascii (b : UInt8) (bs : List UInt8) (h : b.toNat < 0x80) :
    eucKrStep (b :: bs) = .code b.toNat 1 := by
  simp [eucKrStep, byteAt, h]


end MailIngest.Text.Charset
