import MailIngest.Text.Charset.Jis

/-!
# Japanese multibyte encodings

Shift_JIS packs the 94 × 94 cells of JIS X 0208 into pairs whose first byte avoids the
half-width katakana 0xA1 to 0xDF; EUC-JP sets the high bit of both bytes of a cell and reaches
the katakana and JIS X 0212 through the single shifts 0x8E and 0x8F. The JIS X 0213 encodings
do the same with the two planes of JIS X 0213, whose 2000 edition lacks ten cells of the first
plane and reads one cell of the second differently.

Each decoder is a step (`Charset.Step`): ASCII bytes stand for themselves, a pair that no table
gives is an error over its first byte, and a first byte with too few bytes after it is an
error over all that remain.

The main statement is `shiftJisStep_ascii` (a byte below 0x80 is its own character).
-/

namespace MailIngest.Text.Charset

def halfWidthKatakana (c : Nat) : Char := Char.ofNat (0xFEC0 + c)

/-- Whether a byte may follow the first byte of a Shift_JIS pair: 0x40 to 0xFC without 0x7F. -/
def isShiftJisSecond (c2 : Nat) : Bool := 0x40 ≤ c2 && c2 ≤ 0xFC && c2 != 0x7F

/-- The row of the 94 × 94 plane reached by a Shift_JIS pair, counted from zero, and its cell
(from 0x21): each first byte covers two rows, the second bytes 0x40 to 0x9E the first of them. -/
def shiftJisCell (c c2 : Nat) : Nat × Nat :=
  let c1 := if c < 0xE0 then c - 0x81 else c - 0xC1
  let t := if c2 < 0x80 then c2 - 0x40 else c2 - 0x41
  (2 * c1 + (if t < 0x5E then 0 else 1), (if t < 0x5E then t else t - 0x5E) + 0x21)

def shiftJisPair (c c2 : Nat) : Step :=
  if !isShiftJisSecond c2 then .error 1
  else
    let (r, k) := shiftJisCell c c2
    .orError (jisX0208.get? (r + 0x21) k) 2

def isShiftJisLead (c : Nat) : Bool := (0x81 ≤ c && c ≤ 0x9F) || (0xE0 ≤ c && c ≤ 0xEA)

def shiftJisStep (bs : List UInt8) : Step :=
  let c := byteAt bs 0
  if c < 0x80 then .code c 1
  else if 0xA1 ≤ c && c ≤ 0xDF then .one (halfWidthKatakana c) 1
  else if isShiftJisLead c then needing 2 bs fun _ => shiftJisPair c (byteAt bs 1)
  else .error 1

/-- One step of Windows code page 932: Shift_JIS with the vendor's additions, single bytes for
0x80, 0xA0 and 0xFD to 0xFF, and the user-defined area for first bytes 0xF0 to 0xF9. -/
def cp932Step (bs : List UInt8) : Step :=
  let c := byteAt bs 0
  if c ≤ 0x80 then .code c 1
  else if c = 0xA0 then .code 0xF8F0 1
  else if 0xA1 ≤ c && c ≤ 0xDF then .one (halfWidthKatakana c) 1
  else if 0xFD ≤ c then .code (0xF8F1 + (c - 0xFD)) 1
  else needing 2 bs fun _ =>
    let c2 := byteAt bs 1
    match cp932Extra.get? c c2 with
    | some ch => .one ch 2
    | none =>
      if isShiftJisLead c then shiftJisPair c c2
      else if 0xF0 ≤ c && c ≤ 0xF9 && isShiftJisSecond c2 then
        .code (0xE000 + 188 * (c - 0xF0) + (if c2 < 0x80 then c2 - 0x40 else c2 - 0x41)) 2
      else .error 1

def eucKana (bs : List UInt8) : Step :=
  needing 2 bs fun _ =>
    let c2 := byteAt bs 1
    if 0xA1 ≤ c2 && c2 ≤ 0xDF then .one (halfWidthKatakana c2) 2 else .error 1

def eucJpStep (bs : List UInt8) : Step :=
  let c := byteAt bs 0
  if c < 0x80 then .code c 1
  else if c = 0x8E then eucKana bs
  else if c = 0x8F then needing 3 bs fun _ =>
    .orError (jisX0212.get? (byteAt bs 1 ^^^ 0x80) (byteAt bs 2 ^^^ 0x80)) 3
  else needing 2 bs fun _ => .orError (jisX0208.get? (c ^^^ 0x80) (byteAt bs 1 ^^^ 0x80)) 2

/-- The ten cells of the first plane of JIS X 0213 added in its 2004 edition. -/
def jisX0213Added2004 : List (Nat × Nat) :=
  [(0x2E, 0x21), (0x2F, 0x7E), (0x4F, 0x54), (0x4F, 0x7E), (0x74, 0x27), (0x7E, 0x7A),
   (0x7E, 0x7B), (0x7E, 0x7C), (0x7E, 0x7D), (0x7E, 0x7E)]

/-- A cell of the first plane of JIS X 0213, one character or a base with a combining mark. -/
def jisX0213First (r k : Nat) : Option (List Char) :=
  match jisX0213Plane1.get? r k with
  | some ch => some [ch]
  | none => lookupCode jisX0213Pairs (r * 256 + k)

/-- A cell of the second plane of JIS X 0213; the 2000 edition reads cell 0x7D3B as U+9B1D. -/
def jisX0213Second (edition2000 : Bool) (r k : Nat) : Option Char :=
  if edition2000 && r = 0x7D && k = 0x3B then some (Char.ofNat 0x9B1D)
  else jisX0213Plane2.get? r k

/-- A cell of the first plane as a step of two bytes: a cell added in 2004 is an error over both
bytes in the 2000 edition, and `special` may read a cell first. -/
def jisX0213FirstStep (edition2000 : Bool) (special : Nat → Nat → Option Char) (r k : Nat) :
    Step :=
  if edition2000 && jisX0213Added2004.contains (r, k) then .error 2
  else match special r k with
    | some ch => .one ch 2
    | none => match jisX0213First r k with
      | some cs => .chars cs 2
      | none => .error 1

/-- The two cells EUC-JIS-2004 reads as full-width characters, as JIS X 0208 does. -/
def eucJisSpecial (r k : Nat) : Option Char :=
  if r = 0x21 && k = 0x40 then some (Char.ofNat 0xFF3C)
  else if r = 0x22 && k = 0x32 then some (Char.ofNat 0xFF5E)
  else none

/-- One step of EUC-JIS-2004, or of EUC-JISX0213 (the 2000 edition). -/
def eucJisX0213Step (edition2000 : Bool) (bs : List UInt8) : Step :=
  let c := byteAt bs 0
  if c < 0x80 then .code c 1
  else if c = 0x8E then eucKana bs
  else if c = 0x8F then needing 3 bs fun _ =>
    let r := byteAt bs 1 ^^^ 0x80
    let k := byteAt bs 2 ^^^ 0x80
    .orError ((jisX0213Second edition2000 r k).orElse fun _ => jisX0212.get? r k) 3
  else needing 2 bs fun _ =>
    jisX0213FirstStep edition2000 eucJisSpecial (c ^^^ 0x80) (byteAt bs 1 ^^^ 0x80)

/-- The row of the second plane of JIS X 0213 that a Shift_JIS-2004 row past the first
plane stands for. -/
def shiftJisPlane2Row (row : Nat) : Nat :=
  if row ≥ 0x67 then row + 0x07
  else if row ≥ 0x63 || row = 0x5F then row - 0x37
  else row - 0x3D

/-- JIS X 0201 Roman: ASCII with the yen sign for 0x5C and the overline for 0x7E. -/
def jisRoman (c : Nat) : Char :=
  if c = 0x5C then Char.ofNat 0xA5 else if c = 0x7E then Char.ofNat 0x203E else Char.ofNat c

/-- One step of Shift_JIS-2004, or of Shift_JISX0213 (the 2000 edition). -/
def shiftJisX0213Step (edition2000 : Bool) (bs : List UInt8) : Step :=
  let c := byteAt bs 0
  if c < 0x80 then .one (jisRoman c) 1
  else if 0xA1 ≤ c && c ≤ 0xDF then .one (halfWidthKatakana c) 1
  else if (0x81 ≤ c && c ≤ 0x9F) || (0xE0 ≤ c && c ≤ 0xFC) then needing 2 bs fun _ =>
    let c2 := byteAt bs 1
    if !isShiftJisSecond c2 then .error 1
    else
      let (row, k) := shiftJisCell c c2
      if row < 0x5E then jisX0213FirstStep edition2000 (fun _ _ => none) (row + 0x21) k
      else .orError (jisX0213Second edition2000 (shiftJisPlane2Row row) k) 2
  else .error 1

/-- A byte below 0x80 is its own character in Shift_JIS. -/
theorem shiftJisStep_ascii (b : UInt8) (bs : List UInt8) (h : b.toNat < 0x80) :
    shiftJisStep (b :: bs) = .code b.toNat 1 := by
  simp [shiftJisStep, byteAt, h]


end MailIngest.Text.Charset
