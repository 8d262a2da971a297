import MailIngest.Text.Charset.Gb
import MailIngest.Text.Charset.Big5

/-!
# Chinese multibyte encodings

EUC-CN sets the high bit of both bytes of a GB 2312 cell. GBK extends it to first bytes 0x81
to 0xFE and second bytes 0x40 to 0xFE, and GB 18030 extends GBK with four-byte sequences that
reach every code point: those of the Basic Multilingual Plane through a table of ranges, the
others by arithmetic from U+10000. Big5 is its own table, which Windows code page 950 extends
and Big5-HKSCS extends with the Hong Kong supplementary characters.

The main statement is `gb2312Step_ascii` (a byte below 0x80 is its own character).
-/

namespace MailIngest.Text.Charset

def gb2312Step (bs : List UInt8) : Step :=
  let c := byteAt bs 0
  if c < 0x80 then .code c 1
  else needing 2 bs fun _ => .orError (gb2312.get? (c ^^^ 0x80) (byteAt bs 1 ^^^ 0x80)) 2

/-- The character of a GBK pair: three pairs read as in GB 18030, then GB 2312 and the
additions of GBK. -/
def gbkPair (c c2 : Nat) : Option Char :=
  if c = 0xA1 && c2 = 0xAA then some (Char.ofNat 0x2014)
  else if c = 0xA8 && c2 = 0x44 then some (Char.ofNat 0x2015)
  else if c = 0xA1 && c2 = 0xA4 then some (Char.ofNat 0xB7)
  else (gb2312.get? (c ^^^ 0x80) (c2 ^^^ 0x80)).orElse fun _ => gbkExtra.get? c c2

def gbkStep (bs : List UInt8) : Step :=
  let c := byteAt bs 0
  if c < 0x80 then .code c 1
  else needing 2 bs fun _ => .orError (gbkPair c (byteAt bs 1)) 2

/-- The code point of the four-byte sequence with index `n` below 39420: the start of the last
range at or before `n`, moved by the distance from it. -/
def gb18030Bmp (n : Nat) : Nat :=
  match (gb18030Ranges.takeWhile (·.1 ≤ n)).getLast? with
  | some (start, first) => first + (n - start)
  | none => n

/-- A four-byte sequence of GB 18030, whose second and fourth bytes are digits. -/
def gb18030Four (c c2 c3 c4 : Nat) : Step :=
  if c < 0x81 || c > 0xFE || c3 < 0x81 || c3 > 0xFE || c4 < 0x30 || c4 > 0x39 then .error 1
  else
    let a := c - 0x81
    let low := (c3 - 0x81) * 10 + (c4 - 0x30)
    if a < 4 then
      let n := (a * 10 + (c2 - 0x30)) * 1260 + low
      if n < 39420 then .code (gb18030Bmp n) 4 else .error 1
    else if a ≥ 15 then
      let cp := 0x10000 + ((a - 15) * 10 + (c2 - 0x30)) * 1260 + low
      if cp ≤ 0x10FFFF then .code cp 4 else .error 1
    else .error 1

def gb18030Step (bs : List UInt8) : Step :=
  let c := byteAt bs 0
  if c < 0x80 then .code c 1
  else needing 2 bs fun _ =>
    let c2 := byteAt bs 1
    if 0x30 ≤ c2 && c2 ≤ 0x39 then
      needing 4 bs fun _ => gb18030Four c c2 (byteAt bs 2) (byteAt bs 3)
    else .orError ((gbkPair c c2).orElse fun _ => gb18030Extra.get? c c2) 2

def big5Step (bs : List UInt8) : Step :=
  let c := byteAt bs 0
  if c < 0x80 then .code c 1
  else needing 2 bs fun _ => .orError (big5.get? c (byteAt bs 1)) 2

/-- One step of Windows code page 950: its additions, then Big5. -/
def cp950Step (bs : List UInt8) : Step :=
  let c := byteAt bs 0
  if c < 0x80 then .code c 1
  else needing 2 bs fun _ =>
    let c2 := byteAt bs 1
    .orError ((cp950Extra.get? c c2).orElse fun _ => big5.get? c c2) 2

/-- One step of Big5-HKSCS: Big5 outside the pairs that HKSCS takes over at 0xC6A1 to 0xC8FE,
then the supplementary characters, four of which are two characters each. -/
def big5HkscsStep (bs : List UInt8) : Step :=
  let c := byteAt bs 0
  if c < 0x80 then .code c 1
  else needing 2 bs fun _ =>
    let c2 := byteAt bs 1
    let plain := if !(0xC6 ≤ c && c ≤ 0xC8) || (c < 0xC7 && c2 < 0xA1) then big5.get? c c2
      else none
    match plain.orElse fun _ => hkscs.get? c c2 with
    | some ch => .one ch 2
    | none => match lookupCode hkscsPairs (c * 256 + c2) with
      | some cs => .chars cs 2
      | none => .error 1

theorem gb2312Step_ascii (b : UInt8) (bs : List UInt8) (h : b.toNat < 0x80) :
    gb2312Step (b :: bs) = .code b.toNat 1 := by
  simp [gb2312Step, byteAt, h]


end MailIngest.Text.Charset
