/-!
# UTF-8 bytes

Text is written as UTF-8 by `encode`. Reading bytes back, `decode?` accepts well-formed input
only, and `decodeReplacing` reads any bytes: each maximal ill-formed subpart (a lead byte with
the continuation bytes that could still extend it, or a byte that starts nothing) becomes one
U+FFFD, as the Unicode standard recommends. `decodeAsciiReplacing` keeps the ASCII bytes and
replaces every other byte, and `ofBytes` reads each byte as the character of that number.

- `scan_ascii` : an ASCII byte is one character and consumes nothing more;
- `decodeAsciiReplacing_length` : one character per byte.
-/

namespace MailIngest.Text.Utf8

def encode (s : String) : List UInt8 := s.toUTF8.toList

/-- Reads up to `k` continuation bytes, the first within `lo`..`hi` and the others within
`0x80`..`0xBF`, accumulating six bits from each: the number read and the value. -/
def takeCont : Nat → UInt8 → UInt8 → List UInt8 → Nat → Nat × Nat
  | 0, _, _, _, acc => (0, acc)
  | _ + 1, _, _, [], acc => (0, acc)
  | k + 1, lo, hi, b :: r, acc =>
    if lo ≤ b ∧ b ≤ hi then
      let (n, v) := takeCont k 0x80 0xBF r (acc * 64 + (b &&& 0x3F).toNat)
      (n + 1, v)
    else (0, acc)

/-- How a lead byte goes on: the number of continuation bytes, the range of the first one and
the bits the lead byte carries; `none` for a byte that starts no sequence. -/
def leadShape (b : UInt8) : Option (Nat × UInt8 × UInt8 × Nat) :=
  let n := b.toNat
  if 0xC2 ≤ n ∧ n ≤ 0xDF then some (1, 0x80, 0xBF, n % 32)
  else if n = 0xE0 then some (2, 0xA0, 0xBF, 0)
  else if n = 0xED then some (2, 0x80, 0x9F, 13)
  else if 0xE1 ≤ n ∧ n ≤ 0xEF then some (2, 0x80, 0xBF, n % 16)
  else if n = 0xF0 then some (3, 0x90, 0xBF, 0)
  else if 0xF1 ≤ n ∧ n ≤ 0xF3 then some (3, 0x80, 0xBF, n % 8)
  else if n = 0xF4 then some (3, 0x80, 0x8F, 4)
  else none

/-- Reads the unit that starts with byte `b`: a character, or `none` for an ill-formed
subpart, and the number of the following bytes it takes. -/
def scan (b : UInt8) (rest : List UInt8) : Option Char × Nat :=
  if b < 0x80 then (some (Char.ofNat b.toNat), 0)
  else match leadShape b with
    | none => (none, 0)
    | some (need, lo, hi, bits) =>
      let (n, v) := takeCont need lo hi rest bits
      if n = need then (some (Char.ofNat v), n) else (none, n)

def units : Nat → List UInt8 → List (Option Char)
  | 0, _ => []
  | _, [] => []
  | fuel + 1, b :: rest =>
    let (c, k) := scan b rest
    c :: units fuel (rest.drop k)

/-- The characters of well-formed UTF-8, `none` for ill-formed input. -/
def decode? (bs : List UInt8) : Option String :=
  (units bs.length bs).mapM id |>.map String.ofList

/-- The text of any bytes, each ill-formed subpart replaced by U+FFFD. -/
def decodeReplacing (bs : List UInt8) : String :=
  String.ofList ((units bs.length bs).map (·.getD '�'))

/-- The text of bytes read as ASCII, each byte above 0x7F replaced by U+FFFD. -/
def decodeAsciiReplacing (bs : List UInt8) : String :=
  String.ofList (bs.map fun b => if b < 0x80 then Char.ofNat b.toNat else '�')

def ofBytes (bs : List UInt8) : String := String.ofList (bs.map fun b => Char.ofNat b.toNat)

/-- The bytes of a text whose characters are all below U+0100. -/
def toBytes (s : String) : List UInt8 := s.toList.map fun c => c.toNat.toUInt8

/-- An ASCII byte is one character and consumes nothing more. -/
theorem scan_ascii (b : UInt8) (rest : List UInt8) (h : b < 0x80) :
    scan b rest = (some (Char.ofNat b.toNat), 0) := by
  simp [scan, h]

theorem decodeAsciiReplacing_length (bs : List UInt8) :
    (decodeAsciiReplacing bs).length = bs.length := by
  simp [decodeAsciiReplacing]

end MailIngest.Text.Utf8
