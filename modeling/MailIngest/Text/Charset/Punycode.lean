import MailIngest.Text.Charset.Basic
import MailIngest.Text.Nameprep

/-!
# Punycode and IDNA

Punycode writes a label as its ASCII characters, a hyphen, and then the other characters as
variable-length numbers in base 36, each the distance from the last insertion to the next in a
count over code points and places. The part before the last hyphen is read as ASCII (where an
error handler may repair bytes); the part after it must be ASCII and is read without regard to
case.

Reading is strict or replacing; keeping bytes raw is refused. When strict, a number cut off
or holding a byte that is no digit, or a character past U+10FFFF, makes reading fail; when
replacing, the first such number ends reading with the text so far, and a character past
U+10FFFF is read as `?`. A surrogate reached this way is given alone.

Writing is the other way round: the ASCII code points, a hyphen when there are any, and then
for each other code point in increasing order the distances to its places, as numbers in lower
case base 36.

The IDNA codec reads only strictly. Text that holds no `xn--` and is all ASCII is itself; else
each label between dots must be ASCII. A label that starts with `xn--` is read as Punycode after
the prefix and must come back: the code points read are prepared (`Nameprep.nameprep`) and
written as ASCII again (`toAscii`), and that must be the label in lower case. Any other label is
itself.

The main statements are `threshold_low` (the
first digit's threshold is 1 at a bias of 36 or more) and `encodeNumber_small` (a number below
the threshold is one digit).
-/

namespace MailIngest.Text.Charset

/-- The value of an upper-case letter or a digit as a Punycode digit. -/
def punyDigit (c : Char) : Option Nat :=
  if 'A' ≤ c && c ≤ 'Z' then some (c.toNat - 0x41)
  else if '0' ≤ c && c ≤ '9' then some (c.toNat - 22)
  else none

/-- The threshold of the digit in place `j` under a bias, between 1 and 26. -/
def threshold (j bias : Nat) : Nat :=
  if 36 * (j + 1) ≤ bias then 1 else min (36 * (j + 1) - bias) 26

/-- Divides by 35 until at most 455, counting 36 for each division. -/
def adaptShrink (delta divisions : Nat) : Nat × Nat :=
  if 455 < delta then adaptShrink (delta / 35) (divisions + 36) else (delta, divisions)
termination_by delta
decreasing_by exact Nat.div_lt_self (by omega) (by omega)

/-- The bias after a number, from the number, whether it was the first, and the count of
characters now. -/
def adapt (delta : Nat) (first : Bool) (count : Nat) : Nat :=
  let d := if first then delta / 700 else delta / 2
  let (d, divisions) := adaptShrink (d + d / count) 0
  divisions + 36 * d / (d + 38)

/-- Reads one variable-length number, the digits from place `j` on with weight `w` and value
`acc` so far: the number and the characters after it, or none when it is cut off or holds a
character that is no digit. -/
def generalizedNumber (bias : Nat) (j w acc : Nat) : List Char → Option (Nat × List Char)
  | [] => none
  | c :: rest =>
    match punyDigit c with
    | none => none
    | some d =>
      let t := threshold j bias
      if d < t then some (acc + d * w, rest)
      else generalizedNumber bias (j + 1) (w * (36 - t)) (acc + d * w) rest

/-- The piece of a code point reached by insertion: its character, or a surrogate alone. -/
def insertedPiece (n : Nat) : Piece :=
  if isSurrogate n then .lone n else .char (Char.ofNat n)

/-- Inserts the characters the numbers of `ext` stand for into `base`, at most `fuel` of
them: `code` is the last code point, `pos` the last place, `bias` the bias, and `first` whether
no number has been read. -/
def insertAll (strict : Bool) : Nat → List Piece → Nat → Nat → Nat → Bool → List Char →
    Except String (List Piece)
  | 0, base, _, _, _, _, _ => .ok base
  | _, base, _, _, _, _, [] => .ok base
  | fuel + 1, base, code, pos, bias, first, ext =>
    match generalizedNumber bias 0 1 0 ext with
    | none => if strict then .error "UnicodeError" else .ok base
    | some (delta, rest) =>
      let q := if first then delta else pos + delta + 1
      let places := base.length + 1
      let code := code + q / places
      if code > 0x10FFFF && strict then .error "UnicodeError"
      else
        let code := if code > 0x10FFFF then 0x3F else code
        let pos := q % places
        let base := base.take pos ++ insertedPiece code :: base.drop pos
        insertAll strict fuel base code pos (adapt delta first base.length) false rest

/-- ASCII bytes as pieces: a byte of 128 or more does not decode. -/
def asciiPieces (bs : List UInt8) : List Piece :=
  bs.map fun b => if b < 0x80 then .char (Char.ofNat b.toNat) else .bad [b]

def punycode (handler : Handler) (bs : List UInt8) : Except String (List Piece) :=
  let strict := handler = .strict
  if handler = .keepRaw then .error "UnicodeError" else
  let (basic, ext) := match bs.reverse.findIdx? (· = 0x2D) with
    | some i => (bs.take (bs.length - 1 - i), bs.drop (bs.length - i))
    | none => ([], bs)
  let base := asciiPieces basic
  if strict && base.any (· matches .bad _) then .error "UnicodeDecodeError"
  else if ext.any (· ≥ 0x80) then .error "UnicodeDecodeError"
  else
    let ext := ext.map fun b => (Char.ofNat b.toNat).toUpper
    insertAll strict ext.length base 0x80 0 72 true ext

theorem threshold_pos (j bias : Nat) : 1 ≤ threshold j bias := by
  unfold threshold
  split <;> omega

theorem threshold_le (j bias : Nat) : threshold j bias ≤ 26 := by
  unfold threshold
  split <;> omega

def digitByte (d : Nat) : UInt8 := if d < 26 then (0x61 + d).toUInt8 else (d - 26 + 0x30).toUInt8

/-- A number written as variable-length digits from place `j` on under a bias. -/
def encodeNumber (bias j q : Nat) : List UInt8 :=
  let t := threshold j bias
  if h : q < t then [digitByte q]
  else digitByte (t + (q - t) % (36 - t)) :: encodeNumber bias (j + 1) ((q - t) / (36 - t))
termination_by q
decreasing_by
  have h1 := threshold_pos j bias
  have h2 := threshold_le j bias
  calc (q - threshold j bias) / (36 - threshold j bias)
      ≤ q - threshold j bias := Nat.div_le_self _ _
    _ < q := by omega

/-- Where writing the numbers is: the digits so far, the distance counted since the last
number, the bias, and how many code points are placed. -/
structure Encoding where
  out : List UInt8
  delta : Nat
  bias : Nat
  placed : Nat

/-- Passes one code point of the text while placing the code point `m`: a smaller one adds to
the distance, `m` itself ends a number. `basic` is the count of ASCII code points. -/
def passPoint (basic m : Nat) (st : Encoding) (c : Nat) : Encoding :=
  if c < m then { st with delta := st.delta + 1 }
  else if c = m then
    { out := st.out ++ encodeNumber st.bias 0 st.delta, delta := 0,
      bias := adapt st.delta (st.placed == basic) (st.placed + 1), placed := st.placed + 1 }
  else st

/-- Places the code points of `todo`, in increasing order, `n` being the one after the last. -/
def placeAll (text : List Nat) (basic : Nat) : List Nat → Nat → Encoding → Encoding
  | [], _, st => st
  | m :: rest, n, st =>
    let st := { st with delta := st.delta + (m - n) * (st.placed + 1) }
    let st := text.foldl (passPoint basic m) st
    placeAll text basic rest (m + 1) { st with delta := st.delta + 1 }

def insertOnce (x : Nat) : List Nat → List Nat
  | [] => [x]
  | y :: ys => if x < y then x :: y :: ys else if x = y then y :: ys else y :: insertOnce x ys

def encodePunycode (text : List Nat) : List UInt8 :=
  let basic := (text.filter (· < 0x80)).map Nat.toUInt8
  let others := (text.filter (0x80 ≤ ·)).foldr insertOnce []
  let st := placeAll text basic.length others 0x80
    { out := [], delta := 0, bias := 72, placed := basic.length }
  basic ++ (if basic.isEmpty then [] else [0x2D]) ++ st.out

def acePrefix : List UInt8 := [0x78, 0x6E, 0x2D, 0x2D]

/-- A label as ASCII bytes, as IDNA writes it: ASCII text as it is, other text prepared and,
when it is still not ASCII, written as Punycode after the prefix; none when preparing fails,
when prepared text starts with the prefix, or when the result is empty or longer than 63. -/
def toAscii (text : List Nat) : Option (List UInt8) :=
  let fits (bs : List UInt8) : Option (List UInt8) :=
    if 0 < bs.length && bs.length < 64 then some bs else none
  if text.all (· < 0x80) then fits (text.map Nat.toUInt8)
  else match Nameprep.nameprep text with
    | none => none
    | some n =>
      if n.all (· < 0x80) then fits (n.map Nat.toUInt8)
      else if n.take 4 = acePrefix.map UInt8.toNat then none
      else fits (acePrefix ++ encodePunycode n)

def pieceCode : Piece → Nat
  | .char c => c.toNat
  | .lone u => u
  | .bad _ => 0xFFFD

def lowerByte (b : UInt8) : UInt8 := if 0x41 ≤ b && b ≤ 0x5A then b + 0x20 else b

def startsWithBytes (bs pre : List UInt8) : Bool := bs.take pre.length = pre

def hasAcePrefix : List UInt8 → Bool
  | [] => false
  | b :: rest => startsWithBytes (b :: rest) acePrefix || hasAcePrefix rest

def idnaLabel (label : List UInt8) : Except String (List Piece) :=
  if label.length > 1024 then .error "UnicodeError"
  else if startsWithBytes label acePrefix then do
    let ps ← punycode .strict (label.drop acePrefix.length)
    match toAscii (ps.map pieceCode) with
    | some back => if label.map lowerByte = back then pure ps else .error "UnicodeError"
    | none => .error "UnicodeError"
  else if label.any (· ≥ 0x80) then .error "UnicodeDecodeError"
  else .ok (asciiPieces label)

/-- Bytes read strictly as IDNA text; reading it otherwise always fails. -/
def idna (handler : Handler) (bs : List UInt8) : Except String (List Piece) :=
  if handler != .strict then .error "UnicodeError"
  else if bs.isEmpty then .ok []
  else if !hasAcePrefix bs && bs.all (· < 0x80) then .ok (asciiPieces bs)
  else
    let labels := bs.splitOn 0x2E
    let (labels, dot) := if labels.getLast? = some [] then (labels.dropLast, true)
      else (labels, false)
    do
      let read ← labels.mapM idnaLabel
      pure (List.intercalate [.char '.'] read ++ if dot then [.char '.'] else [])


theorem encodeNumber_small (bias j q : Nat) (h : q < threshold j bias) :
    encodeNumber bias j q = [digitByte q] := by
  rw [encodeNumber]
  simp [h]

/-- The first digit's threshold is 1 at a bias of 36 or more. -/
theorem threshold_low (bias : Nat) (h : 36 ≤ bias) : threshold 0 bias = 1 := by
  simp [threshold, h]

end MailIngest.Text.Charset
