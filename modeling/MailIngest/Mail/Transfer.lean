import MailIngest.Text.Base64
import MailIngest.Text.Hex

/-!
# Content transfer encodings

The bodies of mail parts travel in one of three encodings besides plain bytes, and each is
read leniently, because mail in the wild is often damaged:

* base64 (`decodeBase64`): read strictly once the padding is completed; failing that, read
  leniently as it stands, then leniently with two more padding characters; and if even that
  fails (one character too many for a group), the text is kept as it is;
* quoted-printable (`decodeQuotedPrintable`): `=XX` is the byte of two hexadecimal digits, an
  `=` before a line end joins the lines, `==` is one `=`, and any other `=` stands for itself;
* uuencode (`decodeUu`): the lines after a `begin <mode> <name>` line up to an `end` line, each
  holding its byte count in its first character; a damaged line is read up to the length its
  count implies, and a missing `begin` line or an empty line is a failure.

The main statement is `decodeQuotedPrintable_plain` (bytes without `=` pass unchanged).
-/

namespace MailIngest.Mail.Transfer

def decodeBase64 (bs : List UInt8) : List UInt8 :=
  let cs := bs.map fun b => Char.ofNat b.toNat
  let pad := cs.length % 4
  let completed := if pad = 0 then cs else cs ++ List.replicate (4 - pad) '='
  match Text.Base64.decode true completed with
  | some out => out
  | none =>
    match Text.Base64.decode false cs with
    | some out => out
    | none =>
      match Text.Base64.decode false (cs ++ ['=', '=']) with
      | some out => out
      | none => bs

def isHexByte (b : UInt8) : Bool := (Text.Hex.digitValue? (Char.ofNat b.toNat)).isSome

def hexByteValue (b : UInt8) : Nat := (Text.Hex.digitValue? (Char.ofNat b.toNat)).getD 0

/-- The bytes after a soft line break that starts at a carriage return: everything up to and
including the next line feed is dropped. -/
def afterBreak (bs : List UInt8) : List UInt8 := (bs.dropWhile (· ≠ 0x0A)).drop 1

def qpSteps : Nat → List UInt8 → List UInt8
  | 0, _ => []
  | _, [] => []
  | _, [0x3D] => []
  | fuel + 1, 0x3D :: c :: rest =>
    if c = 0x0A then qpSteps fuel rest
    else if c = 0x0D then qpSteps fuel (afterBreak rest)
    else if c = 0x3D then 0x3D :: qpSteps fuel rest
    else match rest with
      | d :: rest' =>
        if isHexByte c && isHexByte d then
          (hexByteValue c * 16 + hexByteValue d).toUInt8 :: qpSteps fuel rest'
        else 0x3D :: qpSteps fuel (c :: rest)
      | [] => 0x3D :: qpSteps fuel [c]
  | fuel + 1, b :: rest => b :: qpSteps fuel rest

def decodeQuotedPrintable (bs : List UInt8) : List UInt8 := qpSteps (bs.length + 1) bs

/-- The lines of a byte text of at most `fuel` lines, split at each line feed, carriage
return, or carriage return and line feed, without their ends. -/
def linesOf : Nat → List UInt8 → List (List UInt8)
  | 0, _ => []
  | _, [] => []
  | fuel + 1, bs =>
    let line := bs.takeWhile fun b => b ≠ 0x0A && b ≠ 0x0D
    match bs.drop line.length with
    | 0x0D :: 0x0A :: r => line :: linesOf fuel r
    | _ :: r => line :: linesOf fuel r
    | [] => [line]

def lines (bs : List UInt8) : List (List UInt8) := linesOf (bs.length + 1) bs

/-- The six-bit value a uuencoded character stands for: a line end or a missing character is
zero, a character outside the printable range is an error. -/
def uuValue : List UInt8 → Option (Nat × List UInt8)
  | [] => some (0, [])
  | c :: r =>
    if c = 0x0A ∨ c = 0x0D then some (0, r)
    else if c < 0x20 ∨ c > 0x60 then none
    else some ((c.toNat - 32) % 64, r)

/-- Reads characters of a uuencoded line until `count` bytes are out, at most `fuel`
characters: the bytes, and the characters left. -/
def uuBytes : Nat → Nat → List UInt8 → Nat → Nat → Option (List UInt8 × List UInt8)
  | 0, _, cs, _, _ => some ([], cs)
  | _, 0, cs, _, _ => some ([], cs)
  | fuel + 1, count + 1, cs, carry, bits => do
    let (v, cs') ← uuValue cs
    let carry := carry * 64 + v
    if bits + 6 ≥ 8 then
      let left := bits + 6 - 8
      let (out, rest) ← uuBytes fuel count cs' (carry % Nat.pow 2 left) left
      pure ((carry / Nat.pow 2 left % 256).toUInt8 :: out, rest)
    else uuBytes fuel (count + 1) cs' carry (bits + 6)

/-- Whether a character may pad a uuencoded line after its data. -/
def isUuPadding (c : UInt8) : Bool := c = 0x20 || c = 0x60 || c = 0x0A || c = 0x0D

/-- One uuencoded line, `none` when a character is out of range or the padding is not. -/
def uuLine : List UInt8 → Option (List UInt8)
  | [] => none
  | first :: rest => do
    let count := (first.toNat + 256 - 32) % 64
    let (out, left) ← uuBytes (2 * count + 2) count rest 0 0
    if left.all isUuPadding then some out else none

/-- One uuencoded line, or, when it is damaged, its prefix of the length its count implies. -/
def uuLineRepaired (line : List UInt8) : Option (List UInt8) :=
  match uuLine line with
  | some out => some out
  | none =>
    let n := ((line.headD 0).toNat + 256 - 32) % 64
    uuLine (line.take ((n * 4 + 5) / 3))

/-- Whether a byte is an ASCII blank as uuencoding trims them. -/
def isUuBlank (b : UInt8) : Bool := b = 0x20 || b = 0x09 || b = 0x0D || b = 0x0A || b = 0x0C

/-- Whether a byte is ASCII white space as a number's text may have around it. -/
def isNumeralBlank (b : UInt8) : Bool := b = 0x20 || (0x09 ≤ b && b ≤ 0x0D)

def isOctalDigit (b : UInt8) : Bool := 0x30 ≤ b && b ≤ 0x37

/-- Whether bytes are octal digits that single underscores may group: a digit first and last,
and no two underscores together. -/
def isGroupedOctal : List UInt8 → Bool
  | [] => false
  | [d] => isOctalDigit d
  | d :: 0x5F :: rest => isOctalDigit d && isGroupedOctal rest
  | d :: rest => isOctalDigit d && isGroupedOctal rest

/-- Whether bytes spell an integer in base eight as a program text may: white space around it,
a sign, the prefix `0o` (one underscore may follow it), and grouped digits. -/
def isOctalNumeral (bs : List UInt8) : Bool :=
  let bs := ((bs.dropWhile isNumeralBlank).reverse.dropWhile isNumeralBlank).reverse
  let bs := match bs with
    | 0x2B :: r => r
    | 0x2D :: r => r
    | r => r
  let bs := match bs with
    | 0x30 :: p :: r =>
      if p = 0x6F || p = 0x4F then (match r with
        | 0x5F :: r' => r'
        | r' => r')
      else bs
    | _ => bs
  isGroupedOctal bs

/-- Whether a line opens uuencoded data: `begin `, then a mode that reads as an octal number
up to the next blank. -/
def isBegin (line : List UInt8) : Bool :=
  let pre := "begin ".toList.map fun c => c.toNat.toUInt8
  line.take 6 = pre && isOctalNumeral ((line.drop 6).takeWhile (· ≠ 0x20))

/-- The data lines up to an `end` line, decoded; `none` for an empty line. -/
def uuBody : List (List UInt8) → Option (List UInt8)
  | [] => some []
  | line :: rest =>
    if line.isEmpty then none
    else
      let trimmed := ((line.dropWhile isUuBlank).reverse.dropWhile isUuBlank).reverse
      if trimmed = "end".toList.map (fun c => c.toNat.toUInt8) then some []
      else do
        let out ← uuLineRepaired line
        let more ← uuBody rest
        pure (out ++ more)

/-- Uuencoded data: the decoded bytes, `none` when there is no `begin` line or the data is
damaged beyond repair. -/
def decodeUu (bs : List UInt8) : Option (List UInt8) :=
  let ls := lines bs
  match ls.dropWhile (fun l => !isBegin l) with
  | [] => none
  | _ :: rest => uuBody rest

/-- Bytes without `=` pass quoted-printable decoding unchanged. -/
theorem decodeQuotedPrintable_plain (bs : List UInt8) (h : ∀ b ∈ bs, b ≠ 0x3D) :
    decodeQuotedPrintable bs = bs := by
  unfold decodeQuotedPrintable
  suffices ∀ n, bs.length < n → qpSteps n bs = bs from this _ (Nat.lt_succ_self _)
  induction bs with
  | nil => intro n _; cases n <;> rfl
  | cons b r ih =>
    intro n hn
    obtain ⟨m, rfl⟩ : ∃ m, n = m + 1 := ⟨n - 1, by simp at hn; omega⟩
    have hb : b ≠ 0x3D := h b (by simp)
    have hr : ∀ x ∈ r, x ≠ 0x3D := fun x hx => h x (by simp [hx])
    have step : qpSteps (m + 1) (b :: r) = b :: qpSteps m r := by
      cases r with
      | nil => simp [qpSteps, hb]
      | cons c r' => simp [qpSteps, hb]
    rw [step, ih hr m (by simp at hn; omega)]


end MailIngest.Mail.Transfer
