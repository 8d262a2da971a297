import MailIngest.Text.CodePage
import MailIngest.Text.Charset.Japanese
import MailIngest.Text.Charset.Korean
import MailIngest.Text.Charset.Chinese

/-!
# ISO 2022 encodings and HZ

The ISO 2022 encodings of mail are seven-bit: escape sequences *designate* character sets to
the slots G0 and G1 (and G2 in ISO-2022-JP-2), and the bytes 0x21 to 0x7E are read in the set
of G0, or of G1 after the shift-out byte 0x0E until the shift-in byte 0x0F or a line feed.
A set is named by the final byte of its escape sequence, with 0x80 added for a set of two bytes
per character (its *mark*); `B` alone is ASCII.

An escape that starts no designation is kept as a character, and so is every byte after it up
to a capital letter or `@`. Each encoding accepts the sets of its `Iso2022.sets`; designating
another is an error over the escape sequence. ISO-2022-JP-2 reads one character of G2 after
`ESC N`; a G2 that is neither ASCII, Latin-1 nor Greek cannot be read that way, and reading
fails outright. That failure is met only when reading gets that far: strict reading ends at
the first bytes that do not decode, and reading that keeps bytes raw fails at the first such
bytes that start below 128.

HZ switches between ASCII and GB 2312 with `~{` and `~}`, writes `~` as `~~`, and drops `~`
before a line feed.

The main statement is `iso2022_empty` (no bytes read as no text).
-/

namespace MailIngest.Text.Charset

/-- The character sets an ISO 2022 encoding may designate. -/
inductive Graphic where
  | ksX1001
  | jisX0208
  | jisX0212
  | jisRoman
  | jisKana
  | gb2312
  | latin1
  | greek
  /-- The first plane of JIS X 0213, in its 2000 edition or its 2004 one. -/
  | jisX0213First (edition2000 : Bool)
  /-- The second plane of JIS X 0213, as its 2004 edition reads it. -/
  | jisX0213Second
deriving DecidableEq, Inhabited

def Graphic.width : Graphic → Nat
  | .jisRoman | .jisKana | .latin1 | .greek => 1
  | _ => 2

/-- The characters of a unit of a set: its first byte, and its second for a set of two bytes.
Latin-1 and Greek are designated only for `ESC N`, and read nothing in G0 or G1. -/
def Graphic.read (g : Graphic) (a b : Nat) : Option (List Char) :=
  match g with
  | .ksX1001 => (Charset.ksX1001.get? a b).map ([·])
  | .jisX0208 =>
    if a = 0x21 && b = 0x40 then some [Char.ofNat 0xFF3C]
    else (Charset.jisX0208.get? a b).map ([·])
  | .jisX0212 => (Charset.jisX0212.get? a b).map ([·])
  | .jisRoman => if a < 0x80 then some [Charset.jisRoman a] else none
  | .jisKana =>
    let x := a ^^^ 0x80
    if 0xA1 ≤ x && x ≤ 0xDF then some [halfWidthKatakana x] else none
  | .gb2312 => (Charset.gb2312.get? a b).map ([·])
  | .latin1 | .greek => none
  | .jisX0213First edition2000 =>
    if edition2000 && jisX0213Added2004.contains (a, b) then none
    else if a = 0x21 && b = 0x40 then some [Char.ofNat 0xFF3C]
    else Charset.jisX0213First a b
  | .jisX0213Second => (Charset.jisX0213Second false a b).map ([·])

/-- An ISO 2022 encoding. -/
structure Iso2022 where
  /-- Whether shift-out and shift-in switch to G1 and back. -/
  shifts : Bool
  /-- Whether `ESC .` designates G2 and `ESC N` reads one character of it. -/
  singleShift : Bool
  /-- Whether `ESC & @` may stand before a designation. -/
  jisPrefix : Bool
  /-- The sets it accepts, by mark; the first of a mark is the one read. -/
  sets : List (Nat × Graphic)
deriving DecidableEq, Inhabited

def iso2022Kr : Iso2022 := ⟨true, false, false, [(0xC3, .ksX1001)]⟩

def iso2022Jp : Iso2022 :=
  ⟨false, false, true, [(0xC2, .jisX0208), (0x4A, .jisRoman), (0xC0, .jisX0208)]⟩

def iso2022Jp1 : Iso2022 :=
  ⟨false, false, true,
    [(0xC2, .jisX0208), (0xC4, .jisX0212), (0x4A, .jisRoman), (0xC0, .jisX0208)]⟩

def iso2022Jp2 : Iso2022 :=
  ⟨false, true, true,
    [(0xC2, .jisX0208), (0xC4, .jisX0212), (0xC3, .ksX1001), (0xC1, .gb2312), (0x4A, .jisRoman),
     (0xC0, .jisX0208), (0x41, .latin1), (0x46, .greek)]⟩

def iso2022Jp2004 : Iso2022 :=
  ⟨false, false, true,
    [(0xD1, .jisX0213First false), (0xC2, .jisX0208), (0xD0, .jisX0213Second)]⟩

def iso2022Jp3 : Iso2022 :=
  ⟨false, false, true,
    [(0xCF, .jisX0213First true), (0xC2, .jisX0208), (0xD0, .jisX0213Second)]⟩

def iso2022JpExt : Iso2022 :=
  ⟨false, false, true,
    [(0xC2, .jisX0208), (0xC4, .jisX0212), (0x4A, .jisRoman), (0x49, .jisKana),
     (0xC0, .jisX0208)]⟩

def asciiMark : Nat := 0x42

/-- Where a reader of ISO 2022 is: the marks designated to G0, G1 and G2, whether shift-out is
in force, and whether it is passing bytes on after an escape that designated nothing. -/
structure Iso2022State where
  g0 : Nat := asciiMark
  g1 : Nat := asciiMark
  g2 : Nat := asciiMark
  shifted : Bool := false
  passing : Bool := false

def Iso2022State.designate (st : Iso2022State) (slot mark : Nat) : Iso2022State :=
  if slot = 0 then { st with g0 := mark }
  else if slot = 1 then { st with g1 := mark }
  else { st with g2 := mark }

/-- Whether a byte ends an escape sequence: `@` or a capital letter. -/
def endsEscape (b : Nat) : Bool := 0x40 ≤ b && b ≤ 0x5A

/-- The length of the escape sequence at the front of `bs`, looking from place `i` on: `none`
when the bytes end first, zero when sixteen bytes hold no final byte. With `jisPrefix`, an
`& @` is passed over. -/
def escapeLength (jisPrefix : Bool) (bs : List UInt8) : Nat → Nat → Option Nat
  | 0, _ => some 0
  | fuel + 1, i =>
    if i ≥ 16 then some 0
    else if (bs.drop i).isEmpty then none
    else if endsEscape (byteAt bs i) then some (i + 1)
    else if jisPrefix && !(bs.drop (i + 1)).isEmpty && byteAt bs i = 0x26 &&
        byteAt bs (i + 1) = 0x40 then escapeLength jisPrefix bs fuel (i + 3)
    else escapeLength jisPrefix bs fuel (i + 1)

/-- The slot and the mark an escape sequence of a given length designates, if it is a
designation of this encoding's form. -/
def designation (e : Iso2022) (bs : List UInt8) (len : Nat) : Option (Nat × Nat) :=
  let b2 := byteAt bs 1
  let b3 := byteAt bs 2
  if len = 3 then
    if b2 = 0x24 then some (0, b3 + 0x80)
    else if b2 = 0x28 then some (0, b3)
    else if b2 = 0x29 then some (1, b3)
    else if e.singleShift && b2 = 0x2E then some (2, b3)
    else none
  else if len = 4 then
    if b2 != 0x24 then none
    else if b3 = 0x28 then some (0, byteAt bs 3 + 0x80)
    else if b3 = 0x29 then some (1, byteAt bs 3 + 0x80)
    else none
  else if len = 6 && e.jisPrefix && byteAt bs 3 = 0x1B && byteAt bs 4 = 0x24 &&
      byteAt bs 5 = 0x42 then some (0, 0xC2)
  else none

/-- The Greek set of `ESC N`: ISO 8859-7 in its first edition, without the euro, the drachma
and the Greek ypogegrammeni, at the byte `k` (the byte read with its high bit flipped). -/
def greekChar (k : Nat) : Option Char :=
  if k < 0xA0 then some (Char.ofNat k)
  else if k = 0xA4 || k = 0xA5 || k = 0xAA then none
  else match (CodePage.pages.find? (·.1 = "iso8859_7")).bind (·.2.toList[k]?) with
    | some c => if c = '\uFFFE' then none else some c
    | none => none

/-- The character `ESC N` reads from the set designated to G2, or the failure when that set
cannot be read this way. -/
def singleShiftChar (g2 x : Nat) : Except String (Option Char) :=
  if g2 = 0x41 then .ok (if x < 0x80 then some (Char.ofNat (x + 0x80)) else none)
  else if g2 = 0x46 then .ok (greekChar (x ^^^ 0x80))
  else if g2 = asciiMark then .ok (if x < 0x80 then some (Char.ofNat x) else none)
  else .error "RuntimeError"

/-- A result of one step of an ISO 2022 reader: pieces, the state after them, and how many
bytes they took. -/
abbrev Iso2022Result := Except String (List Piece × Iso2022State × Nat)

def iso2022Escape (e : Iso2022) (st : Iso2022State) (bs : List UInt8) : Iso2022Result :=
  let err (n : Nat) : Iso2022Result := .ok ([.bad (bs.take n)], st, n)
  if (bs.drop 1).isEmpty then err bs.length
  else
    let c2 := byteAt bs 1
    if [0x28, 0x29, 0x24, 0x2E, 0x26].contains c2 then
      match escapeLength e.jisPrefix bs 16 1 with
      | none => err bs.length
      | some 0 => err 1
      | some len =>
        match designation e bs len with
        | some (slot, mark) =>
          if mark = asciiMark || e.sets.any (·.1 = mark) then .ok ([], st.designate slot mark, len)
          else err len
        | none => err len
    else if e.singleShift && c2 = 0x4E then
      if (bs.drop 2).isEmpty then err bs.length
      else match singleShiftChar st.g2 (byteAt bs 2) with
        | .ok (some ch) => .ok ([.char ch], st, 3)
        | .ok none => err 3
        | .error failure => .error failure
    else .ok ([.char (Char.ofNat 0x1B)], { st with passing := true }, 1)

def iso2022Step (e : Iso2022) (st : Iso2022State) (bs : List UInt8) : Iso2022Result :=
  let c := byteAt bs 0
  let err (n : Nat) : Iso2022Result := .ok ([.bad (bs.take n)], st, n)
  let keep (st' : Iso2022State) : Iso2022Result := .ok ([.char (Char.ofNat c)], st', 1)
  if st.passing then keep { st with passing := !endsEscape c }
  else if c = 0x1B then iso2022Escape e st bs
  else if c = 0x0F && e.shifts then .ok ([], { st with shifted := false }, 1)
  else if c = 0x0E && e.shifts then .ok ([], { st with shifted := true }, 1)
  else if c = 0x0A then keep { st with shifted := false }
  else if c < 0x20 then keep st
  else if c ≥ 0x80 then err 1
  else
    let mark := if st.shifted then st.g1 else st.g0
    match (e.sets.find? (·.1 = mark)).map (·.2) with
    | none => keep st
    | some g =>
      if (bs.drop (g.width - 1)).isEmpty then err bs.length
      else match g.read c (byteAt bs 1) with
        | some cs => .ok (cs.map .char, st, g.width)
        | none => err g.width

/-- Whether reading stops at pieces under an error handler, and how: strict reading ends with
the first piece that does not decode, reading that keeps bytes raw fails at one that starts with
a byte below 128, and replacing reading goes on. -/
def stopAt (handler : Handler) (ps : List Piece) : Option (Except String (List Piece)) :=
  let bad := ps.filter (· matches .bad _)
  match handler with
  | .strict => if bad.isEmpty then none else some (.ok ps)
  | .keepRaw =>
    if bad.any (fun p => match p with
      | .bad (b :: _) => b < 0x80
      | _ => false) then some (.error "UnicodeDecodeError") else none
  | .replace => none

/-- Bytes read by an ISO 2022 reader under an error handler, at most `fuel` steps. -/
def iso2022Run (e : Iso2022) (handler : Handler) :
    Nat → Iso2022State → List UInt8 → Except String (List Piece)
  | 0, _, _ => .ok []
  | _, _, [] => .ok []
  | fuel + 1, st, bs => do
    let (ps, st', n) ← iso2022Step e st bs
    match stopAt handler ps with
    | some r => r
    | none =>
      let more ← iso2022Run e handler fuel st' (bs.drop (max n 1))
      pure (ps ++ more)

/-- Bytes read in an ISO 2022 encoding under an error handler, or the failure that stops it:
a failure is met only when reading gets that far. -/
def iso2022 (e : Iso2022) (handler : Handler) (bs : List UInt8) : Except String (List Piece) :=
  iso2022Run e handler bs.length {} bs

/-- One step of HZ, in GB 2312 mode or not: pieces, the mode after them, and the bytes used. -/
def hzStep (gb : Bool) (bs : List UInt8) : List Piece × Bool × Nat :=
  let c := byteAt bs 0
  let err : List Piece × Bool × Nat := ([.bad (bs.take 1)], gb, 1)
  if c = 0x7E then
    if (bs.drop 1).isEmpty then err
    else
      let c2 := byteAt bs 1
      if c2 = 0x7E && !gb then ([.char '~'], gb, 2)
      else if c2 = 0x7B && !gb then ([], true, 2)
      else if c2 = 0x0A && !gb then ([], gb, 2)
      else if c2 = 0x7D && gb then ([], false, 2)
      else err
  else if c ≥ 0x80 then err
  else if !gb then ([.char (Char.ofNat c)], gb, 1)
  else if (bs.drop 1).isEmpty then err
  else match gb2312.get? c (byteAt bs 1) with
    | some ch => ([.char ch], gb, 2)
    | none => err

def hzRun : Nat → Bool → List UInt8 → List Piece
  | 0, _, _ => []
  | _, _, [] => []
  | fuel + 1, gb, bs =>
    let (ps, gb', n) := hzStep gb bs
    ps ++ hzRun fuel gb' (bs.drop (max n 1))

def hz (bs : List UInt8) : List Piece := hzRun bs.length false bs

theorem iso2022_empty (e : Iso2022) (handler : Handler) : iso2022 e handler [] = .ok [] := by
  simp [iso2022, iso2022Run]


end MailIngest.Text.Charset
