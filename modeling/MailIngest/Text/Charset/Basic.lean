/-!
# Decoded pieces and byte tables

Reading bytes in a character set yields *pieces*: characters, the bytes of each unit the set
does not decode, kept so that a caller can replace them by U+FFFD or carry them on as raw
bytes, and the surrogate code units that a few decoders give alone, which are text but no
character. A decoder that looks at the bytes ahead and says what the front ones are is a *step*;
`runSteps` applies one until the bytes are used up.

A double-byte character set gives characters to pairs of bytes. A `ByteTable` holds, for each
first byte from `firstLow` on, the characters of the second bytes from `secondLow` to
`secondHigh`, row after row, with U+FFFE for a pair that is no character; a row writes a run of
consecutive code points as its first and last character with `-` between. The 94 × 94 sets of
the ISO 2022 family (JIS X 0208, KS X 1001, GB 2312, …) are tables whose two bytes both run
from 0x21 to 0x7E.

The main statements are `runSteps_nil` (no bytes give no pieces) and `ByteTable.get?_below`
(a first byte below the table's range has no character).
-/

namespace MailIngest.Text.Charset

/-- One piece of decoded text: a character, the bytes of a unit that does not decode, or a
surrogate code unit (U+D800 to U+DFFF) that stands alone. -/
inductive Piece where
  | char (c : Char)
  | bad (bytes : List UInt8)
  | lone (unit : Nat)
deriving DecidableEq, Inhabited

/-- How a reader treats bytes that do not decode: reading fails, each unit is replaced by
U+FFFD, or each unit's bytes are kept raw. Most readers give the same pieces under every
handler and leave the treatment to the caller; a few read differently, or refuse a handler. -/
inductive Handler where
  | strict
  | replace
  | keepRaw
deriving DecidableEq, Inhabited

/-- What a decoder makes of the bytes at the front: characters and how many bytes they take,
or an error over some bytes. -/
inductive Step where
  | chars (cs : List Char) (used : Nat)
  /-- A surrogate code unit alone, from `used` bytes. -/
  | lone (unit : Nat) (used : Nat)
  | error (used : Nat)

def Step.one (c : Char) (used : Nat) : Step := .chars [c] used

/-- Whether a number is a surrogate code unit, U+D800 to U+DFFF. -/
def isSurrogate (n : Nat) : Bool := 0xD800 ≤ n && n < 0xE000

/-- The character of a code point, as a step of `used` bytes; a surrogate stands alone. -/
def Step.code (n : Nat) (used : Nat) : Step :=
  if isSurrogate n then .lone n used else .chars [Char.ofNat n] used

/-- A character if there is one, else an error over one byte. -/
def Step.orError (c : Option Char) (used : Nat) : Step :=
  match c with
  | some c => .one c used
  | none => .error 1

/-- Bytes read by a step function, at most `fuel` steps; a step never takes less than one byte,
and an error becomes one undecodable piece. -/
def runStepsFuel (step : List UInt8 → Step) : Nat → List UInt8 → List Piece
  | 0, _ => []
  | _, [] => []
  | fuel + 1, bs =>
    match step bs with
    | .chars cs n => cs.map Piece.char ++ runStepsFuel step fuel (bs.drop (max n 1))
    | .lone u n => .lone u :: runStepsFuel step fuel (bs.drop (max n 1))
    | .error n => .bad (bs.take (max n 1)) :: runStepsFuel step fuel (bs.drop (max n 1))

def runSteps (step : List UInt8 → Step) (bs : List UInt8) : List Piece :=
  runStepsFuel step bs.length bs

/-- Bytes read by a step function keeping undecodable bytes raw, at most `fuel` steps: of an
error, only its leading bytes of 128 or more are kept, at most four, and reading goes on after
them; an error that starts with a byte below 128 cannot be kept, and reading fails. -/
def runStepsRawFuel (step : List UInt8 → Step) : Nat → List UInt8 → Except String (List Piece)
  | 0, _ => .ok []
  | _, [] => .ok []
  | fuel + 1, bs =>
    match step bs with
    | .chars cs n => (cs.map Piece.char ++ ·) <$> runStepsRawFuel step fuel (bs.drop (max n 1))
    | .lone u n => (.lone u :: ·) <$> runStepsRawFuel step fuel (bs.drop (max n 1))
    | .error n =>
      let kept := (bs.take (min (max n 1) 4)).takeWhile (· ≥ 0x80)
      if kept.isEmpty then .error "UnicodeDecodeError"
      else (kept.map (Piece.bad [·]) ++ ·) <$> runStepsRawFuel step fuel (bs.drop kept.length)

/-- Bytes read by a step function keeping undecodable bytes raw. -/
def runStepsRaw (step : List UInt8 → Step) (bs : List UInt8) : Except String (List Piece) :=
  runStepsRawFuel step bs.length bs

/-- An error over all the bytes left when fewer than `n` remain, else the step `k`. -/
def needing (n : Nat) (bs : List UInt8) (k : Unit → Step) : Step :=
  if (bs.drop (n - 1)).isEmpty then .error bs.length else k ()

def byteAt (bs : List UInt8) (i : Nat) : Nat := (bs.getD i 0).toNat

/-- A table of a double-byte character set. -/
structure ByteTable where
  firstLow : Nat
  secondLow : Nat
  secondHigh : Nat
  cells : Array Char

def ByteTable.width (t : ByteTable) : Nat := t.secondHigh + 1 - t.secondLow

/-- The characters a row of a table stands for: a character, `-` and a later character stand
for the run of code points from the first to the second, so that a row need not spell out the
long runs in code point order that many sets have; `*` and two decimal digits stand for that
many empty cells. -/
def expandRuns : List Char → List Char
  | a :: '-' :: b :: rest =>
    (List.range (b.toNat + 1 - a.toNat)).map (fun i => Char.ofNat (a.toNat + i)) ++ expandRuns rest
  | '*' :: d :: e :: rest =>
    List.replicate ((d.toNat - '0'.toNat) * 10 + (e.toNat - '0'.toNat)) '\uFFFE' ++ expandRuns rest
  | c :: rest => c :: expandRuns rest
  | [] => []

/-- A table from its rows, the first for the first byte `firstLow`, each written with runs
(`expandRuns`) and filled up to the width with empty cells: a row need not write the empty cells
it ends with, and an empty row has no characters. -/
def ByteTable.ofRows (firstLow secondLow secondHigh : Nat) (rows : List String) : ByteTable :=
  let width := secondHigh + 1 - secondLow
  { firstLow, secondLow, secondHigh,
    cells := (rows.flatMap fun r =>
      let cs := expandRuns r.toList
      cs ++ List.replicate (width - cs.length) '\uFFFE').toArray }

def ByteTable.ofPlane (rows : List String) : ByteTable := .ofRows 0x21 0x21 0x7E rows

/-- The character of a pair of bytes, if the table gives one. -/
def ByteTable.get? (t : ByteTable) (first second : Nat) : Option Char :=
  if first < t.firstLow || second < t.secondLow || second > t.secondHigh then none
  else match t.cells[(first - t.firstLow) * t.width + (second - t.secondLow)]? with
    | some c => if c = '\uFFFE' then none else some c
    | none => none

def lookupCode (entries : List (Nat × String)) (code : Nat) : Option (List Char) :=
  (entries.find? (·.1 = code)).map (·.2.toList)

theorem runSteps_nil (step : List UInt8 → Step) : runSteps step [] = [] := rfl

/-- A first byte below the table's range has no character. -/
theorem ByteTable.get?_below (t : ByteTable) (first second : Nat) (h : first < t.firstLow) :
    t.get? first second = none := by
  simp [ByteTable.get?, h]

end MailIngest.Text.Charset
