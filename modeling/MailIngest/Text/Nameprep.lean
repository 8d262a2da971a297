import MailIngest.Text.Nameprep.Table
import MailIngest.Text.Hex

/-!
# Nameprep

Before a label of a domain name is compared or written in ASCII, it is prepared by the Unicode 3.2
string preparation profile for domain names. Preparation works on code points, as numbers:

1. the code points that are ignored (`ignored`, such as the soft hyphen and the zero-width
   joiners) are dropped, and every other one is case folded (`folding`);
2. the text is put in compatibility composed form (`compatibilityComposed`): every code point
   decomposed (`decompose`; Hangul syllables by rule, others as Unicode 3.2 decomposes them),
   marks between starters put in order of their combining class (`reorder`), and starters
   composed with the marks that follow (`compose`);
3. the text must hold no prohibited code point (`prohibitedRuns`: spaces other than the ASCII
   space, controls, private use, non-characters, surrogates, and a few more);
4. a text with a right-to-left character must hold no left-to-right one, and must start and end
   with a right-to-left character.

Composition follows the rule of the standard: a mark combines with the starter before it unless
a mark of the same or a higher class stands between them; a Hangul leading consonant followed
by a vowel, and then perhaps a trailing consonant, makes one syllable.

The main statements are `reorder_length` (ordering keeps every code point) and `composeWith_length` (composing never
adds code points).
-/

namespace MailIngest.Text.Nameprep

def hexValue (s : String) : Nat := s.foldl (fun acc c => acc * 16 + (Hex.digitValue? c).getD 0) 0

/-- The record `prev` with its first and last numbers `d` higher. -/
def shiftRecord (d : Nat) : List Nat → List Nat
  | k :: vs => (k + d) :: (vs.dropLast ++ vs.getLast?.toList.map (· + d))
  | [] => []

/-- A record as written after the record `prev`: `+` and `=` are `prev` with its first and
last numbers one and two higher, and a record that starts with a dot leaves out a first number
one higher than that of `prev`. -/
def readRecord (prev : List Nat) (r : String) : List Nat :=
  if r = "+" then shiftRecord 1 prev
  else if r = "=" then shiftRecord 2 prev
  else
    let fields := (r.splitOn ".").map hexValue
    if r.startsWith "." then (prev.headD 0 + 1) :: fields.tail else fields

/-- Records written in turn, each read after the one before. -/
def readRecords : List Nat → List String → List (List Nat)
  | _, [] => []
  | prev, r :: rest => let x := readRecord prev r; x :: readRecords x rest

/-- A written record with `*n` and `/n` spelled out as `n` records `+` or `=`. -/
def spellOut (r : String) : List String :=
  match r.toList with
  | '*' :: n => List.replicate (String.ofList n).toNat! "+"
  | '/' :: n => List.replicate (String.ofList n).toNat! "="
  | _ => [r]

/-- The records of the rows of a table, each the numbers it holds. -/
def records (rows : List String) : List (List Nat) :=
  readRecords [] (rows.flatMap fun row => ((row.splitOn " ").filter (!·.isEmpty)).flatMap spellOut)

/-- The records of a table read as code points with the code points they stand for. -/
def mapping (rows : List String) : List (Nat × List Nat) :=
  (records rows).filterMap fun r => match r with
    | k :: v => some (k, v)
    | [] => none

def runs (rows : List String) : List (Nat × Nat) :=
  (records rows).filterMap fun r => match r with
    | [lo, hi] => some (lo, hi)
    | _ => none

def folding : List (Nat × List Nat) := mapping foldingRows

/-- The compatibility decompositions of code points assigned in Unicode 3.2. -/
def decompositions : List (Nat × List Nat) := mapping decompositionRows

/-- The runs of code points with a nonzero combining class, and the class. -/
def combiningRuns : List (Nat × Nat × Nat) :=
  (records combiningRows).filterMap fun r => match r with
    | [lo, hi, k] => some (lo, hi, k)
    | _ => none

/-- The pairs of code points that compose, with their composite. -/
def compositions : List ((Nat × Nat) × Nat) :=
  (records compositionRows).filterMap fun r => match r with
    | [a, b, x] => some ((a, b), x)
    | _ => none

def composingFirsts : List Nat := (compositions.map fun p => p.1.1).eraseDups

def leftToRight : List (Nat × Nat) := runs leftToRightRows

/-- The runs of right-to-left code points, Hebrew and Arabic letters among them. -/
def rightToLeft : List (Nat × Nat) :=
  [(0x5BE, 0x5BE), (0x5C0, 0x5C0), (0x5C3, 0x5C3), (0x5D0, 0x5EA), (0x5F0, 0x5F4),
   (0x61B, 0x61B), (0x61F, 0x61F), (0x621, 0x63A), (0x640, 0x64A), (0x66D, 0x66F),
   (0x671, 0x6D5), (0x6DD, 0x6DD), (0x6E5, 0x6E6), (0x6FA, 0x6FE), (0x700, 0x70D),
   (0x710, 0x710), (0x712, 0x72C), (0x780, 0x7A5), (0x7B1, 0x7B1), (0x200F, 0x200F),
   (0xFB1D, 0xFB1D), (0xFB1F, 0xFB28), (0xFB2A, 0xFB36), (0xFB38, 0xFB3C), (0xFB3E, 0xFB3E),
   (0xFB40, 0xFB41), (0xFB43, 0xFB44), (0xFB46, 0xFBB1), (0xFBD3, 0xFD3D), (0xFD50, 0xFD8F),
   (0xFD92, 0xFDC7), (0xFDF0, 0xFDFC), (0xFE70, 0xFE74), (0xFE76, 0xFEFC)]

def prohibitedRuns : List (Nat × Nat) :=
  [(0x80, 0xA0), (0x340, 0x341), (0x6DD, 0x6DD), (0x70F, 0x70F), (0x1680, 0x1680),
   (0x180E, 0x180E), (0x2000, 0x200F), (0x2028, 0x202F), (0x205F, 0x2063), (0x206A, 0x206F),
   (0x2FF0, 0x2FFB), (0x3000, 0x3000), (0xD800, 0xF8FF), (0xFDD0, 0xFDEF), (0xFEFF, 0xFEFF),
   (0xFFF9, 0xFFFF), (0x1D173, 0x1D17A), (0x1FFFE, 0x1FFFF), (0x2FFFE, 0x2FFFF),
   (0x3FFFE, 0x3FFFF), (0x4FFFE, 0x4FFFF), (0x5FFFE, 0x5FFFF), (0x6FFFE, 0x6FFFF),
   (0x7FFFE, 0x7FFFF), (0x8FFFE, 0x8FFFF), (0x9FFFE, 0x9FFFF), (0xAFFFE, 0xAFFFF),
   (0xBFFFE, 0xBFFFF), (0xCFFFE, 0xCFFFF), (0xDFFFE, 0xDFFFF), (0xE0001, 0xE0001),
   (0xE0020, 0xE007F), (0xEFFFE, 0x10FFFF)]

def ignored : List Nat :=
  [0xAD, 0x34F, 0x1806, 0x180B, 0x180C, 0x180D, 0x200B, 0x200C, 0x200D, 0x2060, 0xFE00, 0xFE01,
   0xFE02, 0xFE03, 0xFE04, 0xFE05, 0xFE06, 0xFE07, 0xFE08, 0xFE09, 0xFE0A, 0xFE0B, 0xFE0C, 0xFE0D,
   0xFE0E, 0xFE0F, 0xFEFF]

def inRuns (rs : List (Nat × Nat)) (c : Nat) : Bool := rs.any fun (lo, hi) => lo ≤ c && c ≤ hi

def combiningClass (c : Nat) : Nat :=
  match combiningRuns.find? (fun (lo, hi, _) => lo ≤ c && c ≤ hi) with
  | some (_, _, k) => k
  | none => 0

def syllableBase : Nat := 0xAC00

def leadBase : Nat := 0x1100

def vowelBase : Nat := 0x1161

/-- The code point before the first Hangul trailing consonant. -/
def trailBase : Nat := 0x11A7

def decompose (c : Nat) : List Nat :=
  if syllableBase ≤ c && c < syllableBase + 11172 then
    let s := c - syllableBase
    [leadBase + s / 588, vowelBase + s % 588 / 28] ++
      (if s % 28 = 0 then [] else [trailBase + s % 28])
  else (decompositions.lookup c).getD [c]

/-- Puts a mark into marks ordered by class, after every one of a class not above its own. -/
def insertMark (m : Nat) (marks : List Nat) : List Nat :=
  let k := combiningClass m
  marks.takeWhile (combiningClass · ≤ k) ++ m :: marks.dropWhile (combiningClass · ≤ k)

/-- Puts the marks between starters in order of class, marks of one class as they came; the
marks seen since the last starter are `marks`, already ordered. -/
def reorderFrom (marks : List Nat) : List Nat → List Nat
  | [] => marks
  | c :: rest =>
    if combiningClass c = 0 then marks ++ c :: reorderFrom [] rest
    else reorderFrom (insertMark c marks) rest

/-- Canonical order: the marks between starters ordered by class. -/
def reorder (cs : List Nat) : List Nat := reorderFrom [] cs

def composite? (a b : Nat) : Option Nat := compositions.lookup (a, b)

/-- Composes a starter with the code points after it: `blocker` is the class of the last mark
passed over without composing, 0 while there is none. The result is the composite and the code
points not consumed, in order. -/
def composeWith (first blocker : Nat) : List Nat → Nat × List Nat
  | [] => (first, [])
  | c :: rest =>
    let k := combiningClass c
    if blocker ≠ 0 && k = 0 then (first, c :: rest)
    else if blocker ≠ 0 && k ≤ blocker then
      let (f, left) := composeWith first blocker rest
      (f, c :: left)
    else match composite? first c with
      | some x => if composingFirsts.contains x then composeWith x blocker rest else (x, rest)
      | none =>
        if k = 0 then (first, c :: rest)
        else
          let (f, left) := composeWith first k rest
          (f, c :: left)

/-- What `composeWith` leaves is no longer than what it was given. -/
theorem composeWith_length (first blocker : Nat) (cs : List Nat) :
    (composeWith first blocker cs).2.length ≤ cs.length := by
  induction cs generalizing first blocker with
  | nil => simp [composeWith]
  | cons c rest ih =>
    simp only [composeWith]
    split
    · simp
    · split
      · simpa using ih first blocker
      · split
        · split
          · exact Nat.le_succ_of_le (ih _ _)
          · simp
        · split
          · simp
          · simpa using ih first _

def composeFuel : Nat → List Nat → List Nat
  | 0, cs => cs
  | _, [] => []
  | fuel + 1, c :: rest =>
    match rest with
    | v :: more =>
      if leadBase ≤ c && c < leadBase + 19 && vowelBase ≤ v && v < vowelBase + 21 then
        let syllable := syllableBase + ((c - leadBase) * 21 + (v - vowelBase)) * 28
        match more with
        | t :: after =>
          if trailBase < t && t < trailBase + 28 then
            (syllable + (t - trailBase)) :: composeFuel fuel after
          else syllable :: composeFuel fuel more
        | [] => [syllable]
      else if composingFirsts.contains c then
        let (x, left) := composeWith c 0 rest
        x :: composeFuel fuel left
      else c :: composeFuel fuel rest
    | [] => [c]

def compose (cs : List Nat) : List Nat := composeFuel cs.length cs

def compatibilityComposed (cs : List Nat) : List Nat := compose (reorder (cs.flatMap decompose))

/-- A label prepared for comparison, or none when it holds a prohibited code point or mixes
directions. -/
def nameprep (cs : List Nat) : Option (List Nat) :=
  let mapped := cs.flatMap fun c => if ignored.contains c then [] else (folding.lookup c).getD [c]
  let n := compatibilityComposed mapped
  if n.any (inRuns prohibitedRuns) then none
  else if n.any (inRuns rightToLeft) then
    if n.any (inRuns leftToRight) then none
    else if (n.head?.map (inRuns rightToLeft)) = some true &&
        (n.getLast?.map (inRuns rightToLeft)) = some true then some n
    else none
  else some n

example : decompose 0xAC00 = [0x1100, 0x1161] := by
  simp [decompose, syllableBase, leadBase, vowelBase]

theorem insertMark_length (m : Nat) (marks : List Nat) :
    (insertMark m marks).length = marks.length + 1 := by
  have h := List.takeWhile_append_dropWhile (p := fun x => decide (combiningClass x ≤ combiningClass m))
    (l := marks)
  simp only [insertMark, List.length_append, List.length_cons]
  rw [← h, List.length_append]
  simp only [List.takeWhile_append_dropWhile]
  omega

/-- Ordering after marks already seen keeps them and every code point. -/
theorem reorderFrom_length (marks cs : List Nat) :
    (reorderFrom marks cs).length = marks.length + cs.length := by
  induction cs generalizing marks with
  | nil => simp [reorderFrom]
  | cons c rest ih =>
    simp only [reorderFrom]
    split
    · simp [ih]
    · rw [ih, insertMark_length]
      simp only [List.length_cons]
      omega

theorem reorder_length (cs : List Nat) : (reorder cs).length = cs.length := by
  simp [reorder, reorderFrom_length]

end MailIngest.Text.Nameprep
