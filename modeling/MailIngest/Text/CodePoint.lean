import MailIngest.Text.Blank

/-!
# Text with lone surrogates

Some codecs read ill-formed input as code points that are no characters: a surrogate code unit
that stands alone, as UTF-7 reads an unpaired high surrogate and the escape encoding reads
`\udcff`. Text decoded by them is a list of `CodePoint`s; a `String` cannot hold such a unit,
so it is kept apart until the text is written out, where JSON spells it as its own escape.

A lone unit is no blank, so trimming treats it as any other letter (`trim`, `trimBack`), and a
text without lone units trims as the `String` it spells (`trim_ofString`).
-/

namespace MailIngest.Text

/-- A code point of decoded text: a character, or a surrogate code unit standing alone. -/
inductive CodePoint where
  | char (c : Char)
  | lone (unit : Nat)
deriving DecidableEq, Inhabited

namespace CodePoint

def ofString (s : String) : List CodePoint := s.toList.map char

def char? : CodePoint → Option Char
  | char c => some c
  | lone _ => none

/-- The text the code points spell, if every one is a character. -/
def toString? (ps : List CodePoint) : Option String := String.ofList <$> ps.mapM char?

/-- The text the code points spell, each lone unit as the replacement character. -/
def replaced (ps : List CodePoint) : String :=
  String.ofList (ps.map fun p => (char? p).getD '�')

/-- Whether a code point is a blank character; a lone unit is none. -/
def isBlankPoint : CodePoint → Bool
  | char c => isBlank c
  | lone _ => false

def trim (ps : List CodePoint) : List CodePoint :=
  ((ps.dropWhile isBlankPoint).reverse.dropWhile isBlankPoint).reverse

def trimBack (ps : List CodePoint) : List CodePoint :=
  (ps.reverse.dropWhile isBlankPoint).reverse

/-- Whether a lone unit stands for a byte that could not be read, as `surrogateescape` writes
one: the units U+DC80 to U+DCFF. -/
def escapedByte? (unit : Nat) : Option UInt8 :=
  if 0xDC80 ≤ unit && unit ≤ 0xDCFF then some (unit - 0xDC00).toUInt8 else none

theorem toString?_ofString (s : String) : toString? (ofString s) = some s := by
  have h : ∀ cs : List Char, (cs.map char).mapM char? = some cs := by
    intro cs
    induction cs with
    | nil => rfl
    | cons c cs ih => simp [List.mapM_cons, ih, char?]
  simp [toString?, ofString, h]

/-- Dropping blanks commutes with reading a text as code points. -/
theorem dropWhile_ofList (cs : List Char) :
    (cs.map char).dropWhile isBlankPoint = (cs.dropWhile isBlank).map char := by
  induction cs with
  | nil => rfl
  | cons c cs ih =>
    by_cases h : isBlank c
    · simp [isBlankPoint, h, ih]
    · simp [isBlankPoint, h]

/-- A text without lone units trims as the `String` it spells. -/
theorem trim_ofString (s : String) : trim (ofString s) = ofString (Text.trim s) := by
  simp [trim, ofString, Text.trim, dropBack, dropFront, dropWhile_ofList, ← List.map_reverse]

end CodePoint

end MailIngest.Text
