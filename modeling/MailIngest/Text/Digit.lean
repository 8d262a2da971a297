/-!
# Decimal digits of all scripts

A decimal digit is a character of the Unicode 14.0 general category Nd: the ASCII digits and the
digits of the other scripts, which come in runs of ten from zero to nine (the mathematical
digits in one run of five such sets). Text patterns that speak of a digit mean this set, and
a numeral may be written in the digits of any one or more scripts (`decimalValue?`). A wider
class of digits (`isDigitChar`) adds superscripts, circled digits and the like, which have a
digit's value but do not make numerals.

The main statement is `isDecimalDigit_ascii` (the ASCII digits are decimal digits).
-/

namespace MailIngest.Text

/-- The runs of decimal digits: the first character of each and its length. -/
def decimalDigitRuns : List (Nat × Nat) :=
  [(0x30, 10), (0x660, 10), (0x6F0, 10), (0x7C0, 10), (0x966, 10), (0x9E6, 10), (0xA66, 10),
   (0xAE6, 10), (0xB66, 10), (0xBE6, 10), (0xC66, 10), (0xCE6, 10), (0xD66, 10), (0xDE6, 10),
   (0xE50, 10), (0xED0, 10), (0xF20, 10), (0x1040, 10), (0x1090, 10), (0x17E0, 10), (0x1810,
   10), (0x1946, 10), (0x19D0, 10), (0x1A80, 10), (0x1A90, 10), (0x1B50, 10), (0x1BB0, 10),
   (0x1C40, 10), (0x1C50, 10), (0xA620, 10), (0xA8D0, 10), (0xA900, 10), (0xA9D0, 10), (0xA9F0,
   10), (0xAA50, 10), (0xABF0, 10), (0xFF10, 10), (0x104A0, 10), (0x10D30, 10), (0x11066, 10),
   (0x110F0, 10), (0x11136, 10), (0x111D0, 10), (0x112F0, 10), (0x11450, 10), (0x114D0, 10),
   (0x11650, 10), (0x116C0, 10), (0x11730, 10), (0x118E0, 10), (0x11950, 10), (0x11C50, 10),
   (0x11D50, 10), (0x11DA0, 10), (0x16A60, 10), (0x16AC0, 10), (0x16B50, 10), (0x1D7CE, 50),
   (0x1E140, 10), (0x1E2F0, 10), (0x1E950, 10), (0x1FBF0, 10)]

def isDecimalDigit (c : Char) : Bool :=
  decimalDigitRuns.any fun (first, count) => first ≤ c.toNat && c.toNat < first + count

/-- The value of a decimal digit: its place in its run of ten. -/
def decimalValue? (c : Char) : Option Nat :=
  (decimalDigitRuns.find? fun (first, count) => first ≤ c.toNat && c.toNat < first + count).map
    fun (first, _) => (c.toNat - first) % 10

/-- The runs of characters that are digits without being decimal digits: superscripts and
subscripts, circled, parenthesized and dotted digits, and the digits of scripts that write
them outside a run of ten. -/
def otherDigitRuns : List (Nat × Nat) :=
  [(0xB2, 2), (0xB9, 1), (0x1369, 9), (0x19DA, 1), (0x2070, 1), (0x2074, 6), (0x2080, 10),
   (0x2460, 9), (0x2474, 9), (0x2488, 9), (0x24EA, 1), (0x24F5, 9), (0x24FF, 1), (0x2776, 9),
   (0x2780, 9), (0x278A, 9), (0x10A40, 4), (0x10E60, 9), (0x11052, 9), (0x1F100, 11)]

/-- Whether a character is a digit: a decimal digit or one of the other digits. -/
def isDigitChar (c : Char) : Bool :=
  isDecimalDigit c ||
    otherDigitRuns.any fun (first, count) => first ≤ c.toNat && c.toNat < first + count

theorem isDecimalDigit_ascii (c : Char) (h : c.isDigit = true) : isDecimalDigit c = true := by
  have hr : 48 ≤ c.toNat ∧ c.toNat < 58 := by
    simp only [Char.isDigit, Bool.and_eq_true, decide_eq_true_eq] at h
    obtain ⟨h1, h2⟩ := h
    have a : (48 : UInt32) ≤ c.val := h1
    have b : c.val ≤ (57 : UInt32) := h2
    simp only [Char.toNat]
    constructor
    · exact UInt32.le_iff_toNat_le.mp a
    · exact Nat.lt_succ_of_le (UInt32.le_iff_toNat_le.mp b)
  simp only [isDecimalDigit, decimalDigitRuns, List.any_cons, Bool.or_eq_true, Bool.and_eq_true,
    decide_eq_true_eq]
  exact Or.inl ⟨hr.1, hr.2⟩

end MailIngest.Text
