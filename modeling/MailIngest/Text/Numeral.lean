import MailIngest.Text.Digit
import MailIngest.Text.Blank

/-!
# Integer numerals in text

An integer written in text, as programs read it from a string: blanks around it, an optional
sign, and decimal digits, single underscores allowed between digits. The digits may come from
any script, each counting by its place in its run of ten, and one numeral may mix scripts. A
numeral of more than 4300 digits is refused, as is any other character.
-/

namespace MailIngest.Text

/-- Digits with single underscores between them: their value and how many digits there
are; the value so far is `acc`, and `after` says whether an underscore came last. -/
def groupedNumeral (acc count : Nat) (after : Bool) : List Char → Option (Nat × Nat)
  | [] => if after then none else some (acc, count)
  | c :: rest =>
    if c = '_' then (if after then none else groupedNumeral acc count true rest)
    else match decimalValue? c with
      | some d => groupedNumeral (acc * 10 + d) (count + 1) false rest
      | none => none

/-- The value of a numeral's digits: at least one digit, no underscore at either end. -/
def numeralValue (cs : List Char) : Option Nat :=
  match cs with
  | c :: _ =>
    if c = '_' then none
    else match groupedNumeral 0 0 false cs with
      | some (n, count) => if count > 4300 then none else some n
      | none => none
  | [] => none

/-- An integer numeral read from text; none when the text is no numeral. -/
def readNumeral? (s : String) : Option Int :=
  match dropBack isBlank (dropFront isBlank s.toList) with
  | '+' :: ds => Int.ofNat <$> numeralValue ds
  | '-' :: ds => (fun n => -Int.ofNat n) <$> numeralValue ds
  | ds => Int.ofNat <$> numeralValue ds

example : readNumeral? "2024" = some 2024 ∧ readNumeral? " 1_0 " = some 10 := by
  decide


end MailIngest.Text
