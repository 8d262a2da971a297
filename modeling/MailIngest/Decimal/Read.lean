/-!
# Reading decimal numbers

`floatOfDecimal m e` is the double nearest to `m · 10^e`; values far beyond the range of
doubles go straight to infinity or zero. `readFloat?` reads a number written with an optional
sign, digits with an optional point and fraction (one side of the point may be empty, not
both) and an optional exponent, or the words `inf`, `infinity` and `nan` in any case.
`readInt?` reads an optional sign and decimal digits; `readGroupedInt?` also allows single
underscores between digits.

- `digitsValue_append` : the value of two digit strings side by side.
-/

namespace MailIngest.Decimal

def spanDigits (cs : List Char) : List Char × List Char :=
  (cs.takeWhile Char.isDigit, cs.dropWhile Char.isDigit)

def digitsValue (ds : List Char) : Nat :=
  ds.foldl (fun n d => n * 10 + (d.toNat - '0'.toNat)) 0

def digitCount (m : Nat) : Nat := (toString m).length

def floatOfDecimal (m : Nat) (e : Int) : Float :=
  let size := e + digitCount m
  if m = 0 then 0.0
  else if size > 330 then (1.0 / 0.0)
  else if size < -330 then 0.0
  else if e ≥ 0 then Float.ofScientific m false e.toNat
  else Float.ofScientific m true e.natAbs

def splitSign : List Char → Bool × List Char
  | '-' :: rest => (true, rest)
  | '+' :: rest => (false, rest)
  | rest => (false, rest)

def asciiLower (cs : List Char) : List Char := cs.map Char.toLower

/-- A decimal number, or a word for infinity or not-a-number. -/
def readFloat? (s : String) : Option Float :=
  let (neg, body) := splitSign s.toList
  let signed (x : Float) : Float := if neg then -x else x
  let word := asciiLower body
  if word = "inf".toList ∨ word = "infinity".toList then some (signed (1.0 / 0.0))
  else if word = "nan".toList then some (0.0 / 0.0)
  else
    let (ip, r1) := spanDigits body
    let (fp, r2) := match r1 with
      | '.' :: rest => spanDigits rest
      | _ => ([], r1)
    if ip.isEmpty ∧ fp.isEmpty then none
    else
      let ex : Option Int := match r2 with
        | [] => some 0
        | c :: rest =>
          if c = 'e' ∨ c = 'E' then
            let (eneg, eds) := splitSign rest
            if !eds.isEmpty ∧ eds.all Char.isDigit then
              some (if eneg then -(digitsValue eds : Int) else digitsValue eds)
            else none
          else none
      ex.map fun e => signed (floatOfDecimal (digitsValue (ip ++ fp)) (e - fp.length))

def readInt? (s : String) : Option Int :=
  let (neg, body) := splitSign s.toList
  if !body.isEmpty ∧ body.all Char.isDigit then
    some (if neg then -(digitsValue body : Int) else digitsValue body)
  else none

/-- Digits with single underscores between them, the underscores dropped. -/
def groupedDigits : List Char → Option (List Char)
  | [] => none
  | [d] => if d.isDigit then some [d] else none
  | d :: '_' :: rest => if d.isDigit then (groupedDigits rest).map (d :: ·) else none
  | d :: rest => if d.isDigit then (groupedDigits rest).map (d :: ·) else none

/-- An integer as a program text writes it: an optional sign and decimal digits, which may be
grouped by single underscores. -/
def readGroupedInt? (s : String) : Option Int :=
  let (neg, body) := splitSign s.toList
  (groupedDigits body).map fun ds => if neg then -(digitsValue ds : Int) else digitsValue ds

def underscoresBetweenDigits : List Char → Bool
  | [] => true
  | [c] => c ≠ '_'
  | a :: '_' :: b :: rest => a.isDigit && b.isDigit && underscoresBetweenDigits (b :: rest)
  | a :: rest => a ≠ '_' && underscoresBetweenDigits rest

/-- A float as a program text writes it: `readFloat?` with single underscores allowed between
digits. -/
def readGroupedFloat? (s : String) : Option Float :=
  if underscoresBetweenDigits s.toList then readFloat? (String.ofList (s.toList.filter (· ≠ '_')))
  else none

theorem digitsValue_append (a b : List Char) :
    digitsValue (a ++ b) = b.foldl (fun n d => n * 10 + (d.toNat - '0'.toNat)) (digitsValue a) := by
  simp [digitsValue, List.foldl_append]

end MailIngest.Decimal
