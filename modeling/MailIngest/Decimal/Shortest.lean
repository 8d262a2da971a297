/-!
# Shortest decimal text of a binary float

A finite double `x` is the exact rational `mant * 2^exp`. The reals that round to it form an
interval around it (its ends belong to it iff `mant` is even). The shortest decimal of `x` is
found grid by grid: for `k = 1, 2, …, 17` significant digits, the two neighbours of `x` on the
grid `10^q` (`q` fixed by `k` and the decimal magnitude of `x`) are tested in exact `Nat`
arithmetic; the first grid with a neighbour inside the interval wins, the nearer of two, an exact
tie going to the even digit string.

`FloatStyle` then lays the digits out: positional between `10^-5` and `10^16`, otherwise one
digit, a point, the rest, and an exponent of at least two digits with its sign; an integral
value keeps a trailing `.0`.
-/

namespace MailIngest.Decimal

/-- A finite nonzero double as `mant * 2^exp`; `lowerClose` marks a power of two, whose lower
neighbour is half as far as the upper one. -/
structure Binary where
  mant : Nat
  exp : Int
  lowerClose : Bool

/-- Splits the bits of a finite positive double; `none` for zero, infinities and NaN. -/
def Binary.ofFloat (x : Float) : Option Binary :=
  let bits : Nat := x.toBits.toNat
  let e : Nat := (bits / Nat.pow 2 52) % 2048
  let f : Nat := bits % Nat.pow 2 52
  if e = 2047 then none
  else if e = 0 then
    if f = 0 then none else some ⟨f, -1074, false⟩
  else some ⟨f + Nat.pow 2 52, (e : Int) - 1075, f = 0 && e > 1⟩

def pow2 (n : Int) : Nat := Nat.pow 2 n.toNat

def pow10 (n : Int) : Nat := Nat.pow 10 n.toNat

/-- The value `4·mant·2^(exp-2)` and a decimal `c·10^q` brought to one integer scale:
`(scaled numerator of 4·mant, scaled unit of the grid 10^q)`. -/
def Binary.scale (b : Binary) (q : Int) : Nat × Nat :=
  (pow2 (b.exp - 2) * pow10 (-q), pow10 q * pow2 (2 - b.exp))

def Binary.pow10Le (b : Binary) (k : Int) : Bool :=
  let (s, u) := b.scale k
  u ≤ 4 * b.mant * s

def Binary.raise (b : Binary) : Nat → Int → Int
  | 0, n => n
  | fuel + 1, n => if b.pow10Le (n + 1) then b.raise fuel (n + 1) else n

def Binary.lower (b : Binary) : Nat → Int → Int
  | 0, n => n
  | fuel + 1, n => if b.pow10Le n then n else b.lower fuel (n - 1)

/-- The decimal exponent `n` with `10^n ≤ x < 10^(n+1)`, from an estimate by binary length
corrected by exact comparisons. -/
def Binary.floorLog10 (b : Binary) : Int :=
  let est : Int := Int.fdiv ((((Nat.log2 b.mant : Nat) : Int) + b.exp) * 30103) 100000
  b.raise 8 (b.lower 8 est)

/-- The digits found for `x`: `digits * 10^point`, with no trailing zero in `digits`. -/
structure Digits where
  digits : Nat
  point : Int

def Digits.normalize (d : Nat) (q : Int) : Nat → Digits
  | 0 => ⟨d, q⟩
  | fuel + 1 => if d ≠ 0 ∧ d % 10 = 0 then normalize (d / 10) (q + 1) fuel else ⟨d, q⟩

/-- The candidate on grid `10^q` for `x`, if one of its two neighbours reads back as `x`. -/
def Binary.onGrid (b : Binary) (q : Int) : Option Nat :=
  let (s, u) := b.scale q
  let x := 4 * b.mant * s
  let lo := (4 * b.mant - (if b.lowerClose then 1 else 2)) * s
  let hi := (4 * b.mant + 2) * s
  let inside (c : Nat) : Bool :=
    if b.mant % 2 = 0 then lo ≤ c * u && c * u ≤ hi else lo < c * u && c * u < hi
  let c0 := x / u
  let c1 := c0 + 1
  let rem := x - c0 * u
  match inside c0, inside c1 with
  | true, true =>
    if 2 * rem < u then some c0
    else if 2 * rem > u then some c1
    else if c0 % 2 = 0 then some c0 else some c1
  | true, false => some c0
  | false, true => some c1
  | false, false => none

/-- The shortest digits of `x`: the first of 1 to 17 significant digits that reads back. -/
def Binary.shortest (b : Binary) : Digits :=
  let n := b.floorLog10
  let rec go : Nat → Nat → Digits
    | 0, _ => ⟨b.mant, b.exp⟩
    | fuel + 1, k =>
      let q := n - (k : Int) + 1
      match b.onGrid q with
      | some c => Digits.normalize c q 40
      | none => go fuel (k + 1)
  go 17 1

/-- How a float is laid out as text. -/
structure FloatStyle where
  /-- Text of a NaN. -/
  nan : String
  /-- Text of positive infinity. -/
  inf : String

/-- Floats as the number printer of the data formats here writes them. -/
def FloatStyle.json : FloatStyle := ⟨"NaN", "Infinity"⟩

def FloatStyle.plain : FloatStyle := ⟨"nan", "inf"⟩

/-- Lays digits out: positional when the point falls within `-4 < p ≤ 16`, else scientific. -/
def Digits.render (d : Digits) : String :=
  let s := toString d.digits
  let len : Int := s.length
  let p := len + d.point
  if -4 < p ∧ p ≤ 16 then
    if p ≤ 0 then "0." ++ String.ofList (List.replicate (-p).toNat '0') ++ s
    else if p ≥ len then s ++ String.ofList (List.replicate (p - len).toNat '0') ++ ".0"
    else
      let cs := s.toList
      String.ofList (cs.take p.toNat) ++ "." ++ String.ofList (cs.drop p.toNat)
  else
    let cs := s.toList
    let mant := match cs with
      | [] => "0"
      | [c] => String.singleton c
      | c :: rest => String.singleton c ++ "." ++ String.ofList rest
    let e := p - 1
    let eDigits := toString e.natAbs
    let ePad := if eDigits.length < 2 then "0" ++ eDigits else eDigits
    mant ++ "e" ++ (if e < 0 then "-" else "+") ++ ePad

def render (style : FloatStyle) (x : Float) : String :=
  if x.isNaN then style.nan
  else if x.isInf then (if x < 0 then "-" else "") ++ style.inf
  else
    let neg := x.toBits.toNat ≥ Nat.pow 2 63
    let sign := if neg then "-" else ""
    match Binary.ofFloat (if neg then -x else x) with
    | none => sign ++ "0.0"
    | some b => sign ++ b.shortest.render

end MailIngest.Decimal
