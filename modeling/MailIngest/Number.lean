import MailIngest.Json.Value
import MailIngest.Error.Fault
import MailIngest.Decimal.Shortest

/-!
# Numbers of settings and delays

A `Number` is an exact integer or a binary float, as configuration values arrive. Arithmetic
keeps integers exact while both operands are integers and turns to floats as soon as one
operand is a float; an integer power with a negative exponent is a float power. Converting an
integer too large for a float, a float power out of range, and zero to a negative power are
failures.

- `add_int` : integers add exactly;
- `pow_int` : a non-negative integer power of an integer is exact.
-/

namespace MailIngest

/-- An integer or a float. -/
inductive Number where
  | int (n : Int)
  | real (x : Float)
deriving Inhabited

namespace Number

/-- The integer part of a finite float, toward zero, and whether nothing was cut off; `none`
for infinities and NaN. -/
def wholePart? (x : Float) : Option (Int × Bool) :=
  if x.isNaN || x.isInf then none
  else match Decimal.Binary.ofFloat x with
    | none => some (0, true)
    | some b =>
      let (q, exact) : Nat × Bool :=
        if 0 ≤ b.exp then (b.mant * Nat.pow 2 b.exp.toNat, true)
        else (b.mant / Nat.pow 2 b.exp.natAbs, b.mant % Nat.pow 2 b.exp.natAbs == 0)
      some (if x < 0.0 then -(q : Int) else q, exact)

/-- The float nearest to an integer; a failure when it is beyond the float range. -/
def intToFloat (n : Int) : Outcome Float :=
  let x := Float.ofScientific n.natAbs false 0
  if x.isInf then .error (Fault.runtime "OverflowError" none)
  else .ok (if n < 0 then -x else x)

def toFloat : Number → Outcome Float
  | int n => intToFloat n
  | real x => .ok x

/-- A number from a JSON value; a truth value counts as the integer 0 or 1. -/
def ofJson? : Json → Option Number
  | .int n => some (int n)
  | .float x => some (real x)
  | .bool b => some (int (if b then 1 else 0))
  | _ => none

def toJson : Number → Json
  | int n => .int n
  | real x => .float x

/-- Combines two numbers: exactly for two integers, as floats otherwise. -/
def combine (fi : Int → Int → Int) (ff : Float → Float → Float) (a b : Number) :
    Outcome Number :=
  match a, b with
  | int m, int n => .ok (int (fi m n))
  | _, _ => do
    let x ← a.toFloat
    let y ← b.toFloat
    pure (real (ff x y))

def add (a b : Number) : Outcome Number := combine (· + ·) (· + ·) a b

def sub (a b : Number) : Outcome Number := combine (· - ·) (· - ·) a b

def mul (a b : Number) : Outcome Number := combine (· * ·) (· * ·) a b

/-- A float raised to a float power: zero to a negative power and a finite power out of the
float range are failures. -/
def floatPow (x y : Float) : Outcome Float :=
  if y == 0.0 then .ok 1.0
  else if x == 0.0 && y < 0.0 && !y.isInf then .error (Fault.runtime "ZeroDivisionError" none)
  else
    let r := Float.pow x y
    if r.isInf && !x.isInf && !y.isInf then .error (Fault.runtime "OverflowError" none)
    else .ok r

/-- A number raised to a power: exact for a non-negative integer power of an integer, a float
power otherwise. -/
def pow (a b : Number) : Outcome Number :=
  match a, b with
  | int m, int n => if 0 ≤ n then .ok (int (Int.pow m n.toNat)) else do
      let x ← intToFloat m
      let y ← intToFloat n
      return real (← floatPow x y)
  | _, _ => do
    let x ← a.toFloat
    let y ← b.toFloat
    return real (← floatPow x y)

theorem add_int (m n : Int) : add (int m) (int n) = .ok (int (m + n)) := rfl

/-- A non-negative integer power of an integer is exact. -/
theorem pow_int (m : Int) (n : Nat) : pow (int m) (int n) = .ok (int (Int.pow m n)) := by
  simp [pow]

end Number

end MailIngest
