/-!
# Base64

Bytes are written three at a time as four characters of a 64-letter alphabet, the last group
padded with `=`. The standard alphabet ends in `+` and `/`, the URL-safe one in `-` and `_`.

Reading is `decode strict`. Both modes stop at the padding that completes a group. The lax mode
skips characters outside the alphabet and padding that completes nothing; the strict mode
refuses them, as well as leading padding, data after the padding, and padding with data after
it. Both refuse a last group of one or of two or three characters without padding.

- `encode_length` : four characters for every started group of three bytes.
-/

namespace MailIngest.Text.Base64

/-- A 64-letter alphabet: the two characters after the letters and digits. -/
structure Alphabet where
  c62 : Char
  c63 : Char

def Alphabet.standard : Alphabet := ⟨'+', '/'⟩

def Alphabet.urlSafe : Alphabet := ⟨'-', '_'⟩

def Alphabet.char (a : Alphabet) (v : Nat) : Char :=
  if v < 26 then Char.ofNat (65 + v)
  else if v < 52 then Char.ofNat (97 + v - 26)
  else if v < 62 then Char.ofNat (48 + v - 52)
  else if v = 62 then a.c62 else a.c63

/-- The six-bit value of a character of the standard alphabet. -/
def sextet (c : Char) : Option Nat :=
  let n := c.toNat
  if 65 ≤ n ∧ n ≤ 90 then some (n - 65)
  else if 97 ≤ n ∧ n ≤ 122 then some (n - 97 + 26)
  else if 48 ≤ n ∧ n ≤ 57 then some (n - 48 + 52)
  else if c = '+' then some 62
  else if c = '/' then some 63
  else none

def encodeChars (a : Alphabet) : List UInt8 → List Char
  | [] => []
  | [x] =>
    let n := x.toNat
    [a.char (n / 4), a.char (n % 4 * 16), '=', '=']
  | [x, y] =>
    let n := x.toNat * 256 + y.toNat
    [a.char (n / 1024), a.char (n / 16 % 64), a.char (n % 16 * 4), '=']
  | x :: y :: z :: rest =>
    let n := x.toNat * 65536 + y.toNat * 256 + z.toNat
    a.char (n / 262144) :: a.char (n / 4096 % 64) :: a.char (n / 64 % 64) :: a.char (n % 64) ::
      encodeChars a rest

def encode (a : Alphabet) (bs : List UInt8) : String := String.ofList (encodeChars a bs)

def encodeUnpadded (a : Alphabet) (bs : List UInt8) : String :=
  String.ofList ((encodeChars a bs).filter (· ≠ '='))

/-- Where reading stands: the position in the group, the bits carried over, the count of
padding characters seen, whether padding has started, and the bytes so far (last first). -/
structure Reader where
  quad : Nat := 0
  carry : Nat := 0
  pads : Nat := 0
  padded : Bool := false
  out : List UInt8 := []

def Reader.take (r : Reader) (v : Nat) : Reader :=
  match r.quad with
  | 0 => { r with quad := 1, carry := v, pads := 0 }
  | 1 =>
    { r with quad := 2, carry := v % 16, pads := 0, out := (r.carry * 4 + v / 16).toUInt8 :: r.out }
  | 2 =>
    { r with quad := 3, carry := v % 4, pads := 0,
             out := (r.carry % 16 * 16 + v / 4).toUInt8 :: r.out }
  | _ =>
    { r with quad := 0, carry := 0, pads := 0, out := (r.carry % 4 * 64 + v).toUInt8 :: r.out }

def run (strict : Bool) : Reader → List Char → Option (List UInt8)
  | r, [] => if r.quad = 0 then some r.out.reverse else none
  | r, c :: rest =>
    if c = '=' then
      if r.quad ≥ 2 ∧ r.quad + r.pads + 1 ≥ 4 then
        if strict ∧ !rest.isEmpty then none else some r.out.reverse
      else
        run strict { r with pads := if r.quad ≥ 2 then r.pads + 1 else r.pads, padded := true }
          rest
    else match sextet c with
      | none => if strict then none else run strict r rest
      | some v => if strict ∧ r.padded then none else run strict (r.take v) rest

def decode (strict : Bool) (cs : List Char) : Option (List UInt8) :=
  if strict ∧ cs.head? = some '=' then none else run strict {} cs

/-- The URL-safe alphabet turned into the standard one, the other characters kept. -/
def fromUrlSafe (cs : List Char) : List Char :=
  cs.map fun c => if c = '-' then '+' else if c = '_' then '/' else c

/-- Four characters for every started group of three bytes. -/
theorem encode_length (a : Alphabet) (bs : List UInt8) :
    (encodeChars a bs).length = 4 * ((bs.length + 2) / 3) := by
  fun_induction encodeChars a bs with
  | case1 => rfl
  | case2 => simp
  | case3 => simp
  | case4 x y z rest _ ih =>
    simp only [List.length_cons, ih]
    omega

end MailIngest.Text.Base64
