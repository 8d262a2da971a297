import MailIngest.Text.Charset.Basic

/-!
# UTF-7

UTF-7 writes ASCII characters as themselves and everything else as UTF-16 units in a modified
Base64, each run opened by `+` and closed by any byte that is no Base64 digit; a closing `-` is
dropped, and `+-` is a plus sign. Leftover bits at the close must be fewer than six and zero.

Errors are the bytes from the `+` that opened the run through the byte that closed it, or to
the end of the bytes when the run is left open with bits or a high surrogate pending; the
characters of the run before the error stay. A byte of 128 or more outside a run is an error
by itself, and so is `+` followed by a byte that is neither `-` nor a Base64 digit (together
with that byte). A surrogate that pairs with nothing is given alone; a high surrogate still
waiting when its run is closed by a byte of 128 or more is dropped.

The main statement is `utf7_plain` (an ASCII byte other than `+` is its own character).
-/

namespace MailIngest.Text.Charset

def base64Digit (b : Nat) : Option Nat :=
  if 0x41 ≤ b && b ≤ 0x5A then some (b - 0x41)
  else if 0x61 ≤ b && b ≤ 0x7A then some (b - 0x61 + 26)
  else if 0x30 ≤ b && b ≤ 0x39 then some (b - 0x30 + 52)
  else if b = 0x2B then some 62
  else if b = 0x2F then some 63
  else none

/-- The piece of a UTF-16 unit that stands alone: its character, or the surrogate alone. -/
def loneUnit (u : Nat) : Piece :=
  if isSurrogate u then .lone u else .char (Char.ofNat u)

/-- A run of Base64 being read: the bytes from its `+` (latest first), the bits not yet used
and how many, and a high surrogate waiting for its partner. -/
structure Utf7Run where
  opened : List UInt8
  bits : Nat
  count : Nat
  high : Option Nat

/-- The pieces a new UTF-16 unit gives after a waiting high surrogate, and the surrogate left
waiting. -/
def utf7Unit (high : Option Nat) (u : Nat) : List Piece × Option Nat :=
  let fresh : List Piece × Option Nat :=
    if 0xD800 ≤ u && u < 0xDC00 then ([], some u) else ([loneUnit u], none)
  match high with
  | some h =>
    if 0xDC00 ≤ u && u < 0xE000 then
      ([.char (Char.ofNat (0x10000 + (h - 0xD800) * 0x400 + (u - 0xDC00)))], none)
    else (.lone h :: fresh.1, fresh.2)
  | none => fresh

/-- Whether a run left now would be an error: bits of a digit left over, or nonzero padding. -/
def Utf7Run.badEnd (r : Utf7Run) : Bool := r.count ≥ 6 || (r.count > 0 && r.bits != 0)

mutual

def utf7Plain : Nat → List UInt8 → List Piece
  | 0, _ => []
  | _, [] => []
  | fuel + 1, b :: rest =>
    if b = 0x2B then
      match rest with
      | 0x2D :: more => .char '+' :: utf7Plain fuel more
      | c :: more =>
        if (base64Digit c.toNat).isSome then utf7Shifted fuel ⟨[b], 0, 0, none⟩ rest
        else .bad [b, c] :: utf7Plain fuel more
      | [] => []
    else if b < 0x80 then .char (Char.ofNat b.toNat) :: utf7Plain fuel rest
    else .bad [b] :: utf7Plain fuel rest

def utf7Shifted : Nat → Utf7Run → List UInt8 → List Piece
  | 0, _, _ => []
  | _, r, [] => if r.high.isSome || r.badEnd then [.bad r.opened.reverse] else []
  | fuel + 1, r, b :: rest =>
    match base64Digit b.toNat with
    | some d =>
      let bits := r.bits * 64 + d
      let count := r.count + 6
      if count ≥ 16 then
        let (cs, high) := utf7Unit r.high (bits / 2 ^ (count - 16))
        cs ++ utf7Shifted fuel
          ⟨b :: r.opened, bits % 2 ^ (count - 16), count - 16, high⟩ rest
      else utf7Shifted fuel ⟨b :: r.opened, bits, count, r.high⟩ rest
    | none =>
      if r.badEnd then .bad (b :: r.opened).reverse :: utf7Plain fuel rest
      else
        let lone := match r.high with
          | some h => if b < 0x80 then [Piece.lone h] else []
          | none => []
        if b = 0x2D then lone ++ utf7Plain fuel rest else lone ++ utf7Plain fuel (b :: rest)

end

def utf7 (bs : List UInt8) : List Piece := utf7Plain (2 * bs.length + 1) bs

theorem utf7_plain (b : UInt8) (h : b.toNat < 0x80) (hp : b ≠ 0x2B) :
    utf7 [b] = [.char (Char.ofNat b.toNat)] := by
  have hb : b < 0x80 := by
    rw [UInt8.lt_iff_toNat_lt]
    exact h
  simp [utf7, utf7Plain, hp, hb]


end MailIngest.Text.Charset
