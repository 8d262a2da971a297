/-!
# Hexadecimal bytes

`hex` writes bytes as pairs of lowercase hexadecimal digits; `ofHex?` reads them back,
allowing ASCII blanks between the pairs.

- `hex_length` : two digits per byte;
- `padded_inj` : distinct numbers are written differently, whatever the width.
-/

namespace MailIngest.Text.Hex

def digit (n : Nat) : Char := "0123456789abcdef".toList.getD n '0'

def digitValue? (c : Char) : Option Nat :=
  if '0' ≤ c ∧ c ≤ '9' then some (c.toNat - 48)
  else if 'a' ≤ c ∧ c ≤ 'f' then some (c.toNat - 87)
  else if 'A' ≤ c ∧ c ≤ 'F' then some (c.toNat - 55)
  else none

def byteDigits (b : UInt8) : List Char := [digit (b.toNat / 16), digit (b.toNat % 16)]

def hex (bs : List UInt8) : String := String.ofList (bs.flatMap byteDigits)

/-- A number in lowercase digits, with leading zeros up to `width` digits; a longer number
keeps all its digits. -/
def padded (width : Nat) (n : Nat) : String :=
  let ds := Nat.toDigits 16 n
  String.ofList (List.replicate (width - ds.length) '0' ++ ds)

/-- The value of hexadecimal digits, most significant first. -/
def valueOf (ds : List Char) : Nat := ds.foldl (fun n c => n * 16 + (digitValue? c).getD 0) 0

theorem digitValue?_digitChar {d : Nat} (h : d < 16) : digitValue? (Nat.digitChar d) = some d := by
  have hall : ∀ i : Fin 16, digitValue? (Nat.digitChar i) = some i := by decide
  exact hall ⟨d, h⟩

theorem toDigits_of_lt {n : Nat} (h : n < 16) : Nat.toDigits 16 n = [Nat.digitChar n] := by
  simp [Nat.toDigits, Nat.toDigitsCore, Nat.div_eq_of_lt h, Nat.mod_eq_of_lt h]

theorem valueOf_append (xs ys : List Char) :
    valueOf (xs ++ ys) = ys.foldl (fun n c => n * 16 + (digitValue? c).getD 0) (valueOf xs) := by
  simp [valueOf, List.foldl_append]

/-- Reading back the digits of a number gives the number. -/
theorem valueOf_toDigits (n : Nat) : valueOf (Nat.toDigits 16 n) = n := by
  induction n using Nat.strongRecOn with
  | ind n ih =>
    by_cases h : n < 16
    · simp [toDigits_of_lt h, valueOf, digitValue?_digitChar h]
    · rw [Nat.toDigits_of_base_le (by decide) (by omega), valueOf_append,
        ih (n / 16) (by omega)]
      simp [digitValue?_digitChar (Nat.mod_lt n (by decide : 16 > 0))]
      omega

theorem valueOf_zeros (k : Nat) (ds : List Char) :
    valueOf (List.replicate k '0' ++ ds) = valueOf ds := by
  have hz : valueOf (List.replicate k '0') = 0 := by
    induction k with
    | zero => rfl
    | succ k ih =>
      have h0 : digitValue? '0' = some 0 := by decide
      rw [List.replicate_succ', valueOf_append, ih]
      simp [h0]
  rw [valueOf_append, hz]
  rfl

theorem valueOf_padded (width n : Nat) : valueOf (padded width n).toList = n := by
  simp only [padded, String.toList_ofList, valueOf_zeros, valueOf_toDigits]

theorem padded_inj {width n m : Nat} (h : padded width n = padded width m) : n = m := by
  rw [← valueOf_padded width n, ← valueOf_padded width m, h]

def isGap (c : Char) : Bool := c = ' ' ∨ c = '\t' ∨ c = '\n' ∨ c = '\r' ∨ c = '\x0b' ∨ c = '\x0c'

def pairs : List Char → Option (List UInt8)
  | [] => some []
  | c :: rest =>
    if isGap c then pairs rest
    else match rest with
      | d :: more => do
        let hi ← digitValue? c
        let lo ← digitValue? d
        let tail ← pairs more
        pure ((hi * 16 + lo).toUInt8 :: tail)
      | [] => none

def ofHex? (s : String) : Option (List UInt8) := pairs s.toList

theorem hex_length (bs : List UInt8) : (hex bs).length = 2 * bs.length := by
  induction bs with
  | nil => rfl
  | cons b bs ih =>
    simp only [hex, String.length_ofList, List.flatMap_cons, List.length_append,
      byteDigits, List.length_cons, List.length_nil, List.length_cons] at ih ⊢
    omega

end MailIngest.Text.Hex
