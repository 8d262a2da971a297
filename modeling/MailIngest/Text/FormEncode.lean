import MailIngest.Text.Utf8
import MailIngest.Text.Hex

/-!
# Form encoding

A query string joins `name=value` pairs with `&`. In names and values the unreserved
characters (ASCII letters and digits and `_ . - ~`) stand as they are, a space becomes `+`,
and every other byte of the UTF-8 encoding is written `%XX` in upper-case hexadecimal.

- `escape_unreserved` : an unreserved character stands as it is.
-/

namespace MailIngest.Text

/-- Whether a byte stands for itself in a form-encoded text. -/
def isUnreserved (b : UInt8) : Bool :=
  let c := Char.ofNat b.toNat
  (c.isAlphanum && b < 0x80) || c = '_' || c = '.' || c = '-' || c = '~'

def escapeByte (b : UInt8) : String :=
  if isUnreserved b then String.singleton (Char.ofNat b.toNat)
  else if b = 0x20 then "+"
  else "%" ++ (Hex.hex [b]).toUpper

def formEscape (s : String) : String := String.join ((Utf8.encode s).map escapeByte)

def formEncode (pairs : List (String × String)) : String :=
  String.intercalate "&" (pairs.map fun (k, v) => formEscape k ++ "=" ++ formEscape v)

theorem escape_unreserved (b : UInt8) (h : isUnreserved b) :
    escapeByte b = String.singleton (Char.ofNat b.toNat) := by
  simp [escapeByte, h]

end MailIngest.Text
