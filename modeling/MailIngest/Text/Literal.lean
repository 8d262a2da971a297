/-!
# String literals in messages

Messages that name a user-supplied string show it as a literal: in single quotes, or in double
quotes when the text holds a single quote and no double quote. Inside, the backslash and the
chosen quote are escaped, the common control characters take their short escapes, other
characters below U+0020 and U+007F to U+00A0 are written `\xNN`, and everything else stands
as it is.
-/

namespace MailIngest.Text

def hex2 (n : Nat) : String :=
  let d (k : Nat) : Char := "0123456789abcdef".toList.getD k '0'
  String.ofList [d ((n / 16) % 16), d (n % 16)]

/-- The escaped form of one character inside a literal quoted with `q`. -/
def literalChar (q : Char) (c : Char) : String :=
  if c = q then "\\" ++ String.singleton c
  else if c = '\\' then "\\\\"
  else if c = '\n' then "\\n"
  else if c = '\r' then "\\r"
  else if c = '\t' then "\\t"
  else if c.toNat < 0x20 ∨ (0x7f ≤ c.toNat ∧ c.toNat ≤ 0xa0) then "\\x" ++ hex2 c.toNat
  else String.singleton c

def literalQuote (s : String) : Char :=
  if s.toList.contains '\'' && !s.toList.contains '"' then '"' else '\''

def literal (s : String) : String :=
  let q := literalQuote s
  String.singleton q ++ String.join (s.toList.map (literalChar q)) ++ String.singleton q

end MailIngest.Text
