import MailIngest.Json.Value
import MailIngest.Decimal.Shortest

/-!
# Writing JSON text

`Json.render` writes a value on one line in the ASCII-only form: members in their stored
order, `", "` and `": "` as separators, every character outside the printable ASCII range
escaped (`\uXXXX`, a character beyond the Basic Multilingual Plane as two surrogate escapes,
a surrogate standing alone as its own), floats in their shortest round-trip text with `NaN`
and `Infinity` spelled out.

The small law `hex4Text_length` says an escape always carries four digits.
-/

namespace MailIngest.Json

def hex4Text (n : Nat) : String :=
  let d (k : Nat) : Char := "0123456789abcdef".toList.getD ((n / Nat.pow 16 k) % 16) '0'
  String.ofList [d 3, d 2, d 1, d 0]

/-- The written form of one character inside a string literal. -/
def escapeChar (c : Char) : String :=
  match c with
  | '"' => "\\\""
  | '\\' => "\\\\"
  | '\n' => "\\n"
  | '\r' => "\\r"
  | '\t' => "\\t"
  | '\x08' => "\\b"
  | '\x0c' => "\\f"
  | _ =>
    let n := c.toNat
    if 0x20 ≤ n ∧ n < 0x7f then String.singleton c
    else if n < 0x10000 then "\\u" ++ hex4Text n
    else
      let v := n - 0x10000
      "\\u" ++ hex4Text (0xD800 + v / 0x400) ++ "\\u" ++ hex4Text (0xDC00 + v % 0x400)

def quote (s : String) : String :=
  "\"" ++ String.join (s.toList.map escapeChar) ++ "\""

/-- A string literal of code points with its quotes, a lone surrogate as its own escape. -/
def quoteCodes (ps : List Text.CodePoint) : String :=
  "\"" ++ String.join (ps.map fun p => match p with
    | .char c => escapeChar c
    | .lone u => "\\u" ++ hex4Text u) ++ "\""

mutual

def render : Json → String
  | .null => "null"
  | .bool true => "true"
  | .bool false => "false"
  | .int n => toString n
  | .float x => Decimal.render Decimal.FloatStyle.json x
  | .str s => quote s
  | .codes ps => quoteCodes ps
  | .arr xs => "[" ++ renderItems xs ++ "]"
  | .obj ms => "\x7b" ++ renderMembers ms ++ "\x7d"

def renderItems : List Json → String
  | [] => ""
  | [x] => render x
  | x :: rest => render x ++ ", " ++ renderItems rest

def renderMembers : List (String × Json) → String
  | [] => ""
  | [(k, v)] => quote k ++ ": " ++ render v
  | (k, v) :: rest => quote k ++ ": " ++ render v ++ ", " ++ renderMembers rest

end

theorem hex4Text_length (n : Nat) : (hex4Text n).length = 4 := by
  simp [hex4Text]

end MailIngest.Json
