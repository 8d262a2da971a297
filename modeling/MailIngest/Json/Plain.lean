import MailIngest.Json.Value
import MailIngest.Decimal.Shortest
import MailIngest.Text.Literal

/-!
# Values as they read in messages

Detail lines and messages show a value in its plain form: a text as itself, `None`, `True` and
`False` for the null and the truth values, numbers in their shortest text, and arrays and
objects in bracket notation whose strings are literals (`['a', 1]`, `{'k': None}`).
-/

namespace MailIngest.Json

/-- The literal form of text with lone surrogates, each written `\uXXXX`. -/
def literalCodes (ps : List Text.CodePoint) : String :=
  let q := Text.literalQuote (Text.CodePoint.replaced ps)
  String.singleton q ++ String.join (ps.map fun p => match p with
    | .char c => Text.literalChar q c
    | .lone u => "\\u" ++ Text.hex2 (u / 256) ++ Text.hex2 (u % 256)) ++ String.singleton q

mutual

/-- A value as it stands inside brackets: strings as literals. -/
def literalText : Json → String
  | .null => "None"
  | .bool true => "True"
  | .bool false => "False"
  | .int n => toString n
  | .float x => Decimal.render Decimal.FloatStyle.plain x
  | .str s => Text.literal s
  | .codes ps => literalCodes ps
  | .arr xs => "[" ++ literalItems xs ++ "]"
  | .obj ms => "\x7b" ++ literalMembers ms ++ "\x7d"

def literalItems : List Json → String
  | [] => ""
  | [x] => literalText x
  | x :: rest => literalText x ++ ", " ++ literalItems rest

def literalMembers : List (String × Json) → String
  | [] => ""
  | [(k, v)] => Text.literal k ++ ": " ++ literalText v
  | (k, v) :: rest => Text.literal k ++ ": " ++ literalText v ++ ", " ++ literalMembers rest

end

/-- A value as it stands alone in a message: a text is shown bare. -/
def plainText : Json → String
  | .str s => s
  | v => literalText v

end MailIngest.Json
