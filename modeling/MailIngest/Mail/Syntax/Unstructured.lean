import MailIngest.Mail.Syntax.Lexeme

/-!
# Unstructured header text

Most headers, the subject among them, are free text: runs of white space and of other
characters, with encoded words decoded where they stand. An encoded word needs no white space
around it; text that holds one in the middle of a run is split in front of it so that it is
decoded on the next step, unless a malformed encoded word was just met there, which stays text.
The white space between two encoded words means nothing. A failure of reading an encoded word
other than a decoding error stops reading the text.
-/

namespace MailIngest.Mail.Syntax

/-- The parts of unstructured text, at most `fuel` of them, last first. -/
def unstructuredItems : Nat → List Node → Glyphs → Read (List Node)
  | 0, acc, _ => pure acc
  | _, acc, [] => pure acc
  | fuel + 1, acc, g :: rest => do
    let value := g :: rest
    if g.isIn wsp then
      let (t, more) := fws value
      unstructuredItems fuel (t :: acc) more
    else
      let attempt : Bool × Option (Node × Glyphs) ←
        if g.is '=' && startsWith '?' rest then
          match encodedWord value with
          | .ok r => pure (true, some r)
          | .error (.fault n) => raise n
          | .error s => pure (s ≠ .malformed, none)
        else pure (true, none)
      match attempt with
      | (_, some (t, more)) => unstructuredItems fuel (t :: joinWords acc) more
      | (validEw, none) =>
        let (tok, remainder) := splitBlank value
        let (tok, remainder) :=
          if validEw && EncodedWord.looksEncoded tok then
            match splitAt (glyphs "=?") value with
            | some (before, after) => (before, glyphs "=?" ++ after)
            | none => (tok, remainder)
          else (tok, remainder)
        unstructuredItems fuel (.word .vtext tok :: acc) remainder

/-- Unstructured text; reading it stops only where reading an encoded word fails other than
by a decoding error. -/
def unstructured (value : Glyphs) : Read Node := do
  pure (.tree .unstructured (← unstructuredItems (value.length + 1) [] value).reverse)


end MailIngest.Mail.Syntax
