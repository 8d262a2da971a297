import MailIngest.Mail.Syntax.Unstructured
import MailIngest.Mail.Syntax.Address

/-!
# Message identifiers

A message identifier is `<left@right>`: the left part a dot-atom or an obsolete local part, the
right part a dot-atom, a literal in square brackets or a domain. The closing bracket may be
missing, and so may the right part. Text that is no identifier at all is kept as unstructured
text; text after an identifier is dropped.

An obsolete left part that reads nothing looks past the end of its parts, so `<>` and `<<x>>`
fail.
-/

namespace MailIngest.Mail.Syntax

/-- A literal in square brackets, with no white space inside. -/
def noFoldLiteral (value : Glyphs) : Read (Node × Glyphs) := do
  match value with
  | [] => mismatch
  | g :: rest =>
    if !g.is '[' then mismatch
    else do
      let (t, value) ← dtext rest
      if !startsWith ']' value then mismatch
      else pure (.tree .noFoldLiteral [Node.sign .mark '[', t, Node.sign .mark ']'], value.drop 1)

def idRight (value : Glyphs) : Read (Node × Glyphs) :=
  orElse (dotAtomText value) fun _ =>
    orElse (noFoldLiteral value) fun _ =>
      orElse (domain value) fun _ => mismatch

def idLeft (value : Glyphs) : Read (Node × Glyphs) :=
  orElse (dotAtomText value) fun _ => orElse (obsLocalPart value) fun _ => mismatch

/-- An identifier in angle brackets, with the comments and white space around it. -/
def msgId (value : Glyphs) : Read (Node × Glyphs) := do
  let (pre, value) ← cfwsIfAny value
  match value with
  | [] => mismatch
  | g :: rest =>
    if !g.is '<' then mismatch
    else do
      let (left, value) ← idLeft rest
      let acc := pre ++ [Node.sign .mark '<', left]
      if !startsWith '@' value then
        if startsWith '>' value then pure (.tree .msgId (acc ++ [Node.sign .mark '>']), value.drop 1)
        else pure (.tree .msgId acc, value)
      else do
        let (right, value) ← idRight (value.drop 1)
        let value := if startsWith '>' value then value.drop 1 else value
        let (post, value) ← cfwsIfAny value
        pure (.tree .msgId (acc ++ [Node.sign .mark '@', right, Node.sign .mark '>'] ++ post), value)

/-- A Message-ID header: an identifier, text after it dropped, or unstructured text. -/
def messageId (value : Glyphs) : Read Node :=
  match msgId value with
  | .ok (t, _) => pure (.tree .messageId [t])
  | .error s => if s.isMismatch then (.tree .messageId ·.items) <$> unstructured value else .error s


end MailIngest.Mail.Syntax
