import MailIngest.Mail.Syntax.Tree

/-!
# The words of structured headers

The readers here take header text and give back a node and the text after it. They follow
RFC 5322 loosely, accepting what mail in the wild holds:

* white space (`fws`) is any run of Unicode white space that starts with a space or tab;
* comments nest, and a backslash escapes the next character inside them and inside quoted
  strings (`ptextTo`);
* an atom may be an encoded word, and a quoted string may hold encoded words, the white space
  between two of them then meaning nothing;
* a phrase is words, periods and comments in any order once it has started.

Readers that need text to look at stop with an index error on empty text, as the grammar never
asks them to read nothing.

The main statements are `fws_shorter` (white space read at a blank takes it) and
`startsIn_nil` (empty text starts with no character).
-/

namespace MailIngest.Mail.Syntax

abbrev Reader := Glyphs → Read (Node × Glyphs)

def startsIn (set : List Char) : Glyphs → Bool
  | g :: _ => g.isIn set
  | [] => false

def startsWith (c : Char) : Glyphs → Bool
  | g :: _ => g.is c
  | [] => false

/-- Whether non-empty text starts with one of the characters; empty text is an index error. -/
def firstIn (set : List Char) : Glyphs → Read Bool
  | g :: _ => pure (g.isIn set)
  | [] => raise "IndexError"

/-- The characters up to one of `ends`, within the text before the first space or tab, with
backslash escapes undone: the characters, the text after them, and whether an escaped
backslash was seen. -/
def ptextScan (ends : List Char) : Glyphs → Bool → Bool → Glyphs × Glyphs × Bool
  | [], _, qp => ([], [], qp)
  | g :: r, escape, qp =>
    if g.is '\\' && !escape then ptextScan ends r true qp
    else if g.is '\\' then
      let (v, rest, q) := ptextScan ends r false true
      (g :: v, rest, q)
    else if escape then
      let (v, rest, q) := ptextScan ends r false qp
      (g :: v, rest, q)
    else if g.isIn ends then ([], g :: r, qp)
    else
      let (v, rest, q) := ptextScan ends r false qp
      (g :: v, rest, q)

/-- Printable text up to one of `ends`, unescaped. Text that starts with a space or tab, or is
empty, has nothing to scan, which the scan does not allow for. -/
def ptextTo (ends : List Char) (value : Glyphs) : Read (Glyphs × Glyphs × Bool) :=
  let (fragment, remainder) := splitBlank value
  if fragment.isEmpty then raise "UnboundLocalError"
  else
    let (v, rest, qp) := ptextScan ends fragment false false
    pure (v, rest ++ remainder, qp)

/-- White space: the run of white space at the front of the text. -/
def fws (value : Glyphs) : Node × Glyphs :=
  (.leaf .fws .blank (value.takeWhile Glyph.isSpace), value.dropWhile Glyph.isSpace)

/-- Decoded text of an encoded word as runs of white space and of other text, at most `fuel`
runs. -/
def wordRuns (k : Kind) : Nat → Glyphs → List Node
  | 0, _ => []
  | _, [] => []
  | fuel + 1, g :: rest =>
    if g.isIn wsp then
      let (t, more) := fws (g :: rest)
      t :: wordRuns k fuel more
    else
      let (chars, more) := splitBlank (g :: rest)
      .word k chars :: wordRuns k fuel more

/-- An encoded word: `=?`, up to the next `?=`, extended past a `?=` that begins a quoted
byte escape. Text that is not one is a mismatch; one that does not decode is malformed, and a
failure of reading other than a decoding error stops. -/
def encodedWord (value : Glyphs) : Read (Node × Glyphs) :=
  match value with
  | .char '=' :: .char '?' :: body =>
    match splitAt (glyphs "?=") body with
    | none => mismatch
    | some (tok, remstr) =>
      let (tok, value) : Glyphs × Glyphs :=
        match remstr with
        | a :: b :: _ =>
          if a.isIn hexDigits && b.isIn hexDigits && (tok.filter (·.is '?')).length < 2 then
            match splitAt (glyphs "?=") remstr with
            | some (more, after) => (tok ++ glyphs "?=" ++ more, after)
            | none => (tok ++ glyphs "?=" ++ remstr, [])
          else (tok, remstr)
        | _ => (tok, remstr)
      match EncodedWord.decode tok with
      | .error failure => raise failure
      | .ok none => .error .malformed
      | .ok (some text) => pure (.tree .encodedWord (wordRuns .vtext (text.length + 1) text), value)
  | _ => mismatch

/-- Comment text up to a parenthesis, unescaped; it means a space. -/
def qpCtext (value : Glyphs) : Read (Node × Glyphs) := do
  let (v, rest, _) ← ptextTo ['(', ')'] value
  pure (.leaf .ptext .blank v, rest)

def qcontent (value : Glyphs) : Read (Node × Glyphs) := do
  let (v, rest, _) ← ptextTo ['"'] value
  pure (.word .ptext v, rest)

/-- The characters of an atom: at least one, up to a special character or a blank. -/
def atext (value : Glyphs) : Read (Node × Glyphs) :=
  let (t, rest) := value.span fun g => !g.isIn atomEnds
  if t.isEmpty then mismatch else pure (.word .atext t, rest)

mutual

/-- A comment, nested comments inside it, read with `fuel` steps at most. -/
def commentAt : Nat → Glyphs → Read (Node × Glyphs)
  | 0, _ => raise "RecursionError"
  | fuel + 1, value => do
    if !value.isEmpty && !startsWith '(' value then mismatch
    else
      let (items, rest) ← commentItems fuel (value.drop 1)
      pure (.tree .comment items, rest.drop 1)

def commentItems : Nat → Glyphs → Read (List Node × Glyphs)
  | 0, value => pure ([], value)
  | _, [] => pure ([], [])
  | fuel + 1, g :: rest =>
    if g.is ')' then pure ([], g :: rest)
    else do
      let (tok, value) ←
        if g.isIn wsp then pure (fws (g :: rest))
        else if g.is '(' then commentAt fuel (g :: rest)
        else qpCtext (g :: rest)
      let (more, value) ← commentItems fuel value
      pure (tok :: more, value)

end

def comment (value : Glyphs) : Read (Node × Glyphs) := commentAt (2 * value.length + 2) value

/-- The comments and white space at the front of the text, at most `fuel` of them. -/
def cfwsItems : Nat → Glyphs → Read (List Node × Glyphs)
  | 0, value => pure ([], value)
  | fuel + 1, value =>
    if startsIn wsp value then do
      let (t, rest) := fws value
      let (more, rest) ← cfwsItems fuel rest
      pure (t :: more, rest)
    else if startsWith '(' value then do
      let (t, rest) ← comment value
      let (more, rest) ← cfwsItems fuel rest
      pure (t :: more, rest)
    else pure ([], value)

def cfws (value : Glyphs) : Read (Node × Glyphs) := do
  let (items, rest) ← cfwsItems (value.length + 1) value
  pure (.tree .cfws items, rest)

/-- Comments and white space if the text starts with them, else nothing. -/
def cfwsIfAny (value : Glyphs) : Read (List Node × Glyphs) :=
  if startsIn cfwsLeader value then do
    let (t, rest) ← cfws value
    pure ([t], rest)
  else pure ([], value)

/-- Joins the white space between two encoded words: it then means nothing. -/
def joinWords (acc : List Node) : List Node :=
  match acc with
  | .leaf .fws _ t :: prev :: more =>
    if prev.isA .encodedWord then .leaf .fws .joint t :: prev :: more else acc
  | _ => acc

/-- The parts of a quoted string up to its closing quote, at most `fuel` of them, last first. -/
def quotedItems : Nat → List Node → Glyphs → Read (List Node × Glyphs)
  | 0, acc, value => pure (acc, value)
  | _, acc, [] => pure (acc, [])
  | fuel + 1, acc, g :: rest =>
    let value := g :: rest
    if g.is '"' then pure (acc, value)
    else if g.isIn wsp then
      let (t, more) := fws value
      quotedItems fuel (t :: acc) more
    else if startsWith '=' value && startsWith '?' rest then
      match encodedWord value with
      | .ok (t, more) =>
        let acc := if acc.length > 1 then joinWords acc else acc
        quotedItems fuel (t :: acc) more
      | .error s =>
        if s.isMismatch then do
          let (t, more) ← qcontent value
          quotedItems fuel (t :: acc) more
        else .error s
    else do
      let (t, more) ← qcontent value
      quotedItems fuel (t :: acc) more

/-- A quoted string without the comments and white space around it: its content, escapes
undone, encoded words decoded. -/
def bareQuotedString (value : Glyphs) : Read (Node × Glyphs) := do
  match value with
  | [] => raise "IndexError"
  | g :: rest =>
    if !g.is '"' then mismatch
    else
      let (lead, rest) ← if startsWith '"' rest then do
          let (t, more) ← qcontent rest
          pure ([t], more)
        else pure ([], rest)
      let (acc, rest) ← quotedItems (rest.length + 1) lead.reverse rest
      pure (.tree .bareQuotedString acc.reverse, rest.drop 1)

/-- A quoted string with the comments and white space around it. -/
def quotedString (value : Glyphs) : Read (Node × Glyphs) := do
  let (pre, value) ← cfwsIfAny value
  let (q, value) ← bareQuotedString value
  let (post, value) ← cfwsIfAny value
  pure (.tree .quotedString (pre ++ [q] ++ post), value)

/-- An atom with the comments and white space around it; it may be an encoded word. -/
def atom (value : Glyphs) : Read (Node × Glyphs) := do
  let (pre, value) ← cfwsIfAny value
  if startsIn atomEnds value then mismatch
  else
    let (t, value) ← if startsWith '=' value && startsWith '?' (value.drop 1) then
        orElse (encodedWord value) fun _ => atext value
      else atext value
    let (post, value) ← cfwsIfAny value
    pure (.tree .atom (pre ++ [t] ++ post), value)

/-- The atoms and periods of a dot-atom, at most `fuel` atoms, last first. -/
def dotAtomItems : Nat → List Node → Glyphs → Read (List Node × Glyphs)
  | 0, acc, value => pure (acc, value)
  | fuel + 1, acc, value =>
    if value.isEmpty || startsIn atomEnds value then pure (acc, value)
    else do
      let (t, value) ← atext value
      if startsWith '.' value then dotAtomItems fuel (Node.period :: t :: acc) (value.drop 1)
      else dotAtomItems fuel (t :: acc) value

/-- Atoms joined by single periods, with nothing between them. -/
def dotAtomText (value : Glyphs) : Read (Node × Glyphs) := do
  if value.isEmpty || startsIn atomEnds value then mismatch
  else
    let (acc, rest) ← dotAtomItems (value.length + 1) [] value
    match acc with
    | .leaf .dot _ _ :: _ => mismatch
    | _ => pure (.tree .dotAtomText acc.reverse, rest)

/-- A dot-atom with the comments and white space around it; it may be an encoded word. -/
def dotAtom (value : Glyphs) : Read (Node × Glyphs) := do
  let lead ← firstIn cfwsLeader value
  let (pre, value) ← if lead then do
      let (t, rest) ← cfws value
      pure ([t], rest)
    else pure ([], value)
  let (t, value) ← if startsWith '=' value && startsWith '?' (value.drop 1) then
      orElse (encodedWord value) fun _ => dotAtomText value
    else dotAtomText value
  let (post, value) ← cfwsIfAny value
  pure (.tree .dotAtom (pre ++ [t] ++ post), value)

/-- A word: an atom or a quoted string, with the comments and white space before it. -/
def word (value : Glyphs) : Read (Node × Glyphs) := do
  let lead ← firstIn cfwsLeader value
  let (leader, value) ← if lead then do
      let (t, rest) ← cfws value
      pure ([t], rest)
    else pure ([], value)
  match value with
  | [] => mismatch
  | g :: _ =>
    let (t, value) ← if g.is '"' then quotedString value
      else if g.isIn specials then mismatch
      else atom value
    pure (t.prepend leader, value)

/-- The words, periods and comments of a phrase after its first word, at most `fuel` of them,
last first; whether anything but words was met. -/
def phraseItems : Nat → List Node → Bool → Glyphs → Read (List Node × Bool × Glyphs)
  | 0, acc, flagged, value => pure (acc, flagged, value)
  | fuel + 1, acc, flagged, value =>
    match value with
    | [] => pure (acc, flagged, [])
    | g :: rest =>
      if g.isIn phraseEnds then pure (acc, flagged, value)
      else if g.is '.' then phraseItems fuel (Node.period :: acc) true rest
      else
        match word value with
        | .ok (t, more) => phraseItems fuel (t :: acc) flagged more
        | .error s =>
          if s.isMismatch && g.isIn cfwsLeader then do
            let (t, more) ← cfws value
            phraseItems fuel (t :: acc) true more
          else .error s

/-- A phrase: words, periods and comments; the parts, and whether anything but words was
met, a missing first word included. -/
def phraseParts (value : Glyphs) : Read (List Node × Bool × Glyphs) := do
  let (first, flagged, value) ← match word value with
    | .ok (t, more) => pure ([t], false, more)
    | .error s => if s.isMismatch then pure ([], true, value) else .error s
  let (acc, flagged, value) ← phraseItems (value.length + 1) first flagged value
  pure (acc.reverse, flagged, value)

def phrase (value : Glyphs) : Read (Node × Glyphs) := do
  let (items, _, value) ← phraseParts value
  pure (.tree .phrase items, value)

/-- The characters of a MIME token: at least one, up to a special character or a blank. -/
def ttext (value : Glyphs) : Read (Node × Glyphs) :=
  let (t, rest) := value.span fun g => !g.isIn tokenEnds
  if t.isEmpty then mismatch else pure (.word .ttext t, rest)

/-- A MIME token with the comments and white space around it. -/
def token (value : Glyphs) : Read (Node × Glyphs) := do
  let (pre, value) ← cfwsIfAny value
  if startsIn tokenEnds value then mismatch
  else
    let (t, value) ← ttext value
    let (post, value) ← cfwsIfAny value
    pure (.tree .token (pre ++ [t] ++ post), value)

/-- The characters of a parameter name: at least one, up to a special character or a blank. -/
def nameText (value : Glyphs) : Read (Node × Glyphs) :=
  let (t, rest) := value.span fun g => !g.isIn attributeEnds
  if t.isEmpty then mismatch else pure (.word .attrtext t, rest)

/-- A parameter name with the comments and white space around it. -/
def paramName (value : Glyphs) : Read (Node × Glyphs) := do
  let (pre, value) ← cfwsIfAny value
  if startsIn attributeEnds value then mismatch
  else
    let (t, value) ← nameText value
    let (post, value) ← cfwsIfAny value
    pure (.tree .attribute (pre ++ [t] ++ post), value)

/-- The characters of an encoded parameter value, percent signs included. -/
def extendedText (value : Glyphs) : Read (Node × Glyphs) :=
  let (t, rest) := value.span fun g => !g.isIn extendedAttributeEnds
  if t.isEmpty then mismatch else pure (.word .extAttrtext t, rest)

/-- An encoded parameter value with the comments and white space around it. -/
def extendedWord (value : Glyphs) : Read (Node × Glyphs) := do
  let (pre, value) ← cfwsIfAny value
  if startsIn extendedAttributeEnds value then mismatch
  else
    let (t, value) ← extendedText value
    let (post, value) ← cfwsIfAny value
    pure (.tree .attribute (pre ++ [t] ++ post), value)

/-- White space read at a space or tab takes at least that character. -/
theorem fws_shorter (g : Glyph) (r : Glyphs) (h : g.isIn wsp = true) :
    (fws (g :: r)).2.length < (g :: r).length := by
  have hs : g.isSpace = true := by
    cases g with
    | char c =>
      simp only [Glyph.isIn, wsp, List.contains_cons, List.contains_nil, Bool.or_false,
        Bool.or_eq_true, beq_iff_eq] at h
      rcases h with rfl | rfl <;> decide
    | byte b => simp [Glyph.isIn] at h
    | lone u => simp [Glyph.isIn] at h
  simp only [fws, List.dropWhile_cons, hs, if_true, List.length_cons]
  have := length_dropWhile_le Glyph.isSpace r
  omega

theorem startsIn_nil (set : List Char) : startsIn set [] = false := rfl

end MailIngest.Mail.Syntax
