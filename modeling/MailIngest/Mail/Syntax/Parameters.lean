import MailIngest.Mail.Syntax.Address

/-!
# MIME headers

`Content-Type: type/subtype; name=value; ...` and `Content-Disposition: kind; name=value`
carry parameters. A parameter value is a token or a quoted string; RFC 2231 splits a long one
into numbered sections (`name*0=`, `name*1=`) and marks an encoded one with a trailing `*`,
its first section then starting with a character set and a language between apostrophes
(`name*=utf-8'en'caf%C3%A9`). A quoted value marked as encoded is accepted when it looks
encoded, and read as plain text otherwise.

A parameter that cannot be read is kept as text, and so is anything after the type that is not
a parameter. `Content-Transfer-Encoding` is a token, and `MIME-Version` two numbers around a
period; text they do not expect is kept as well.
-/

namespace MailIngest.Mail.Syntax

def sectionMark (value : Glyphs) : Read (Node × Nat × Glyphs) := do
  match value with
  | g :: rest =>
    if !g.is '*' then mismatch
    else
      let (digits, more) := rest.span Glyph.isDigit
      if digits.isEmpty then mismatch
      else
        let n := digits.foldl (fun acc d => match d with
          | .char c => acc * 10 + (c.toNat - 48)
          | _ => acc) 0
        pure (.tree .sectionMark [Node.sign .mark '*', .word .digits digits], n, more)
  | [] => mismatch

/-- A parameter value: a quoted string, or a token that may hold percent escapes. -/
def paramValue (value : Glyphs) : Read (Node × Glyphs) := do
  if value.isEmpty then mismatch
  else
    let (leader, value) ← cfwsIfAny value
    if value.isEmpty then mismatch
    else do
      let (t, value) ← if startsWith '"' value then quotedString value else extendedWord value
      pure (.tree .value [t.prepend leader], value)

/-- The characters of a quoted value marked as encoded, read again as a value. -/
def looseValueItems : Nat → List Node → Glyphs → Read (List Node × Glyphs)
  | 0, acc, value => pure (acc, value)
  | _, acc, [] => pure (acc, [])
  | fuel + 1, acc, g :: rest =>
    if g.isIn wsp then
      let (t, more) := fws (g :: rest)
      looseValueItems fuel (acc ++ [t]) more
    else if g.is '"' then looseValueItems fuel (acc ++ [Node.sign .mark '"']) rest
    else do
      let (t, more) ← qcontent (g :: rest)
      looseValueItems fuel (acc ++ [t]) more

/-- Where the parts of a parameter value go: into the parameter, or into the quoted part of a
quoted string that the parameter holds last. -/
def putInto (intoQuote : Bool) (param : List Node) (extra : List Node) : List Node :=
  if !intoQuote then param ++ extra
  else match param.getLast? with
    | some (.tree .quotedString qs) =>
      param.dropLast ++ [.tree .quotedString (qs.map fun q =>
        if q.isA .bareQuotedString then q.append extra else q)]
    | _ => param ++ extra

def quotedContent (q : Node) : Read Glyphs :=
  match q.items.find? (·.isA .bareQuotedString) with
  | some b => valueOf b
  | none => raise "TypeError"

/-- Whether the content of a quoted value marked as encoded looks encoded: for the first
section, an apostrophe after a name; for later ones, nothing but encoded characters. -/
def looksExtended (number : Nat) (inner : Glyphs) : Read Bool := do
  if number = 0 then
    if startsWith apostrophe inner then pure true
    else do
      let (_, rest) ← nameText inner
      pure (startsWith apostrophe rest)
  else
    match extendedText inner with
    | .ok (_, rest) => pure rest.isEmpty
    | .error _ => pure false

/-- A parameter read to its end. A quoted value read from its content must have been read
whole; the text after the quoted string follows. -/
def closeParam (shape : ParamShape) (remainder : Option Glyphs) (items : List Node)
    (value : Glyphs) : Read (Node × Glyphs) :=
  match remainder with
  | some after =>
    if value.isEmpty then pure (.tree (.parameter shape) items, after) else raise "AssertionError"
  | none => pure (.tree (.parameter shape) items, value)

/-- A parameter: a name, an optional section number and `*`, `=`, and its value. -/
def parameter (value : Glyphs) : Read (Node × Glyphs) := do
  let (name, value) ← paramName value
  if value.isEmpty || startsWith ';' value then
    pure (.tree (.parameter {}) [name], value)
  else do
    let (shape, marks, value) ← if startsWith '*' value then do
        let (shape, marks, value) := match sectionMark value with
          | .ok (t, n, more) => (({ sectioned := true, number := n } : ParamShape), [t], more)
          | .error _ => ({}, [], value)
        if value.isEmpty then mismatch
        else if startsWith '*' value then
          pure ({ shape with extended := true }, marks ++ [Node.sign .mark '*'], value.drop 1)
        else pure (shape, marks, value)
      else pure ({}, [], value)
    match value with
    | [] => raise "IndexError"
    | g :: rest =>
      if !g.is '=' then mismatch
      else do
        let (pre, value) ← cfwsIfAny rest
        let items := [name] ++ marks ++ [Node.sign .mark '='] ++ pre
        -- a quoted value marked as encoded is read from its content when it looks encoded
        let (items, intoQuote, remainder, value) ← if shape.extended && startsWith '"' value then do
            let (q, after) ← quotedString value
            let inner ← quotedContent q
            if ← looksExtended shape.number inner then
              let q := match q with
                | .tree .quotedString qs => .tree .quotedString (qs.map fun x =>
                    if x.isA .bareQuotedString then .tree .bareQuotedString [] else x)
                | other => other
              pure (items ++ [q], true, some after, inner)
            else pure (items, false, none, value)
          else pure (items, false, none, value)
        let (tok, value) ← if startsWith apostrophe value then pure (none, value) else do
            let (t, v) ← paramValue value
            pure (some t, v)
        let initial := shape.extended && shape.number = 0
        if !initial && !startsWith apostrophe value then
          closeParam shape remainder (putInto intoQuote items tok.toList) value
        else if value.isEmpty then
          let items := putInto intoQuote items tok.toList
          match remainder with
          | none => pure (.tree (.parameter shape) items, value)
          | some _ => closeParam shape remainder (putInto intoQuote items [.tree .value []]) value
        else do
          -- the character set and language before the encoded text
          let (items, shape) ← match tok with
            | some t => do
              let last := t.items.getLast?
              match last with
              | some a => do
                let cs ← valueOf a
                pure (putInto intoQuote items [a], { shape with charset := cs })
              | none => raise "NameError"
            | none => pure (items, shape)
          if !startsWith apostrophe value then mismatch
          else do
            let items := putInto intoQuote items [Node.sign .mark apostrophe]
            let value := value.drop 1
            let (items, value) ← if !value.isEmpty && !startsWith apostrophe value then do
                let (lang, v) ← nameText value
                if !startsWith apostrophe v then mismatch
                else pure (putInto intoQuote items [lang], v)
              else pure (items, value)
            let items := putInto intoQuote items [Node.sign .mark apostrophe]
            let value := value.drop 1
            let (t, value) ← match remainder with
              | some _ => do
                let (xs, v) ← looseValueItems (value.length + 1) [] value
                pure (Node.tree .value xs, v)
              | none => paramValue value
            closeParam shape remainder (putInto intoQuote items [t]) value

/-- What stands where a parameter was looked for and none found, up to a `;`. -/
def invalidParameter (value : Glyphs) : Read (Node × Glyphs) := do
  let (items, rest) ← invalidItems [';'] (value.length + 1) [] value
  pure (.tree .invalidParameter items, rest)

/-- The parameters of a MIME header, at most `fuel`, last first. -/
def parameterItems : Nat → List Node → Glyphs → Read (List Node)
  | 0, acc, _ => pure acc
  | _, acc, [] => pure acc
  | fuel + 1, acc, value => do
    let r : List Node × Glyphs × Bool ← match parameter value with
      | .ok (p, v) => pure (p :: acc, v, false)
      | .error s =>
        if !s.isMismatch then .error s
        else do
          let (leader, v) ← cfwsIfAny value
          if v.isEmpty then pure (leader ++ acc, v, true)
          else if startsWith ';' v then pure (leader ++ acc, v, false)
          else do
            let (ip, v) ← invalidParameter v
            pure (ip.prepend leader :: acc, v, false)
    let (acc, value, stop) := r
    if stop then pure acc
    else do
      let (acc, value) ← if !value.isEmpty && !startsWith ';' value then do
          let (ip, v) ← invalidParameter value
          match acc with
          | last :: more => pure (last.append ip.items :: more, v)
          | [] => raise "IndexError"
        else pure (acc, value)
      if value.isEmpty then pure acc
      else parameterItems fuel (Node.sign .mark ';' :: acc) (value.drop 1)

def mimeParameters (value : Glyphs) : Read Node := do
  let acc ← parameterItems (value.length + 1) [] value
  pure (.tree .mimeParameters acc.reverse)

/-- Phrases and stray special characters up to a `;`, and the parameters after it. -/
def findParameters (value : Glyphs) : Read (List Node) := do
  let (items, rest) ← invalidItems [';'] (value.length + 1) [] value
  match rest with
  | [] => pure items
  | _ :: more => pure (items ++ [Node.sign .mark ';', ← mimeParameters more])

/-- The parameters after a header's type: after a `;`, or recovered from what stands there. -/
def afterType (value : Glyphs) : Read (List Node) :=
  match value with
  | [] => pure []
  | g :: rest =>
    if g.is ';' then do pure [Node.sign .mark ';', ← mimeParameters rest]
    else findParameters value

/-- A Content-Type header: a type token, `/`, a subtype token, parameters. -/
def contentType (value : Glyphs) : Read Node := do
  if value.isEmpty then pure (.tree .contentType [])
  else match token value with
    | .error s => if s.isMismatch then .tree .contentType <$> findParameters value else .error s
    | .ok (main, value) =>
      if !startsWith '/' value then
        if value.isEmpty then pure (.tree .contentType [main])
        else do pure (.tree .contentType (main :: (← findParameters value)))
      else
        let value := value.drop 1
        match token value with
        | .error s =>
          if s.isMismatch then do
            pure (.tree .contentType ([main, Node.sign .mark '/'] ++ (← findParameters value)))
          else .error s
        | .ok (sub, value) => do
          pure (.tree .contentType ([main, Node.sign .mark '/', sub] ++ (← afterType value)))

def contentDisposition (value : Glyphs) : Read Node := do
  if value.isEmpty then pure (.tree .contentDisposition [])
  else match token value with
    | .error s =>
      if s.isMismatch then .tree .contentDisposition <$> findParameters value else .error s
    | .ok (kind, value) => do pure (.tree .contentDisposition (kind :: (← afterType value)))

def trailingItems : Nat → List Node → Glyphs → Read (List Node)
  | 0, acc, _ => pure acc
  | _, acc, [] => pure acc
  | fuel + 1, acc, g :: rest =>
    if g.isIn phraseEnds then trailingItems fuel (acc ++ [Node.word .misplaced [g]]) rest
    else do
      let (p, more) ← phrase (g :: rest)
      trailingItems fuel (acc ++ [p]) more

/-- A Content-Transfer-Encoding header: a token, anything after it kept. -/
def transferEncoding (value : Glyphs) : Read Node := do
  if value.isEmpty then pure (.tree .transferEncoding [])
  else
    let (first, value) ← match token value with
      | .ok (t, v) => pure ([t], v)
      | .error s => if s.isMismatch then pure ([], value) else .error s
    let more ← trailingItems (value.length + 1) [] value
    pure (.tree .transferEncoding (first ++ more))

/-- One number of a MIME version: the characters up to `stop`, kept as text. -/
def versionPart (stop : Glyph → Bool) (value : Glyphs) : Node × Glyphs :=
  let (digits, rest) := value.span fun g => !stop g
  (.word (if !digits.isEmpty && digits.all Glyph.isDigit then .digits else .xtext) digits, rest)

/-- A MIME-Version header: two numbers around a period, with comments. -/
def mimeVersion (value : Glyphs) : Read Node := do
  if value.isEmpty then pure (.tree .mimeVersion [])
  else
    let (a, value) ← cfwsIfAny value
    let (major, value) := versionPart (fun g => g.is '.' || g.isIn cfwsLeader) value
    let (b, value) ← cfwsIfAny value
    let acc := a ++ [major] ++ b
    if !startsWith '.' value then
      pure (.tree .mimeVersion (acc ++ (if value.isEmpty then [] else [.word .xtext value])))
    else
      let (c, value) ← cfwsIfAny (value.drop 1)
      let acc := acc ++ [Node.sign .mark '.'] ++ c
      if value.isEmpty then pure (.tree .mimeVersion acc)
      else
        let (minor, value) := versionPart (·.isIn cfwsLeader) value
        let (d, value) ← cfwsIfAny value
        pure (.tree .mimeVersion (acc ++ [minor] ++ d ++
          (if value.isEmpty then [] else [.word .xtext value])))


end MailIngest.Mail.Syntax
