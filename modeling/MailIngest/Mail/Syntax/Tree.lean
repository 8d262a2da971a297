import MailIngest.Mail.Glyph
import MailIngest.Mail.EncodedWord

/-!
# Parse trees of header values

A structured header value is read into a tree whose leaves are runs of its text. The tree keeps
everything the text held, comments and white space included, because a header is shown again
from its tree (`shown`), while its meaning is read from it in a different way (`valueOf`): a
comment or a run of white space means a single space, a quoted string means its content, and the
white space between two encoded words means nothing.

Reading can stop in three ways (`Stop`): the text does not have the form looked for, which the
reader of a larger form may recover from by trying another; an encoded word does not decode; or
the text breaks an assumption of the reader (an index past the end, an attribute a node lacks),
which no reader recovers from and which ends the reading of the whole header.

The parameters of a MIME header are shown decoded: each name once, its RFC 2231 sections
joined in order and their percent escapes read in the character set of the first section
(`params`).

The main statements are `quoteString_plain` (text without quotes or backslashes is quoted by
wrapping alone) and `valueOf_blank` (white space means one space).
-/

namespace MailIngest.Mail.Syntax

/-- Why reading stopped. -/
inductive Stop where
  /-- The text does not have the form looked for. -/
  | mismatch
  /-- An encoded word that does not decode. -/
  | malformed
  /-- A broken assumption of the reader, by the name of its error class. -/
  | fault (name : String)
deriving DecidableEq, Inhabited

abbrev Read (α : Type) := Except Stop α

/-- Whether reading stopped because the text does not have the form looked for, an encoded
word that does not decode included. -/
def Stop.isMismatch : Stop → Bool
  | .mismatch | .malformed => true
  | .fault _ => false

def raise {α : Type} (name : String) : Read α := .error (.fault name)

/-- Fails because the text does not have the form looked for. -/
def mismatch {α : Type} : Read α := .error .mismatch

/-- Runs `p`, and `q` instead when `p` finds the text does not have its form. -/
def orElse {α : Type} (p : Read α) (q : Unit → Read α) : Read α :=
  match p with
  | .error s => if s.isMismatch then q () else .error s
  | r => r

/-- How a MIME parameter was written: with an RFC 2231 section number, marked as encoded,
and the character set it names. -/
structure ParamShape where
  sectioned : Bool := false
  extended : Bool := false
  number : Nat := 0
  charset : Glyphs := glyphs "us-ascii"
deriving DecidableEq, Inhabited

/-- The kinds of nodes: leaf kinds first, then the grammar rules. -/
inductive Kind where
  | fws | ptext | vtext | atext | ttext | attrtext | extAttrtext | dot | digits | xtext
  | misplaced | mark | label
  | plain | unstructured | phrase | cfws | comment | atom | token | encodedWord
  | quotedString | bareQuotedString | addressList | address | mailboxList | groupList
  /-- A group; a demoted one has had text after it and counts as an invalid mailbox. -/
  | group (demoted : Bool)
  | nameAddr | angleAddr | obsRoute | mailbox | invalidMailbox
  | domain | dotAtom | dotAtomText | noFoldLiteral | addrSpec | obsLocalPart
  /-- A display name; a flagged one was not a plain run of words. -/
  | displayName (flagged : Bool)
  | localPart | domainLiteral | mimeVersion
  | parameter (shape : ParamShape)
  | invalidParameter | attribute | sectionMark | value | mimeParameters
  | contentType | contentDisposition | transferEncoding | msgId | messageId | headerLabel
deriving DecidableEq, Inhabited

/-- How a leaf reads: as its text, as one space, or as nothing at all. -/
inductive Face where
  | word
  | blank
  | joint
deriving DecidableEq, Inhabited

/-- A node of a parse tree: a leaf of text, a rule over its parts, or a complaint that a reader
placed among the parts. -/
inductive Node where
  | leaf (kind : Kind) (face : Face) (text : Glyphs)
  | tree (kind : Kind) (items : List Node)
  | note (text : String)
deriving Inhabited

namespace Node

def word (k : Kind) (text : Glyphs) : Node := .leaf k .word text

def sign (k : Kind) (c : Char) : Node := .leaf k .word [.char c]

def period : Node := sign .dot '.'

def kind? : Node → Option Kind
  | .leaf k _ _ => some k
  | .tree k _ => some k
  | .note _ => none

def isA (k : Kind) (n : Node) : Bool := n.kind? == some k

def items : Node → List Node
  | .tree _ xs => xs
  | _ => []

def isLeaf : Node → Bool
  | .leaf .. => true
  | _ => false

def prepend (xs : List Node) : Node → Node
  | .tree k ys => .tree k (xs ++ ys)
  | n => n

def append (xs : List Node) : Node → Node
  | .tree k ys => .tree k (ys ++ xs)
  | n => n

def withKind (k : Kind) : Node → Node
  | .tree _ ys => .tree k ys
  | .leaf _ f t => .leaf k f t
  | n => n

end Node

/-- Text between double quotes, each backslash and double quote escaped by a backslash. -/
def quoteString (gs : Glyphs) : Glyphs :=
  .char '"' :: gs.flatMap (fun g => if g.is '\\' || g.is '"' then [.char '\\', g] else [g]) ++
    [.char '"']

/-- Text inside a comment, its backslashes and parentheses escaped. -/
def escapeComment (gs : Glyphs) : Glyphs :=
  gs.flatMap fun g => if g.is '\\' || g.is '(' || g.is ')' then [.char '\\', g] else [g]

mutual

/-- How a node is shown; `mime` shows a list of MIME parameters. -/
def shownBy (mime : List Node → Read Glyphs) : Node → Read Glyphs
  | .leaf _ .joint _ => pure []
  | .leaf _ _ t => pure t
  | .note s => pure (glyphs s)
  | .tree .mimeParameters xs => mime xs
  | .tree .bareQuotedString xs => quoteString <$> shownAllBy mime xs
  | .tree .comment xs => do
    let inner ← commentBy mime xs
    pure (.char '(' :: inner ++ [.char ')'])
  | .tree _ xs => shownAllBy mime xs

def shownAllBy (mime : List Node → Read Glyphs) : List Node → Read Glyphs
  | [] => pure []
  | x :: xs => do
    let a ← shownBy mime x
    let b ← shownAllBy mime xs
    pure (a ++ b)

/-- How the parts of a comment are shown: nested comments as they are, all else escaped. -/
def commentBy (mime : List Node → Read Glyphs) : List Node → Read Glyphs
  | [] => pure []
  | x :: xs => do
    let a ← shownBy mime x
    let b ← commentBy mime xs
    pure ((if x.isA .comment then a else escapeComment a) ++ b)

end

def shownPlain (n : Node) : Read Glyphs := shownBy (shownAllBy fun _ => pure []) n

/-- Whether the first part of a node is comments and white space, looking one level into the
first part when it is not: a leaf there has no parts to look into. -/
def startsBlank (xs : List Node) (pick : List Node → Option Node) : Read Bool :=
  match pick xs with
  | none => raise "IndexError"
  | some x =>
    if x.isA .cfws then pure true
    else match x with
      | .tree _ ys => match pick ys with
        | some y => pure (y.isA .cfws)
        | none => raise "IndexError"
      | _ => raise "AttributeError"

mutual

/-- What a node means: its text, with comments and white space as one space, quoted strings
as their content and the white space between encoded words as nothing; `named` gives what the
parts of a quoted display name mean. -/
def valueBy (named : List Node → Read Glyphs) : Node → Read Glyphs
  | .leaf _ .word t => pure t
  | .leaf _ .blank _ => pure [.char ' ']
  | .leaf _ .joint _ => pure []
  | .note _ => raise "AttributeError"
  | .tree .cfws _ | .tree .comment _ => pure [.char ' ']
  | .tree .bareQuotedString xs => shownAllBy (shownAllBy fun _ => pure []) xs
  | .tree (.displayName flagged) xs => do
    let quote := flagged || xs.any (·.isA .quotedString)
    if xs.isEmpty || !quote then valuesBy named xs
    else
      let pre ← startsBlank xs List.head?
      let post ← startsBlank xs List.getLast?
      let name ← named xs
      pure ((if pre then [.char ' '] else []) ++ quoteString name ++
        (if post then [.char ' '] else []))
  | .tree .addrSpec xs =>
    match xs with
    | a :: b :: c :: _ => do
      let va ← valueBy named a
      let vb ← valueBy named b
      let vc ← valueBy named c
      pure ((va.reverse.dropWhile Glyph.isSpace).reverse ++ vb ++ vc.dropWhile Glyph.isSpace)
    | a :: _ => valueBy named a
    | [] => raise "IndexError"
  | .tree .localPart xs =>
    match xs with
    | .tree .quotedString ys :: _ => quotedValueBy named ys
    | x :: _ => valueBy named x
    | [] => raise "IndexError"
  | .tree _ xs => valuesBy named xs

def valuesBy (named : List Node → Read Glyphs) : List Node → Read Glyphs
  | [] => pure []
  | x :: xs => do
    let a ← valueBy named x
    let b ← valuesBy named xs
    pure (a ++ b)

/-- A quoted string as it is quoted: its quoted part as shown, the rest as meant. -/
def quotedValueBy (named : List Node → Read Glyphs) : List Node → Read Glyphs
  | [] => pure []
  | x :: xs => do
    let a ← if x.isA .bareQuotedString then shownPlain x else valueBy named x
    let b ← quotedValueBy named xs
    pure (a ++ b)

end

/-- The display name a list of words gives, meant as `val` reads parts: without the comments
and white space at either end, and failing when nothing is left once the front is stripped. -/
def displayNameBy (val : List Node → Read Glyphs) (xs : List Node) : Read Glyphs := do
  match xs with
  | [] => pure []
  | first :: _ =>
    let front : List Node ←
      if first.isA .cfws then pure xs.tail
      else match first with
        | .tree _ (y :: ys) =>
          pure (if y.isA .cfws then Node.tree .plain ys :: xs.tail else xs)
        | .tree _ [] => raise "IndexError"
        | _ => raise "AttributeError"
    match front.getLast? with
    | none => raise "IndexError"
    | some last =>
      let body := front.dropLast
      let back : List Node ←
        if last.isA .cfws then pure body
        else match last with
          | .tree _ ys@(_ :: _) =>
            match ys.getLast? with
            | some y => pure (if y.isA .cfws then body ++ [Node.tree .plain ys.dropLast] else front)
            | none => pure front
          | .tree _ [] => raise "IndexError"
          | _ => raise "AttributeError"
      val back

/-- The display name a list of words gives. Its parts are words, periods, comments and white
space, none of them a display name, so they are read with no rule for display names. -/
def displayNameOf (xs : List Node) : Read Glyphs := displayNameBy (valuesBy fun _ => pure []) xs

def valueOf (n : Node) : Read Glyphs := valueBy displayNameOf n

def valuesOf (xs : List Node) : Read Glyphs := valuesBy displayNameOf xs

/-- The meaning of a value node: a quoted string or parameter name as its content, anything
else as meant; `none` when there is no content to take. -/
def strippedValueOf (n : Node) : Read (Option Glyphs) := do
  let first ← match n.items with
    | x :: y :: _ => pure (if x.isA .cfws then y else x)
    | [x] => if x.isA .cfws then raise "IndexError" else pure x
    | [] => raise "IndexError"
  if first.isA .quotedString || first.isA .bareQuotedString then
    (first.items.find? (·.isA .bareQuotedString)).mapM valueOf
  else if first.isA .attribute then
    (first.items.find? fun y => y.isA .attrtext || y.isA .extAttrtext).mapM valueOf
  else some <$> valueOf n

/-- The value of a parameter as written: its first value node, or a value node inside the
quoted part of a quoted string before it. -/
def paramValueOf : List Node → Read (Option Glyphs)
  | [] => pure (some [])
  | x :: xs =>
    if x.isA .value then strippedValueOf x
    else if x.isA .quotedString then
      match ((x.items.filter (·.isA .bareQuotedString)).flatMap Node.items).find?
          (·.isA .value) with
      | some v => strippedValueOf v
      | none => paramValueOf xs
    else paramValueOf xs

/-- Percent escapes read as bytes: `%XX` of two hexadecimal digits is its byte, any other `%`
stands for itself. -/
def unpercent : List UInt8 → List UInt8
  | [] => []
  | 0x25 :: a :: b :: r =>
    if Transfer.isHexByte a && Transfer.isHexByte b then
      (Transfer.hexByteValue a * 16 + Transfer.hexByteValue b).toUInt8 :: unpercent r
    else 0x25 :: unpercent (a :: b :: r)
  | x :: r => x :: unpercent r
termination_by bs => bs.length

def isAsciiGlyph : Glyph → Bool
  | .char c => c.toNat < 0x80
  | _ => false

/-- The runs of ASCII characters and of other units in header text, each marked by whether it
is ASCII. -/
def asciiRuns : Glyphs → List (Bool × Glyphs)
  | [] => []
  | g :: rest =>
    match asciiRuns rest with
    | (a, run) :: more =>
      if a == isAsciiGlyph g then (a, g :: run) :: more
      else (isAsciiGlyph g, [g]) :: (a, run) :: more
    | [] => [(isAsciiGlyph g, [g])]

/-- An encoded parameter section decoded: percent escapes as bytes read in the character set
keeping undecodable bytes raw, an unknown one as ASCII, and a failure of reading stops; text
holding raw bytes has its ASCII runs read as Latin-1 instead. -/
def decodeSection (charset : Glyphs) (v : Glyphs) : Read Glyphs :=
  if hasBytes v then
    pure ((asciiRuns v).flatMap fun (ascii, run) =>
      if ascii then
        (unpercent (run.filterMap fun g => match g with
          | .char c => some c.toNat.toUInt8
          | _ => none)).map fun b => Glyph.char (Char.ofNat b.toNat)
      else run)
  else
    let bytes := unpercent (v.flatMap Glyph.bytes)
    match EncodedWord.readKeepingRaw charset bytes with
    | .ok gs => pure gs
    | .error failure => raise failure

/-- A parameter as the decoding of MIME parameters sees it: its name, section number and shape. -/
structure ParamPart where
  name : Glyphs
  number : Nat
  shape : ParamShape
  node : List Node

/-- The parameters among the parts of a MIME parameter list. -/
def paramParts (xs : List Node) : Read (List ParamPart) :=
  xs.filterMapM fun x => match x with
    | .tree (.parameter shape) (a :: rest) =>
      if a.isA .attribute then do
        let name ← valueOf a
        pure (some { name := stripSpace name, number := if shape.sectioned then shape.number else 0,
                     shape, node := a :: rest })
      else pure none
    | _ => pure none

/-- Sections in order of their numbers, equal numbers in order of appearance. -/
def insertBySection (p : ParamPart) : List ParamPart → List ParamPart
  | [] => [p]
  | q :: qs => if p.number < q.number then p :: q :: qs else q :: insertBySection p qs

/-- The names of the parameters, each once, in order of first appearance. -/
def paramNames (ps : List ParamPart) : List Glyphs :=
  ps.foldl (fun acc p => if acc.contains p.name then acc else acc ++ [p.name]) []

def joinSections (parts : List ParamPart) : Read Glyphs := do
  match parts with
  | [] => pure []
  | first :: _ =>
    let parts := if !first.shape.extended && parts.length > 1 &&
        (parts.drop 1).head?.map (·.number) == some 0 then [first] else parts
    let step : Nat × List Glyphs → ParamPart → Read (Nat × List Glyphs) := fun (i, acc) p => do
      if p.number ≠ i && !p.shape.extended then pure (i, acc)
      else
        let v ← paramValueOf p.node
        let v ← match v with
          | some v => pure v
          | none => raise "TypeError"
        let v ← if p.shape.extended then decodeSection first.shape.charset v else pure v
        pure (i + 1, acc ++ [v])
    let (_, pieces) ← parts.foldlM step (0, [])
    pure pieces.flatten

/-- The parameters of a MIME parameter list, decoded: each name once with its value. -/
def params (xs : List Node) : Read (List (Glyphs × Glyphs)) := do
  let ps ← paramParts xs
  (paramNames ps).mapM fun name => do
    let mine := (ps.filter (·.name == name)).foldl (fun acc p => insertBySection p acc) []
    pure (name, ← joinSections mine)

/-- A MIME parameter list shown: `; `-separated `name="value"`, or the bare name for an empty
value, after one space. -/
def paramsShown (xs : List Node) : Read Glyphs := do
  let ps ← params xs
  let shownOne : Glyphs × Glyphs → Glyphs := fun (n, v) =>
    if v.isEmpty then n else n ++ [.char '='] ++ quoteString v
  match ps.map shownOne with
  | [] => pure []
  | first :: rest => pure (.char ' ' :: first ++ rest.flatMap (glyphs "; " ++ ·))

def shown (n : Node) : Read Glyphs := shownBy paramsShown n

/-- Whether a complaint was placed among the parts of a tree, which makes collecting the
tree's defects fail. -/
def hasNote : Node → Bool
  | .note _ => true
  | .leaf .. => false
  | .tree _ xs => hasNoteIn xs
where
  hasNoteIn : List Node → Bool
    | [] => false
    | x :: xs => hasNote x || hasNoteIn xs

/-- Collecting a tree's defects: fails on a complaint placed among its parts. -/
def checkDefects (n : Node) : Read Unit := if hasNote n then raise "AttributeError" else pure ()

/-- Text without quotes or backslashes is quoted by wrapping alone. -/
theorem quoteString_plain (gs : Glyphs) (h : ∀ g ∈ gs, g.is '\\' = false ∧ g.is '"' = false) :
    quoteString gs = .char '"' :: gs ++ [.char '"'] := by
  unfold quoteString
  congr 1
  congr 1
  induction gs with
  | nil => rfl
  | cons g r ih =>
    have hg := h g (by simp)
    have hr := ih (fun x hx => h x (by simp [hx]))
    rw [List.flatMap_cons, hr]
    simp [hg.1, hg.2]

theorem valueOf_blank (k : Kind) (t : Glyphs) : valueOf (.leaf k .blank t) = pure [.char ' '] := by
  simp [valueOf, valueBy]

end MailIngest.Mail.Syntax
