import MailIngest.Text.Blank
import MailIngest.Text.Case
import MailIngest.Text.Charset
import MailIngest.Text.Utf8
import MailIngest.Text.Hex
import MailIngest.Text.Replace
import MailIngest.Mail.Syntax.Tree

/-!
# Header parameters read loosely

Beside the header grammar there is an older, looser reading of the parameters of a header
such as `Content-Type: text/plain; charset="utf-8"`, and it is the one that finds a part's
boundary, file name and character set. The text is cut at semicolons that stand outside
double quotes (a quote escaped by a backslash does not count), each piece is a name and a
value around its first `=`, and the first piece is the header's main value.

Pieces named `name*`, `name*0`, `name*1*` and so on are the parts of one extended value: they
are put in order of their numbers, percent escapes are read in the parts marked with a final
`*`, and such a value starts with its character set and language, separated by apostrophes.
A name given both with and without a number cannot be put in order, which is an error.

A value is unquoted (`unquote`) when it is asked for; an extended value is read in its
character set when the name is known (`collapse`).

The main statement is `unquote_plain` (a value without quotes or brackets is itself).
-/

namespace MailIngest.Mail.LooseParams

/-- A value without the double quotes around it, its escapes read; or without angle
brackets. -/
def unquote (s : String) : String :=
  let cs := s.toList
  if cs.length > 1 then
    let inner := (cs.drop 1).dropLast
    if cs.head? = some '"' && cs.getLast? = some '"' then
      let once := Text.replaceList ['\\', '\\'] ['\\'] (inner.length + 1) inner
      String.ofList (Text.replaceList ['\\', '"'] ['"'] (once.length + 1) once)
    else if cs.head? = some '<' && cs.getLast? = some '>' then String.ofList inner
    else s
  else s

def quote (s : String) : String :=
  String.ofList (s.toList.flatMap fun c => if c = '\\' || c = '"' then ['\\', c] else [c])

def semicolonFrom (s : List Char) (start : Nat) : Option Nat :=
  ((s.drop start).findIdx? (· = ';')).map (· + start)

def escapedQuotes : List Char → Nat
  | '\\' :: '"' :: rest => escapedQuotes rest + 1
  | _ :: rest => escapedQuotes rest
  | [] => 0

def insideQuotes (t : List Char) : Bool := (t.count '"' - escapedQuotes t) % 2 = 1

/-- The end of the first piece of a text: the first semicolon outside quotes, or the end. -/
def pieceEnd (s : List Char) : Nat :=
  let rec seek : Nat → Option Nat → Nat
    | _, none => s.length
    | 0, some e => e
    | fuel + 1, some e =>
      if e > 0 && insideQuotes (s.take e) then seek fuel (semicolonFrom s (e + 1)) else e
  seek (s.length + 1) (semicolonFrom s 0)

/-- A piece with the blanks around it, and around its first `=`, dropped, and the name before
the `=` in lower case. -/
def tidyPiece (f : List Char) : String :=
  match f.findIdx? (· = '=') with
  | some i =>
    Text.trim (Text.lower (Text.trim (String.ofList (f.take i))) ++ "=" ++
      Text.trim (String.ofList (f.drop (i + 1))))
  | none => Text.trim (String.ofList f)

/-- The pieces of a text that starts with a semicolon, at most `fuel` of them. -/
def piecesOf : Nat → List Char → List String
  | 0, _ => []
  | fuel + 1, s =>
    match s with
    | ';' :: s =>
      let e := pieceEnd s
      tidyPiece (s.take e) :: piecesOf fuel (s.drop e)
    | _ => []

def pieces (text : String) : List String :=
  piecesOf (text.length + 2) (';' :: text.toList)

def splitPiece (p : String) : String × String :=
  match p.toList.findIdx? (· = '=') with
  | some i => (Text.trim (String.ofList (p.toList.take i)), Text.trim (String.ofList (p.toList.drop (i + 1))))
  | none => (Text.trim p, "")

/-- A parameter value: plain text, or an extended value with its character set and language
when it gives them. -/
inductive Value where
  | plain (text : String)
  | extended (charset : Option String) (language : Option String) (text : String)
deriving DecidableEq, Inhabited

def isWordChar (c : Char) : Bool := c.isAlphanum && c.toNat < 0x80 || c = '_'

/-- The name and number of the part of an extended value: `name*`, `name*N` or `name*N*`. -/
def partName (name : String) : Option (String × Option Nat) :=
  let cs := name.toList
  let base := cs.takeWhile (· ≠ '*')
  if base.isEmpty || !base.all isWordChar then none
  else match cs.drop base.length with
    | '*' :: rest =>
      let digits := rest.takeWhile Char.isDigit
      let after := rest.drop digits.length
      if rest.isEmpty then some (String.ofList base, none)
      else if !digits.isEmpty && (after.isEmpty || after = ['*']) then
        some (String.ofList base, some (digits.foldl (fun n d => n * 10 + (d.toNat - 48)) 0))
      else none
    | _ => none

/-- A part of an extended value: its number, text, and whether its percent escapes are read. -/
structure Part where
  number : Option Nat
  text : String
  encoded : Bool
deriving DecidableEq, Inhabited

/-- Whether one part comes before another: by number, then text, then encoding. -/
def Part.before (a b : Part) : Bool :=
  match a.number, b.number with
  | some x, some y => x < y || (x = y && (a.text < b.text || (a.text = b.text && !a.encoded && b.encoded)))
  | _, _ => a.text < b.text || (a.text = b.text && !a.encoded && b.encoded)

def insertPart (p : Part) : List Part → List Part
  | [] => [p]
  | q :: rest => if Part.before q p then q :: insertPart p rest else p :: q :: rest

/-- Parts in order; parts with and without numbers cannot be compared. -/
def sortParts (ps : List Part) : Except String (List Part) :=
  if ps.length > 1 && ps.any (·.number.isSome) && ps.any (·.number.isNone) then .error "TypeError"
  else .ok (ps.foldr insertPart [])

/-- Percent escapes in ASCII runs read as bytes and those bytes as Latin-1 characters. -/
def unpercentLatin (s : String) : String :=
  if !s.toList.contains '%' then s
  else
    let runs := s.toList.splitBy fun a b => (a.toNat < 0x80) == (b.toNat < 0x80)
    String.join (runs.map fun run =>
      if run.all (·.toNat < 0x80) then
        Text.Utf8.ofBytes (Syntax.unpercent (run.map fun c => c.toNat.toUInt8))
      else String.ofList run)

/-- An extended value's text split at its first two apostrophes into character set, language
and text. -/
def splitCoded (s : String) : Value :=
  match s.splitOn (String.singleton (Char.ofNat 39)) with
  | cs :: lang :: rest@(_ :: _) =>
    .extended (some cs) (some lang) ("\"" ++ String.intercalate (String.singleton (Char.ofNat 39)) rest ++ "\"")
  | _ => .extended none none ("\"" ++ s ++ "\"")

/-- Adds a part to the parts of its name, keeping names in order of first appearance. -/
def addPart (name : String) (p : Part) : List (String × List Part) → List (String × List Part)
  | [] => [(name, [p])]
  | (n, ps) :: rest => if n = name then (n, ps ++ [p]) :: rest else (n, ps) :: addPart name p rest

def joinParts (ps : List Part) : Except String Value := do
  let ps ← sortParts ps
  let texts := ps.map fun p => if p.encoded then unpercentLatin p.text else p.text
  let joined := quote (String.join texts)
  if ps.any (·.encoded) then pure (splitCoded joined) else pure (.plain ("\"" ++ joined ++ "\""))

/-- The parameters of a header's text: the main value first, then the plain parameters, then
the extended ones. -/
def params (text : String) : Except String (List (String × Value)) := do
  match (pieces text).map splitPiece with
  | [] => pure []
  | (n, v) :: rest =>
    let step : (List (String × Value) × List (String × List Part)) → (String × String) →
        (List (String × Value) × List (String × List Part)) := fun (plain, coded) (name, value) =>
      let value := unquote value
      match partName name with
      | some (base, number) => (plain, addPart base ⟨number, value, name.endsWith "*"⟩ coded)
      | none => (plain ++ [(name, .plain ("\"" ++ quote value ++ "\""))], coded)
    let (plain, coded) := rest.foldl step ([], [])
    let extended ← coded.mapM fun (name, ps) => do
      let v ← joinParts ps
      pure (name, v)
    pure ((n, .plain v) :: plain ++ extended)

/-- The value of a parameter, unquoted, by its name in any case. -/
def find (ps : List (String × Value)) (name : String) : Option Value :=
  (ps.find? fun p => Text.lower p.1 = Text.lower name).map fun p =>
    match p.2 with
    | .plain v => .plain (unquote v)
    | .extended cs lang v => .extended cs lang (unquote v)

/-- A text as the bytes of its characters, those past Latin-1 written as escapes. -/
def rawEscaped (s : String) : List UInt8 :=
  s.toList.flatMap fun c =>
    if c.toNat < 0x100 then [c.toNat.toUInt8]
    else if c.toNat < 0x10000 then Text.Utf8.toBytes ("\\u" ++ Text.Hex.padded 4 c.toNat)
    else Text.Utf8.toBytes ("\\U" ++ Text.Hex.padded 8 c.toNat)

/-- A parameter value as text: an extended value read in its character set with replacement,
where a lone surrogate the codec reads is kept, or unquoted when the character set is unknown;
a failure of reading stops. -/
def collapse : Value → Except String (List Text.CodePoint)
  | .plain v => .ok (Text.CodePoint.ofString (unquote v))
  | .extended cs _ v =>
    match Text.Charset.decodeNamed? (cs.getD "us-ascii") (rawEscaped v) with
    | some r => r
    | none => .ok (Text.CodePoint.ofString (unquote v))

theorem unquote_plain (s : String) (h : s.toList.length ≤ 1) : unquote s = s := by
  simp [unquote, Nat.not_lt.mpr h]


end MailIngest.Mail.LooseParams
