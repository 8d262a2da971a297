import MailIngest.Html.Reference
import MailIngest.Text.Blank
import MailIngest.Text.Case

/-!
# Reading markup into events

Markup is read from left to right into events (`Event`): text, start tags with their
attributes, end tags, and character references by name or number. The reading is lenient, as
mail in the wild needs:

- a tag is `<name` and attributes up to `>`; an attribute value may be quoted with either quote
  or bare, its references are read, and a tag whose end does not come is taken as text once the
  whole input has been seen;
- the text of `script` and `style` is taken as it is, up to the matching end tag;
- comments, declarations and processing instructions are dropped; a marked section must name a
  known keyword, or the reading fails;
- `&name` and `&#number` followed by any character but a letter or digit are references, the
  character after them kept unless it is a semicolon.

The input is read in three passes, as text arriving in two parts and then its end: the first
two stop at the first construct that might still be completed by more text, and the last reads
whatever is left (`read`, which also reports where a failed reading stopped; `events` keeps
the events only).
-/

namespace MailIngest.Html

/-- What the markup reader reports, in order. -/
inductive Event where
  /-- Text between markup. -/
  | text (s : String)
  /-- A start tag, its name and attributes in lower case; an attribute without value has none. -/
  | startTag (name : String) (attrs : List (String × Option String))
  /-- An end tag, its name in lower case. -/
  | endTag (name : String)
  /-- A reference by name, without `&` and `;`. -/
  | entity (name : String)
  /-- A reference by number, without `&#` and `;`: decimal digits, or `x` and hexadecimal digits. -/
  | number (name : String)
deriving DecidableEq, Inhabited

abbrev Source := Array Char

def isGap (c : Char) : Bool := Text.isBlank c

def isLetter (c : Char) : Bool := ('a' ≤ c && c ≤ 'z') || ('A' ≤ c && c ≤ 'Z')

def isAlnum (c : Char) : Bool := isLetter c || c.isDigit

def isHex (c : Char) : Bool := c.isDigit || ('a' ≤ c && c ≤ 'f') || ('A' ≤ c && c ≤ 'F')

/-- Whether a character may stand in a tag name after its first letter. -/
def isTagNameChar (c : Char) : Bool :=
  !(c = '\t' || c = '\n' || c = '\r' || c = '\x0c' || c = ' ' || c = '/' || c = '>' || c = '\x00')

def charAt (s : Source) (i : Nat) : Option Char := s[i]?

/-- The first position from `i` on whose character does not satisfy `p`, at most `fuel`
characters on. -/
def skipFrom (s : Source) (p : Char → Bool) : Nat → Nat → Nat
  | 0, i => i
  | fuel + 1, i =>
    match s[i]? with
    | some c => if p c then skipFrom s p fuel (i + 1) else i
    | none => i

/-- The first position from `i` on whose character does not satisfy `p`. -/
def skipWhile (s : Source) (p : Char → Bool) (i : Nat) : Nat := skipFrom s p (s.size - i) i

def slice (s : Source) (i j : Nat) : String := String.ofList (s.extract i j).toList

def startsAt (s : Source) (i : Nat) (pat : String) : Bool :=
  pat.toList.isPrefixOf (s.extract i (i + pat.length)).toList

def findFrom (s : Source) (c : Char) (i : Nat) : Option Nat :=
  let j := skipWhile s (· ≠ c) i
  if j < s.size then some j else none

/-- The first position from `i` on where a pattern matches, with the end of the match, at most
`fuel` positions on. -/
def searchFromOf (matchAt : Nat → Option Nat) : Nat → Nat → Option (Nat × Nat)
  | 0, _ => none
  | fuel + 1, i =>
    match matchAt i with
    | some e => some (i, e)
    | none => searchFromOf matchAt fuel (i + 1)

/-- The first position from `i` on, up to the end of the markup, where a pattern matches, with
the end of the match. -/
def searchFrom (s : Source) (matchAt : Nat → Option Nat) (i : Nat) : Option (Nat × Nat) :=
  searchFromOf matchAt (s.size + 1 - i) i

/-- White space and slashes that are not followed by `>`, skipped; at most `fuel` of them. -/
def skipGapsOf (s : Source) : Nat → Nat → Nat
  | 0, i => i
  | fuel + 1, i =>
    match charAt s i with
    | some c =>
      if isGap c || (c = '/' && charAt s (i + 1) ≠ some '>') then skipGapsOf s fuel (i + 1) else i
    | none => i

/-- White space and slashes that are not followed by `>`, skipped. -/
def skipGaps (s : Source) (i : Nat) : Nat := skipGapsOf s (s.size + 1) i

/-- The value of an attribute after its name, at `q`: where the value starts and ends, or none
when no `=` follows. A quote that does not close leaves an empty value before it when white
space stands between, a bare value from the last `=` when several `=` stand there, and no value
otherwise. -/
def valueSpan (s : Source) (q : Nat) : Option (Nat × Nat) :=
  let e := skipWhile s isGap q
  if charAt s e ≠ some '=' then none
  else
    let f := skipWhile s (· = '=') e
    let g := skipWhile s isGap f
    let bare := fun (p : Nat) => skipWhile s (fun c => c ≠ '>' && !isGap c) p
    let unclosed : Option (Nat × Nat) :=
      if g > f then some (g - 1, g - 1)
      else if f - e > 1 then some (f - 1, bare (f - 1))
      else none
    match charAt s g with
    | some '"' =>
      match findFrom s '"' (g + 1) with
      | some h => some (g, h + 1)
      | none => unclosed
    | some c =>
      if c.toNat = 39 then
        match findFrom s c (g + 1) with
        | some h => some (g, h + 1)
        | none => unclosed
      else some (g, bare g)
    | none => some (g, g)

/-- Whether an attribute may start at a position: the character before is a quote, white space
or a slash, and the character there may start a name. -/
def attrStarts (s : Source) (p : Nat) : Bool :=
  let before := match charAt s (p - 1) with
    | some c => c = '"' || c.toNat = 39 || isGap c || c = '/'
    | none => false
  match charAt s p with
  | some c => before && p > 0 && !(isGap c || c = '/' || c = '>')
  | none => false

def attrNameEnd (s : Source) (p : Nat) : Nat :=
  skipWhile s (fun c => !(isGap c || c = '/' || c = '=' || c = '>')) (p + 1)

/-- Attributes skipped while looking for the end of a start tag, at most `fuel` of them. -/
def skipAttrs (s : Source) : Nat → Nat → Nat
  | 0, p => p
  | fuel + 1, p =>
    if attrStarts s p then
      let q := attrNameEnd s p
      let q := match valueSpan s q with
        | some (_, h) => skipWhile s isGap h
        | none => q
      skipAttrs s fuel (skipGaps s q)
    else p

/-- Where a start tag at `i` ends, if its end is there: after `>` or `/>`, or, for a tag cut
short by something else, where it was cut. -/
def startTagEnd (s : Source) (i : Nat) : Option Nat :=
  let n := skipWhile s isTagNameChar (i + 2)
  let p := skipWhile s (fun c => isGap c || c = '/') n
  let j := skipWhile s isGap (skipAttrs s (s.size + 1) p)
  match charAt s j with
  | some '>' => some (j + 1)
  | some '/' => if charAt s (j + 1) = some '>' then some (j + 2) else none
  | some c => if isLetter c || c = '=' || c = '/' then none else if j > i then some j else some (i + 1)
  | none => none

/-- An attribute value as given: without its quotes, its references read. -/
def attrValue (raw : String) : String :=
  let cs := raw.toList
  let inner := match cs.head?, cs.getLast? with
    | some a, some b => if a = b && (a = '"' || a.toNat = 39) then String.ofList (cs.drop 1).dropLast else raw
    | _, _ => raw
  if inner.isEmpty then inner else unescape inner

/-- The attributes of a start tag from `k` to `stop`, at most `fuel` of them, and where they
end. -/
def attrsOf (s : Source) (stop : Nat) : Nat → Nat → List (String × Option String) →
    List (String × Option String) × Nat
  | 0, k, acc => (acc.reverse, k)
  | fuel + 1, k, acc =>
    if k < stop && attrStarts s k then
      let q := attrNameEnd s k
      let name := Text.lower (slice s k q)
      match valueSpan s q with
      | some (vs, ve) => attrsOf s stop fuel (skipGaps s ve) ((name, some (attrValue (slice s vs ve))) :: acc)
      | none => attrsOf s stop fuel (skipGaps s q) ((name, none) :: acc)
    else (acc.reverse, k)

def rawTextElements : List String := ["script", "style"]

/-- What reading one construct gives: the events, where reading goes on, and the element whose
text is now taken as it is. -/
structure Step where
  events : List Event
  next : Nat
  raw : Option String

def startTag (s : Source) (i : Nat) (raw : Option String) : Option Step := do
  let stop ← startTagEnd s i
  let nameEnd := skipWhile s isTagNameChar (i + 2)
  let tag := Text.lower (slice s (i + 1) nameEnd)
  let (attrs, k) := attrsOf s stop (s.size + 1) (skipGaps s nameEnd) []
  let rest := Text.trim (slice s k stop)
  if rest = "/>" then pure ⟨[.startTag tag attrs, .endTag tag], stop, raw⟩
  else if rest = ">" then
    pure ⟨[.startTag tag attrs], stop, if rawTextElements.contains tag then some tag else raw⟩
  else pure ⟨[.text (slice s i stop)], stop, raw⟩

/-- Whether a character may stand in an end tag's name after its first letter. -/
def isEndNameChar (c : Char) : Bool := isAlnum c || c = '-' || c = '.' || c = ':' || c = '_'

/-- A well-formed end tag at `i`: `</`, white space, a name, white space, `>`; its name and
end. -/
def endTagAt (s : Source) (i : Nat) : Option (String × Nat) :=
  if !startsAt s i "</" then none
  else
    let a := skipWhile s isGap (i + 2)
    match charAt s a with
    | some c =>
      if isLetter c then
        let b := skipWhile s isEndNameChar (a + 1)
        let e := skipWhile s isGap b
        if charAt s e = some '>' then some (slice s a b, e + 1) else none
      else none
    | none => none

/-- A comment or other construct dropped up to the next `>` from `fr` on. -/
def dropToClose (s : Source) (fr : Nat) (raw : Option String) : Option Step :=
  (findFrom s '>' fr).map fun p => ⟨[], p + 1, raw⟩

def endTag (s : Source) (i : Nat) (raw : Option String) : Option Step := do
  let gt ← findFrom s '>' (i + 1)
  let gtpos := gt + 1
  match endTagAt s i with
  | some (name, _) =>
    let elem := Text.lower name
    match raw with
    | some r => if elem ≠ r then pure ⟨[.text (slice s i gtpos)], gtpos, raw⟩ else pure ⟨[.endTag elem], gtpos, none⟩
    | none => pure ⟨[.endTag elem], gtpos, none⟩
  | none =>
    if raw.isSome then pure ⟨[.text (slice s i gtpos)], gtpos, raw⟩
    else match charAt s (i + 2) with
      | some c =>
        if isLetter c then
          let nameEnd := skipWhile s isTagNameChar (i + 3)
          let close := (findFrom s '>' (skipGaps s nameEnd)).getD gt
          pure ⟨[.endTag (Text.lower (slice s (i + 2) nameEnd))], close + 1, raw⟩
        else if c = '>' then pure ⟨[], i + 3, raw⟩
        else dropToClose s (i + 2) raw
      | none => dropToClose s (i + 2) raw

def commentCloseAt (s : Source) (p : Nat) : Option Nat :=
  if startsAt s p "--" then
    let e := skipWhile s isGap (p + 2)
    if charAt s e = some '>' then some (e + 1) else none
  else none

/-- The end of `]`, white space, `]`, white space and `>` at a position. -/
def sectionCloseAt (s : Source) (p : Nat) : Option Nat :=
  if charAt s p = some ']' then
    let e := skipWhile s isGap (p + 1)
    if charAt s e = some ']' then
      let f := skipWhile s isGap (e + 1)
      if charAt s f = some '>' then some (f + 1) else none
    else none
  else none

def conditionCloseAt (s : Source) (p : Nat) : Option Nat :=
  if charAt s p = some ']' then
    let e := skipWhile s isGap (p + 1)
    if charAt s e = some '>' then some (e + 1) else none
  else none

/-- A marked section at `i` (`<![keyword ...]]>`), dropped; an unknown keyword, or none, fails
the reading. -/
def markedSection (s : Source) (i : Nat) (raw : Option String) : Except String (Option Step) := do
  let start := i + 3
  if start = s.size then return none
  match charAt s start with
  | some c =>
    if !isLetter c then throw "AssertionError"
    let nameEnd := skipWhile s (fun c => isAlnum c || c = '-' || c = '_' || c = '.') (start + 1)
    let e := skipWhile s isGap nameEnd
    if e = s.size then return none
    let name := Text.lower (slice s start nameEnd)
    if ["temp", "cdata", "ignore", "include", "rcdata"].contains name then
      return (searchFrom s (sectionCloseAt s) start).map fun (_, e) => ⟨[], e, raw⟩
    else if ["if", "else", "endif"].contains name then
      return (searchFrom s (conditionCloseAt s) start).map fun (_, e) => ⟨[], e, raw⟩
    else throw "AssertionError"
  | none => return none

def declaration (s : Source) (i : Nat) (raw : Option String) : Except String (Option Step) :=
  if startsAt s i "<!--" then
    pure ((searchFrom s (commentCloseAt s) (i + 4)).map fun (_, e) => ⟨[], e, raw⟩)
  else if startsAt s i "<![" then markedSection s i raw
  else if Text.lower (slice s i (i + 9)) = "<!doctype" then pure (dropToClose s (i + 9) raw)
  else pure (dropToClose s (i + 2) raw)

/-- A construct that starts with `<` at `i`: none when it is not complete. -/
def markup (s : Source) (i : Nat) (raw : Option String) : Except String (Option Step) :=
  match charAt s (i + 1) with
  | some c =>
    if isLetter c then pure (startTag s i raw)
    else if c = '/' then pure (endTag s i raw)
    else if startsAt s i "<!--" then declaration s i raw
    else if c = '?' then pure (dropToClose s (i + 2) raw)
    else if c = '!' then declaration s i raw
    else pure (some ⟨[.text "<"], i + 1, raw⟩)
  | none => pure none

/-- A reference by number at `i`: its name and the end of the match, which includes the
character after it. -/
def numberAt (s : Source) (i : Nat) : Option (String × Nat) :=
  let d := skipWhile s Char.isDigit (i + 2)
  if d > i + 2 then
    match charAt s d with
    | some c => if isHex c then none else some (slice s (i + 2) d, d + 1)
    | none => none
  else match charAt s (i + 2) with
    | some x =>
      if x = 'x' || x = 'X' then
        let h := skipWhile s isHex (i + 3)
        if h > i + 3 && (charAt s h).isSome then some (slice s (i + 2) h, h + 1) else none
      else none
    | none => none

/-- A reference by name at `i`: its name and the end of the match, which includes the character
after it. -/
def entityAt (s : Source) (i : Nat) : Option (String × Nat) :=
  match charAt s (i + 1) with
  | some c =>
    if !isLetter c then none
    else
      let g := skipWhile s (fun c => isAlnum c || c = '-' || c = '.') (i + 2)
      if g < s.size then some (slice s (i + 1) g, g + 1)
      else
        let ends := (List.range (g - (i + 2))).reverse.filter fun m =>
          match charAt s (i + 2 + m) with
          | some c => !isAlnum c
          | none => false
        match ends.head? with
        | some m => some (slice s (i + 1) (i + 2 + m), i + 3 + m)
        | none => none
  | none => none

/-- Whether a character matches a lower-case ASCII letter when case is ignored as the reader's
patterns ignore it: the letter in either case, and also the long s for `s`, the dotted and
dotless i for `i`, and the Kelvin sign for `k`, whose case mappings lead to those letters. -/
def foldsTo (c letter : Char) : Bool :=
  c.toLower = letter || (letter = 's' && c = '\u017F') ||
    (letter = 'i' && (c = '\u0130' || c = '\u0131')) || (letter = 'k' && c = '\u212A')

/-- Where text ends before the next construct: the next `&` or `<`, or, in text taken as it is,
the matching end tag, if there is one. -/
def textEnd (s : Source) (raw : Option String) (i : Nat) : Option Nat :=
  match raw with
  | none => some (if i ≥ s.size then s.size else skipWhile s (fun c => c ≠ '&' && c ≠ '<') i)
  | some r =>
    (searchFrom s (fun p =>
      if startsAt s p "</" then
        let a := skipWhile s isGap (p + 2)
        let name := (s.extract a (a + r.length)).toList
        if name.length = r.length && (name.zip r.toList).all fun (c, l) => foldsTo c l then
          let e := skipWhile s isGap (a + r.length)
          if charAt s e = some '>' then some (e + 1) else none
        else none
      else none) i).map (·.1)

/-- Where a pass of the reader ended: the events, where it stopped, the element whose text is
being taken as it is, and the failure that stopped it, if one did. -/
structure PassEnd where
  events : List Event
  stop : Nat
  raw : Option String
  failure : Option String

/-- One pass of the reader from `i`, at most `fuel` constructs, after the events `done`, the
latest first; at the end of the input the rest is text. -/
def pass (s : Source) (atEnd : Bool) : Nat → Nat → Option String → List Event → PassEnd
  | 0, i, raw, done => ⟨done.reverse, i, raw, none⟩
  | fuel + 1, i, raw, done =>
    let finish := fun (i : Nat) (raw : Option String) (done : List Event) =>
      if atEnd && i < s.size && raw.isNone then ⟨(.text (slice s i s.size) :: done).reverse, s.size, raw, none⟩
      else ⟨done.reverse, i, raw, none⟩
    if i ≥ s.size then finish i raw done
    else match textEnd s raw i with
    | none => finish i raw done
    | some j =>
      let done := if i < j then .text (slice s i j) :: done else done
      if j ≥ s.size then finish j raw done
      else match charAt s j with
      | some '<' =>
        match markup s j raw with
        | .error e => ⟨done.reverse, j, raw, some e⟩
        | .ok (some st) => pass s atEnd fuel st.next st.raw (st.events.reverse ++ done)
        | .ok none =>
          if charAt s (j + 1) = none || !atEnd then finish j raw done
          else
            let k := match findFrom s '>' (j + 1) with
              | some p => p + 1
              | none => (findFrom s '<' (j + 1)).getD (j + 1)
            pass s atEnd fuel k raw (.text (slice s j k) :: done)
      | some '&' =>
        if startsAt s j "&#" then
          match numberAt s j with
          | some (name, e) =>
            let k := if charAt s (e - 1) = some ';' then e else e - 1
            pass s atEnd fuel k raw (.number name :: done)
          | none =>
            if (findFrom s ';' j).isSome then finish (j + 2) raw (.text "&#" :: done)
            else finish j raw done
        else
          match entityAt s j with
          | some (name, e) =>
            let k := if charAt s (e - 1) = some ';' then e else e - 1
            pass s atEnd fuel k raw (.entity name :: done)
          | none =>
            match charAt s (j + 1) with
            | some c =>
              if isLetter c then finish (if atEnd && j + 2 = s.size then j + 1 else j) raw done
              else pass s atEnd fuel (j + 1) raw (.text "&" :: done)
            | none => finish j raw done
      | _ => finish j raw done

/-- What one pass reported, and where it began. -/
structure Pass where
  start : Nat
  events : List Event

/-- What reading some markup gave: the passes, the failure that stopped the last of them if
one did, the markup read, where reading stopped, and the element whose text is then being taken
as it is. -/
structure Reading where
  passes : List Pass
  failure : Option String
  source : Source
  stop : Nat
  raw : Option String

/-- Markup read as a reader does that is given the text, then nothing more, then the end, when
it starts in the element `raw` whose text it takes as it is (none outside such an element). -/
def read (raw : Option String) (markupText : String) : Reading :=
  let s : Source := markupText.toList.toArray
  let run := fun (atEnd : Bool) (i : Nat) (raw : Option String) => pass s atEnd (s.size + 2) i raw []
  let first := run false 0 raw
  let one : List Pass := [⟨0, first.events⟩]
  if first.failure.isSome then ⟨one, first.failure, s, 0, first.raw⟩
  else
    let second := run false first.stop first.raw
    let two := one ++ [⟨first.stop, second.events⟩]
    if second.failure.isSome then ⟨two, second.failure, s, first.stop, second.raw⟩
    else
      let third := run true second.stop second.raw
      let three := two ++ [⟨second.stop, third.events⟩]
      if third.failure.isSome then ⟨three, third.failure, s, second.stop, third.raw⟩
      else ⟨three, none, s, third.stop, third.raw⟩

/-- The events of markup read from its start, outside any element, in order. -/
def events (markupText : String) : List Event :=
  ((read none markupText).passes.map Pass.events).flatten


example : events "<b>x</b>" = [.startTag "b" [], .text "x", .endTag "b"] := by decide

end MailIngest.Html
