import MailIngest.Html.Token
import MailIngest.Decimal.Read
import MailIngest.Text.Replace
import MailIngest.Text.Digit
import MailIngest.Text.Numeral

/-!
# Markup written as Markdown text

A message whose only body is markup gets a plain text body: the markup's events
(`MailIngest.Html.Event`) are written as Markdown by a scribe (`Scribe`), a record of what is
open (lists, quotes, links, preformatted text) and of the breaks and blanks still owed.

- Text has its runs of white space shown as one blank, outside preformatted text; a blank or a
  paragraph break owed is written only before the next text, so none ends the output.
- Text outside code is escaped piece by piece: a backslash that would escape, and a number's
  point, a plus sign or a dash at the start of a line of the piece that would begin a list item.
- Paragraphs, headings (`#` marks), rules (`* * *`), quotes (`>` marks), list items (`*` or a
  number, indented two blanks a level, three inside an ordered list), table cells (`|`), emphasis (`_`, `**`, `~~`), code
  (a backtick) and inline links (`[text](address "title")`) are written as Markdown; an
  address that is its own text is written in angle brackets, and an address starting with `#`
  is no link.
- Images are dropped; the text of `head`, `script` and `style` is not written.
- References by name are read by a table that writes accented letters and typographic marks
  as plain letters and marks, else by the standard table; references by number as the
  character, the same marks again as plain ones, a bad number as markup reads it.
- Preformatted text inside a list item is indented four blanks past the item's text.

The scribe's record outlives one conversion: what a conversion leaves open, the next one finds
open (`Converter`).
-/

namespace MailIngest.Html

/-- The text that stands for a non-breaking space until the end, where it becomes a blank. -/
def spaceMark : String := "&nbsp_place_holder;"

/-- The plain text the converter writes for some references by name. -/
def plainReferences : List (String × String) :=
  [("rsquo", "\x27"), ("lsquo", "\x27"), ("rdquo", "\""), ("ldquo", "\""), ("copy", "(C)"),
   ("mdash", "--"), ("nbsp", spaceMark), ("rarr", "->"), ("larr", "<-"), ("middot", "*"),
   ("ndash", "-"), ("oelig", "oe"), ("aelig", "ae"), ("agrave", "a"), ("aacute", "a"),
   ("acirc", "a"), ("atilde", "a"), ("auml", "a"), ("aring", "a"), ("egrave", "e"),
   ("eacute", "e"), ("ecirc", "e"), ("euml", "e"), ("igrave", "i"), ("iacute", "i"),
   ("icirc", "i"), ("iuml", "i"), ("ograve", "o"), ("oacute", "o"), ("ocirc", "o"),
   ("otilde", "o"), ("ouml", "o"), ("ugrave", "u"), ("uacute", "u"), ("ucirc", "u"),
   ("uuml", "u"), ("lrm", ""), ("rlm", "")]

/-- The plain text the converter writes for the numbers of the same characters, the
non-breaking space apart. -/
def plainNumbers : List (Nat × String) :=
  [(8217, "\x27"), (8216, "\x27"), (8221, "\""), (8220, "\""), (169, "(C)"), (8212, "--"),
   (8594, "->"), (8592, "<-"), (183, "*"), (8211, "-"), (339, "oe"), (230, "ae"),
   (224, "a"), (225, "a"), (226, "a"), (227, "a"), (228, "a"), (229, "a"),
   (232, "e"), (233, "e"), (234, "e"), (235, "e"), (236, "i"), (237, "i"), (238, "i"),
   (239, "i"), (242, "o"), (243, "o"), (244, "o"), (245, "o"), (246, "o"),
   (249, "u"), (250, "u"), (251, "u"), (252, "u"), (8206, ""), (8207, "")]

/-- The text of a reference by name: the plain table, else the standard table, else the
reference as written. -/
def entityText (name : String) : String :=
  match plainReferences.lookup name with
  | some v => v
  | none => (namedReference? (name ++ ";")).getD ("&" ++ name ++ ";")

/-- The character a reference by number stands for, a bad number read as markup reads it:
zero and the numbers 0x80 to 0x9F as `remappedNumbers` says, a surrogate and a number past
Unicode as U+FFFD, a control or non-character as itself. -/
def numberedChar (n : Nat) : Char :=
  match remappedNumbers.find? (·.1 = n) with
  | some (_, c) => c
  | none => if (0xD800 ≤ n && n < 0xE000) || n > 0x10FFFF then '\uFFFD' else Char.ofNat n

/-- The text of a reference by number in text: the character it stands for, written by the
plain table when that has it. -/
def numberInText (name : String) : String :=
  let n := match name.toList with
    | x :: ds => if x = 'x' || x = 'X' then hexValue ds else decimalValue (x :: ds)
    | [] => 0
  let c := numberedChar n
  (plainNumbers.lookup c.toNat).getD (String.singleton c)

/-- Runs of white space shown as one blank, after white space when `inGap`. -/
def collapseFrom (inGap : Bool) : List Char → List Char
  | [] => []
  | c :: rest =>
    if isGap c then (if inGap then collapseFrom true rest else ' ' :: collapseFrom true rest)
    else c :: collapseFrom false rest

def collapseBlanks (cs : List Char) : List Char := collapseFrom false cs

/-- Whether a character is one that Markdown gives a meaning after a backslash. -/
def isMarkdownSpecial (c : Char) : Bool :=
  c = '\\' || c = '*' || c = '_' || c.toNat = 96 || c.toNat = 123 || c.toNat = 125 ||
    c = '[' || c = ']' || c = '(' || c = ')' || c = '#' || c = '+' || c = '-' || c = '.' || c = '!'

/-- Text with each backslash doubled that would otherwise take the meaning off the next
character. -/
def escapeBackslashes : List Char → List Char
  | [] => []
  | '\\' :: c :: rest =>
    if isMarkdownSpecial c then '\\' :: '\\' :: escapeBackslashes (c :: rest)
    else '\\' :: escapeBackslashes (c :: rest)
  | c :: rest => c :: escapeBackslashes rest

/-- Where a scan of a line's start stands: blanks only since the line began, blanks and then
digits, or past the line's start. -/
inductive LineLead where
  | blanks
  | digits
  | past
deriving DecidableEq

/-- Text with a backslash before each `mark` that stands at a line's start, after blanks (and,
when `afterDigits`, after blanks and at least one digit), and before a character `follows`
accepts. -/
def escapeLeading (afterDigits : Bool) (mark : Char) (follows : Char → Bool) :
    LineLead → List Char → List Char
  | _, [] => []
  | lead, c :: rest =>
    let escape := c = mark && (rest.head?.map follows).getD false &&
      lead = (if afterDigits then .digits else .blanks)
    let lead' : LineLead := if c = '\n' then .blanks
      else match lead with
        | .blanks =>
          if Text.isBlank c then .blanks
          else if afterDigits && Text.isDecimalDigit c then .digits else .past
        | .digits => if Text.isDecimalDigit c then .digits else .past
        | .past => .past
    (if escape then ['\\', c] else [c]) ++ escapeLeading afterDigits mark follows lead' rest

/-- Text escaped so that Markdown reads it as text: backslashes that would escape, then a
number's point, a plus sign and a dash that would begin a list item at a line's start. -/
def escapeSection (s : String) : String :=
  let cs := escapeBackslashes s.toList
  let cs := escapeLeading true '.' Text.isBlank .blanks cs
  let cs := escapeLeading false '+' Text.isBlank .blanks cs
  let cs := escapeLeading false '-' (fun c => Text.isBlank c || c = '-') .blanks cs
  String.ofList cs

/-- Text inside a link's brackets or parentheses, with a backslash before each backslash,
bracket and parenthesis. -/
def escapeLinkText (s : String) : String :=
  String.ofList (s.toList.flatMap fun c =>
    if c = '\\' || c = '[' || c = ']' || c = '(' || c = ')' then ['\\', c] else [c])

def isAsciiGap (c : Char) : Bool :=
  c = ' ' || c = '\t' || c = '\n' || c = '\r' || c = '\x0b' || c = '\x0c'

def isPunctuation (c : Char) : Bool :=
  let n := c.toNat
  (33 ≤ n && n ≤ 47) || (58 ≤ n && n ≤ 64) || (91 ≤ n && n ≤ 96) || (123 ≤ n && n ≤ 126)

/-- Whether text starts with an address's scheme: letters or plus signs, then a colon and two
slashes. -/
def isAbsoluteAddress (s : String) : Bool :=
  let scheme := s.toList.takeWhile fun c => isLetter c || c = '+'
  !scheme.isEmpty && (s.toList.drop scheme.length).take 3 = [':', '/', '/']

def headingLevel (tag : String) : Nat :=
  match tag.toList with
  | ['h', d] => if '1' ≤ d && d ≤ '9' then d.toNat - 48 else 0
  | _ => 0

/-- The value of an attribute: the last one given under the name; none inside when it has
no value. -/
def attr (attrs : List (String × Option String)) (name : String) : Option (Option String) :=
  (attrs.filter (·.1 = name)).getLast?.map (·.2)

/-- A list being written: ordered or not, and the number of its last item. -/
structure ListLevel where
  ordered : Bool
  count : Int
deriving Inhabited

/-- A link being written: its address and title. -/
structure Link where
  address : String
  title : String

/-- How a piece of output is pushed: when there is text, even when empty, or as the end. -/
inductive Push where
  | normal
  | forced
  | final
deriving DecidableEq

/-- What the scribe keeps between events. -/
structure Scribe where
  /-- Open `head`, `script` and `style` elements, whose text is not written. -/
  quiet : Int := 0
  /-- Line breaks owed before the next text. -/
  breaks : Nat := 0
  /-- At the start of a block, where owed blanks and breaks are dropped. -/
  start : Bool := true
  /-- A blank owed before the next text. -/
  space : Bool := false
  /-- The open links, the innermost first; none for an anchor that is no link. -/
  links : List (Option Link) := []
  /-- The address of a link whose text has not begun. -/
  pendingLink : Option String := none
  /-- A link that has written nothing yet. -/
  emptyLink : Bool := false
  /-- The open lists, the outermost first. -/
  lists : List ListLevel := []
  /-- The depth of quotes. -/
  quoteDepth : Int := 0
  /-- The indentation of the text of the current list item, where its preformatted text is
  indented further. -/
  codeIndent : String := ""
  /-- Inside preformatted text. -/
  pre : Bool := false
  /-- At the start of preformatted text. -/
  startPre : Bool := false
  /-- Inside code. -/
  code : Bool := false
  /-- Inside a quotation. -/
  quote : Bool := false
  /-- What a soft line break leaves at the end of its line. -/
  brToggle : String := ""
  /-- The last piece of output ended a line. -/
  lastWasNL : Bool := false
  /-- The last tag opened or closed a list. -/
  lastWasList : Bool := false
  /-- The title of the abbreviation being read. -/
  abbrTitle : Option String := none
  /-- The text of the abbreviation being read. -/
  abbrData : Option String := none
  /-- The abbreviations defined, in order. -/
  abbrs : List (String × String) := []
  /-- Emphasis has just begun. -/
  stressed : Bool := false
  /-- Emphasis has just begun and its first text has been written. -/
  precedingStressed : Bool := false
  /-- The last text written. -/
  precedingData : String := ""
  /-- The last tag seen. -/
  currentTag : String := ""
  /-- The next table cell is written after a bar. -/
  splitNextTd : Bool := false
  /-- The cells of the current table row. -/
  tdCount : Nat := 0
  /-- The first row of a table is still open. -/
  tableStart : Bool := false
  /-- The output, in pieces. -/
  out : Array String := #[]
deriving Inhabited

namespace Scribe

def emit (st : Scribe) (s : String) : Scribe :=
  { st with out := st.out.push s,
            lastWasNL := if s.isEmpty then st.lastWasNL else s.toList.getLast? = some '\n' }

def paragraph (st : Scribe) : Scribe := { st with breaks := 2 }

def lineBreak (st : Scribe) : Scribe := if st.breaks = 0 then { st with breaks := 1 } else st

def softBreak (st : Scribe) : Scribe := { st.lineBreak with brToggle := "  " }

/-- The prefix of each new line: the quote marks, and the indentation of preformatted text,
four blanks past the text of the list item it stands in. -/
def linePrefix (st : Scribe) (cs : List Char) (push : Push) : List Char :=
  let marks := List.replicate st.quoteDepth.toNat '>'
  let marks := if !(push ≠ .normal && cs.head? = some '>') && st.quoteDepth ≠ 0 then marks ++ [' '] else marks
  if st.pre then
    marks ++ (if st.lists.isEmpty then [] else st.codeIndent.toList) ++ List.replicate 4 ' '
  else marks

/-- Text written, with the breaks and blank owed before it; `pure` text has its white space
shown as blanks. The first text after a preformatted block begins on a line of its own, except
in a list item, whose line already holds its indentation: there the leading breaks go, and
inside the block the line prefix goes too. -/
def write (st : Scribe) (data : String) (pure : Bool) (push : Push) : Scribe := Id.run do
  let mut st := match st.abbrData with
    | some a => { st with abbrData := some (a ++ data) }
    | none => st
  if st.quiet ≠ 0 then return st
  let mut cs := data.toList
  if pure && !st.pre then
    cs := collapseBlanks cs
    if cs.head? = some ' ' then
      st := { st with space := true }
      cs := cs.drop 1
  if cs.isEmpty && push = .normal then return st
  if st.startPre && cs.head? ≠ some '\n' && cs.take 2 ≠ ['\r', '\n'] then cs := '\n' :: cs
  let bq := st.linePrefix cs push
  if st.pre then cs := cs.flatMap fun c => if c = '\n' then '\n' :: bq else [c]
  if st.startPre then
    st := { st with startPre := false }
    if !st.lists.isEmpty then cs := cs.dropWhile fun c => c = '\n' || (st.pre && bq.contains c)
  if st.start then st := { st with space := false, breaks := 0, start := false }
  if push = .final then st := { (st.emit "\n") with breaks := 0, space := false }
  if st.breaks ≠ 0 then
    st := st.emit (String.join (List.replicate st.breaks (st.brToggle ++ "\n" ++ String.ofList bq)))
    st := { st with space := false, brToggle := "" }
  if st.space then
    if !st.lastWasNL then st := st.emit " "
    st := { st with space := false }
  if push = .final then
    for (abbr, d) in st.abbrs do st := st.emit ("  *[" ++ abbr ++ "]: " ++ d ++ "\n")
  return { st with breaks := 0 }.emit (String.ofList cs)

def put (st : Scribe) (s : String) : Scribe := st.write s false .normal

/-- Whether the first character of text after emphasis needs a blank before it. -/
def needsBlank (st : Scribe) (c : Char) : Bool :=
  !(c = ']' || c = '[' || c = '(' || c = ')' || c.toNat = 123 || c.toNat = 125 || isGap c ||
      c = '.' || c = '!' || c = '?') &&
    headingLevel st.currentTag = 0 && !(["a", "code", "pre"].contains st.currentTag)

/-- Text written as it is in code and preformatted text and when it comes from a reference,
escaped elsewhere. -/
def plainText (st : Scribe) (data : String) (entity : Bool) : Scribe :=
  let data := if !st.code && !st.pre && !entity then escapeSection data else data
  { st with precedingData := data }.write data true .normal

/-- Text written; `entity` text, from a reference, is written without escapes. -/
def text (st : Scribe) (data : String) (entity : Bool) : Scribe :=
  if data.isEmpty then st
  else
    let (st, data) :=
      if st.stressed then ({ st with stressed := false, precedingStressed := true }, Text.trim data)
      else if st.precedingStressed then
        let data := match data.toList.head? with
          | some c => if st.needsBlank c then " " ++ data else data
          | none => data
        ({ st with precedingStressed := false }, data)
      else (st, data)
    match st.pendingLink with
    | some address =>
      if address = data && isAbsoluteAddress address then
        { (st.put ("<" ++ data ++ ">")) with emptyLink := false }
      else
        let st := { (st.put "[") with pendingLink := none, emptyLink := false }
        st.plainText data entity
    | none => st.plainText data entity

/-- A heading tag: the marks of its level, or inside a link only where the link has not
written; none after an end tag, which ends the tag's handling. -/
def heading (st : Scribe) (level : Nat) (start : Bool) : Option Scribe :=
  let marks := String.ofList (List.replicate level '#') ++ " "
  if !st.links.isEmpty then
    if start then
      if st.out.back? = some "[" then
        some (({ st with out := st.out.pop, space := false }.put marks).put "[")
      else some st
    else none
  else
    let st := st.paragraph
    if start then some (st.put marks) else none

/-- An emphasis mark, with a blank before it where the text before would run into it. -/
def emphasis (st : Scribe) (mark : String) (start : Bool) (runsOn : Char → Bool) : Scribe :=
  let joined := start && (st.precedingData.toList.getLast?.map runsOn).getD false
  let st := if joined then { st with precedingData := st.precedingData ++ " " } else st
  let st := st.put (if joined then " " ++ mark else mark)
  if start then { st with stressed := true } else st

/-- The end of a link: its address and title after the text. -/
def closeLink (st : Scribe) : Scribe :=
  match st.links with
  | [] => st
  | a :: rest =>
    let st := { st with links := rest }
    if (st.pendingLink.map (!·.isEmpty)).getD false && !st.emptyLink then { st with pendingLink := none }
    else match a with
      | some link =>
        let st := if st.emptyLink then { (st.put "[") with emptyLink := false, pendingLink := none } else st
        let title := escapeLinkText link.title
        let titlePart := if (Text.trim title).isEmpty then "" else " \"" ++ title ++ "\""
        { st with breaks := 0 }.put ("](" ++ escapeLinkText link.address ++ titlePart ++ ")")
      | none => st

def openLink (st : Scribe) (attrs : List (String × Option String)) : Scribe :=
  match attr attrs "href" with
  | some (some address) =>
    if address.startsWith "#" then { st with links := none :: st.links }
    else
      let title := ((attr attrs "title").bind id).getD ""
      { st with links := some ⟨address, title⟩ :: st.links, pendingLink := some address, emptyLink := true }
  | _ => { st with links := none :: st.links }

/-- The number before the first item of a list: one less than its `start`, or zero; a `start`
without a value fails. -/
def numberingStart (attrs : List (String × Option String)) : Option Int :=
  match attr attrs "start" with
  | some (some v) => some (((Text.readNumeral? v).map (· - 1)).getD 0)
  | some none => none
  | none => some 0

/-- A list tag: a list opened or closed; none when its start cannot be read. -/
def listTag (st : Scribe) (ordered : Bool) (attrs : List (String × Option String)) (start : Bool) :
    Option Scribe := do
  let st := if st.lists.isEmpty && !st.lastWasList then st.paragraph else st
  let st ← if start then
      (numberingStart attrs).map fun n => { st with lists := st.lists ++ [⟨ordered, n⟩] }
    else if st.lists.isEmpty then some st
    else
      let st := { st with lists := st.lists.dropLast }
      some (if st.lists.isEmpty then st.put "\n" else st)
  some { st with lastWasList := true }

/-- The indentation of a list item: two blanks a level, three inside an ordered list. -/
def indent (levels : List ListLevel) : List String :=
  (none :: levels.map (some ·.ordered)).take levels.length |>.map fun parent =>
    if parent = some true then "   " else "  "

/-- The start of a list item: its indentation and mark; preformatted text met on the way is
indented as the item's text will be. -/
def item (st : Scribe) : Scribe :=
  let li := st.lists.getLast?.getD ⟨false, 0⟩
  let steps := String.join (indent st.lists)
  let st := { st with codeIndent := steps }.put steps
  let st := { st with codeIndent := steps ++ if li.ordered then "   " else "  " }
  let st := if li.ordered then
      let n := li.count + 1
      let lists := st.lists.dropLast ++ [{ li with count := n }]
      { st with lists }.put (toString n ++ ". ")
    else st.put "* "
  { st with start := true }

/-- A table tag: a bar between cells, and a rule under the first row. -/
def tableTag (st : Scribe) (tag : String) (start : Bool) : Scribe :=
  let cell := tag = "td" || tag = "th"
  let st := if tag = "table" && start then { st with tableStart := true } else st
  let st := if cell && start then
      let st := if st.splitNextTd then st.put "| " else st
      { st with splitNextTd := true }
    else st
  let st := if tag = "tr" && start then { st with tdCount := 0 } else st
  let st := if tag = "tr" && !start then { st with splitNextTd := false }.softBreak else st
  let st := if tag = "tr" && !start && st.tableStart then
      { (st.put ("|".intercalate (List.replicate st.tdCount "---"))).softBreak with tableStart := false }
    else st
  if cell && start then { st with tdCount := st.tdCount + 1 } else st

/-- The tags after headings: each writes its marks or changes what is open. -/
def blockTag (st : Scribe) (tag : String) (attrs : List (String × Option String)) (start : Bool) :
    Scribe :=
  let st := if (tag = "p" || tag = "div") && st.links.isEmpty && !st.splitNextTd then st.paragraph else st
  let st := if tag = "br" && start then st.put (if st.quoteDepth > 0 then "  \n> " else "  \n") else st
  let st := if tag = "hr" && start then (st.paragraph.put "* * *").paragraph else st
  let st := if tag = "head" || tag = "style" || tag = "script" then
      { st with quiet := if start then st.quiet + 1 else st.quiet - 1 }
    else st
  let st := if tag = "body" then { st with quiet := 0 } else st
  let st := if tag = "blockquote" then
      if start then { (st.paragraph.write "> " false .forced) with start := true, quoteDepth := st.quoteDepth + 1 }
      else { st with quoteDepth := st.quoteDepth - 1 }.paragraph
    else st
  let st := if tag = "em" || tag = "i" || tag = "u" then
      st.emphasis "_" start fun c => !isAsciiGap c && !isPunctuation c
    else st
  let st := if tag = "strong" || tag = "b" then st.emphasis "**" start (· = '*') else st
  let st := if tag = "del" || tag = "strike" || tag = "s" then st.emphasis "~~" start (· = '~') else st
  let st := if (tag = "kbd" || tag = "code" || tag = "tt") && !st.pre then
      { (st.put (String.singleton (Char.ofNat 96))) with code := !st.code }
    else st
  let st := if tag = "q" then { (st.put "\"") with quote := !st.quote } else st
  let st := if tag = "a" then (if start then st.openLink attrs else st.closeLink) else st
  let st := if tag = "dl" && start then st.paragraph else st
  let st := if tag = "dt" && !start then st.lineBreak else st
  let st := if tag = "dd" then (if start then st.put "    " else st.lineBreak) else st
  st

/-- An abbreviation tag: its title kept, and its text defined by it at its end; none when an
end finds no text. -/
def abbrTag (st : Scribe) (attrs : List (String × Option String)) (start : Bool) : Option Scribe :=
  if start then
    some { st with abbrTitle := (attr attrs "title").bind id, abbrData := some "" }
  else
    match st.abbrTitle with
    | some t =>
      match st.abbrData with
      | some d =>
        let abbrs := if st.abbrs.any (·.1 = d) then st.abbrs.map fun (k, v) => (k, if k = d then t else v)
          else st.abbrs ++ [(d, t)]
        some { st with abbrs, abbrTitle := none, abbrData := none }
      | none => none
    | none => some { st with abbrData := none }

/-- A tag: the scribe after it, and the failure it met, if any. -/
def tag (st : Scribe) (name : String) (attrs : List (String × Option String)) (start : Bool) :
    Scribe × Option String :=
  let st := { st with currentTag := name }
  let st := if start && st.pendingLink.isSome && !(["p", "div", "style", "dl", "dt"].contains name) then
      { (st.put "[") with pendingLink := none, emptyLink := false }
    else st
  let level := headingLevel name
  match (if level ≠ 0 then st.heading level start else some st) with
  | none => (if st.links.isEmpty then st.paragraph else { st with breaks := 0 }, none)
  | some st =>
    let st := st.blockTag name attrs start
    match (if name = "abbr" then st.abbrTag attrs start else some st) with
    | none => (st, some "AssertionError")
    | some st =>
      let listed := if name = "ol" || name = "ul" then st.listTag (name = "ol") attrs start
        else some { st with lastWasList := false }
      match listed with
      | none => (if st.lists.isEmpty && !st.lastWasList then st.paragraph else st, some "AssertionError")
      | some st =>
        let st := if name = "li" then
            (if start then st.lineBreak.item else { st.lineBreak with codeIndent := "" })
          else st
        let st := if ["table", "tr", "td", "th"].contains name then st.tableTag name start else st
        let st := if name = "pre" then
            (if start then { st with startPre := true, pre := true }
              else { st with pre := false }).paragraph
          else st
        (st, none)

/-- An event written: the scribe after it, and the failure it met, if any. -/
def step (st : Scribe) : Event → Scribe × Option String
  | .text s => (st.text s false, none)
  | .startTag name attrs => st.tag name attrs true
  | .endTag name => st.tag name [] false
  | .entity name =>
    let ref := entityText name
    (if ref.isEmpty then st else st.text ref true, none)
  | .number name => (st.text (numberInText name) true, none)

/-- Events written in order, up to the first failure: the scribe, how many events were written,
and the failure. -/
def steps (st : Scribe) : List Event → Scribe × Nat × Option String
  | [] => (st, 0, none)
  | e :: rest =>
    match st.step e with
    | (st, some f) => (st, 0, some f)
    | (st, none) =>
      let (st, n, f) := steps st rest
      (st, n + 1, f)

/-- The end of the output: the breaks owed, then the text, its non-breaking spaces as blanks. -/
def finish (st : Scribe) : Scribe × String :=
  let st := st.lineBreak.write "" false .final
  ({ st with out := #[] }, Text.replaceAll spaceMark " " (String.join st.out.toList))

end Scribe

/-- The element whose text is taken as it is after some events, from where it was before. -/
def rawAfter (raw : Option String) (events : List Event) : Option String :=
  events.foldl (fun raw e => match e with
    | .startTag name _ => if rawTextElements.contains name then some name else raw
    | .endTag _ => none
    | _ => raw) raw

/-- A converter from markup to Markdown text, with what it keeps between conversions: markup
it has not finished reading, the element whose text it takes as it is, and the scribe. -/
structure Converter where
  pending : String := ""
  raw : Option String := none
  scribe : Scribe := {}
deriving Inhabited

/-- The text that stands in markup for the end of a script, written apart. -/
def splitScriptEnd : String := "</\x27 + \x27script>"

/-- Passes written in order, up to the first failure: the scribe, and, at a failure, where its
pass began and the element then open. -/
def writePasses (raw : Option String) : Scribe → List Pass → Scribe × Option (String × Nat × Option String)
  | st, [] => (st, none)
  | st, p :: rest =>
    match st.steps p.events with
    | (st, n, some f) => (st, some (f, p.start, rawAfter raw (p.events.take n)))
    | (st, _, none) => writePasses (rawAfter raw p.events) st rest

/-- Markup converted to Markdown text: the converter after it, and the text or the failure. -/
def Converter.convert (c : Converter) (markup : String) : Converter × Except String String :=
  let reading := read c.raw (c.pending ++ Text.replaceAll splitScriptEnd "</ignore>" markup)
  let rest := fun (i : Nat) => slice reading.source i reading.source.size
  match writePasses c.raw { c.scribe with start := true } reading.passes with
  | (st, some (f, from_, raw)) => ({ pending := rest from_, raw, scribe := st }, .error f)
  | (st, none) =>
    match reading.failure with
    | some f =>
      ({ pending := rest reading.stop, raw := rawAfter c.raw (reading.passes.flatMap Pass.events), scribe := st },
        .error f)
    | none =>
      let (st, text) := st.finish
      ({ pending := rest reading.stop, raw := reading.raw, scribe := st }, .ok text)

def markdown (markup : String) : Except String String := (({} : Converter).convert markup).2


example : markdown "<b>x</b>" = .ok "**x**\n" := by rfl

end MailIngest.Html
