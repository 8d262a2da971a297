import MailIngest.Mail.Glyph

/-!
# Recipients of a message

The recipients of an address header are read from its text as pairs of a name and an address,
by a scanner that is older and laxer than the header grammar: it walks the text once, keeping
comments aside, and takes an address from whatever it finds.

- Comments in parentheses are set aside as they are met, and become the name of an address that
  has no other; an address in angle brackets keeps them after its phrase, in parentheses.
- A phrase is a run of words and quoted strings; an address without angle brackets is the
  first word of its phrase.
- A group `name: a, b;` gives its members.
- A domain with a second `@` gives no address at all.

The scan is checked against the text (`recipients`): a text whose parentheses do not balance
outside quoted names is replaced by one that gives an empty pair, an address holding `[` is
replaced by an empty pair, and when the number of pairs is not one more than the commas outside
quoted names, the whole reading is a single empty pair.

The main statement is `stripQuoted_plain` (text without quotes is kept).
-/

namespace MailIngest.Mail.Recipients

/-- Where the scan stands: the text still to read, and the comments set aside so far. -/
structure Cursor where
  rest : List Char
  comments : List String

abbrev Scan := StateM Cursor

/-- A recipient as read: a name and an address, either possibly empty. -/
abbrev Pair := String × String

def atomEnds : List Char := "()<>@,:;.\"[]".toList ++ [' ', '\t', '\r', '\n']

/-- The characters that end a word of a phrase: those of an atom but the period. -/
def phraseEnds : List Char := atomEnds.filter (· ≠ '.')

def specials : List Char := "()<>@,:;.\"[]".toList

def peek : Scan (Option Char) := do return (← get).rest.head?

def advance : Scan Unit := modify fun c => { c with rest := c.rest.drop 1 }

def keep (s : String) : Scan Unit := modify fun c => { c with comments := c.comments ++ [s] }

def joinSpace (ws : List String) : String := " ".intercalate ws

/-- Backslashes and double quotes escaped, as inside a quoted string. -/
def escapeQuoted (s : String) : String :=
  String.ofList (s.toList.flatMap fun c => if c = '\\' || c = '"' then ['\\', c] else [c])

/-- The inside of a delimited fragment up to one of its end characters, which is passed; a
backslash takes the next character as it is, and nested comments, when allowed, give their
inside. -/
def delimitedBody : Nat → List Char → Bool → Bool → List Char → Scan (List Char)
  | 0, _, _, _, acc => pure acc.reverse
  | fuel + 1, ends, nested, escaped, acc => do
    match ← peek with
    | none => pure acc.reverse
    | some c =>
      if escaped then
        advance
        delimitedBody fuel ends nested false (c :: acc)
      else if ends.contains c then
        advance
        pure acc.reverse
      else if nested && c = '(' then
        advance
        let inner ← delimitedBody fuel [')', '\r'] true false []
        delimitedBody fuel ends nested false (inner.reverse ++ acc)
      else if c = '\\' then
        advance
        delimitedBody fuel ends nested true acc
      else
        advance
        delimitedBody fuel ends nested false (c :: acc)

/-- A fragment that starts with `open`, up to one of its end characters; empty when the text
does not start with `open`. -/
def delimited (opening : Char) (ends : List Char) (nested : Bool) : Scan String := do
  let cur ← get
  match cur.rest with
  | c :: _ =>
    if c = opening then
      advance
      String.ofList <$> delimitedBody (cur.rest.length + 1) ends nested false []
    else pure ""
  | [] => pure ""

def comment : Scan String := delimited '(' [')', '\r'] true

def quoted : Scan String := delimited '"' ['"', '\r'] false

def domainLiteral : Scan String := do
  let body ← delimited '[' [']', '\r'] false
  pure ("[" ++ body ++ "]")

def atom (ends : List Char) : Scan String := do
  let cur ← get
  let (a, rest) := cur.rest.span fun c => !ends.contains c
  set { cur with rest }
  pure (String.ofList a)

/-- Blanks and comments skipped, the comments set aside; gives the spaces and tabs met. -/
def skipLoop : Nat → List Char → Scan String
  | 0, ws => pure (String.ofList ws.reverse)
  | fuel + 1, ws => do
    match ← peek with
    | some c =>
      if c = ' ' || c = '\t' then
        advance
        skipLoop fuel (c :: ws)
      else if c = '\r' || c = '\n' then
        advance
        skipLoop fuel ws
      else if c = '(' then
        let t ← comment
        keep t
        skipLoop fuel ws
      else pure (String.ofList ws.reverse)
    | none => pure (String.ofList ws.reverse)

def skipBlank : Scan String := do skipLoop ((← get).rest.length + 1) []

/-- The words and quoted strings of a phrase, comments set aside. -/
def phraseLoop : Nat → List String → Scan (List String)
  | 0, acc => pure acc
  | fuel + 1, acc => do
    match ← peek with
    | none => pure acc
    | some c =>
      if c = ' ' || c = '\t' || c = '\r' || c = '\n' then
        advance
        phraseLoop fuel acc
      else if c = '"' then
        let q ← quoted
        phraseLoop fuel (acc ++ [q])
      else if c = '(' then
        let t ← comment
        keep t
        phraseLoop fuel acc
      else if phraseEnds.contains c then pure acc
      else
        let a ← atom phraseEnds
        phraseLoop fuel (acc ++ [a])

def phrase : Scan (List String) := do phraseLoop ((← get).rest.length + 1) []

/-- The parts of a domain, joined; empty when a second `@` follows. -/
def domainLoop : Nat → List String → Scan String
  | 0, acc => pure (String.join acc)
  | fuel + 1, acc => do
    match ← peek with
    | none => pure (String.join acc)
    | some c =>
      if c = ' ' || c = '\t' then
        advance
        domainLoop fuel acc
      else if c = '(' then
        let t ← comment
        keep t
        domainLoop fuel acc
      else if c = '[' then
        let t ← domainLiteral
        domainLoop fuel (acc ++ [t])
      else if c = '.' then
        advance
        domainLoop fuel (acc ++ ["."])
      else if c = '@' then pure ""
      else if atomEnds.contains c then pure (String.join acc)
      else
        let a ← atom atomEnds
        domainLoop fuel (acc ++ [a])

def domain : Scan String := do domainLoop ((← get).rest.length + 1) []

def dropBlankLast (acc : List String) : List String :=
  match acc.getLast? with
  | some l => if (Text.trim l).isEmpty then acc.dropLast else acc
  | none => acc

/-- The parts of a local part: words, quoted strings and periods, with the blanks between
words kept and those around periods dropped. -/
def localLoop : Nat → List String → Scan (List String)
  | 0, acc => pure acc
  | fuel + 1, acc => do
    match ← peek with
    | none => pure acc
    | some c =>
      if c = '.' then
        advance
        let _ ← skipBlank
        localLoop fuel (dropBlankLast acc ++ ["."])
      else if atomEnds.contains c && c ≠ '"' then pure (dropBlankLast acc)
      else
        let word ← if c = '"' then (fun q => "\"" ++ escapeQuoted q ++ "\"") <$> quoted
          else atom atomEnds
        let ws ← skipBlank
        localLoop fuel (acc ++ [word] ++ (if ws.isEmpty then [] else [ws]))

/-- An address: a local part, and `@` and a domain when there is one; empty when the domain
is. -/
def addrSpec : Scan String := do
  let _ ← skipBlank
  let parts ← localLoop ((← get).rest.length + 1) []
  match ← peek with
  | some '@' =>
    advance
    let _ ← skipBlank
    let d ← domain
    pure (if d.isEmpty then "" else String.join parts ++ "@" ++ d)
  | _ => pure (String.join parts)

/-- The route of an address in angle brackets skipped, up to the address and past the closing
bracket. -/
def routeLoop : Nat → Bool → Scan String
  | 0, _ => pure ""
  | fuel + 1, afterAt => do
    match ← peek with
    | none => pure ""
    | some c =>
      if afterAt then
        let _ ← domain
        let _ ← skipBlank
        routeLoop fuel false
      else if c = '>' then
        advance
        pure ""
      else if c = '@' then
        advance
        let _ ← skipBlank
        routeLoop fuel true
      else if c = ':' then
        advance
        let _ ← skipBlank
        routeLoop fuel false
      else
        let spec ← addrSpec
        advance
        pure spec

def routeAddr : Scan String := do
  advance
  let _ ← skipBlank
  routeLoop (2 * (← get).rest.length + 2) false

mutual

/-- The recipients of the next entry: an address, a name and an address, or a group. -/
def entry : Nat → Scan (List Pair)
  | 0 => pure []
  | fuel + 1 => do
    modify fun c => { c with comments := [] }
    let _ ← skipBlank
    let start := (← get).rest
    let words ← phrase
    let _ ← skipBlank
    let cur ← get
    let found ← match cur.rest with
      | [] => pure (match words with
        | w :: _ => [(joinSpace cur.comments, w)]
        | [] => [])
      | c :: _ =>
        if c = '.' || c = '@' then do
          set { cur with rest := start }
          let spec ← addrSpec
          pure [(joinSpace (← get).comments, spec)]
        else if c = ':' then do
          advance
          groupLoop fuel []
        else if c = '<' then do
          let spec ← routeAddr
          let cs := (← get).comments
          if cs.isEmpty then pure [(joinSpace words, spec)]
          else pure [(joinSpace words ++ " (" ++ joinSpace cs ++ ")", spec)]
        else match words with
          | w :: _ => pure [(joinSpace cur.comments, w)]
          | [] => do
            if specials.contains c then advance
            pure []
    let _ ← skipBlank
    if (← peek) = some ',' then advance
    pure found

def groupLoop : Nat → List Pair → Scan (List Pair)
  | 0, acc => pure acc
  | fuel + 1, acc => do
    if (← get).rest.isEmpty then pure acc
    else
      let _ ← skipBlank
      if (← peek) = some ';' then do
        advance
        pure acc
      else
        let more ← entry fuel
        groupLoop fuel (acc ++ more)

end

/-- The recipients of all entries; an entry that gives none counts as an empty pair. -/
def entries : Nat → List Pair → Scan (List Pair)
  | 0, acc => pure acc
  | fuel + 1, acc => do
    if (← get).rest.isEmpty then pure acc
    else
      let found ← entry (2 * (← get).rest.length + 2)
      entries fuel (acc ++ (if found.isEmpty then [("", "")] else found))

def scan (text : String) : List Pair :=
  if text.isEmpty then []
  else (Id.run ((entries (text.length + 1) []).run ⟨text.toList, []⟩)).1

/-- A text cut into characters, a backslash kept with the character it escapes. -/
def escapedUnits : List Char → List (List Char)
  | [] => []
  | ['\\'] => [['\\']]
  | '\\' :: c :: rest => ['\\', c] :: escapedUnits rest
  | c :: rest => [c] :: escapedUnits rest

/-- The units outside double quotes; an unclosed quote keeps what follows it. -/
def outsideQuotes : List (List Char) → List Char → Option (List Char) → List Char
  | [], kept, none => kept
  | [], kept, some held => kept ++ held
  | u :: rest, kept, none => if u = ['"'] then outsideQuotes rest kept (some u)
    else outsideQuotes rest (kept ++ u) none
  | u :: rest, kept, some held => if u = ['"'] then outsideQuotes rest kept none
    else outsideQuotes rest kept (some (held ++ u))

def stripQuoted (s : String) : String :=
  if !s.toList.contains '"' then s
  else String.ofList (outsideQuotes (escapedUnits s.toList) [] none)

/-- Whether the parentheses of a text balance outside quoted names, no closing one coming
first. -/
def balanced (s : String) : Bool :=
  let step : Option Int → List Char → Option Int := fun acc u =>
    match acc with
    | none => none
    | some n =>
      if u = ['('] then some (n + 1)
      else if u = [')'] then (if n - 1 < 0 then none else some (n - 1))
      else some n
  (escapedUnits (stripQuoted s).toList).foldl step (some 0) = some 0

/-- The text put for a header whose parentheses do not balance: it gives one empty pair. -/
def emptyPairText : String :=
  String.ofList ['(', apostrophe, apostrophe, ',', ' ', apostrophe, apostrophe, ')']

/-- The recipients of the texts of an address header, checked against the texts. -/
def recipients (values : List String) : List Pair :=
  let values := values.map fun v => if balanced v then v else emptyPairText
  let found := (scan (", ".intercalate values)).map fun p =>
    if p.2.toList.contains '[' then ("", "") else p
  let expected := values.foldl (fun n v => n + 1 + (stripQuoted v).toList.count ',') 0
  if found.length ≠ expected then [("", "")] else found

theorem stripQuoted_plain (s : String) (h : s.toList.contains '"' = false) : stripQuoted s = s := by
  rw [stripQuoted, h]
  rfl


end MailIngest.Mail.Recipients
