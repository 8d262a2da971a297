import MailIngest.Json.Value
import MailIngest.Decimal.Read

/-!
# Reading JSON text

`Json.parse` reads one JSON document: optional blanks, one value, optional blanks, nothing
else. Besides the standard grammar it accepts the literals `NaN`, `Infinity` and `-Infinity`,
and numbers with a fraction or an exponent become floats (correctly rounded), others integers.
An integer of more than 4300 digits is refused as a failure of its own (`longInteger`), not
as a malformed text, at the point the reading reaches it: a malformed text before it is
reported as such, anything after it is not looked at. A control character inside a string is
refused. When a key repeats in an object, the member keeps its first place and takes the last
value. A lone surrogate escape reads as U+FFFD, since a `String` holds only scalar values.

The reader walks a `List Char` with a fuel argument bounded by the text's length, each nested
value consuming at least one character. `parseWithin` bounds how many arrays and objects may
be open at once, as an interpreter's recursion limit does; past it the reading fails
(`tooDeep`) where it opens one too many.
-/

namespace MailIngest.Json

/-- Why a text is not one JSON document: it breaks the grammar, a document is followed by
more than blanks (at the offset of the extra text), an integer has too many digits to be
converted, or more arrays and objects are open at once than the reading has room for. -/
inductive ParseError where
  | malformed
  | trailing (at_ : Nat)
  | longInteger
  | tooDeep
deriving Repr, DecidableEq

def maxIntDigits : Nat := 4300

def isBlank (c : Char) : Bool := c = ' ' || c = '\t' || c = '\n' || c = '\r'

def skipBlanks : List Char → List Char
  | c :: rest => if isBlank c then skipBlanks rest else c :: rest
  | [] => []

def hexVal (c : Char) : Option Nat :=
  if '0' ≤ c ∧ c ≤ '9' then some (c.toNat - '0'.toNat)
  else if 'a' ≤ c ∧ c ≤ 'f' then some (c.toNat - 'a'.toNat + 10)
  else if 'A' ≤ c ∧ c ≤ 'F' then some (c.toNat - 'A'.toNat + 10)
  else none

def hexUnit (a b c d : Char) : Option Nat := do
  let va ← hexVal a
  let vb ← hexVal b
  let vc ← hexVal c
  let vd ← hexVal d
  pure (((va * 16 + vb) * 16 + vc) * 16 + vd)

/-- The character of a `\\u` escape that stands alone: lone surrogates become U+FFFD. -/
def unitChar (u : Nat) : Char :=
  if 0xD800 ≤ u ∧ u < 0xE000 then '\uFFFD' else Char.ofNat u

/-- The body of a string literal after its opening quote, up to and past the closing quote. -/
def readString : List Char → List Char → Option (String × List Char)
  | [], _ => none
  | '"' :: rest, acc => some (String.ofList acc.reverse, rest)
  | '\\' :: 'u' :: a :: b :: c :: d :: rest, acc =>
    match hexUnit a b c d with
    | none => none
    | some u =>
      if 0xD800 ≤ u ∧ u < 0xDC00 then
        match rest with
        | '\\' :: 'u' :: a2 :: b2 :: c2 :: d2 :: more =>
          match hexUnit a2 b2 c2 d2 with
          | some l =>
            if 0xDC00 ≤ l ∧ l < 0xE000 then
              readString more (Char.ofNat (0x10000 + (u - 0xD800) * 0x400 + (l - 0xDC00)) :: acc)
            else readString ('\\' :: 'u' :: a2 :: b2 :: c2 :: d2 :: more) ('\uFFFD' :: acc)
          | none => none
        | other => readString other ('\uFFFD' :: acc)
      else readString rest (unitChar u :: acc)
  | '\\' :: e :: rest, acc =>
    match e with
    | '"' => readString rest ('"' :: acc)
    | '\\' => readString rest ('\\' :: acc)
    | '/' => readString rest ('/' :: acc)
    | 'b' => readString rest ('\x08' :: acc)
    | 'f' => readString rest ('\x0c' :: acc)
    | 'n' => readString rest ('\n' :: acc)
    | 'r' => readString rest ('\r' :: acc)
    | 't' => readString rest ('\t' :: acc)
    | _ => none
  | '\\' :: [], _ => none
  | c :: rest, acc => if c.toNat < 0x20 then none else readString rest (c :: acc)
termination_by cs => cs.length

/-- The sign of a number token: whether it is negative, and the text after the sign. -/
def readSign : List Char → Bool × List Char
  | '-' :: rest => (true, rest)
  | rest => (false, rest)

/-- The integer part of a number token, without a superfluous leading zero. -/
def readIntPart : List Char → Option (List Char × List Char)
  | '0' :: rest => some (['0'], rest)
  | c :: rest =>
    if '1' ≤ c ∧ c ≤ '9' then
      let (ds, r) := Decimal.spanDigits rest
      some (c :: ds, r)
    else none
  | [] => none

/-- The digits of an optional fraction; a point without digits is no fraction. -/
def readFraction (cs : List Char) : Option (List Char) × List Char :=
  match cs with
  | '.' :: rest =>
    let (ds, r) := Decimal.spanDigits rest
    if ds.isEmpty then (none, cs) else (some ds, r)
  | _ => (none, cs)

def readExponentSign : List Char → Int × List Char
  | '+' :: r => (1, r)
  | '-' :: r => (-1, r)
  | r => (1, r)

/-- An optional exponent; a mark without digits is no exponent. -/
def readExponent (cs : List Char) : Option Int × List Char :=
  match cs with
  | e :: rest =>
    if e = 'e' ∨ e = 'E' then
      let (sgn, r1) := readExponentSign rest
      let (ds, r2) := Decimal.spanDigits r1
      if ds.isEmpty then (none, cs) else (some (sgn * Decimal.digitsValue ds), r2)
    else (none, cs)
  | [] => (none, cs)

/-- A number token: sign, integer part without superfluous leading zero, then an optional
fraction and exponent. -/
def readNumber (cs : List Char) : Except ParseError (Json × List Char) :=
  let (neg, cs1) := readSign cs
  match readIntPart cs1 with
  | none => .error .malformed
  | some (ip, cs2) =>
    let (frac, cs3) := readFraction cs2
    let (ex, cs4) := readExponent cs3
    match frac, ex with
    | none, none =>
      if maxIntDigits < ip.length then .error .longInteger
      else
        let n : Int := Decimal.digitsValue ip
        .ok (.int (if neg then -n else n), cs4)
    | _, _ =>
      let fd := frac.getD []
      let m := Decimal.digitsValue (ip ++ fd)
      let e := ex.getD 0 - fd.length
      let x := Decimal.floatOfDecimal m e
      .ok (.float (if neg then -x else x), cs4)

mutual

/-- One value after optional blanks, with the text after it; `room` arrays and objects may
still be opened inside one another. -/
def readValue : Nat → Nat → List Char → Except ParseError (Json × List Char)
  | 0, _, _ => .error .malformed
  | fuel + 1, room, cs =>
    match skipBlanks cs with
    | '{' :: rest =>
      match room with
      | 0 => .error .tooDeep
      | room + 1 =>
        match skipBlanks rest with
        | '}' :: r => .ok (.obj [], r)
        | r => readMembers fuel room r []
    | '[' :: rest =>
      match room with
      | 0 => .error .tooDeep
      | room + 1 =>
        match skipBlanks rest with
        | ']' :: r => .ok (.arr [], r)
        | r => readItems fuel room r []
    | '"' :: rest =>
      match readString rest [] with
      | some (s, r) => .ok (.str s, r)
      | none => .error .malformed
    | 'n' :: 'u' :: 'l' :: 'l' :: r => .ok (.null, r)
    | 't' :: 'r' :: 'u' :: 'e' :: r => .ok (.bool true, r)
    | 'f' :: 'a' :: 'l' :: 's' :: 'e' :: r => .ok (.bool false, r)
    | 'N' :: 'a' :: 'N' :: r => .ok (.float (0.0 / 0.0), r)
    | 'I' :: 'n' :: 'f' :: 'i' :: 'n' :: 'i' :: 't' :: 'y' :: r => .ok (.float (1.0 / 0.0), r)
    | '-' :: 'I' :: 'n' :: 'f' :: 'i' :: 'n' :: 'i' :: 't' :: 'y' :: r =>
      .ok (.float (-(1.0 / 0.0)), r)
    | r => readNumber r

/-- The elements of an array after its opening bracket, up to and past the closing one. -/
def readItems : Nat → Nat → List Char → List Json → Except ParseError (Json × List Char)
  | 0, _, _, _ => .error .malformed
  | fuel + 1, room, cs, acc =>
    match readValue fuel room cs with
    | .error e => .error e
    | .ok (v, r) =>
      match skipBlanks r with
      | ',' :: r' => readItems fuel room r' (v :: acc)
      | ']' :: r' => .ok (.arr (v :: acc).reverse, r')
      | _ => .error .malformed

/-- The members of an object after its opening brace, up to and past the closing one. -/
def readMembers : Nat → Nat → List Char → List (String × Json) → Except ParseError (Json × List Char)
  | 0, _, _, _ => .error .malformed
  | fuel + 1, room, cs, acc =>
    match skipBlanks cs with
    | '"' :: rest =>
      match readString rest [] with
      | none => .error .malformed
      | some (k, r) =>
        match skipBlanks r with
        | ':' :: r' =>
          match readValue fuel room r' with
          | .error e => .error e
          | .ok (v, r'') =>
            let acc' := setMember k v acc
            match skipBlanks r'' with
            | ',' :: more => readMembers fuel room more acc'
            | '}' :: more => .ok (.obj acc', more)
            | _ => .error .malformed
        | _ => .error .malformed
    | _ => .error .malformed

end

/-- Reads one document in which at most `room` arrays and objects are open at once. A reader
takes at most two steps for each character it consumes, so twice the text's length is fuel
enough to meet the end of the text or the limit of the room. -/
def parseWithin (room : Nat) (s : String) : Except ParseError Json :=
  let cs := s.toList
  match readValue (2 * cs.length + 1) room cs with
  | .error e => .error e
  | .ok (v, rest) =>
    match skipBlanks rest with
    | [] => .ok v
    | r => .error (.trailing (cs.length - r.length))

/-- Reads one document; each array or object takes a character, so the text's length is room
enough. -/
def parse (s : String) : Except ParseError Json := parseWithin (s.toList.length + 1) s

end MailIngest.Json
