import MailIngest.Html.Entities
import MailIngest.Text.Hex

/-!
# Character references

Markup writes a character it cannot or will not spell as a reference: `&#233;` or `&#xE9;` by
its number, `&eacute;` by its name. In an attribute value every reference is read as the
standard says (`unescape`):

- a number names its character, except that the numbers of the old Windows code page's
  printable characters (`0x80` to `0x9F`) name those characters, zero and the surrogates and
  numbers past Unicode name the replacement character, and control characters and
  non-characters name nothing;
- a name, with or without its semicolon, names the text of the table; a name that is not in the
  table but starts with one is read as that name and the rest kept; any other `&` stays as it is.

The main statement is `unescape_plain` (text without an ampersand is kept).
-/

namespace MailIngest.Html

/-- The characters the numbers `0x80` to `0x9F` and a few others name instead of themselves. -/
def remappedNumbers : List (Nat × Char) :=
  [(0x00, '�'), (0x0D, '\r'), (0x80, '€'), (0x81, '\x81'), (0x82, '‚'),
   (0x83, 'ƒ'), (0x84, '„'), (0x85, '…'), (0x86, '†'), (0x87, '‡'),
   (0x88, 'ˆ'), (0x89, '‰'), (0x8A, 'Š'), (0x8B, '‹'), (0x8C, 'Œ'),
   (0x8D, '\x8d'), (0x8E, 'Ž'), (0x8F, '\x8f'), (0x90, '\x90'), (0x91, '‘'),
   (0x92, '’'), (0x93, '“'), (0x94, '”'), (0x95, '•'), (0x96, '–'),
   (0x97, '—'), (0x98, '˜'), (0x99, '™'), (0x9A, 'š'), (0x9B, '›'),
   (0x9C, 'œ'), (0x9D, '\x9d'), (0x9E, 'ž'), (0x9F, 'Ÿ')]

/-- Whether a number names a character that a reference may not produce: a control
character, one of the non-characters. -/
def isForbiddenNumber (n : Nat) : Bool :=
  (0x1 ≤ n && n ≤ 0x8) || (0xE ≤ n && n ≤ 0x1F) || (0x7F ≤ n && n ≤ 0x9F) ||
    (0xFDD0 ≤ n && n ≤ 0xFDEF) || n = 0xB || (n % 0x10000 ≥ 0xFFFE && n ≤ 0x10FFFF)

/-- The text a numeric reference in an attribute stands for. -/
def numberText (n : Nat) : String :=
  match remappedNumbers.find? (·.1 = n) with
  | some (_, c) => String.singleton c
  | none =>
    if (0xD800 ≤ n && n ≤ 0xDFFF) || n > 0x10FFFF then "�"
    else if isForbiddenNumber n then ""
    else String.singleton (Char.ofNat n)

def decimalValue (ds : List Char) : Nat := ds.foldl (fun n d => n * 10 + (d.toNat - 48)) 0

def hexValue (ds : List Char) : Nat :=
  ds.foldl (fun n d => n * 16 + (Text.Hex.digitValue? d).getD 0) 0

/-- Whether a character may stand in the name of a reference in an attribute. -/
def isNameChar (c : Char) : Bool := !(c = '\t' || c = '\n' || c = '\x0c' || c = ' ' || c = '<' ||
  c = '&' || c = '#' || c = ';')

/-- The text a named reference in an attribute stands for: the name itself, else the longest
name it starts with and the rest, else the reference as written. -/
def nameText (s : String) : String :=
  match namedReference? s with
  | some v => v
  | none =>
    let cs := s.toList
    let prefixes := ((List.range (cs.length - 2)).map fun i => cs.length - 1 - i)
    match prefixes.find? (fun x => (namedReference? (String.ofList (cs.take x))).isSome) with
    | some x => (namedReference? (String.ofList (cs.take x))).getD "" ++ String.ofList (cs.drop x)
    | none => "&" ++ s

/-- The reference at the start of text after an ampersand: its text and the rest, if one is
there. -/
def referenceAt (cs : List Char) : Option (String × List Char) :=
  let withSemicolon := fun (rest : List Char) => match rest with
    | ';' :: more => (true, more)
    | _ => (false, rest)
  match cs with
  | '#' :: x :: rest =>
    if x = 'x' || x = 'X' then
      let ds := rest.takeWhile fun c => (Text.Hex.digitValue? c).isSome
      if ds.isEmpty then none
      else some (numberText (hexValue ds), (withSemicolon (rest.drop ds.length)).2)
    else
      let ds := (x :: rest).takeWhile Char.isDigit
      if ds.isEmpty then none
      else some (numberText (decimalValue ds), (withSemicolon ((x :: rest).drop ds.length)).2)
  | _ =>
    let name := (cs.takeWhile isNameChar).take 32
    if name.isEmpty then none
    else
      let (semi, rest) := withSemicolon (cs.drop name.length)
      some (nameText (String.ofList name ++ (if semi then ";" else "")), rest)

/-- Every reference in text read, at most `fuel` characters looked at. -/
def unescapeChars : Nat → List Char → List Char
  | 0, cs => cs
  | _, [] => []
  | fuel + 1, '&' :: rest =>
    match referenceAt rest with
    | some (t, more) => t.toList ++ unescapeChars fuel more
    | none => '&' :: unescapeChars fuel rest
  | fuel + 1, c :: rest => c :: unescapeChars fuel rest

def unescape (s : String) : String :=
  if !s.toList.contains '&' then s else String.ofList (unescapeChars (s.length + 1) s.toList)

theorem unescape_plain (s : String) (h : s.toList.contains '&' = false) : unescape s = s := by
  rw [unescape, h]
  rfl

example : unescape "&amp;" = "&" := by decide +kernel

end MailIngest.Html
