import MailIngest.Text.CharName.Table

/-!
# Character names

A character may be written by its Unicode name, as in `\N{LATIN SMALL LETTER E WITH ACUTE}` of
the escape encoding. A name is looked up in one of three ways, by how it starts:

* `HANGUL SYLLABLE `, in capitals, names a Hangul syllable by the short names of its leading
  consonant, its vowel and its trailing consonant, one after the other. Each is the longest
  short name of its kind that the rest of the name starts with, the earliest of equal length;
  the leading and trailing consonants may be empty, and the three must make up the rest.
* `CJK UNIFIED IDEOGRAPH-`, in capitals, names a unified ideograph by four or five upper-case
  hexadecimal digits, which must be the code point of one.
* Any other name is read with its ASCII letters in capitals and looked up among the names and
  aliases of the table (`CharName.Table`). The names of sequences of characters name no
  character.

A name that starts like a syllable or an ideograph but does not name one names nothing; it is
not looked up in the table.
-/

namespace MailIngest.Text.CharName

/-- Where reading the table is: the code point and name of the entry being read, whether an
entry is being read at all, the value of the digits read after a `#`, and the entries read so
far, latest first. -/
structure Reader where
  code : Nat := 0
  name : List Char := []
  started : Bool := false
  header : Option Nat := none
  done : List (Nat × List Char) := []

def Reader.close (r : Reader) : List (Nat × List Char) :=
  if r.started then (r.code, r.name) :: r.done else r.done

def hexValue (c : Char) : Nat :=
  if c ≤ '9' then c.toNat - '0'.toNat else c.toNat - 'A'.toNat + 10

/-- Reads one character of the table: `#` closes the entry and starts a code point, a piece
adds its characters to the name, a mark closes the entry and starts the next with the leading
characters it keeps, and any other character is a digit of the code point or the next
character of the name. -/
def Reader.step (r : Reader) (c : Char) : Reader :=
  if c = '#' then { r with done := r.close, started := false, header := some 0 }
  else if 0x180 ≤ c.toNat then
    { r with name := r.name ++ (pieces.getD (c.toNat - 0x180) "").toList }
  else if 0x100 ≤ c.toNat then
    { done := r.close, started := true, header := none,
      code := r.header.getD (r.code + 1), name := r.name.take (c.toNat - 0x100) }
  else match r.header with
    | some h => { r with header := some (h * 16 + hexValue c) }
    | none => { r with name := r.name ++ [c] }

/-- The mark or piece a character of the table stands for: the long form of a short one, and
any other character itself. -/
def expand (c : Char) : Char := ((shortForms.toList.zip longForms.toList).lookup c).getD c

/-- The entries of a table written as `CharName.table` is, its lines read one after the other:
each code point with its name, in the order of the table. -/
def entries (lines : List String) : List (Nat × List Char) :=
  let read := fun r (line : String) => line.foldl (fun r c => Reader.step r (expand c)) r
  (lines.foldl read {}).close.reverse

/-- The names and aliases of the characters, each with its code point. -/
def named : List (Nat × List Char) := entries table

/-- The short names of the leading consonants of Hangul syllables, in order. -/
def leads : List (List Char) :=
  [['G'], ['G', 'G'], ['N'], ['D'], ['D', 'D'], ['R'], ['M'], ['B'], ['B', 'B'], ['S'],
   ['S', 'S'], [], ['J'], ['J', 'J'], ['C'], ['K'], ['T'], ['P'], ['H']]

/-- The short names of the vowels of Hangul syllables, in order. -/
def vowels : List (List Char) :=
  [['A'], ['A', 'E'], ['Y', 'A'], ['Y', 'A', 'E'], ['E', 'O'], ['E'], ['Y', 'E', 'O'],
   ['Y', 'E'], ['O'], ['W', 'A'], ['W', 'A', 'E'], ['O', 'E'], ['Y', 'O'], ['U'],
   ['W', 'E', 'O'], ['W', 'E'], ['W', 'I'], ['Y', 'U'], ['E', 'U'], ['Y', 'I'], ['I']]

/-- The short names of the trailing consonants of Hangul syllables, in order, none first. -/
def tails : List (List Char) :=
  [[], ['G'], ['G', 'G'], ['G', 'S'], ['N'], ['N', 'J'], ['N', 'H'], ['D'], ['L'], ['L', 'G'],
   ['L', 'M'], ['L', 'B'], ['L', 'S'], ['L', 'T'], ['L', 'P'], ['L', 'H'], ['M'], ['B'],
   ['B', 'S'], ['S'], ['S', 'S'], ['N', 'G'], ['J'], ['C'], ['K'], ['T'], ['P'], ['H']]

/-- The longest of some short names that text starts with, the earliest of equal length: its
place among them and its length. -/
def longestPrefix (names : List (List Char)) (text : List Char) : Option (Nat × Nat) :=
  (names.foldl (fun (best, i) s =>
    let better := s.isPrefixOf text && best.all fun b => b.2 < s.length
    (if better then some (i, s.length) else best, i + 1)) (none, 0)).1

/-- The Hangul syllable named by the short names of its parts, written one after the other. -/
def hangulCode? (parts : List Char) : Option Nat := do
  let (l, n) ← longestPrefix leads parts
  let rest := parts.drop n
  let (v, m) ← longestPrefix vowels rest
  let rest := rest.drop m
  let (t, k) ← longestPrefix tails rest
  if rest.length = k then some (0xAC00 + (l * 21 + v) * 28 + t) else none

/-- The blocks of unified ideographs, first and last code point. -/
def ideographBlocks : List (Nat × Nat) :=
  [(0x3400, 0x4DBF), (0x4E00, 0x9FFF), (0x20000, 0x2A6DF), (0x2A700, 0x2B738),
   (0x2B740, 0x2B81D), (0x2B820, 0x2CEA1), (0x2CEB0, 0x2EBE0), (0x30000, 0x3134A)]

def isIdeograph (n : Nat) : Bool := ideographBlocks.any fun (lo, hi) => lo ≤ n && n ≤ hi

/-- Whether a character is a hexadecimal digit in upper case. -/
def isUpperHex (c : Char) : Bool := ('0' ≤ c && c ≤ '9') || ('A' ≤ c && c ≤ 'F')

/-- The unified ideograph named by four or five upper-case hexadecimal digits. -/
def ideographCode? (digits : List Char) : Option Nat :=
  if (digits.length = 4 || digits.length = 5) && digits.all isUpperHex then
    let n := digits.foldl (fun acc c => acc * 16 + hexValue c) 0
    if isIdeograph n then some n else none
  else none

def asciiUpper (c : Char) : Char := if 'a' ≤ c && c ≤ 'z' then Char.ofNat (c.toNat - 32) else c

def syllablePrefix : List Char := "HANGUL SYLLABLE ".toList

def ideographPrefix : List Char := "CJK UNIFIED IDEOGRAPH-".toList

def codeOf? (name : List Char) : Option Nat :=
  if syllablePrefix.isPrefixOf name then hangulCode? (name.drop syllablePrefix.length)
  else if ideographPrefix.isPrefixOf name then ideographCode? (name.drop ideographPrefix.length)
  else
    let key := name.map asciiUpper
    (named.find? (·.2 == key)).map (·.1)



end MailIngest.Text.CharName
