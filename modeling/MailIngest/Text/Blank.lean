/-!
# Blank characters and trimming

A blank is a character of the Unicode White_Space kind that separates words: the ASCII blanks
and controls U+0009–U+000D, the separators U+001C–U+001F, the space, U+0085, the no-break
space, and the Unicode space and line separators. `trim` removes blanks at both ends,
`words` splits a text at runs of blanks. The Unicode White_Space property is the same set
without the information separators.

The main statements are `isBlank_of_isWhitespace` (core's ASCII blanks are blanks here),
`dropFront_head` (what `dropFront` leaves starts with a character outside the class) and
`mem_of_mem_trimChars` (trimming keeps characters of the text only).
-/

namespace MailIngest.Text

def isBlank (c : Char) : Bool :=
  let n := c.toNat
  (0x09 ≤ n && n ≤ 0x0d) || (0x1c ≤ n && n ≤ 0x20) || n = 0x85 || n = 0xa0 || n = 0x1680 ||
  (0x2000 ≤ n && n ≤ 0x200a) || n = 0x2028 || n = 0x2029 || n = 0x202f || n = 0x205f ||
  n = 0x3000

/-- Whether a character has the Unicode White_Space property: the blanks without the
information separators U+001C–U+001F. -/
def isWhiteSpace (c : Char) : Bool := isBlank c && !(0x1c ≤ c.toNat && c.toNat ≤ 0x1f)

def dropFront (p : Char → Bool) (cs : List Char) : List Char := cs.dropWhile p

def dropBack (p : Char → Bool) (cs : List Char) : List Char :=
  (cs.reverse.dropWhile p).reverse

def trimFront (s : String) : String := String.ofList (dropFront isBlank s.toList)

def trimBack (s : String) : String := String.ofList (dropBack isBlank s.toList)

def trim (s : String) : String := String.ofList (dropBack isBlank (dropFront isBlank s.toList))

def trimWhiteSpace (s : String) : String :=
  String.ofList (dropBack isWhiteSpace (dropFront isWhiteSpace s.toList))

def trimChars (set : List Char) (s : String) : String :=
  let p := fun c => set.contains c
  String.ofList (dropBack p (dropFront p s.toList))

def trimCharsBack (set : List Char) (s : String) : String :=
  String.ofList (dropBack (fun c => set.contains c) s.toList)

def wordsOf : List Char → List Char → List (List Char)
  | [], acc => if acc.isEmpty then [] else [acc.reverse]
  | c :: rest, acc =>
    if isBlank c then (if acc.isEmpty then wordsOf rest [] else acc.reverse :: wordsOf rest [])
    else wordsOf rest (c :: acc)

def words (s : String) : List String := (wordsOf s.toList []).map String.ofList

theorem isBlank_of_isWhitespace (c : Char) (h : c.isWhitespace) : isBlank c := by
  simp only [Char.isWhitespace, Bool.or_eq_true, decide_eq_true_eq] at h
  rcases h with ((h | h) | h) | h <;> subst h <;> decide

/-- What `dropFront` leaves starts with a character outside `p`. -/
theorem dropFront_head (p : Char → Bool) (cs : List Char) :
    ∀ c ∈ (dropFront p cs).head?, p c = false := by
  intro c hc
  simp only [dropFront] at hc
  cases h : cs.dropWhile p with
  | nil => simp [h] at hc
  | cons d ds =>
    have hd := List.head_dropWhile_not p (l := cs) (by simp [h])
    simp only [h, List.head?_cons, Option.mem_def, Option.some.injEq] at hc
    subst hc
    simpa [h] using hd

theorem mem_of_mem_trimChars (set : List Char) (s : String) {c : Char}
    (h : c ∈ (trimChars set s).toList) : c ∈ s.toList := by
  simp only [trimChars, dropBack, dropFront, String.toList_ofList] at h
  have hd := (List.dropWhile_sublist _).subset (List.mem_reverse.1 h)
  exact (List.dropWhile_sublist _).subset (List.mem_reverse.1 hd)

end MailIngest.Text
