import MailIngest.Text.Blank

/-!
# Where exported messages go

Each mailbox's messages are written to a directory of its own, named from the mailbox path:
every run of characters other than ASCII letters, digits, `.`, `_` and `-` becomes one `_`,
underscores at both ends are dropped, and a name left empty is `mailbox`.

- `safeDirname_ne_empty` : a directory name is never empty;
- `isNameChar_of_mem_squash` : squashing leaves name characters only.
-/

namespace MailIngest.Archive

/-- Whether a character may stand in a directory name as it is. -/
def isNameChar (c : Char) : Bool := c.isAlphanum && c.toNat < 0x80 || c = '.' || c = '_' || c = '-'

/-- Replaces every run of characters outside the name characters by one underscore;
`inRun` says whether such a run has just been replaced. -/
def squash (inRun : Bool) : List Char → List Char
  | [] => []
  | c :: rest =>
    if isNameChar c then c :: squash false rest
    else if inRun then squash true rest
    else '_' :: squash true rest

def safeDirname (path : String) : String :=
  let name := Text.trimChars ['_'] (String.ofList (squash false path.toList))
  if name.isEmpty then "mailbox" else name

theorem isNameChar_of_mem_squash (inRun : Bool) (cs : List Char) :
    ∀ c ∈ squash inRun cs, isNameChar c = true := by
  induction cs generalizing inRun with
  | nil => simp [squash]
  | cons d rest ih =>
    intro c hc
    by_cases hd : isNameChar d = true
    · simp only [squash, hd, if_true] at hc
      rcases List.mem_cons.1 hc with rfl | hr
      · exact hd
      · exact ih false c hr
    · by_cases hr : inRun = true
      · simp only [squash, hd, hr] at hc
        exact ih true c hc
      · simp only [squash, hd, hr] at hc
        rcases List.mem_cons.1 hc with rfl | hm
        · decide
        · exact ih true c hm

theorem safeDirname_ne_empty (path : String) : safeDirname path ≠ "" := by
  unfold safeDirname
  dsimp only
  split
  · decide
  · rename_i h
    intro he
    simp [he] at h

end MailIngest.Archive
