/-!
# Path names

A path name is written in normal form: repeated slashes collapse, `.` components and a
trailing slash go away, `..` stays, exactly two leading slashes are kept, and the empty path is
`.`.

- `normalizePath_ne_empty` : a path in normal form is never empty.
-/

namespace MailIngest.Text

/-- The components of a path, without empty and `.` components. -/
def pathParts (s : String) : List String :=
  (s.splitOn "/").filter fun p => !p.isEmpty && p != "."

def pathRoot (s : String) : String :=
  if s.startsWith "//" && !s.startsWith "///" then "//"
  else if s.startsWith "/" then "/" else ""

def normalizePath (s : String) : String :=
  let t := pathRoot s ++ String.intercalate "/" (pathParts s)
  if t.isEmpty then "." else t

theorem normalizePath_ne_empty (s : String) : normalizePath s ≠ "" := by
  unfold normalizePath
  dsimp only
  split
  · decide
  · rename_i h
    intro he
    simp [he] at h

end MailIngest.Text
