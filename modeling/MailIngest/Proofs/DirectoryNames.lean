import MailIngest.Archive.Layout

/-!
# Directory names of mailboxes

Message files of a mailbox go to a directory named after the mailbox path (`safeDirname`).

* **Safe characters** (`safeDirname_safe`): every name is non-empty and made of ASCII letters,
  digits, `.`, `_` and `-` only, so it never holds a separator.
* **Collisions** (`safeDirname_collides`): the name does not tell paths apart: every run of
  other characters becomes one `_`, so `a/b` and `a b` share the directory `a_b`.
-/

namespace MailIngest.Archive

/-- Every directory name is non-empty and made of name characters only. -/
theorem safeDirname_safe (path : String) :
    safeDirname path ≠ "" ∧ ∀ c ∈ (safeDirname path).toList, isNameChar c = true := by
  refine ⟨safeDirname_ne_empty path, fun c hc => ?_⟩
  unfold safeDirname at hc
  dsimp only at hc
  split at hc
  · have hm : "mailbox".toList.all isNameChar = true := by decide +kernel
    exact List.all_eq_true.1 hm c hc
  · have hs := Text.mem_of_mem_trimChars _ _ hc
    rw [String.toList_ofList] at hs
    exact isNameChar_of_mem_squash false _ c hs

/-- Two mailbox paths share a directory name. -/
theorem safeDirname_collides : safeDirname "a/b" = "a_b" ∧ safeDirname "a b" = "a_b" := by
  decide +kernel

end MailIngest.Archive
