import MailIngest.Text.Case

/-!
# Mailboxes of a server listing

A listed mailbox has a path, its flags as the server wrote them, and a hierarchy delimiter if
the server has one. Flags compare without case: a mailbox flagged `\Noselect` or
`\NonExistent` cannot be selected, and one flagged `\Trash`, `\Junk` or `\Spam` holds mail
that an archive leaves out unless told otherwise.

- `selectable_iff` : a mailbox is selectable exactly when no flag marks it unselectable.
-/

namespace MailIngest.Mailbox

/-- One entry of a server's mailbox list. -/
structure Entry where
  path : String
  flags : List String := []
  delimiter : Option String := none
deriving Inhabited

def unselectableFlags : List String := ["\\noselect", "\\nonexistent"]

/-- Flags of mailboxes an archive leaves out by default, in lower case. -/
def excludedFlags : List String := ["\\trash", "\\junk", "\\spam"]

/-- The flags in lower case, each once, in code point order. -/
def Entry.normalizedFlags (e : Entry) : List String :=
  ((e.flags.map Text.lower).eraseDups).mergeSort (fun a b => decide (a ≤ b))

def Entry.selectable (e : Entry) : Bool :=
  !(e.flags.map Text.lower).any (unselectableFlags.contains ·)

def Entry.isTrashOrJunk (e : Entry) : Bool :=
  (e.flags.map Text.lower).any (excludedFlags.contains ·)

/-- A mailbox is selectable exactly when no flag marks it unselectable. -/
theorem selectable_iff (e : Entry) :
    e.selectable = true ↔ ∀ f ∈ e.flags, Text.lower f ∉ unselectableFlags := by
  simp [Entry.selectable]

end MailIngest.Mailbox
