/-!
# Replacing text

`replaceAll old new s` replaces every occurrence of `old` in `s` by `new`, from left to right,
the occurrences not overlapping; an empty `old` leaves the text as it is.

- `replaceList_nil` : nothing to replace in empty text.
- `replace_absent` : text in which `old` does not start anywhere is kept.
-/

namespace MailIngest.Text

/-- Every occurrence of `old` replaced by `new`, left to right, at most `fuel` characters
looked at. -/
def replaceList (old new : List Char) : Nat → List Char → List Char
  | 0, s => s
  | _, [] => []
  | fuel + 1, c :: rest =>
    if !old.isEmpty && old.isPrefixOf (c :: rest) then new ++ replaceList old new fuel ((c :: rest).drop old.length)
    else c :: replaceList old new fuel rest

def replaceAll (old new : String) (s : String) : String :=
  String.ofList (replaceList old.toList new.toList (s.length + 1) s.toList)

theorem replaceList_nil (old new : List Char) (fuel : Nat) : replaceList old new fuel [] = [] := by
  cases fuel <;> rfl

/-- Text in which `old` does not start anywhere is kept. -/
theorem replace_absent (old new : List Char) :
    ∀ (fuel : Nat) (s : List Char), s.length ≤ fuel →
      (∀ k, (!old.isEmpty && old.isPrefixOf (s.drop k)) = false) → replaceList old new fuel s = s
  | 0, s, _, _ => rfl
  | _ + 1, [], _, _ => rfl
  | fuel + 1, c :: rest, hl, h => by
    have h0 := h 0
    simp only [List.drop_zero] at h0
    rw [replaceList, h0]
    simp only [Bool.false_eq_true, ↓reduceIte, List.cons.injEq, true_and]
    exact replace_absent old new fuel rest (by simp at hl; omega) fun k => by simpa using h (k + 1)

end MailIngest.Text
