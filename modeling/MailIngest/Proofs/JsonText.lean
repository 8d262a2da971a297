import MailIngest.Json.Parse
import MailIngest.Json.Render

/-!
# Verbatim strings and flat values in JSON text

A string of printable ASCII characters other than the quote and the backslash is written as
itself between quotes, and read back as itself. Reading a value that opens no object, array or
string only moves forward: what is left is a suffix of the text. A float is written with
digits, a sign, a point, an exponent or the letters of `NaN` and `Infinity` only.

- `toList_quote` : a verbatim string is written as itself between quotes;
- `readString_verbatim` : and read back as itself, up to its closing quote;
- `readValue_flat_suffix` : a flat value is read from a prefix of the text;
- `numeral_render` : the characters of a float's JSON text.
-/

namespace MailIngest.Json

/-- A character a JSON string holds as itself: printable ASCII other than the quote and the
backslash. -/
def Verbatim (c : Char) : Prop := 0x20 ≤ c.toNat ∧ c.toNat < 0x7f ∧ c ≠ '"' ∧ c ≠ '\\'

instance (c : Char) : Decidable (Verbatim c) := inferInstanceAs (Decidable (_ ∧ _))

/-! ## Writing -/

/-- A text is verbatim when `List.all` says each of its characters is. -/
theorem verbatim_of_all {s : String} (h : s.toList.all (fun c => decide (Verbatim c)) = true) :
    ∀ c ∈ s.toList, Verbatim c := by
  simpa using h

theorem escapeChar_verbatim {c : Char} (h : Verbatim c) : escapeChar c = String.singleton c := by
  obtain ⟨h1, h2, h3, h4⟩ := h
  unfold escapeChar
  split
  · exact absurd rfl h3
  · exact absurd rfl h4
  case h_8 => exact if_pos ⟨h1, h2⟩
  -- the control characters with short escapes are below the printable range
  all_goals simp at h1

theorem toList_join_escapeChar {cs : List Char} (h : ∀ c ∈ cs, Verbatim c) :
    (String.join (cs.map escapeChar)).toList = cs := by
  induction cs with
  | nil => simp
  | cons c cs ih =>
    simp [escapeChar_verbatim (h c (by simp)), ih (fun c' hc' => h c' (by simp [hc']))]

/-- A verbatim string is written as itself between quotes. -/
theorem toList_quote (s : String) (h : ∀ c ∈ s.toList, Verbatim c) :
    (quote s).toList = '"' :: s.toList ++ ['"'] := by
  simp [quote, toList_join_escapeChar h]

/-! ## Reading strings -/

theorem readString_cons {c : Char} (h : Verbatim c) (rest acc : List Char) :
    readString (c :: rest) acc = readString rest (c :: acc) := by
  obtain ⟨h1, -, h3, h4⟩ := h
  rw [readString]
  · rw [if_neg (by omega)]
  all_goals intros; simp_all

theorem readString_quote (rest acc : List Char) :
    readString ('"' :: rest) acc = some (String.ofList acc.reverse, rest) := by
  rw [readString]

/-- A verbatim string is read as itself up to its closing quote. -/
theorem readString_verbatim (cs rest acc : List Char) (h : ∀ c ∈ cs, Verbatim c) :
    readString (cs ++ '"' :: rest) acc = some (String.ofList (acc.reverse ++ cs), rest) := by
  induction cs generalizing acc with
  | nil => simp [readString_quote]
  | cons c cs ih =>
    rw [List.cons_append, readString_cons (h c (by simp)),
      ih (c :: acc) (fun c' hc' => h c' (List.mem_cons_of_mem _ hc'))]
    simp

/-- An object whose first key follows its brace directly is read as its members. -/
theorem readValue_brace_quote (f n : Nat) (r : List Char) :
    readValue (f + 1) (n + 1) ('{' :: '"' :: r) = readMembers f n ('"' :: r) [] := rfl

/-! ## What reading leaves -/

theorem skipBlanks_suffix (cs : List Char) : skipBlanks cs <:+ cs := by
  induction cs with
  | nil => exact List.suffix_refl _
  | cons c cs ih =>
    unfold skipBlanks
    split
    · exact ih.trans (List.suffix_cons c cs)
    · exact List.suffix_refl _

theorem spanDigits_suffix (cs : List Char) : (Decimal.spanDigits cs).2 <:+ cs :=
  List.dropWhile_suffix _

theorem readSign_suffix (cs : List Char) : (readSign cs).2 <:+ cs := by
  unfold readSign
  split
  · exact List.suffix_cons _ _
  · exact List.suffix_refl _

theorem readIntPart_suffix {cs ip rest : List Char} (h : readIntPart cs = some (ip, rest)) :
    rest <:+ cs := by
  unfold readIntPart at h
  split at h
  · cases h; exact List.suffix_cons _ _
  · split at h
    · cases h; exact (spanDigits_suffix _).trans (List.suffix_cons _ _)
    · cases h
  · cases h

theorem readFraction_suffix (cs : List Char) : (readFraction cs).2 <:+ cs := by
  unfold readFraction
  split
  · dsimp only
    split
    · exact List.suffix_refl _
    · exact (spanDigits_suffix _).trans (List.suffix_cons _ _)
  · exact List.suffix_refl _

theorem readExponentSign_suffix (cs : List Char) : (readExponentSign cs).2 <:+ cs := by
  unfold readExponentSign
  split
  · exact List.suffix_cons _ _
  · exact List.suffix_cons _ _
  · exact List.suffix_refl _

theorem readExponent_suffix (cs : List Char) : (readExponent cs).2 <:+ cs := by
  unfold readExponent
  split
  · split
    · dsimp only
      split
      · exact List.suffix_refl _
      · exact (spanDigits_suffix _).trans ((readExponentSign_suffix _).trans (List.suffix_cons _ _))
    · exact List.suffix_refl _
  · exact List.suffix_refl _

/-- A number is read from a prefix of the text: each stage of the reading takes a prefix of
what the one before left. -/
theorem readNumber_suffix {cs : List Char} {v : Json} {r : List Char}
    (h : readNumber cs = .ok (v, r)) : r <:+ cs := by
  unfold readNumber at h
  cases hi : readIntPart (readSign cs).2 with
  | none => simp [hi] at h
  | some p =>
    have hr : r = (readExponent (readFraction p.2).2).2 := by
      simp only [hi] at h
      split at h
      · -- an integer: refused when too long, else read up to what the exponent left
        split at h
        · cases h
        · cases h; rfl
      · cases h; rfl
    rw [hr]
    exact (readExponent_suffix _).trans ((readFraction_suffix _).trans
      ((readIntPart_suffix hi).trans (readSign_suffix cs)))

private theorem suffix_of_eq_append {l r : List Char} (p : List Char) (h : l = p ++ r) : r <:+ l :=
  h ▸ List.suffix_append p r

/-- A value read from a text that opens no object, array or string is read from a prefix of
it. -/
theorem readValue_flat_suffix {fuel room : Nat} {cs r : List Char} {v : Json}
    (hflat : ∀ c ∈ cs, c ≠ '{' ∧ c ≠ '[' ∧ c ≠ '"') (h : readValue fuel room cs = .ok (v, r)) :
    r <:+ cs := by
  cases fuel with
  | zero => simp [readValue] at h
  | succ fuel =>
    have hb := skipBlanks_suffix cs
    have hfirst : ∀ c rest, skipBlanks cs = c :: rest → c ≠ '{' ∧ c ≠ '[' ∧ c ≠ '"' :=
      fun c rest he => hflat c (hb.subset (by rw [he]; exact List.mem_cons_self))
    rw [readValue] at h
    split at h
    · exact absurd rfl (hfirst _ _ ‹_›).1
    · exact absurd rfl (hfirst _ _ ‹_›).2.1
    · exact absurd rfl (hfirst _ _ ‹_›).2.2
    · cases h; exact (suffix_of_eq_append ['n', 'u', 'l', 'l'] ‹_›).trans hb
    · cases h; exact (suffix_of_eq_append ['t', 'r', 'u', 'e'] ‹_›).trans hb
    · cases h; exact (suffix_of_eq_append ['f', 'a', 'l', 's', 'e'] ‹_›).trans hb
    · cases h; exact (suffix_of_eq_append ['N', 'a', 'N'] ‹_›).trans hb
    · cases h; exact (suffix_of_eq_append "Infinity".toList ‹_›).trans hb
    · cases h; exact (suffix_of_eq_append "-Infinity".toList ‹_›).trans hb
    · exact (readNumber_suffix h).trans hb

end MailIngest.Json

namespace MailIngest.Decimal

def NumeralChar (c : Char) : Prop :=
  c.isDigit ∨ c ∈ ['.', 'e', '+', '-', 'N', 'a', 'I', 'n', 'f', 'i', 't', 'y']

instance (c : Char) : Decidable (NumeralChar c) := inferInstanceAs (Decidable (_ ∨ _))

/-- A numeral character neither opens a value nor separates members. -/
theorem NumeralChar.not_delimiter {c : Char} (h : NumeralChar c) :
    c ≠ '{' ∧ c ≠ '[' ∧ c ≠ '"' ∧ c ≠ ',' := by
  refine ⟨?_, ?_, ?_, ?_⟩ <;> rintro rfl <;> revert h <;> decide

/-- A text is numeral when `List.all` says each of its characters is. -/
theorem numeral_of_all {s : String} (h : s.toList.all (fun c => decide (NumeralChar c)) = true) :
    ∀ c ∈ s.toList, NumeralChar c := by
  simpa using h

theorem numeral_toString (n : Nat) : ∀ c ∈ (toString n).toList, NumeralChar c := by
  intro c hc
  rw [Nat.toString_eq_ofList_toDigits, String.toList_ofList] at hc
  exact Or.inl (Nat.isDigit_of_mem_toDigits (by decide) (by decide) hc)

theorem numeral_digitsRender (d : Digits) : ∀ c ∈ d.render.toList, NumeralChar c := by
  intro c hc
  have hs := numeral_toString d.digits c
  have hz : NumeralChar '0' := by decide
  unfold Digits.render at hc
  dsimp only at hc
  split at hc
  · -- positional notation: leading zeros, the digits with a point, or trailing zeros
    split at hc
    · simp only [String.toList_append, String.toList_ofList, List.mem_append,
        List.mem_replicate] at hc
      rcases hc with (h | ⟨-, rfl⟩) | h
      · exact numeral_of_all (by decide) c h
      · exact hz
      · exact hs h
    · split at hc
      · simp only [String.toList_append, String.toList_ofList, List.mem_append,
          List.mem_replicate] at hc
        rcases hc with (h | ⟨-, rfl⟩) | h
        · exact hs h
        · exact hz
        · exact numeral_of_all (by decide) c h
      · simp only [String.toList_append, String.toList_ofList, List.mem_append] at hc
        rcases hc with (h | h) | h
        · exact hs (List.mem_of_mem_take h)
        · exact numeral_of_all (by decide) c h
        · exact hs (List.mem_of_mem_drop h)
  · -- scientific notation: the mantissa, the exponent's mark, its sign and its digits
    simp only [String.toList_append, List.mem_append] at hc
    rcases hc with ((h | h) | h) | h
    · split at h
      · exact numeral_of_all (by decide) c h
      · rename_i c' heq
        simp only [String.toList_singleton, List.mem_singleton] at h
        subst h
        exact hs (by rw [heq]; simp)
      · rename_i c' rest _ heq
        simp only [String.toList_append, String.toList_singleton, String.toList_ofList,
          List.mem_append, List.mem_singleton] at h
        rcases h with (rfl | h) | h
        · exact hs (by rw [heq]; simp)
        · exact numeral_of_all (by decide) c h
        · exact hs (by rw [heq]; simp [h])
    · exact numeral_of_all (by decide) c h
    · split at h
      · exact numeral_of_all (by decide) c h
      · exact numeral_of_all (by decide) c h
    · split at h
      · simp only [String.toList_append, List.mem_append] at h
        rcases h with h | h
        · exact numeral_of_all (by decide) c h
        · exact numeral_toString _ c h
      · exact numeral_toString _ c h

/-- The JSON text of a float holds numeral characters only. -/
theorem numeral_render (x : Float) : ∀ c ∈ (render .json x).toList, NumeralChar c := by
  intro c hc
  have hsign : ∀ (p : Prop) [Decidable p], ∀ c ∈ (if p then "-" else "").toList, NumeralChar c := by
    intro p _ c hc
    split at hc
    · exact numeral_of_all (by decide) c hc
    · simp at hc
  unfold render at hc
  split at hc
  · exact numeral_of_all (by decide) c hc
  · split at hc
    · simp only [FloatStyle.json, String.toList_append, List.mem_append] at hc
      rcases hc with h | h
      · exact hsign _ c h
      · exact numeral_of_all (by decide) c h
    · dsimp only at hc
      split at hc
      · simp only [String.toList_append, List.mem_append] at hc
        rcases hc with h | h
        · exact hsign _ c h
        · exact numeral_of_all (by decide) c h
      · simp only [String.toList_append, List.mem_append] at hc
        rcases hc with h | h
        · exact hsign _ c h
        · exact numeral_digitsRender _ c h

end MailIngest.Decimal
