import MailIngest.Proofs.Attachments

/-!
# The raw header block of a message

A message read from its source keeps the text of its header block (`Message.rawHeaders`), from
which its thread identifier falls back to a digest. The block is found by a search over the
whole source for an empty line after a CRLF line first, and only then for one after a LF line
(`headerBytes`, `headerBlock_eq`). For a source of header lines, each non-empty and without
line breaks and each but the last ended by CRLF or LF of its own (`Joined`), then a line break,
an empty line and the body:

- `findBytes_joined` : neither search finds anything inside the header lines;
- `headerBytes_lines` : the block is the lines exactly when the last line and the empty line
  end alike and, when both end in LF, the body holds no CRLF CRLF; with mixed endings, or LF
  lines before a body holding a CRLF CRLF, it runs on past the lines;
- `read_rawHeaders` : a message read from such a source keeps these bytes as its raw headers;
  `lfHeaders_run_into_body` is a message whose raw headers so take in its body.

`read_headers` also gives the thread identifier of a message read from its source: the one its
header texts and raw header block give.
-/

namespace MailIngest.Archive

open Mail

/-! ## What reading keeps of the header block -/

/-- A message read from its source keeps the text of the source's header block, and its thread
identifier is the one its header texts and that block give. -/
theorem read_yields_headers (now : Time.DateTime) (raw : Bytes) (path : String) (given : GivenUid) :
    Yields (fun _ => True) (read now raw path given) fun m =>
      m.rawHeaders = headerBlock raw ∧ m.threadId = threadId m.headers m.rawHeaders := by
  unfold read
  refine Yields.ite (fun _ => Yields.throw_bind _ _) fun _ => ?_
  refine Yields.bind (Yields.any _) fun _ _ => ?_
  refine Yields.ite (fun _ => Yields.throw_bind _ _) fun _ => ?_
  iterate 2 refine Yields.bind (Yields.any _) fun _ _ => ?_
  refine Yields.bind (Yields.any _) fun b _ => ?_
  obtain ⟨plain, html⟩ := b
  iterate 6 refine Yields.bind (Yields.any _) fun _ _ => ?_
  refine Yields.ite (fun _ => ?_) fun _ => ?_
  iterate 2 refine Yields.bind (Yields.any _) fun _ _ => ?_
  rotate_left
  refine Yields.bind (Yields.any _) fun _ _ => ?_
  all_goals
    refine Yields.bind (Yields.any _) fun _ _ => ?_
    cases given.value with
    | error rule => exact Yields.throw_bind _ _
    | ok n =>
      refine Yields.ite (fun _ => Yields.throw_bind _ _) fun _ => ?_
      exact Yields.bind (Yields.any _) fun _ _ => Yields.pure ⟨rfl, rfl⟩

theorem read_headers {now : Time.DateTime} {raw : Bytes} {path : String} {given : GivenUid}
    {c : Html.Converter} {m : Message} (h : ((read now raw path given).run.run c).1 = .ok m) :
    m.rawHeaders = headerBlock raw ∧ m.threadId = threadId m.headers m.rawHeaders :=
  (read_yields_headers now raw path given c trivial).2 m h

/-! ## Searching for an empty line -/

/-- The bytes the header block is read from: those before the first CRLF CRLF of the source,
else before its first LF LF, else the whole source. -/
def headerBytes (raw : Bytes) : Bytes :=
  match findBytes [0x0D, 0x0A, 0x0D, 0x0A] 0 raw with
  | some i => raw.take i
  | none =>
    match findBytes [0x0A, 0x0A] 0 raw with
    | some i => raw.take i
    | none => raw

theorem headerBlock_eq (raw : Bytes) :
    headerBlock raw = Text.Utf8.decodeReplacing (headerBytes raw) := by
  unfold headerBlock headerBytes
  cases findBytes [0x0D, 0x0A, 0x0D, 0x0A] 0 raw with
  | some i => rfl
  | none => cases findBytes [0x0A, 0x0A] 0 raw <;> rfl

section Search

variable {sep : Bytes}

/-- A search from `i` finds what a search from `0` finds, moved on by `i`. -/
theorem findBytes_from (sep : Bytes) :
    ∀ (i : Nat) (xs : Bytes), findBytes sep i xs = (findBytes sep 0 xs).map (· + i)
  | _, [] => rfl
  | i, b :: rest => by
    simp only [findBytes]
    split
    · simp
    · rw [findBytes_from sep (i + 1) rest, findBytes_from sep (0 + 1) rest, Option.map_map]
      congr 1
      funext n
      simp only [Function.comp_apply]
      omega

/-- The search passes over bytes none of which is the separator's first. -/
theorem findBytes_append_clear {s : UInt8} (hs : sep.head? = some s) :
    ∀ {l : Bytes}, s ∉ l → ∀ (i : Nat) (rest : Bytes),
      findBytes sep i (l ++ rest) = findBytes sep (i + l.length) rest
  | [], _, i, rest => rfl
  | x :: l, hl, i, rest => by
    have hx : x ≠ s := fun h => hl (h ▸ List.mem_cons_self ..)
    have hstart : sep.isPrefixOf (x :: (l ++ rest)) = false := by
      cases sep with
      | nil => cases hs
      | cons y ys =>
        obtain rfl : y = s := Option.some.inj hs
        simp [List.isPrefixOf, Ne.symm hx]
    rw [List.cons_append, findBytes, if_neg (by simp [hstart]),
      findBytes_append_clear hs (fun h => hl (List.mem_cons_of_mem _ h)), List.length_cons,
      Nat.add_assoc, Nat.add_comm 1]

/-- A search from `i` finds nothing before `i`. -/
theorem findBytes_ge : ∀ {i k : Nat} {xs : Bytes}, findBytes sep i xs = some k → i ≤ k
  | _, _, [], h => by cases h
  | i, k, b :: rest, h => by
    simp only [findBytes] at h
    split at h
    · cases h
      exact Nat.le_refl _
    · exact Nat.le_of_succ_le (findBytes_ge h)

/-- A search from `i` finds `i` itself exactly when the bytes start with the separator. -/
theorem findBytes_eq_self {i : Nat} {xs : Bytes} (hxs : xs ≠ []) :
    findBytes sep i xs = some i ↔ sep.isPrefixOf xs = true := by
  obtain ⟨b, rest, rfl⟩ := List.exists_cons_of_ne_nil hxs
  simp only [findBytes]
  split
  · simp only [*]
  · refine iff_of_false (fun h' => ?_) ‹_›
    have := findBytes_ge h'
    omega

/-- A line break: CRLF or LF. -/
def IsBreak (t : Bytes) : Prop := t = [0x0D, 0x0A] ∨ t = [0x0A]

/-- A header line: non-empty, without CR or LF. -/
def IsLine (l : Bytes) : Prop := l ≠ [] ∧ 0x0D ∉ l ∧ 0x0A ∉ l

instance (l : Bytes) : Decidable (IsLine l) := inferInstanceAs (Decidable (_ ∧ _))

/-- Header lines, each but the last ended by a line break of its own, CRLF or LF. -/
inductive Joined : Bytes → Prop
  | line {l : Bytes} : IsLine l → Joined l
  | more {b t l : Bytes} : Joined b → IsBreak t → IsLine l → Joined (b ++ t ++ l)

/-- A line break before the first byte of a line, neither CR nor LF, starts no separator. -/
theorem findBytes_break {t : Bytes} (ht : IsBreak t)
    (hsep : sep = [0x0D, 0x0A, 0x0D, 0x0A] ∨ sep = [0x0A, 0x0A]) {x : UInt8}
    (hx : x ≠ 0x0D ∧ x ≠ 0x0A) (i : Nat) (rest : Bytes) :
    findBytes sep i (t ++ x :: rest) = findBytes sep (i + t.length) (x :: rest) := by
  obtain ⟨hcr, hlf⟩ := hx
  rcases ht with rfl | rfl <;> rcases hsep with rfl | rfl <;>
    simp [findBytes, List.isPrefixOf, Ne.symm hcr, Ne.symm hlf, Nat.add_assoc]

/-- The search passes over header lines and the breaks between them, whatever follows. -/
theorem findBytes_joined (hsep : sep = [0x0D, 0x0A, 0x0D, 0x0A] ∨ sep = [0x0A, 0x0A]) {b : Bytes}
    (hb : Joined b) : ∀ (i : Nat) (rest : Bytes), findBytes sep i (b ++ rest) = findBytes sep (i + b.length) rest := by
  have hclear : ∀ {l : Bytes}, IsLine l → ∀ i rest,
      findBytes sep i (l ++ rest) = findBytes sep (i + l.length) rest := by
    intro l hl i rest
    rcases hsep with rfl | rfl
    · exact findBytes_append_clear rfl hl.2.1 i rest
    · exact findBytes_append_clear rfl hl.2.2 i rest
  induction hb with
  | line hl => exact hclear hl
  | @more b t l _ ht hl ih =>
    intro i rest
    obtain ⟨x, xs, rfl⟩ := List.exists_cons_of_ne_nil hl.1
    have hx : x ≠ 0x0D ∧ x ≠ 0x0A :=
      ⟨fun h => hl.2.1 (h ▸ List.mem_cons_self ..), fun h => hl.2.2 (h ▸ List.mem_cons_self ..)⟩
    calc findBytes sep i (b ++ t ++ x :: xs ++ rest)
        = findBytes sep (i + b.length) (t ++ x :: (xs ++ rest)) := by
          simp only [List.append_assoc, List.cons_append, ih]
      _ = findBytes sep (i + b.length + t.length) (x :: xs ++ rest) := findBytes_break ht hsep hx _ _
      _ = findBytes sep (i + (b ++ t ++ x :: xs).length) rest := by
          rw [hclear hl]
          simp only [List.length_append, Nat.add_assoc]

end Search

/-! ## The header block of header lines -/

/-- After header lines, the block is the lines exactly when what follows them starts with CRLF
CRLF, or holds none and starts with LF LF. -/
theorem headerBytes_joined {b : Bytes} (hb : Joined b) {rest : Bytes} (hrest : rest ≠ []) :
    headerBytes (b ++ rest) = b ↔ [0x0D, 0x0A, 0x0D, 0x0A].isPrefixOf rest = true ∨
      (findBytes [0x0D, 0x0A, 0x0D, 0x0A] 0 rest = none ∧ [0x0A, 0x0A].isPrefixOf rest = true) := by
  -- a cut of the source is the lines only at their end, and the searches start there
  have hcut : ∀ k, b.length ≤ k → ((b ++ rest).take k = b ↔ k = b.length) := fun k hk => by
    refine ⟨fun h => ?_, fun h => by rw [h, List.take_left]⟩
    have hlen := congrArg List.length h
    rw [List.length_take, List.length_append] at hlen
    have := List.length_pos_iff.mpr hrest
    omega
  have hfrom : ∀ sep, findBytes sep 0 rest = none ↔ findBytes sep b.length rest = none := fun sep => by
    rw [findBytes_from sep b.length rest, Option.map_eq_none_iff]
  unfold headerBytes
  rw [findBytes_joined (.inl rfl) hb, findBytes_joined (.inr rfl) hb, Nat.zero_add, hfrom,
    ← findBytes_eq_self hrest, ← findBytes_eq_self hrest]
  rcases hc : findBytes [0x0D, 0x0A, 0x0D, 0x0A] b.length rest with _ | k
  · rcases hl : findBytes [0x0A, 0x0A] b.length rest with _ | k
    · simp only [reduceCtorEq, false_or, and_false, iff_false]
      exact fun h => hrest (by simpa using h)
    · simp only [hcut k (findBytes_ge hl), Option.some.injEq, reduceCtorEq, false_or, true_and]
  · simp only [hcut k (findBytes_ge hc), Option.some.injEq, reduceCtorEq, false_and, or_false]

/-- Header lines, a line break and an empty line: the block is the lines exactly when the two
breaks are alike and, when both are LF, the body holds no CRLF CRLF. Mixed breaks always give
more than the lines. -/
theorem headerBytes_lines {b t e : Bytes} (hb : Joined b) (ht : IsBreak t) (he : IsBreak e) (body : Bytes) :
    headerBytes (b ++ t ++ e ++ body) = b ↔
      t = e ∧ (e = [0x0D, 0x0A] ∨ findBytes [0x0D, 0x0A, 0x0D, 0x0A] 0 body = none) := by
  have hrest : t ++ e ++ body ≠ [] := by rcases ht with rfl | rfl <;> simp
  rw [List.append_assoc, List.append_assoc, headerBytes_joined hb (by simpa only [List.append_assoc] using hrest)]
  have hskip : findBytes [0x0D, 0x0A, 0x0D, 0x0A] 0 (0x0A :: 0x0A :: body) = none ↔
      findBytes [0x0D, 0x0A, 0x0D, 0x0A] 0 body = none := by
    have h := findBytes_append_clear (l := [0x0A, 0x0A])
      (show ([0x0D, 0x0A, 0x0D, 0x0A] : Bytes).head? = some 0x0D from rfl) (by decide) 0 body
    rw [List.cons_append, List.cons_append, List.nil_append] at h
    rw [h, findBytes_from, Option.map_eq_none_iff]
  rcases ht with rfl | rfl <;> rcases he with rfl | rfl
  · simp [List.isPrefixOf]
  · simp [List.isPrefixOf]
  · simp [List.isPrefixOf]
  · simp [List.isPrefixOf, hskip]

/-- A message read from a source of header lines, each ended by CRLF or LF, then an empty line
and a body, keeps as its raw headers the text of `headerBytes`; these are its header lines
exactly when the last line and the empty line end alike, and, when both end in LF, the body
holds no CRLF CRLF. -/
theorem read_rawHeaders {now : Time.DateTime} {raw : Bytes} {path : String} {given : GivenUid}
    {c : Html.Converter} {m : Message} (h : ((read now raw path given).run.run c).1 = .ok m)
    {b t e body : Bytes} (hb : Joined b) (ht : IsBreak t) (he : IsBreak e) (hraw : raw = b ++ t ++ e ++ body) :
    m.rawHeaders = Text.Utf8.decodeReplacing (headerBytes raw) ∧
      (headerBytes raw = b ↔ t = e ∧ (e = [0x0D, 0x0A] ∨ findBytes [0x0D, 0x0A, 0x0D, 0x0A] 0 body = none)) :=
  ⟨(read_headers h).1.trans (headerBlock_eq raw), hraw ▸ headerBytes_lines hb ht he body⟩

/-- A message whose header lines end in LF and whose body holds a CRLF CRLF. -/
def lfHeadCrlfBody : Bytes := Text.Utf8.encode "Subject: a\n\nbody\r\n\r\nmore"

/-- That message is read, and its raw headers take in its body up to the CRLF CRLF. -/
theorem lfHeaders_run_into_body :
    ∃ m, ((read default lfHeadCrlfBody "INBOX" (.ofInt 1)).run.run {}).1 = .ok m ∧
      m.rawHeaders = "Subject: a\n\nbody" ∧
      headerBytes lfHeadCrlfBody ≠ Text.Utf8.encode "Subject: a" := by
  have hread : ((read default lfHeadCrlfBody "INBOX" (.ofInt 1)).run.run {}).1.toOption.isSome := by
    decide +kernel
  obtain ⟨m, hm⟩ := Option.isSome_iff_exists.mp hread
  have hline : Joined (Text.Utf8.encode "Subject: a") := .line (by decide +kernel)
  have hsplit : lfHeadCrlfBody = Text.Utf8.encode "Subject: a" ++ [0x0A] ++ [0x0A] ++
      Text.Utf8.encode "body\r\n\r\nmore" := by
    decide +kernel
  obtain ⟨hkept, hexact⟩ := read_rawHeaders (eq_ok_of_toOption hm) hline (.inr rfl) (.inr rfl) hsplit
  refine ⟨m, eq_ok_of_toOption hm, hkept.trans (by decide +kernel), fun heq => ?_⟩
  -- the lines end in LF and the body has a CRLF CRLF, at its fifth byte
  have hnot : ¬ (([0x0A] : Bytes) = [0x0A] ∧ (([0x0A] : Bytes) = [0x0D, 0x0A] ∨
      findBytes [0x0D, 0x0A, 0x0D, 0x0A] 0 (Text.Utf8.encode "body\r\n\r\nmore") = none)) := by
    decide +kernel
  exact hnot (hexact.mp heq)

end MailIngest.Archive
