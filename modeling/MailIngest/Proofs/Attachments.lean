import MailIngest.Proofs.Steps
import MailIngest.Archive.Message
import Mathlib.Data.List.Forall2

/-!
# The attachments of a message

A message is read (`Archive.read`) into a record whose body and attachments are both found
among the leaf parts of its MIME tree (`leafParts`): the parts searched depth first, through
composite parts, an attached message staying whole.

- The search misses no leaf (`mem_leafParts`): every part `Within` the tree that is a leaf
  (`IsLeaf`) is found, once the search ends without failure.
- For a message of several parts, the attachments are the leaf parts that are attachments, in
  the order found, each read once with its content (`read_attachments`).
- A message of one part lists no attachment, whatever the part is. When that part is itself an
  attachment, it gives no body either, so it is kept in neither (`loneAttachment_lost`).

The first two rest on what an effectful pass over a list gives when it succeeds: a filter by
the tests it passed (`filterM_ok`), or a value related to each element (`forall₂_of_mapM_ok`).
-/

namespace MailIngest

section Passes

variable {ε α β : Type}

theorem filterAuxM_ok {p : α → Except ε Bool} :
    ∀ {xs acc ys : List α}, xs.filterAuxM p acc = .ok ys →
      (∀ x ∈ xs, ∃ b, p x = .ok b) ∧ ys = (xs.filter fun x => (p x).toOption = some true).reverse ++ acc
  | [], acc, ys, h => by
    simp only [List.filterAuxM] at h
    cases h
    simp
  | x :: xs, acc, ys, h => by
    simp only [List.filterAuxM] at h
    cases hx : p x with
    | error e => rw [hx] at h; cases h
    | ok b =>
      rw [hx] at h
      obtain ⟨hall, rfl⟩ := filterAuxM_ok h
      refine ⟨fun y hy => ?_, ?_⟩
      · rcases List.mem_cons.mp hy with rfl | hy
        · exact ⟨b, hx⟩
        · exact hall y hy
      · cases b <;> simp [hx, Except.toOption]

/-- A filter by a test that may fail, when it succeeds, ran the test on every element without
failure and kept those that passed, in order. -/
theorem filterM_ok {p : α → Except ε Bool} {xs ys : List α} (h : xs.filterM p = .ok ys) :
    (∀ x ∈ xs, ∃ b, p x = .ok b) ∧ ys = xs.filter fun x => (p x).toOption = some true := by
  unfold List.filterM at h
  cases ha : xs.filterAuxM p [] with
  | error e => rw [ha] at h; cases h
  | ok zs =>
    rw [ha] at h
    cases h
    obtain ⟨hall, rfl⟩ := filterAuxM_ok ha
    exact ⟨hall, by simp⟩

/-- A map by a function that may fail, when it succeeds, gave each element its own value, in
order. -/
theorem forall₂_of_mapM_ok {f : α → Except ε β} :
    ∀ {xs : List α} {ys : List β}, xs.mapM f = .ok ys → List.Forall₂ (fun x y => f x = .ok y) xs ys
  | [], ys, h => by cases h; exact .nil
  | x :: xs, ys, h => by
    rw [List.mapM_cons] at h
    cases hx : f x with
    | error e => rw [hx] at h; cases h
    | ok y =>
      cases hxs : xs.mapM f with
      | error e => rw [hx, hxs] at h; cases h
      | ok zs =>
        rw [hx, hxs] at h
        cases h
        exact .cons hx (forall₂_of_mapM_ok hxs)

theorem Forall₂.exists_of_mem {R : α → β → Prop} :
    ∀ {xs : List α} {ys : List β}, List.Forall₂ R xs ys → ∀ {x}, x ∈ xs → ∃ y ∈ ys, R x y
  | _, _, .nil, _, hx => absurd hx List.not_mem_nil
  | _, _, .cons hr hs, _, hx => by
    rcases List.mem_cons.mp hx with rfl | hx
    · exact ⟨_, List.mem_cons_self, hr⟩
    · obtain ⟨y, hy, hxy⟩ := Forall₂.exists_of_mem hs hx
      exact ⟨y, List.mem_cons_of_mem _ hy, hxy⟩

theorem eq_ok_of_toOption {x : Except ε α} {a : α} (h : x.toOption = some a) : x = .ok a := by
  cases x <;> simp_all [Except.toOption]

end Passes

namespace Archive

open Mail

/-! ## The search for leaf parts -/

/-- A leaf of the search for leaf parts: a part whose body is no list of parts, or an attached
message, which stays whole. -/
def IsLeaf (p : Entity) : Prop := p.isComposite = false ∨ attachedMessage p = .ok true

/-- `Within p e`: `p` is `e`, or a part of it reached through composite parts that are no
attached messages, as the search for leaf parts walks. -/
inductive Within (p : Entity) : Entity → Prop
  | refl : Within p p
  | part {h : Head} {ps : List Entity} {q : Entity} :
      attachedMessage (.composite h ps) = .ok false → q ∈ ps → Within p q → Within p (.composite h ps)

theorem leafPartsOf_cons_of_none {r : Entity} (rest : List Entity) (hr : (leafParts r).2 = none) :
    leafPartsOf (r :: rest) = ((leafParts r).1 ++ (leafPartsOf rest).1, (leafPartsOf rest).2) := by
  rcases hlr : leafParts r with ⟨found, _ | e⟩
  · simp only [leafPartsOf, hlr]
  · rw [hlr] at hr
    cases hr

/-- A failure in the search of one part ends the search of those after it. -/
theorem leafPartsOf_cons_of_some {r : Entity} (rest : List Entity) {e : String} (hr : (leafParts r).2 = some e) :
    leafPartsOf (r :: rest) = ((leafParts r).1, some e) := by
  rcases hlr : leafParts r with ⟨found, _ | e'⟩ <;> rw [hlr] at hr <;> cases hr
  simp only [leafPartsOf, hlr]

/-- A search of parts that ends without failure searched each of them without failure, and
found what each search found. -/
theorem leafParts_of_mem {q : Entity} :
    ∀ {ps : List Entity}, (leafPartsOf ps).2 = none → q ∈ ps →
      (leafParts q).2 = none ∧ ∀ x ∈ (leafParts q).1, x ∈ (leafPartsOf ps).1
  | [], _, hq => absurd hq List.not_mem_nil
  | r :: rest, hok, hq => by
    cases hr : (leafParts r).2 with
    | some e => rw [leafPartsOf_cons_of_some rest hr] at hok; cases hok
    | none =>
      rw [leafPartsOf_cons_of_none rest hr] at hok ⊢
      rcases List.mem_cons.mp hq with rfl | hq
      · exact ⟨hr, fun x hx => List.mem_append_left _ hx⟩
      · obtain ⟨hq', hsub⟩ := leafParts_of_mem hok hq
        exact ⟨hq', fun x hx => List.mem_append_right _ (hsub x hx)⟩

theorem leafParts_leaf {p : Entity} (hleaf : IsLeaf p) (hok : (leafParts p).2 = none) : (leafParts p).1 = [p] := by
  rcases hleaf with hs | hm
  · cases p with
    | composite h ps => cases hs
    | single h pl =>
      cases ha : attachedMessage (.single h pl) with
      | error e => simp only [leafParts, ha] at hok; cases hok
      | ok b => simp only [leafParts, ha]
  · cases p <;> simp only [leafParts, hm]

/-- A search for leaf parts that ends without failure finds every leaf within. -/
theorem mem_leafParts {p e : Entity} (hw : Within p e) (hleaf : IsLeaf p) (hok : (leafParts e).2 = none) :
    p ∈ (leafParts e).1 := by
  induction hw with
  | refl =>
    rw [leafParts_leaf hleaf hok]
    exact List.mem_singleton_self _
  | part ha hq _ ih =>
    simp only [leafParts, ha] at hok ⊢
    obtain ⟨hq', hsub⟩ := leafParts_of_mem hok hq
    exact hsub _ (ih hq')

/-! ## Reading a message -/

/-- A part that is an attachment, alone, gives neither body. -/
theorem bodies_lone {p : Entity} (h : isAttachment p = .ok true) : bodies [p] = .ok (none, none) := by
  simp only [bodies, List.foldlM, h]
  rfl

theorem bodiesOf_ok {found : List Entity × Option String} {b} (h : bodiesOf found = .ok b) :
    found.2 = none ∧ bodies found.1 = .ok b := by
  obtain ⟨parts, o⟩ := found
  unfold bodiesOf at h
  cases hb : bodies parts with
  | error e => rw [hb] at h; cases h
  | ok b' =>
    rw [hb] at h
    cases o with
    | some e => cases h
    | none => cases h; exact ⟨rfl, rfl⟩

theorem yields_lift {α : Type} {I : Html.Converter → Prop} (r : Except String α) :
    Yields I (lift r) fun a => r = .ok a := by
  cases r with
  | error e => exact Yields.throw _
  | ok a => exact Yields.pure rfl

theorem yields_plainBody (plain html : Option (List Text.CodePoint)) :
    Yields (fun _ => True) (plainBody plain html) fun b => plain = none → html = none → b = [] := by
  by_cases hnone : plain = none ∧ html = none
  · obtain ⟨rfl, rfl⟩ := hnone
    exact Yields.pure fun _ _ => rfl
  · exact (Yields.any _).conseq fun _ _ hp hh => absurd ⟨hp, hh⟩ hnone

/-- A message read from its source has the attachments read from the leaf parts of its tree
that are attachments when the tree has several parts, and none when it has one; then, when the
search gives no body, the body is empty. -/
theorem read_yields_attachments (now : Time.DateTime) (raw : Bytes) (path : String) (given : GivenUid) :
    Yields (fun _ => True) (read now raw path given) fun m =>
      ∃ root, Mail.readMessage raw = .ok root ∧ (leafParts root).2 = none ∧
        (root.isComposite = true → ∃ parts, (leafParts root).1.filterM isAttachment = .ok parts ∧
          parts.mapM attachmentOf = .ok m.attachments) ∧
        (root.isComposite = false → m.attachments = [] ∧
          (bodies (leafParts root).1 = .ok (none, none) → m.body = [] ∧ m.html = [])) := by
  unfold read
  refine Yields.ite (fun _ => Yields.throw_bind _ _) fun _ => ?_
  refine Yields.bind (yields_lift _) fun root hroot => ?_
  refine Yields.ite (fun _ => Yields.throw_bind _ _) fun _ => ?_
  iterate 2 refine Yields.bind (Yields.any _) fun _ _ => ?_
  refine Yields.bind (yields_lift _) fun b hb => ?_
  obtain ⟨plain, html⟩ := b
  obtain ⟨hok, hbodies⟩ := bodiesOf_ok hb
  iterate 5 refine Yields.bind (Yields.any _) fun _ _ => ?_
  refine Yields.bind (yields_plainBody plain html) fun body hbody => ?_
  refine Yields.ite (fun hc => ?_) fun hc => ?_
  refine Yields.bind (yields_lift _) fun parts hparts => ?_
  refine Yields.bind (yields_lift _) fun as has => ?_
  refine Yields.conseq (Q := fun m => m.attachments = as ∧ m.body = body ∧ m.html = html.getD []) ?_
    fun m hm => ⟨root, hroot, hok, fun _ => ⟨parts, hparts, hm.1 ▸ has⟩, fun h => absurd (h ▸ hc) Bool.false_ne_true⟩
  rotate_left
  have hlone : bodies (leafParts root).1 = .ok (none, none) → body = [] ∧ html.getD [] = [] := fun h => by
    rw [hbodies] at h
    cases h
    exact ⟨hbody rfl rfl, rfl⟩
  refine Yields.bind (Yields.pure (Q := fun as => as = []) rfl) fun as has => ?_
  refine Yields.conseq (Q := fun m => m.attachments = as ∧ m.body = body ∧ m.html = html.getD []) ?_
    fun m hm => ⟨root, hroot, hok, fun h => absurd h hc,
      fun _ => ⟨hm.1.trans has, fun h => ⟨hm.2.1.trans (hlone h).1, hm.2.2.trans (hlone h).2⟩⟩⟩
  all_goals
    refine Yields.bind (Yields.any _) fun _ _ => ?_
    cases given.value with
    | error rule => exact Yields.throw_bind _ _
    | ok n =>
      refine Yields.ite (fun _ => Yields.throw_bind _ _) fun _ => ?_
      exact Yields.bind (Yields.pure rfl) fun _ _ => Yields.pure ⟨rfl, rfl, rfl⟩

/-- The attachments of a message read from its source. When its tree has several parts, they
are its leaf parts that are attachments, in the order of the depth-first search, each read
once, and every leaf within the tree that is an attachment is among them. When its tree has one
part, there are none, and when that part is an attachment the message has no body either. -/
theorem read_attachments {now : Time.DateTime} {raw : Bytes} {path : String} {given : GivenUid}
    {c : Html.Converter} {m : Message} (h : ((read now raw path given).run.run c).1 = .ok m) :
    ∃ root, Mail.readMessage raw = .ok root ∧
      (root.isComposite = true →
        List.Forall₂ (fun p a => attachmentOf p = .ok a)
          ((leafParts root).1.filter fun p => (isAttachment p).toOption = some true) m.attachments ∧
        ∀ p, Within p root → IsLeaf p → isAttachment p = .ok true → ∃ a ∈ m.attachments, attachmentOf p = .ok a) ∧
      (root.isComposite = false → m.attachments = [] ∧
        (isAttachment root = .ok true → m.body = [] ∧ m.html = [])) := by
  obtain ⟨root, hroot, hok, hcomposite, hsingle⟩ := (read_yields_attachments now raw path given c trivial).2 m h
  refine ⟨root, hroot, fun hc => ?_, fun hc => ?_⟩
  · obtain ⟨parts, hparts, has⟩ := hcomposite hc
    obtain ⟨-, rfl⟩ := filterM_ok hparts
    have hlisted := forall₂_of_mapM_ok has
    refine ⟨hlisted, fun p hw hleaf hatt => Forall₂.exists_of_mem hlisted ?_⟩
    exact List.mem_filter.mpr ⟨mem_leafParts hw hleaf hok, by simp [hatt, Except.toOption]⟩
  · obtain ⟨hnone, hbody⟩ := hsingle hc
    refine ⟨hnone, fun hatt => hbody ?_⟩
    rw [leafParts_leaf (.inl hc) hok]
    exact bodies_lone hatt

def loneAttachment : Bytes :=
  Text.Utf8.encode
    "Subject: report\r\nContent-Type: text/plain\r\nContent-Disposition: attachment; filename=\"a.txt\"\r\n\r\nhello\r\n"

/-- The message of one part that is an attachment is read, and kept neither as an attachment
nor as its body. -/
theorem loneAttachment_lost :
    ∃ m, ((read default loneAttachment "INBOX" (.ofInt 1)).run.run {}).1 = .ok m ∧
      m.attachments = [] ∧ m.body = [] ∧ m.html = [] := by
  have hread : ((read default loneAttachment "INBOX" (.ofInt 1)).run.run {}).1.toOption.isSome = true := by
    decide +kernel
  have hroot : (Mail.readMessage loneAttachment).toOption.map
      (fun r => (r.isComposite, (isAttachment r).toOption)) = some (false, some true) := by
    decide +kernel
  obtain ⟨m, hm⟩ := Option.isSome_iff_exists.mp hread
  obtain ⟨root, hparsed, -, hsingle⟩ := read_attachments (eq_ok_of_toOption hm)
  simp only [hparsed, Except.toOption, Option.map_some, Option.some.injEq, Prod.mk.injEq] at hroot
  obtain ⟨hnone, hbody⟩ := hsingle hroot.1
  exact ⟨m, eq_ok_of_toOption hm, hnone, hbody (eq_ok_of_toOption hroot.2)⟩

/-- A report of two parts: a text, and a file attached. -/
def filedReport : Bytes :=
  Text.Utf8.encode
    "Subject: report\r\nContent-Type: multipart/mixed; boundary=b\r\n\r\n--b\r\nContent-Type: text/plain\r\n\r\nhi\r\n--b\r\nContent-Type: text/plain\r\nContent-Disposition: attachment; filename=\"a.txt\"\r\n\r\nhello\r\n--b--\r\n"

theorem filedReport_attachments :
    ∃ m, ((read default filedReport "INBOX" (.ofInt 1)).run.run {}).1 = .ok m ∧
      ∃ root, Mail.readMessage filedReport = .ok root ∧
      (root.isComposite = true →
        List.Forall₂ (fun p a => attachmentOf p = .ok a)
          ((leafParts root).1.filter fun p => (isAttachment p).toOption = some true) m.attachments ∧
        ∀ p, Within p root → IsLeaf p → isAttachment p = .ok true → ∃ a ∈ m.attachments, attachmentOf p = .ok a) ∧
      (root.isComposite = false → m.attachments = [] ∧
        (isAttachment root = .ok true → m.body = [] ∧ m.html = [])) := by
  have hread : ((read default filedReport "INBOX" (.ofInt 1)).run.run {}).1.toOption.isSome = true := by
    decide +kernel
  obtain ⟨m, hm⟩ := Option.isSome_iff_exists.mp hread
  exact ⟨m, eq_ok_of_toOption hm, read_attachments (eq_ok_of_toOption hm)⟩

end Archive

end MailIngest
