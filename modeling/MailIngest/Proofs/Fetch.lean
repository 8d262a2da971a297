import MailIngest.Proofs.ServerFrame
import MailIngest.Sync.Cycle

/-!
# What a sync fetches

A sync asks the server for its listing, for the highest UID of a mailbox and for ranges of
UIDs, each range put in UID order. Over a connection that keeps the server's mail `M`, every
answer is a function of `M`, however often the operation is retried:

- `listed_yields`: the mailboxes listed are `M.entries`.
- `highestUid_yields`: the highest UID of a mailbox is `M.top path`.
- `fetchBatch_yields`: a batch is `M.window path lo hi`, what a range fetch finds, in UID order.

A mailbox is `Orderly` when its range fetches honour the range and its UIDs are distinct. For
such a mailbox a batch is the messages above one UID up to another (`window_eq_upTo`); those
messages add up from batch to batch (`upTo_append`), are none at first (`upTo_self`), are all
the messages above the mark once the highest UID is reached (`upTo_top`), and always begin
them (`upTo_starts_above`).
-/

namespace MailIngest

namespace Imap.Mail

def messages (M : Mail) (path : String) : List Stored :=
  ((M.boxes.find? (·.1 = path)).map (·.2)).getD []

def sloppy (M : Mail) (path : String) : Bool :=
  (M.listing.find? (·.path = path)).any (·.sloppy)

def entries (M : Mail) : List Mailbox.Entry :=
  M.listing.map fun l => { path := l.path, flags := l.flags, delimiter := l.delimiter }

def top (M : Mail) (path : String) : Nat :=
  ((M.messages path).map (·.uid)).max?.getD 0

def inRange (M : Mail) (path : String) (lo hi : Nat) : List Stored :=
  let ms := M.messages path
  if M.sloppy path then ms else ms.filter fun m => lo ≤ m.uid ∧ m.uid ≤ hi

def byUid (ms : List Stored) : List Stored :=
  ms.mergeSort fun a b => a.uid ≤ b.uid

/-- What a fetch of the UIDs from `lo` to `hi` gives, in UID order. -/
def window (M : Mail) (path : String) (lo hi : Nat) : List Stored :=
  byUid (M.inRange path lo hi)

def above (M : Mail) (path : String) (last : Int) : List Stored :=
  byUid ((M.messages path).filter fun m => last < m.uid)

/-- The messages of a mailbox above a mark, up to the UID `b`, in UID order. -/
def upTo (M : Mail) (path : String) (last b : Int) : List Stored :=
  (M.above path last).filter fun m => m.uid ≤ b

/-- A mailbox whose range fetches honour the range and whose UIDs are distinct. -/
structure Orderly (M : Mail) (path : String) : Prop where
  ranged : M.sloppy path = false
  distinct : ((M.messages path).map (·.uid)).Nodup

end Imap.Mail

namespace Imap.Server

theorem messages_eq_mail (s : Server) (path : String) : s.messages path = s.mail.messages path := rfl

theorem inRange_eq_mail (s : Server) (path : String) (lo hi : Nat) :
    s.inRange path lo hi = s.mail.inRange path lo hi := rfl

end Imap.Server

/-! ## Messages in UID order -/

section Order

open Imap

def Ascending (ms : List Stored) : Prop := ms.Pairwise fun a b => a.uid < b.uid

@[simp] theorem mem_byUid {m : Stored} {ms : List Stored} : m ∈ Mail.byUid ms ↔ m ∈ ms :=
  List.mem_mergeSort

/-- Sorting messages with distinct UIDs puts them in strictly ascending order. -/
theorem byUid_ascending {ms : List Stored} (h : (ms.map (·.uid)).Nodup) : Ascending (Mail.byUid ms) := by
  have hle : (Mail.byUid ms).Pairwise fun a b => decide (a.uid ≤ b.uid) = true :=
    List.pairwise_mergeSort (fun _ _ _ hab hbc => by simp only [decide_eq_true_eq] at *; omega)
      (fun a b => by simp only [Bool.or_eq_true, decide_eq_true_eq]; omega) ms
  have hperm := (List.mergeSort_perm ms fun a b : Stored => decide (a.uid ≤ b.uid)).map Stored.uid
  have hne : (Mail.byUid ms).Pairwise fun a b => a.uid ≠ b.uid :=
    List.pairwise_map.mp (hperm.nodup_iff.mpr h)
  refine (hle.and hne).imp fun ⟨hab, hne⟩ => ?_
  simp only [decide_eq_true_eq] at hab
  omega

/-- Two lists in strictly ascending UID order with the same members are equal. -/
theorem Ascending.eq_of_mem_iff {l₁ l₂ : List Stored} (h₁ : Ascending l₁) (h₂ : Ascending l₂)
    (h : ∀ m, m ∈ l₁ ↔ m ∈ l₂) : l₁ = l₂ := by
  have hnd : ∀ {l : List Stored}, Ascending l → l.Nodup := fun hl =>
    hl.imp fun hab heq => by subst heq; omega
  exact ((List.perm_ext_iff_of_nodup (hnd h₁) (hnd h₂)).mpr h).eq_of_pairwise
    (fun _ _ _ _ hab hba => absurd (Nat.lt_trans hab hba) (Nat.lt_irrefl _)) h₁ h₂

theorem Ascending.filter {ms : List Stored} (h : Ascending ms) (p : Stored → Bool) : Ascending (ms.filter p) :=
  List.Pairwise.filter p h

theorem Ascending.filter_le_starts {ms : List Stored} (h : Ascending ms) (b : Int) :
    ms.filter (fun m => m.uid ≤ b) <+: ms := by
  induction ms with
  | nil => exact List.prefix_refl _
  | cons m rest ih =>
    obtain ⟨hm, hrest⟩ := List.pairwise_cons.mp h
    by_cases hb : (m.uid : Int) ≤ b
    · simpa [List.filter_cons, hb] using (ih hrest)
    · -- every later UID is higher still, so none of them is kept either
      have hnone : rest.filter (fun m => m.uid ≤ b) = [] := by
        refine List.filter_eq_nil_iff.mpr fun x hx => ?_
        have := hm x hx
        simp only [decide_eq_true_eq]
        omega
      simp [hb, hnone]

end Order

/-! ## The messages above a mark -/

namespace Imap.Mail

variable {M : Mail} {path : String}

theorem le_top {m : Stored} (hm : m ∈ M.messages path) : m.uid ≤ M.top path :=
  List.le_max?_getD_of_mem (List.mem_map_of_mem hm)

theorem top_eq_zero_of_length (h : (M.messages path).length = 0) : M.top path = 0 := by
  simp [top, List.length_eq_zero_iff.mp h]

theorem mem_above {last : Int} {m : Stored} : m ∈ M.above path last ↔ m ∈ M.messages path ∧ last < m.uid := by
  simp [above]

theorem mem_upTo {last b : Int} {m : Stored} :
    m ∈ M.upTo path last b ↔ m ∈ M.messages path ∧ last < m.uid ∧ m.uid ≤ b := by
  simp [upTo, mem_above, and_assoc]

theorem above_ascending (hM : M.Orderly path) (last : Int) : Ascending (M.above path last) :=
  byUid_ascending (hM.distinct.sublist ((List.filter_sublist).map _))

theorem upTo_ascending (hM : M.Orderly path) (last b : Int) : Ascending (M.upTo path last b) :=
  (above_ascending hM last).filter _

theorem window_ascending (hM : M.Orderly path) (lo hi : Nat) : Ascending (M.window path lo hi) := by
  simp only [window, inRange, hM.ranged, Bool.false_eq_true, ↓reduceIte]
  exact byUid_ascending (hM.distinct.sublist ((List.filter_sublist).map _))

theorem mem_window (hM : M.Orderly path) {lo hi : Nat} {m : Stored} :
    m ∈ M.window path lo hi ↔ m ∈ M.messages path ∧ lo ≤ m.uid ∧ m.uid ≤ hi := by
  simp [window, inRange, hM.ranged]

/-- What a sync fetched of a mailbox always begins the messages above the mark. -/
theorem upTo_starts_above (hM : M.Orderly path) (last b : Int) : M.upTo path last b <+: M.above path last :=
  (above_ascending hM last).filter_le_starts b

theorem upTo_self (last : Int) : M.upTo path last last = [] :=
  List.eq_nil_iff_forall_not_mem.mpr fun m hm => by
    have := mem_upTo.mp hm
    omega

/-- Once the highest UID is reached, all messages above the mark are fetched. -/
theorem upTo_top {last b : Int} (hb : M.top path ≤ b) : M.upTo path last b = M.above path last :=
  List.filter_eq_self.mpr fun m hm => by
    have := le_top (mem_above.mp hm).1
    simp only [decide_eq_true_eq]
    omega

/-- A batch from `start` to `stop` is the messages above `start - 1` up to `stop`. -/
theorem window_eq_upTo (hM : M.Orderly path) {start stop : Int} (hstop : 0 ≤ stop) :
    M.window path start.toNat stop.toNat = M.upTo path (start - 1) stop := by
  refine Ascending.eq_of_mem_iff (window_ascending hM _ _) (upTo_ascending hM _ _) fun m => ?_
  rw [mem_window hM, mem_upTo]
  constructor <;> rintro ⟨hm, hlo, hhi⟩ <;> exact ⟨hm, by omega, by omega⟩

/-- The messages up to `b`, then those above `b` up to `c`, are those up to `c`. -/
theorem upTo_append {a b c : Int} (hM : M.Orderly path) (hab : a ≤ b) (hbc : b ≤ c) :
    M.upTo path a b ++ M.upTo path b c = M.upTo path a c := by
  refine Ascending.eq_of_mem_iff ?_ (upTo_ascending hM a c) fun m => ?_
  · refine List.pairwise_append.mpr ⟨upTo_ascending hM a b, upTo_ascending hM b c, fun x hx y hy => ?_⟩
    have := mem_upTo.mp hx
    have := mem_upTo.mp hy
    omega
  · rw [List.mem_append, mem_upTo, mem_upTo, mem_upTo]
    constructor
    · rintro (⟨hm, hlo, hhi⟩ | ⟨hm, hlo, hhi⟩) <;> exact ⟨hm, by omega, by omega⟩
    · rintro ⟨hm, hlo, hhi⟩
      by_cases hb : (m.uid : Int) ≤ b
      · exact Or.inl ⟨hm, hlo, hb⟩
      · exact Or.inr ⟨hm, by omega, hhi⟩

end Imap.Mail

/-! ## The server's answers -/

namespace Imap.Server

variable {M : Mail}

theorem listFolders_yields : Yields (fun s : Server => s.mail = M) listFolders (· = M.listing) :=
  Yields.bind (Yields.of_keeps (hiccup_keepsMail M) fun _ => trivial) fun _ _ =>
    Yields.bind (Yields.get fun _ hs => hs) fun _ hs => Yields.pure (congrArg Mail.listing hs)

theorem select_yields (path : String) :
    Yields (fun s : Server => s.mail = M) (select path) (· = (M.messages path).length) := by
  refine Yields.bind (Yields.of_keeps (hiccup_keepsMail M) fun _ => trivial) fun _ _ => ?_
  refine Yields.bind (Yields.get fun _ hs => hs) fun s hs => ?_
  split
  · exact Yields.throw_bind _ _
  · exact Yields.pure (by rw [messages_eq_mail, hs])

theorem fetchHighest_yields (opened : String) :
    Yields (fun s : Server => s.mail = M) (fetchHighest opened) (· = ((M.messages opened).map (·.uid)).max?) :=
  Yields.bind (Yields.of_keeps (hiccup_keepsMail M) fun _ => trivial) fun _ _ =>
    Yields.bind (Yields.of_keeps (noteFetch_keepsMail _ _ M) fun _ => trivial) fun _ _ =>
      Yields.bind (Yields.get fun _ hs => hs) fun _ hs => Yields.pure (by rw [messages_eq_mail, hs])

theorem fetchRange_yields (opened : String) (lo hi : Nat) :
    Yields (fun s : Server => s.mail = M) (fetchRange opened lo hi) (· = M.inRange opened lo hi) :=
  Yields.bind (Yields.of_keeps (hiccup_keepsMail M) fun _ => trivial) fun _ _ =>
    Yields.bind (Yields.of_keeps (noteFetch_keepsMail _ _ M) fun _ => trivial) fun _ _ =>
      Yields.bind (Yields.get fun _ hs => hs) fun _ hs => Yields.pure (by rw [inRange_eq_mail, hs])

end Imap.Server

/-! ## The connection's answers -/

namespace Service

variable {M : Imap.Mail} {α : Type}

/-- What a client operation returns on a server holding `M` is what it returns to the
connection. -/
theorem clientStep_yields {m : Imap.ServerM α} {Q : α → Prop}
    (hm : Yields (fun s : Imap.Server => s.mail = M) m Q) : Yields (Framed M true) (clientStep m) Q := by
  have hon : Yields (Framed M true) (onServer m) fun r => ∀ a, r = .ok a → Q a := by
    refine Triple.modifyGet fun w hw => ?_
    obtain ⟨hs, hq⟩ := hm w.server hw.1
    exact ⟨⟨hs, hw.2⟩, fun r hr a ha => hq a (by cases hr; exact ha)⟩
  refine Yields.bind hon fun r hr => ?_
  cases r with
  | ok a => exact Yields.pure (hr a rfl)
  | error t => exact Yields.throw _

theorem listed_yields : Yields (Framed M true) Sync.listed (· = M.entries) :=
  Yields.bind (withRetry_yields (clientStep_yields Imap.Server.listFolders_yields) _) fun _ hls =>
    Yields.pure (by rw [hls]; rfl)

def Opened (path : String) (w : World) : Prop := ∃ l, w.link = some l ∧ l.client = some (some path)

/-- Opening a mailbox tells how many messages it holds, and leaves it open. -/
theorem openMailbox_spec (path : String) :
    Triple (Framed M true) (openMailbox path) fun r w =>
      Framed M true w ∧ ∀ n, r = .ok n → n = (M.messages path).length ∧ Opened path w := by
  refine Triple.bind (clientStep_yields (Imap.Server.select_yields path)) (fun n => ?_)
    fun _ _ h => ⟨h.1, fun _ hr => nomatch hr⟩
  refine Triple.bind (R := fun _ w => Framed M true w ∧ n = (M.messages path).length ∧ Opened path w)
    (Triple.modify fun w h => ?_) (fun _ => Triple.pure fun w h => ⟨h.1, fun _ hr => ?_⟩)
    fun _ _ h => ⟨h.1, fun _ hr => nomatch hr⟩
  · obtain ⟨⟨hmail, hlink⟩, hn⟩ := h
    obtain ⟨l, hl⟩ := Option.isSome_iff_exists.mp hlink
    exact ⟨⟨hmail, by simp [hl]⟩, hn n rfl, { l with client := some (some path) }, by simp [hl], rfl⟩
  · cases hr
    exact h.2

/-- With a mailbox open, the open mailbox is the one found. -/
theorem opened_spec (path : String) :
    Triple (fun w => Framed M true w ∧ Opened path w) opened fun r w => Framed M true w ∧ r = .ok path := by
  rintro w ⟨hf, l, hl, hc⟩
  simp only [opened, link, run_bind, run_get, hl, run_pure, hc]
  exact ⟨hf, trivial⟩

/-- The highest UID found in a mailbox is the highest UID it holds. -/
theorem highestUid_yields (path : String) : Yields (Framed M true) (Sync.highestUid path) (· = M.top path) := by
  unfold Sync.highestUid
  refine Triple.bind (openMailbox_spec path) (fun n => ?_) fun _ _ h => ⟨h.1, fun _ hr => nomatch hr⟩
  split
  · next hn =>
    refine Triple.pure fun w h => ⟨h.1, fun a ha => ?_⟩
    cases ha
    exact (Imap.Mail.top_eq_zero_of_length ((h.2 n rfl).1 ▸ hn)).symm
  · refine Triple.bind (R := fun r w => Framed M true w ∧ r = .ok path)
      (Triple.conseq (opened_spec path) (fun w h => ⟨h.1, (h.2 n rfl).2⟩) fun _ _ h => h)
      (fun p => ?_) fun _ _ h => ⟨h.1, fun _ hr => nomatch hr⟩
    rintro w ⟨hw, hp⟩
    cases hp
    exact Yields.bind (clientStep_yields (Imap.Server.fetchHighest_yields path)) (fun _ hh => Yields.pure (by rw [hh]; rfl)) w hw

/-- A batch is the messages a range fetch of the mailbox finds, in UID order. -/
theorem fetchBatch_yields (path : String) (lo hi : Int) :
    Yields (Framed M true) (Sync.fetchBatch path lo hi) (· = M.window path lo.toNat hi.toNat) := by
  unfold Sync.fetchBatch
  refine Triple.bind (openMailbox_spec path) (fun n => ?_) fun _ _ h => ⟨h.1, fun _ hr => nomatch hr⟩
  refine Triple.bind (R := fun r w => Framed M true w ∧ r = .ok path)
    (Triple.conseq (opened_spec path) (fun w h => ⟨h.1, (h.2 n rfl).2⟩) fun _ _ h => h)
    (fun p => ?_) fun _ _ h => ⟨h.1, fun _ hr => nomatch hr⟩
  rintro w ⟨hw, hp⟩
  cases hp
  exact Yields.bind (clientStep_yields (Imap.Server.fetchRange_yields path _ _)) (fun _ hms => Yields.pure (by rw [hms]; rfl)) w hw

theorem logout_ok : Triple (Framed M true) logout fun r w => Framed M true w ∧ r = .ok () := by
  rintro w ⟨hmail, hlink⟩
  refine ⟨logout_keepsMail M true w ⟨hmail, hlink⟩, ?_⟩
  obtain ⟨l, hl⟩ := Option.isSome_iff_exists.mp hlink
  simp only [logout, link, run_bind, run_get, hl, run_pure, run_modify, modifyLink]
  split
  · -- the server's answer to the logout is dropped
    rcases hout : Imap.Server.logout.run.run w.server with ⟨r, s⟩
    simp only [onServer, run_bind, run_modifyGet, hout, run_modify]
  · simp only [run_modify]

end Service

end MailIngest
