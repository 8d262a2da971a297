import MailIngest.Proofs.Marks
import MailIngest.Proofs.PositionWire
import Mathlib.Data.List.Chain

/-!
# Each message once, cycle after cycle

Over mail whose range fetches honour the range and whose messages all read (`Mail.Readable`),
a cycle that takes every message hands over, for each mailbox, exactly its messages above the
position's mark up to the mark the cycle reaches, in UID order (`cycle_resumes`): the records
between two positions are what `Delivers` says, and deliveries compose (`Delivers.trans`).

The `imap sync` command stores the position a cycle reached when the cycle ended without a
failure and the store took it, and the next run reads it back from the store
(`fetch_upsert_self`); `commandCycles` runs
the command round after round. A server that only adds messages above the UIDs it holds
(`Mail.Grows`) then sees, over the cycles whose position was stored, each mailbox's records in
strictly ascending UID order, none twice, and exactly its messages up to the stored mark
(`rounds_hand_over_once`). A cycle that ended with a failure stores nothing, and the next one
hands its records over again.
-/

namespace MailIngest

namespace Imap.Mail

/-- Every message of the mail has a source and is read into a record, whatever the converter
and the clock. -/
def Readable (M : Mail) : Prop :=
  ∀ path, ∀ m ∈ M.messages path, ∃ raw, Sync.sourceOf m = some raw ∧
    ∀ now conv, ∃ msg conv', (Archive.read now raw path (.ofInt m.uid)).run.run conv = (.ok msg, conv')

/-- Between two cycles the server only adds messages, each above every UID its mailbox held. -/
def Grows (M M' : Mail) : Prop :=
  ∀ path, ∃ added, M'.messages path = M.messages path ++ added ∧ ∀ m ∈ added, M.top path < m.uid

variable {M M' : Mail} {path : String}

theorem Grows.refl (M : Mail) : M.Grows M :=
  fun _ => ⟨[], (List.append_nil _).symm, fun _ h => absurd h List.not_mem_nil⟩

theorem Grows.top_le (h : M.Grows M') (path : String) : M.top path ≤ M'.top path := by
  obtain ⟨added, heq, -⟩ := h path
  cases hmax : ((M.messages path).map (·.uid)).max? with
  | none => simp [top, hmax]
  | some t =>
    obtain ⟨m, hm, rfl⟩ := List.mem_map.mp (List.max?_mem hmax)
    have hm' : m ∈ M'.messages path := by
      rw [heq]
      exact List.mem_append_left _ hm
    simpa [top, hmax] using le_top hm'

/-- Up to a UID the mailbox held, the messages above a mark are as they were. -/
theorem Grows.upTo_eq (h : M.Grows M') (hM : M.Orderly path) (hM' : M'.Orderly path) {a b : Int}
    (hb : b ≤ M.top path) : M'.upTo path a b = M.upTo path a b := by
  obtain ⟨added, heq, hadded⟩ := h path
  refine Ascending.eq_of_mem_iff (upTo_ascending hM' a b) (upTo_ascending hM a b) fun m => ?_
  rw [mem_upTo, mem_upTo, heq, List.mem_append]
  constructor
  · rintro ⟨hm | hm, hlo, hhi⟩
    · exact ⟨hm, hlo, hhi⟩
    · -- an added message lies above every UID the mailbox held
      have := hadded m hm
      omega
  · rintro ⟨hm, hlo, hhi⟩
    exact ⟨Or.inl hm, hlo, hhi⟩

/-- The messages above a mark up to the highest UID among them are all of them. -/
theorem upTo_max (hM : M.Orderly path) (a b : Int) :
    M.upTo path a (max a (((M.upTo path a b).map fun m => (m.uid : Int)).max?.getD a)) = M.upTo path a b := by
  refine Ascending.eq_of_mem_iff (upTo_ascending hM _ _) (upTo_ascending hM a b) fun m => ?_
  constructor
  · intro hm
    obtain ⟨hmem, hlo, hhi⟩ := mem_upTo.mp hm
    refine mem_upTo.mpr ⟨hmem, hlo, ?_⟩
    cases hmax : ((M.upTo path a b).map fun m => (m.uid : Int)).max? with
    | none =>
      rw [hmax] at hhi
      simp only [Option.getD_none, Int.max_self] at hhi
      omega
    | some t =>
      obtain ⟨x, hx, rfl⟩ := List.mem_map.mp (List.max?_mem hmax)
      rw [hmax] at hhi
      have := (mem_upTo.mp hx).2.2
      simp only [Option.getD_some] at hhi
      omega
  · intro hm
    obtain ⟨hmem, hlo, -⟩ := mem_upTo.mp hm
    refine mem_upTo.mpr ⟨hmem, hlo, ?_⟩
    have hin := List.mem_map_of_mem (f := fun m : Stored => (m.uid : Int)) hm
    cases hmax : ((M.upTo path a b).map fun m => (m.uid : Int)).max? with
    | none => exact absurd hmax (by simp only [List.max?_eq_none_iff]; exact List.ne_nil_of_mem hin)
    | some t =>
      have := (List.max?_eq_some_iff.mp hmax).2 _ hin
      simp only [Option.getD_some]
      omega

end Imap.Mail

namespace Sync

open Service Imap

/-- The UIDs of the records of the mailbox `p` among `hs`, in order. -/
def uidsOf (hs : List Archive.Message) (p : String) : List Int := (hs.filter (·.path = p)).map (·.uid)

theorem uidsOf_append (xs ys : List Archive.Message) (p : String) :
    uidsOf (xs ++ ys) p = uidsOf xs p ++ uidsOf ys p := by
  simp [uidsOf, List.filter_append]

theorem lastUid_position (e : Engine) (p : String) : e.position.lastUid p = (markOf e.marks p).getD 0 := rfl

/-! ## Marks raised -/

section Raise

variable (q : String)

/-- Raising a mark to the UIDs of records in turn raises it to the highest of them. -/
theorem markOf_raiseAll : ∀ (rs : List Archive.Message) (ms : List (String × Int)) (a : Int),
    markOf ms q = some a →
      markOf (rs.foldl (fun ms m => raiseMark ms q m.uid) ms) q = some ((rs.map (·.uid)).foldl max a)
  | [], _, _, h => h
  | r :: rs, ms, a, h => by
    refine markOf_raiseAll rs _ _ ?_
    rw [markOf_raiseMark_self, h, Option.getD_some]
    by_cases hr : r.uid > a
    · rw [if_pos hr, Int.max_eq_right (Int.le_of_lt hr)]
    · rw [if_neg hr, Int.max_eq_left (Int.not_lt.mp hr)]

theorem markOf_raiseAll_ne {p : String} (hp : p ≠ q) : ∀ (rs : List Archive.Message) (ms : List (String × Int)),
    markOf (rs.foldl (fun ms m => raiseMark ms q m.uid) ms) p = markOf ms p
  | [], _ => rfl
  | r :: rs, ms => by
    rw [List.foldl_cons, markOf_raiseAll_ne hp rs, markOf_raiseMark_ne _ _ _ _ hp]

end Raise

theorem mem_setKey {α : Type} {m : List (String × α)} {k : String} {v : α} {x : String × α}
    (h : x ∈ setKey m k v) : x ∈ m ∨ x = (k, v) := by
  induction m with
  | nil => simpa [setKey] using h
  | cons y rest ih =>
    unfold setKey at h
    split at h
    · rcases List.mem_cons.mp h with rfl | h
      · exact Or.inr rfl
      · exact Or.inl (List.mem_cons_of_mem _ h)
    · rcases List.mem_cons.mp h with rfl | h
      · exact Or.inl List.mem_cons_self
      · exact (ih h).imp_left (List.mem_cons_of_mem _)

theorem mem_setDefault {α : Type} {m : List (String × α)} {k : String} {v : α} {x : String × α}
    (h : x ∈ setDefault m k v) : x ∈ m ∨ x = (k, v) := by
  unfold setDefault at h
  split at h
  · exact Or.inl h
  · simpa using h

/-- Marks that are UIDs stay so when they are raised to UIDs. -/
theorem raiseAll_valid {q : String} : ∀ (rs : List Archive.Message) (ms : List (String × Int)),
    (∀ x ∈ ms, 0 ≤ x.2) → (∀ r ∈ rs, 0 ≤ r.uid) → ∀ x ∈ rs.foldl (fun ms m => raiseMark ms q m.uid) ms, 0 ≤ x.2
  | [], _, hms, _ => hms
  | r :: rs, ms, hms, hrs => by
    refine raiseAll_valid rs _ (fun x hx => ?_) fun r' hr' => hrs r' (List.mem_cons_of_mem _ hr')
    dsimp only at hx
    unfold raiseMark at hx
    split at hx
    · rcases mem_setKey hx with hx | rfl
      · exact hms x hx
      · exact hrs r List.mem_cons_self
    · exact hms x hx

/-! ## What a cycle hands over -/

/-- Between the positions `P` and `P'`, the records `hs` are, for each mailbox, its messages
above the mark of `P` up to the mark of `P'`, in UID order; the marks of `P'` are UIDs, none
below those of `P`, none above the mailbox's highest UID unless the mark of `P` was. -/
def Delivers (M : Mail) (P : Position) (hs : List Archive.Message) (P' : Position) : Prop :=
  P'.Valid ∧ ∀ p, uidsOf hs p = (M.upTo p (P.lastUid p) (P'.lastUid p)).map (fun m => (m.uid : Int)) ∧
    P.lastUid p ≤ P'.lastUid p ∧ P'.lastUid p ≤ max (P.lastUid p) (M.top p)

namespace Delivers

variable {M : Mail} {P P₁ P₂ : Position} {hs hs₁ hs₂ : List Archive.Message}

theorem refl (hP : P.Valid) : Delivers M P [] P :=
  ⟨hP, fun p => ⟨by simp [uidsOf, Mail.upTo_self], Int.le_refl _, Int.le_max_left _ _⟩⟩

theorem trans (hM : ∀ p, M.Orderly p) (h₁ : Delivers M P hs₁ P₁) (h₂ : Delivers M P₁ hs₂ P₂) :
    Delivers M P (hs₁ ++ hs₂) P₂ := by
  refine ⟨h₂.1, fun p => ?_⟩
  obtain ⟨hu₁, hlo₁, hhi₁⟩ := h₁.2 p
  obtain ⟨hu₂, hlo₂, hhi₂⟩ := h₂.2 p
  refine ⟨?_, Int.le_trans hlo₁ hlo₂, ?_⟩
  · rw [uidsOf_append, hu₁, hu₂, ← List.map_append, Mail.upTo_append (hM p) hlo₁ hlo₂]
  · omega

theorem congr {P₁' P₂' : Position} (h : Delivers M P hs P₁') (hm : P₂'.mailboxes = P₁'.mailboxes) :
    Delivers M P hs P₂' := by
  have hlast : ∀ p, P₂'.lastUid p = P₁'.lastUid p := fun p => by simp only [Position.lastUid, hm]
  refine ⟨fun x hx => h.1 x (hm ▸ hx), fun p => ?_⟩
  rw [hlast p]
  exact h.2 p

/-- Marks up to the mailbox's highest UID deliver alike once the server has only added messages. -/
theorem grow {M' : Mail} (hM : ∀ p, M.Orderly p) (hM' : ∀ p, M'.Orderly p) (hg : M.Grows M')
    (h : Delivers M {} hs P) : Delivers M' {} hs P := by
  refine ⟨h.1, fun p => ?_⟩
  obtain ⟨hu, hlo, hhi⟩ := h.2 p
  have htop := hg.top_le p
  simp only [lastUid_empty] at hu hlo hhi ⊢
  refine ⟨?_, hlo, by omega⟩
  rw [hg.upTo_eq (hM p) (hM' p) (by omega)]
  exact hu

end Delivers

/-- Messages above the mark that all read are each read into a record with their UID. -/
theorem readEach_readable {M : Mail} (hR : M.Readable) (policy : Settings.ParsePolicy) (now : Time.DateTime)
    (path : String) (last : Int) : ∀ (conv : Html.Converter) (ms : List Stored),
      (∀ m ∈ ms, m ∈ M.messages path ∧ last < m.uid) →
      (readEach policy now path last conv ms).read.map (·.uid) = ms.map fun m => (m.uid : Int)
  | _, [], _ => rfl
  | conv, m :: rest, h => by
    obtain ⟨hm, hlast⟩ := h m List.mem_cons_self
    obtain ⟨raw, hraw, hread⟩ := hR path m hm
    obtain ⟨msg, conv', hrun⟩ := hread now conv
    have hrest := readEach_readable hR policy now path last conv' rest fun x hx => h x (List.mem_cons_of_mem _ hx)
    simp only [readEach, if_neg (Int.not_le.mpr hlast), hraw, hrun, List.map_cons, hrest, (read_ok hrun).2]

variable {M : Mail} {P : Position}

/-- The marks a visit leaves: the engine's, with the mailbox's set to the position's unless it
had one, raised to the UID of each record handed over. -/
theorem visit_marks (e : Engine) (v : Visit) : (e.visit M P v).marks =
    (v.piece M P e).read.foldl (fun ms m => raiseMark ms v.path m.uid) (setDefault e.marks v.path (P.lastUid v.path)) :=
  (visit_reading e P v).2.2.2.2

/-- The records a visit hands over are of its mailbox, above the position's mark. -/
theorem piece_read_above (e : Engine) (v : Visit) :
    ∀ x ∈ (v.piece M P e).read, x.path = v.path ∧ P.lastUid v.path < x.uid :=
  fun x hx => readEach_read _ _ x hx

/-- When the messages all read, a visit hands over one record for each message it fetched. -/
theorem piece_uids (hR : M.Readable) (e : Engine) (v : Visit) :
    (v.piece M P e).read.map (·.uid) = (v.fetched M P).map fun m => (m.uid : Int) :=
  readEach_readable hR _ _ _ _ _ _ fun _ hm => ⟨(Mail.mem_upTo.mp hm).1, (Mail.mem_upTo.mp hm).2.1⟩

theorem visit_other {e : Engine} {v : Visit} {p : String} (hp : p ≠ v.path) :
    (e.visit M P v).position.lastUid p = e.position.lastUid p := by
  rw [lastUid_position, lastUid_position, visit_marks]
  exact congrArg (·.getD 0) ((markOf_raiseAll_ne _ hp _ _).trans (markOf_setDefault_ne _ _ _ _ hp))

/-- A visit from marks that are UIDs leaves marks that are UIDs. -/
theorem visit_valid (hP : P.Valid) {e : Engine} (hvalid : e.position.Valid) (v : Visit) :
    (e.visit M P v).position.Valid := by
  intro x hx
  have hx' : x ∈ (e.visit M P v).marks := hx
  rw [visit_marks] at hx'
  refine raiseAll_valid _ _ (fun y hy => ?_) (fun r hr => ?_) x hx'
  · rcases mem_setDefault hy with hy | rfl
    · exact hvalid y hy
    · exact hP.lastUid_nonneg _
  · -- every record lies above the position's mark, itself a UID
    have := (piece_read_above e v r hr).2
    have := hP.lastUid_nonneg v.path
    omega

/-- A visit from an engine where its mailbox still has the position's mark, of a mailbox whose
messages all read, raises that mark to the highest UID it fetched. -/
theorem visit_reached (hR : M.Readable) {e : Engine} {v : Visit}
    (hfresh : e.position.lastUid v.path = P.lastUid v.path) :
    (e.visit M P v).position.lastUid v.path =
      max (P.lastUid v.path) (((v.fetched M P).map fun m => (m.uid : Int)).max?.getD (P.lastUid v.path)) := by
  have hdefault : markOf (setDefault e.marks v.path (P.lastUid v.path)) v.path = some (P.lastUid v.path) := by
    rw [markOf_setDefault_self]
    rw [lastUid_position] at hfresh
    cases hm : markOf e.marks v.path with
    | none => rfl
    | some a =>
      rw [hm] at hfresh
      exact congrArg some hfresh
  rw [lastUid_position, visit_marks, markOf_raiseAll _ _ _ _ hdefault, piece_uids hR, List.foldl_max]
  rfl

/-- The highest UID a visit fetched is at most the mailbox's highest. -/
theorem fetched_max_le (v : Visit) (a : Int) :
    max a (((v.fetched M P).map fun m => (m.uid : Int)).max?.getD a) ≤ max a (M.top v.path) := by
  cases hmax : ((v.fetched M P).map fun m => (m.uid : Int)).max? with
  | none => simp only [Option.getD_none, Int.max_self, Int.le_max_left]
  | some t =>
    obtain ⟨m, hm, rfl⟩ := List.mem_map.mp (List.max?_mem hmax)
    have := Mail.le_top (Mail.mem_upTo.mp hm).1
    simp only [Option.getD_some]
    omega

/-- A visit, from an engine where its mailbox still has the position's mark, of a mailbox whose
messages all read: it hands over a record for each message it fetched, raises the mailbox's
mark to the highest of their UIDs, and leaves every other mark. -/
theorem visit_delivers (hP : P.Valid) (hM : M.Orderly v.path) (hR : M.Readable) {e : Engine}
    (hfresh : e.position.lastUid v.path = P.lastUid v.path) (hvalid : e.position.Valid) :
    Delivers M e.position (v.piece M P e).read (e.visit M P v).position := by
  refine ⟨visit_valid hP hvalid v, fun p => ?_⟩
  by_cases hp : p = v.path
  · subst hp
    have hall : (v.piece M P e).read.filter (·.path = v.path) = (v.piece M P e).read :=
      List.filter_eq_self.mpr fun x hx => by simp [(piece_read_above e v x hx).1]
    rw [hfresh, visit_reached hR hfresh]
    refine ⟨?_, Int.le_max_left _ _, fetched_max_le v _⟩
    rw [Visit.fetched, Mail.upTo_max hM, uidsOf, hall, piece_uids hR]
    rfl
  · -- another mailbox: nothing of it is read, and its mark stays
    have hnone : (v.piece M P e).read.filter (·.path = p) = [] :=
      List.filter_eq_nil_iff.mpr fun x hx => by simp [(piece_read_above e v x hx).1, Ne.symm hp]
    rw [visit_other hp]
    exact ⟨by simp [uidsOf, hnone, Mail.upTo_self], Int.le_refl _, Int.le_max_left _ _⟩

/-- A sweep over mailboxes named once each, from an engine where each still has the position's
mark, hands over what its visits deliver, one after the other. -/
theorem Swept.delivers (hP : P.Valid) (hM : ∀ p, M.Orderly p) (hR : M.Readable) {ms : List Mailbox.Entry}
    {e e' : Engine} {vs : List Visit} {r : Except Halt Unit} (h : Swept M P ms e vs r e')
    (hnodup : (ms.map (·.path)).Nodup) (hfresh : ∀ m ∈ ms, e.position.lastUid m.path = P.lastUid m.path)
    (hvalid : e.position.Valid) : Delivers M e.position ((pieces M P e vs).flatMap (·.read)) e'.position := by
  induction h with
  | done => exact Delivers.refl hvalid
  | @next m rest e v vs r e' hv _ _ _ ih =>
    obtain ⟨hm, hnodup'⟩ := List.nodup_cons.mp hnodup
    have hvisit := visit_delivers hP (hM v.path) hR (by rw [hv]; exact hfresh m List.mem_cons_self) hvalid
    rw [pieces, List.flatMap_cons]
    refine hvisit.trans hM (ih hnodup' (fun m' hm' => ?_) hvisit.1)
    have hne : m'.path ≠ v.path := fun heq => hm (by show m.path ∈ _; rw [← hv, ← heq]; exact List.mem_map_of_mem hm')
    rw [visit_other hne]
    exact hfresh m' (List.mem_cons_of_mem _ hm')
  | @last m rest e v hv _ _ =>
    have hvisit := visit_delivers hP (hM v.path) hR (by rw [hv]; exact hfresh m List.mem_cons_self) hvalid
    simpa only [pieces, List.flatMap_cons, List.flatMap_nil, List.append_nil] using hvisit

/-- A cycle from the position `P` hands over what takes each selected mailbox from the mark `P`
gives it to the mark the cycle ends with; the listing names each mailbox once, so each is swept
from `P`'s own mark. -/
theorem Cycled.delivers (hP : P.Valid) (hM : ∀ p, M.Orderly p) (hR : M.Readable)
    (hlist : (M.entries.map (·.path)).Nodup) {e e' : Engine} {r : Except Halt Unit}
    (h : Cycled M P (e.restart P) r e') : ∃ new, e'.handed = e.handed ++ new ∧ Delivers M P new e'.position := by
  cases h with
  | refused _ => exact ⟨[], (List.append_nil _).symm, (Delivers.refl hP).congr rfl⟩
  | unlisted _ => exact ⟨[], (List.append_nil _).symm, (Delivers.refl hP).congr rfl⟩
  | swept hs =>
    have hnodup : ((archived e.options.allInclusive M.entries).map (·.path)).Nodup :=
      hlist.sublist (List.filter_sublist.map _)
    exact ⟨_, hs.handed, hs.delivers hP hM hR hnodup (fun _ _ => rfl) hP⟩

/-- A cycle from a valid position, with a consumer that takes every message, over mail whose
mailboxes honour ranges, whose messages all read and whose listing names each mailbox once:
for each mailbox, the records handed over are its messages above the position's mark up to the
mark the cycle reaches, in UID order. -/
theorem cycle_resumes {c : Consumer} (hc : c.Patient) (hP : P.Valid) (hM : ∀ p, M.Orderly p) (hR : M.Readable)
    (hlist : (M.entries.map (·.path)).Nodup) {w : World} (hw : Framed M true w) (e : Engine)
    (hsize : 1 ≤ e.options.batchSize) :
    ∃ new, ((run c (some P)).run.run (w, e)).2.2.handed = e.handed ++ new ∧
      Delivers M P new ((run c (some P)).run.run (w, e)).2.2.position := by
  obtain ⟨-, r', hcyc, -⟩ := run_runs hc hP hM e hsize (w, e) ⟨hw, rfl⟩
  exact hcyc.delivers hP hM hR hlist

/-! ## Cycle after cycle -/

/-- What one run of the sync command is given: the world, with the server and the connection,
the options and the clock. -/
structure Round where
  world : World
  options : Options
  now : Time.DateTime

abbrev Round.mail (r : Round) : Mail := r.world.server.mail

/-- A round in which the sync hands every message over once: mail whose mailboxes honour ranges,
whose messages all read and whose listing names each mailbox once, a connection, and batches of
at least one message. -/
structure Round.Served (r : Round) : Prop where
  orderly : ∀ p, r.mail.Orderly p
  readable : r.mail.Readable
  distinct : (r.mail.entries.map (·.path)).Nodup
  linked : r.world.link.isSome = true
  batch : 1 ≤ r.options.batchSize

/-- Whether the sync command stores the position a cycle reached: only when it ended without
a failure. -/
def stores : Except Halt (Option Fault) → Bool
  | .ok none => true
  | _ => false

/-- The store after a cycle that ended with `out` and reached `P`: the position stored, when the
cycle ended without a failure and the store takes it. -/
def saved (s : PositionStore) (source : String) (out : Except Halt (Option Fault)) (P : Position) :
    Option PositionStore :=
  if stores out then (s.upsert source P).toOption else none

/-- The rounds of the sync command for one source, each reading the stored position back and
running a cycle from it on a fresh engine, and storing the position reached when the cycle
ended without a failure. Gives the records of each cycle, with whether its position was stored,
and the store after the last round; a stored position that does not read back ends the rounds. -/
def commandCycles (c : Consumer) (source : String) :
    PositionStore → List Round → List (List Archive.Message × Bool) × PositionStore
  | s, [] => ([], s)
  | s, r :: rs =>
    match s.fetch source with
    | .error _ => ([], s)
    | .ok start =>
      let out := (run c start).run.run (r.world, { options := r.options, now := r.now })
      let next := commandCycles c source ((saved s source out.1 out.2.2.position).getD s) rs
      ((out.2.2.handed, (saved s source out.1 out.2.2.position).isSome) :: next.1, next.2)

/-- A position is saved only by a cycle that ended without a failure, into the store that takes
it. -/
theorem saved_some {s s' : PositionStore} {out : Except Halt (Option Fault)} {P : Position}
    (h : saved s source out P = some s') : s.upsert source P = .ok s' := by
  unfold saved at h
  split at h
  · rcases hu : s.upsert source P with f | s'' <;> rw [hu] at h
    · cases h
    · cases h
      rfl
  · cases h

def storedRecords (outs : List (List Archive.Message × Bool)) : List Archive.Message :=
  (outs.filter (·.2)).flatMap (·.1)

theorem storedRecords_cons (hs : List Archive.Message) (b : Bool) (outs : List (List Archive.Message × Bool)) :
    storedRecords ((hs, b) :: outs) = (if b then hs else []) ++ storedRecords outs := by
  cases b <;> simp only [storedRecords, List.filter_cons, if_true, if_false, Bool.false_eq_true,
    List.flatMap_cons, List.nil_append]

/-- A cycle without a position starts from the empty one. -/
theorem run_getD (c : Consumer) (S : Option Position) : run c S = run c (some (S.getD {})) := by
  cases S <;> rfl

variable {c : Consumer} {source : String}

/-- One round keeps the invariant of the rounds: the stored position reads back, and the records
of the stored cycles are, mailbox by mailbox, the messages of the server up to its mark. The
server may have grown since the last round. -/
theorem round_delivers (hc : c.Patient) {M : Mail} (hM : ∀ p, M.Orderly p) {r : Round} (hr : r.Served)
    (hg : M.Grows r.mail) {s : PositionStore} {S : Option Position} {hs : List Archive.Message}
    (hfetch : s.fetch source = .ok S) (hd : Delivers M {} hs (S.getD {})) :
    let out := (run c S).run.run (r.world, { options := r.options, now := r.now })
    ∃ S', ((saved s source out.1 out.2.2.position).getD s).fetch source = .ok S' ∧
      Delivers r.mail {} (hs ++ if (saved s source out.1 out.2.2.position).isSome then out.2.2.handed else [])
        (S'.getD {}) := by
  intro out
  have hgrown := hd.grow hM hr.orderly hg
  obtain ⟨new, hnew, hcycle⟩ := cycle_resumes hc hgrown.1 hr.orderly hr.readable hr.distinct
    (w := r.world) ⟨rfl, hr.linked⟩ { options := r.options, now := r.now } hr.batch
  rw [← run_getD] at hnew hcycle
  -- the cycle delivers from the position read back; what it hands over counts only when stored
  rcases hsv : saved s source out.1 out.2.2.position with _ | s'
  · exact ⟨S, hfetch, by simpa only [Option.isSome_none, Bool.false_eq_true, if_false, List.append_nil] using hgrown⟩
  · refine ⟨some out.2.2.position.onWire, fetch_upsert_self hcycle.1 (saved_some hsv), ?_⟩
    have hnew' : out.2.2.handed = new := by simpa only [List.nil_append] using hnew
    simpa only [Option.isSome_some, if_true, hnew', Option.getD_some] using
      (hgrown.trans hr.orderly hcycle).congr
        (show out.2.2.position.onWire.mailboxes = out.2.2.position.mailboxes from rfl)

/-- The invariant of the rounds along a run of them, from a store whose position reads back. -/
theorem rounds_deliver (hc : c.Patient) :
    ∀ (rs : List Round) (M : Mail) (s : PositionStore) (S : Option Position) (hs : List Archive.Message),
      (∀ r ∈ rs, r.Served) → (∀ p, M.Orderly p) → (M :: rs.map (·.mail)).IsChain Mail.Grows →
      s.fetch source = .ok S → Delivers M {} hs (S.getD {}) →
      ∃ S', (commandCycles c source s rs).2.fetch source = .ok S' ∧
        Delivers (((rs.map (·.mail)).getLast?).getD M) {} (hs ++ storedRecords (commandCycles c source s rs).1)
          (S'.getD {})
  | [], M, s, S, hs, _, _, _, hfetch, hd => by
    refine ⟨S, hfetch, ?_⟩
    simpa only [commandCycles, storedRecords, List.filter_nil, List.flatMap_nil, List.append_nil, List.map_nil,
      List.getLast?_nil, Option.getD_none] using hd
  | r :: rs, M, s, S, hs, hserved, hM, hchain, hfetch, hd => by
    obtain ⟨hg, hchain'⟩ := List.isChain_cons_cons.mp hchain
    have hr := hserved r List.mem_cons_self
    obtain ⟨S', hS', hd'⟩ := round_delivers hc hM hr hg hfetch hd
    obtain ⟨S'', hS'', hd''⟩ := rounds_deliver hc rs r.mail _ S' _
      (fun r' h => hserved r' (List.mem_cons_of_mem _ h)) hr.orderly hchain' hS' hd'
    refine ⟨S'', ?_, ?_⟩
    · simp only [commandCycles, hfetch]
      exact hS''
    · simp only [commandCycles, hfetch, storedRecords_cons, List.map_cons, List.getLast?_cons, Option.getD_some,
        ← List.append_assoc]
      exact hd''

/-- What a delivery from the empty position says of a mailbox: its records come in strictly
ascending UID order, so none twice, and name exactly its messages with a positive UID up to the
mark reached. -/
theorem Delivers.once {M : Mail} (hM : ∀ p, M.Orderly p) {hs : List Archive.Message} {P : Position}
    (h : Delivers M {} hs P) (p : String) :
    (uidsOf hs p).Pairwise (· < ·) ∧
      ∀ m ∈ M.messages p, 0 < m.uid → ((m.uid : Int) ∈ uidsOf hs p ↔ (m.uid : Int) ≤ P.lastUid p) := by
  have hu : uidsOf hs p = (M.upTo p 0 (P.lastUid p)).map (fun m => (m.uid : Int)) := (h.2 p).1
  rw [hu]
  refine ⟨List.pairwise_map.mpr ((Mail.upTo_ascending (hM p) 0 _).imp fun hlt => by omega), fun m hm hpos => ?_⟩
  constructor
  · intro hmem
    obtain ⟨m', hm', heq⟩ := List.mem_map.mp hmem
    rw [← heq]
    exact (Mail.mem_upTo.mp hm').2.2
  · intro hle
    exact List.mem_map_of_mem (Mail.mem_upTo.mpr ⟨hm, by omega, hle⟩)

/-- Rounds of the sync command for one source from an empty store, with a consumer that takes
every message, each round served as `Round.Served` asks, and a server that between rounds only
adds messages above the UIDs it held: the position stored last reads back, and over the cycles
whose position was stored, each mailbox's records come in strictly ascending UID order, none
twice, and name exactly the messages of the last server with a positive UID up to the stored
mark. -/
theorem rounds_hand_over_once (hc : c.Patient) (source : String) (rs : List Round)
    (hserved : ∀ r ∈ rs, r.Served) (hgrow : (rs.map (·.mail)).IsChain Mail.Grows) :
    ∃ S, (commandCycles c source {} rs).2.fetch source = .ok S ∧
      ∀ r ∈ rs.getLast?, ∀ p,
        (uidsOf (storedRecords (commandCycles c source {} rs).1) p).Pairwise (· < ·) ∧
        ∀ m ∈ r.mail.messages p, 0 < m.uid →
          ((m.uid : Int) ∈ uidsOf (storedRecords (commandCycles c source {} rs).1) p ↔
            (m.uid : Int) ≤ (S.getD {}).lastUid p) := by
  cases rs with
  | nil => exact ⟨none, rfl, fun r hr => absurd hr (Option.not_mem_none r)⟩
  | cons r₀ rs =>
    have hempty : Delivers r₀.mail {} [] ((none : Option Position).getD {}) := Delivers.refl fun _ h => absurd h List.not_mem_nil
    obtain ⟨S, hS, hd⟩ := rounds_deliver hc (r₀ :: rs) r₀.mail {} none [] hserved
      (hserved r₀ List.mem_cons_self).orderly (List.IsChain.cons_cons (Mail.Grows.refl _) hgrow) rfl hempty
    refine ⟨S, hS, fun r hr p => ?_⟩
    have hlast : (r₀ :: rs).getLast? = some r := Option.mem_def.mp hr
    have hmail : (((r₀ :: rs).map (·.mail)).getLast?).getD r₀.mail = r.mail := by
      rw [List.getLast?_map, hlast, Option.map_some, Option.getD_some]
    rw [hmail, List.nil_append] at hd
    exact hd.once (hserved r (List.mem_of_getLast? hlast)).orderly p

/-- A short message filed under its full body. -/
def note (uid : Nat) : Imap.Stored := ⟨uid, some "BODY[]", [0x53, 0x3A, 0x20, 0x61, 0x0A, 0x0A, 0x68]⟩

/-- An inbox holding the notes with the given UIDs. -/
def inboxOf (uids : List Nat) : Mail :=
  ⟨[{ path := "INBOX", flags := [], delimiter := none }], [("INBOX", uids.map note)]⟩

theorem inboxOf_messages (uids : List Nat) (path : String) :
    (inboxOf uids).messages path = if "INBOX" = path then uids.map note else [] := by
  simp only [Mail.messages, inboxOf, List.find?_cons, List.find?_nil]
  split <;> simp_all

theorem inboxOf_orderly {uids : List Nat} (hu : uids.Nodup) (path : String) : (inboxOf uids).Orderly path := by
  constructor
  · simp only [inboxOf, Mail.sloppy, List.find?]
    split <;> rfl
  · rw [inboxOf_messages]
    split
    · simpa only [List.map_map, Function.comp_def, note, List.map_id'] using hu
    · exact List.nodup_nil

/-- Notes with UIDs 1 and 2 read from every converter at every clock: the reading runs through
the parser on the note's bytes, and only the arrival takes the clock. -/
theorem inboxOf_readable {uids : List Nat} (hu : ∀ u ∈ uids, u = 1 ∨ u = 2) : (inboxOf uids).Readable := by
  intro path m hm
  rw [inboxOf_messages] at hm
  split at hm
  · obtain ⟨u, hmem, rfl⟩ := List.mem_map.mp hm
    refine ⟨(note u).source, rfl, fun now conv => ?_⟩
    rcases hu u hmem with rfl | rfl <;> with_unfolding_all exact ⟨_, _, rfl⟩
  · exact absurd hm List.not_mem_nil

/-- A world whose server holds `inboxOf uids`, with a connection. -/
def inboxWorld (uids : List Nat) : World :=
  { (default : World) with
    server := { listing := (inboxOf uids).listing, boxes := (inboxOf uids).boxes }
    link := some default }

/-- A round of the sync command over `inboxOf uids`. -/
def inboxRound (uids : List Nat) : Round := ⟨inboxWorld uids, {}, default⟩

theorem inboxRound_served {uids : List Nat} (hn : uids.Nodup) (hu : ∀ u ∈ uids, u = 1 ∨ u = 2) :
    (inboxRound uids).Served where
  orderly := inboxOf_orderly hn
  readable := inboxOf_readable hu
  distinct := List.pairwise_singleton _ _
  linked := rfl
  batch := show (1 : Int) ≤ 250 by decide

/-- Between the two rounds the server adds the note with UID 2 above the note with UID 1. -/
theorem inboxOf_grows : (inboxOf [1]).Grows (inboxOf [1, 2]) := by
  intro path
  by_cases hp : "INBOX" = path
  · subst hp
    exact ⟨[note 2], rfl, by decide⟩
  · refine ⟨[], ?_, fun _ h => absurd h List.not_mem_nil⟩
    rw [inboxOf_messages, inboxOf_messages, if_neg hp, if_neg hp, List.append_nil]

/-- A round over an inbox with one note, then one after the server added a second. -/
theorem growingRounds_hand_over_once :
    ∃ S, (commandCycles takeAll "inbox" {} [inboxRound [1], inboxRound [1, 2]]).2.fetch "inbox" = .ok S ∧
      ∀ r ∈ [inboxRound [1], inboxRound [1, 2]].getLast?, ∀ p,
        (uidsOf (storedRecords (commandCycles takeAll "inbox" {} [inboxRound [1], inboxRound [1, 2]]).1) p).Pairwise
          (· < ·) ∧
        ∀ m ∈ r.mail.messages p, 0 < m.uid →
          ((m.uid : Int) ∈ uidsOf (storedRecords (commandCycles takeAll "inbox" {} [inboxRound [1], inboxRound [1, 2]]).1) p ↔
            (m.uid : Int) ≤ (S.getD {}).lastUid p) :=
  rounds_hand_over_once takeAll_patient "inbox" [inboxRound [1], inboxRound [1, 2]]
    (fun r hr => by
      rcases List.mem_pair.mp hr with rfl | rfl
      · exact inboxRound_served (by decide) (by decide)
      · exact inboxRound_served (by decide) (by decide))
    (List.IsChain.cons_cons inboxOf_grows (List.IsChain.singleton _))

end Sync

end MailIngest
