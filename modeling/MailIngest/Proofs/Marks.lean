import MailIngest.Proofs.Delivery

/-!
# The marks of a position never fall

A cycle from the position `P` begins by setting the engine's marks to `P`'s. From then on a
mark is set only for a mailbox that has none, to its mark in `P` (`Engine.markDefault`), or
raised to the UID of a record of its mailbox as the record is handed over
(`Engine.handOne`). So, whatever the consumer does and whatever the world answers, once the
cycle has begun the marks keep `MarksFrom P n`: every mailbox of `P` has a mark at least its
mark in `P`, and every mark is its mailbox's mark in `P` or the UID of a record of that mailbox
handed over in the cycle (`n` counts the records handed over before it).

- `messages_marked`: the messages of a cycle end with `MarksFrom`, however they end.
- `cycle_marks_never_fall`: so does a whole cycle whose consumer's first reaction succeeds.

The first reaction comes before the marks are set: when it fails, the engine keeps the marks it
had before the cycle.
-/

namespace MailIngest.Sync

open Service

/-! ## Looking a mark up -/

section Lookup

variable (m : List (String × Int)) (k k' : String) (v : Int)

theorem markOf_setKey_ne (h : k' ≠ k) : markOf (setKey m k v) k' = markOf m k' := by
  induction m with
  | nil => simp [setKey, markOf, Ne.symm h]
  | cons x rest ih =>
    obtain ⟨k'', v'⟩ := x
    by_cases hk : k'' = k
    · subst hk
      simp [setKey, markOf, Ne.symm h]
    · simp only [markOf] at ih
      by_cases hk' : k'' = k' <;> simp [setKey, markOf, hk, hk', h, ih]

theorem markOf_setDefault_self : markOf (setDefault m k v) k = some ((markOf m k).getD v) := by
  unfold setDefault markOf
  split
  · next hany =>
    obtain ⟨y, hy, hyk⟩ := List.any_eq_true.mp hany
    have hsome : (m.find? (·.1 = k)).isSome := List.find?_isSome.mpr ⟨y, hy, hyk⟩
    obtain ⟨x, hx⟩ := Option.isSome_iff_exists.mp hsome
    simp [hx]
  · next hany =>
    have hnone : m.find? (·.1 = k) = none := List.find?_eq_none.mpr fun x hx hk => hany
      (List.any_eq_true.mpr ⟨x, hx, by simpa using hk⟩)
    simp [List.find?_append, hnone]

theorem markOf_setDefault_ne (h : k' ≠ k) : markOf (setDefault m k v) k' = markOf m k' := by
  unfold setDefault markOf
  split
  · rfl
  · simp [List.find?_append, Ne.symm h]

theorem markOf_raiseMark_ne (h : k' ≠ k) : markOf (raiseMark m k v) k' = markOf m k' := by
  unfold raiseMark
  split
  · exact markOf_setKey_ne m k k' v h
  · rfl

theorem markOf_raiseMark_self :
    markOf (raiseMark m k v) k = if v > (markOf m k).getD 0 then some v else markOf m k := by
  unfold raiseMark
  split
  · exact setMark_get m k v
  · rfl

/-- A mark of a position is the position's mark of that mailbox. -/
theorem lastUid_of_markOf {P : Position} {p : String} {u : Int} (h : markOf P.mailboxes p = some u) :
    P.lastUid p = u := by
  unfold markOf at h
  simp [Position.lastUid, h]

theorem markOf_of_mem {P : Position} {p : String} {u : Int} (h : (p, u) ∈ P.mailboxes) :
    markOf P.mailboxes p = some (P.lastUid p) := by
  have hsome : (P.mailboxes.find? (·.1 = p)).isSome := List.find?_isSome.mpr ⟨(p, u), h, by simp⟩
  obtain ⟨x, hx⟩ := Option.isSome_iff_exists.mp hsome
  have hmark : markOf P.mailboxes p = some x.2 := by simp [markOf, hx]
  rw [hmark, lastUid_of_markOf hmark]

end Lookup

/-! ## The marks during a cycle -/

/-- The marks of an engine during a cycle from the position `P`, with `n` records handed over
before the cycle. -/
structure MarksFrom (P : Position) (n : Nat) (e : Engine) : Prop where
  since : n ≤ e.handed.length
  /-- Every mailbox of `P` has a mark, at least its mark in `P`. -/
  kept : ∀ p u, (p, u) ∈ P.mailboxes → ∃ v, markOf e.marks p = some v ∧ P.lastUid p ≤ v
  /-- Every mark is the mailbox's mark in `P`, or the UID of one of its records handed over since. -/
  earned : ∀ p v, markOf e.marks p = some v →
    v = P.lastUid p ∨ ∃ m ∈ e.handed.drop n, m.path = p ∧ m.uid = v

namespace MarksFrom

variable {P : Position} {n : Nat} {e : Engine}

theorem restart (e : Engine) (P : Position) : MarksFrom P e.handed.length (e.restart P) where
  since := Nat.le_refl _
  kept _ _ h := ⟨_, markOf_of_mem h, Int.le_refl _⟩
  earned _ _ h := .inl (lastUid_of_markOf h).symm

/-- A step that leaves the marks and the records handed over leaves `MarksFrom`. -/
theorem congr {e' : Engine} (h : MarksFrom P n e) (hm : e'.marks = e.marks) (hh : e'.handed = e.handed) :
    MarksFrom P n e' where
  since := hh ▸ h.since
  kept := hm ▸ h.kept
  earned := hm ▸ hh ▸ h.earned

/-- Setting the mark of a mailbox without one to its mark in `P`. -/
theorem markDefault (h : MarksFrom P n e) (path : String) :
    MarksFrom P n (e.markDefault path (P.lastUid path)) where
  since := h.since
  kept p u hp := by
    obtain ⟨v, hv, hle⟩ := h.kept p u hp
    by_cases hpath : p = path
    · subst hpath
      exact ⟨v, by simp [Engine.markDefault, markOf_setDefault_self, hv], hle⟩
    · exact ⟨v, by rw [Engine.markDefault, markOf_setDefault_ne _ _ _ _ hpath, hv], hle⟩
  earned p v hv := by
    by_cases hpath : p = path
    · subst hpath
      rw [Engine.markDefault, markOf_setDefault_self] at hv
      cases hold : markOf e.marks p with
      | none => simp only [hold, Option.getD_none, Option.some.injEq] at hv; exact .inl hv.symm
      | some x =>
        simp only [hold, Option.getD_some, Option.some.injEq] at hv
        exact h.earned p v (hv ▸ hold)
    · rw [Engine.markDefault, markOf_setDefault_ne _ _ _ _ hpath] at hv
      exact h.earned p v hv

theorem handOne (h : MarksFrom P n e) {path : String} {m : Archive.Message} (hm : m.path = path) :
    MarksFrom P n (e.handOne path m) where
  since := Nat.le_trans h.since (by simp [Engine.handOne])
  kept p u hp := by
    obtain ⟨v, hv, hle⟩ := h.kept p u hp
    by_cases hpath : p = path
    · subst hpath
      simp only [Engine.handOne, markOf_raiseMark_self, hv, Option.getD_some]
      split
      · exact ⟨m.uid, rfl, by omega⟩
      · exact ⟨v, rfl, hle⟩
    · exact ⟨v, by rw [Engine.handOne, markOf_raiseMark_ne _ _ _ _ hpath, hv], hle⟩
  earned p v hv := by
    have hgrow : ∀ m' ∈ e.handed.drop n, m' ∈ (e.handOne path m).handed.drop n := fun m' hm' => by
      simp [Engine.handOne, List.drop_append_of_le_length h.since, hm']
    by_cases hpath : p = path
    · subst hpath
      simp only [Engine.handOne, markOf_raiseMark_self] at hv
      split at hv
      · cases hv
        exact .inr ⟨m, by simp [Engine.handOne, List.drop_append_of_le_length h.since], hm, rfl⟩
      · exact (h.earned p v hv).imp_right (Exists.imp fun m' hm' => ⟨hgrow m' hm'.1, hm'.2⟩)
    · rw [Engine.handOne, markOf_raiseMark_ne _ _ _ _ hpath] at hv
      exact (h.earned p v hv).imp_right (Exists.imp fun m' hm' => ⟨hgrow m' hm'.1, hm'.2⟩)

end MarksFrom

/-! ## The steps of a cycle -/

/-- A state of a cycle whose engine's marks are `MarksFrom P n`. -/
abbrev Marked (P : Position) (n : Nat) (s : World × Engine) : Prop := MarksFrom P n s.2

section Steps

variable {P : Position} {n : Nat} (c : Consumer)

theorem act_marked {α : Type} (a : Act α) : Keeps (Marked P n) (act a) := by
  unfold act
  refine Keeps.bind (Keeps.modifyGet fun s h => ?_) fun r => ?_
  · obtain ⟨w, e⟩ := s
    exact h
  · cases r with
    | ok v => exact Keeps.pure v
    | error f => exact Keeps.throw _

theorem engine_marked : Keeps (Marked P n) engine :=
  Keeps.bind Keeps.get fun _ => Keeps.pure _

theorem modifyEngine_marked {f : Engine → Engine} (hf : ∀ e, MarksFrom P n e → MarksFrom P n (f e)) :
    Keeps (Marked P n) (modifyEngine f) :=
  Keeps.modify fun s h => by
    obtain ⟨w, e⟩ := s
    exact hf e h

/-- Handing over a record of the mailbox it was read from; the consumer's reaction changes the
world only. -/
theorem handOver_marked {path : String} {m : Archive.Message} (hm : m.path = path) :
    Keeps (Marked P n) (handOver c path m) := by
  unfold handOver
  refine Keeps.bind (modifyEngine_marked fun e h => h.handOne hm) fun _ => ?_
  refine Keeps.bind engine_marked fun e => ?_
  refine Keeps.bind (Keeps.modifyGet fun s h => ?_) fun r => ?_
  · obtain ⟨w, e⟩ := s
    exact h
  · cases r with
    | error f => exact Keeps.throw _
    | ok u =>
      cases u
      dsimp only
      have hstop : ∀ b : Bool, Keeps (Marked P n) (if b = true then throw Halt.stop else pure ()) :=
        fun _ => Keeps.ite (fun _ => Keeps.throw _) fun _ => Keeps.pure _
      exact Keeps.ite (fun _ => Keeps.bind (Keeps.throw _) fun _ => hstop _) fun _ => hstop _

/-- Reading a message changes the converter only, and a record read is of the mailbox read. -/
theorem readMessage_marked (raw : List UInt8) (path : String) (uid : Nat) :
    Yields (Marked P n) (readMessage raw path uid) fun r => ∀ msg, r = .ok msg → msg.path = path := by
  unfold readMessage
  refine Yields.bind (Yields.of_keeps engine_marked fun _ => trivial) fun e _ => ?_
  rcases hres : (Archive.read e.now raw path (.ofInt uid)).run.run e.converter with ⟨r, conv⟩
  refine Yields.bind (Yields.of_keeps (modifyEngine_marked fun e h => h.congr rfl rfl) fun _ => trivial)
    fun _ _ => Yields.pure fun msg hmsg => ?_
  subst hmsg
  exact (read_ok hres).1

theorem batchMessages_marked (path : String) (last : Int) :
    ∀ ms, Keeps (Marked P n) (batchMessages c path last ms)
  | [] => Keeps.pure ()
  | m :: rest => by
    unfold batchMessages
    refine Keeps.ite (fun _ => batchMessages_marked path last rest) fun _ => ?_
    cases sourceOf m with
    | none => exact batchMessages_marked path last rest
    | some raw =>
      refine Yields.keeps_bind (readMessage_marked raw path m.uid) fun r hr => ?_
      cases r with
      | error f =>
        exact Keeps.bind engine_marked fun _ =>
          Keeps.ite (fun _ => Keeps.throw _) fun _ => batchMessages_marked path last rest
      | ok msg => exact Keeps.bind (handOver_marked c (hr msg rfl)) fun _ => batchMessages_marked path last rest

theorem batches_marked (path : String) (last top : Int) :
    ∀ fuel start, Keeps (Marked P n) (batches c path last top fuel start)
  | 0, _ => by
    unfold batches
    exact Keeps.ite (fun _ => Keeps.pure ()) fun _ => Keeps.throw _
  | fuel + 1, start => by
    unfold batches
    refine Keeps.ite (fun _ => Keeps.pure ()) fun _ => ?_
    refine Keeps.bind engine_marked fun _ => ?_
    refine Keeps.bind (act_marked _) fun ms => ?_
    refine Keeps.bind (act_marked _) fun _ => ?_
    refine Keeps.bind (batchMessages_marked c path last ms) fun _ => ?_
    exact Keeps.bind (act_marked _) fun _ => batches_marked path last top fuel _

theorem syncMailbox_marked (path : String) : Keeps (Marked P n) (syncMailbox c path (P.lastUid path)) := by
  unfold syncMailbox
  refine Keeps.bind (modifyEngine_marked fun e h => h.markDefault path) fun _ => ?_
  exact Keeps.bind (act_marked _) fun _ => Keeps.ite (fun _ => Keeps.pure ()) fun _ => batches_marked c _ _ _ _ _

theorem mailbox_marked (path : String) : Keeps (Marked P n) (mailbox c P path) := by
  unfold mailbox
  refine Keeps.tryCatch (Keeps.bind (syncMailbox_marked c path) fun _ => Keeps.pure true) fun h => ?_
  cases h with
  | fault f =>
    -- every handler notes the failure, which leaves the marks, or passes it on
    have hnote : ∀ note (b : Bool), Keeps (Marked P n) (noteFailure path f note >>= fun _ => pure b) :=
      fun _ b => Keeps.bind (modifyEngine_marked fun _ h => h.congr rfl rfl) fun _ => Keeps.pure b
    refine Keeps.ite (fun _ => hnote _ true) fun _ => Keeps.ite (fun _ => hnote _ true) fun _ =>
      Keeps.ite (fun _ => hnote _ false) fun _ => Keeps.ite (fun _ => ?_) fun _ => Keeps.throw _
    exact Keeps.bind (modifyEngine_marked fun _ h => h.congr rfl rfl) fun _ => Keeps.pure true
  | consumer f => exact Keeps.throw _
  | stop => exact Keeps.throw _

theorem mailboxes_marked : ∀ ms, Keeps (Marked P n) (mailboxes c P ms)
  | [] => Keeps.pure ()
  | m :: rest => by
    unfold mailboxes
    exact Keeps.bind (mailbox_marked c m.path) fun _ =>
      Keeps.ite (fun _ => mailboxes_marked rest) fun _ => Keeps.pure ()

/-- The messages of a cycle from `P` set the marks to `P`'s first, and keep `MarksFrom` from
then on, however they end. -/
theorem messages_marked (k : Nat) :
    Triple (fun s : World × Engine => s.2.handed.length = k) (messages c P) fun _ s => MarksFrom P k s.2 := by
  unfold messages
  refine Triple.bind (R := fun _ s => Marked P k s) (Triple.modify fun s hs => ?_) (fun _ => ?_) fun _ _ h => h
  · obtain ⟨w, e⟩ := s
    subst hs
    exact MarksFrom.restart e P
  refine Keeps.bind (Keeps.tryCatch (Keeps.map _ (act_marked _)) fun h => ?_) fun listing => ?_
  · cases h with
    | fault f =>
      exact Keeps.ite (fun _ => Keeps.bind (modifyEngine_marked fun _ h => h.congr rfl rfl) fun _ => Keeps.pure _)
        fun _ => Keeps.throw _
    | consumer f => exact Keeps.throw _
    | stop => exact Keeps.throw _
  · cases listing with
    | none => exact Keeps.pure ()
    | some es => exact Keeps.bind engine_marked fun _ => mailboxes_marked c _

/-- A cycle whose consumer's first reaction succeeds ends with `MarksFrom`, however it ends. -/
theorem run_marked (s : World × Engine) (hstart : ((c.react 0).run.run s.1).1 = .ok ()) :
    MarksFrom P s.2.handed.length ((run c (some P)).run.run s).2.2 := by
  have hrun : Triple (· = s) (run c (some P)) fun _ t => Marked P s.2.handed.length t := by
    unfold run
    refine Triple.bind (R := fun _ t => Marked P s.2.handed.length t)
      (Triple.tryCatch (R := fun _ t => Marked P s.2.handed.length t) ?_ (fun _ _ h => h) fun h => ?_)
      (fun _ => ?_) fun _ _ h => h
    · -- the first reaction leaves the engine, and the messages begin from it
      refine Triple.bind (R := fun r t => r = .ok (.ok ()) ∧ t.2 = s.2) (Triple.modifyGet fun t ht => ?_)
        (fun r => ?_) fun _ _ h => by cases h.1
      · subst ht
        obtain ⟨w, e⟩ := t
        dsimp only
        rcases hreact : (c.react 0).run.run w with ⟨r, w'⟩
        rw [hreact] at hstart
        cases hstart
        exact ⟨rfl, rfl⟩
      · refine fun t ht => ?_
        obtain ⟨hr, he⟩ := ht
        cases hr
        exact Triple.bind (messages_marked (P := P) c s.2.handed.length) (fun _ => Keeps.pure none)
          (fun _ _ h => h) t (congrArg (·.handed.length) he)
    · cases h with
      | stop => exact Keeps.pure _
      | fault f => exact Keeps.pure _
      | consumer f => exact Keeps.pure _
    · exact Keeps.bind (act_marked _) fun _ => Keeps.pure _
  exact hrun s rfl

end Steps

/-- The marks of a cycle from the position `P` never fall, whatever the consumer does and
whatever the world answers, once the consumer's first reaction has succeeded: every mailbox of
`P` keeps a mark at least its mark in `P`, and every mark is its mailbox's mark in `P` or the
UID of a record of that mailbox handed over in the cycle. -/
theorem cycle_marks_never_fall (c : Consumer) (P : Position) (s : World × Engine)
    (hstart : ((c.react 0).run.run s.1).1 = .ok ()) :
    let e' := ((run c (some P)).run.run s).2.2
    (∀ p u, (p, u) ∈ P.mailboxes → ∃ v, markOf e'.position.mailboxes p = some v ∧ P.lastUid p ≤ v) ∧
      ∀ p v, markOf e'.position.mailboxes p = some v →
        v = P.lastUid p ∨ ∃ m ∈ e'.handed.drop s.2.handed.length, m.path = p ∧ m.uid = v := by
  intro e'
  have h : MarksFrom P s.2.handed.length e' := run_marked c s hstart
  exact ⟨h.kept, h.earned⟩

/-- A consumer that takes one record and stops, from a position marking `INBOX` at 0. -/
theorem takeOne_marks_never_fall :
    let e' := ((run ⟨fun _ => pure (), some 1, none⟩ (some ⟨[("INBOX", 0)], none⟩)).run.run
      (oneMessageWorld, freshEngine)).2.2
    (∀ p u, (p, u) ∈ [("INBOX", (0 : Int))] →
        ∃ v, markOf e'.position.mailboxes p = some v ∧ (⟨[("INBOX", 0)], none⟩ : Position).lastUid p ≤ v) ∧
      ∀ p v, markOf e'.position.mailboxes p = some v →
        v = (⟨[("INBOX", 0)], none⟩ : Position).lastUid p ∨
          ∃ m ∈ e'.handed.drop freshEngine.handed.length, m.path = p ∧ m.uid = v :=
  cycle_marks_never_fall ⟨fun _ => pure (), some 1, none⟩ ⟨[("INBOX", 0)], none⟩ (oneMessageWorld, freshEngine) rfl

end MailIngest.Sync
