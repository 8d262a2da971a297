import MailIngest.Proofs.Fetch
import MailIngest.Proofs.Reading

/-!
# The sync of one mailbox

For a consumer that takes every message (`Consumer.Patient`), the sync of one mailbox is a
reading of its messages above the mark, up to some UID, in UID order: a batch whose fetch
fails after every retry ends the sync where the batches before it ended, and so does a
message that ends the mailbox under the abort policy.

The steps of a cycle are stated with `Runs M e x Q`: run from a world whose server holds the
mail `M`, with a connection, and from the engine `e`, the step keeps both and `Q` holds of
its outcome and the engine after it. Its rules follow the shape of the steps (`Runs.bind`,
`Runs.act`, `Runs.modifyEngine`, and so on).

- `batchMessages_runs`: a batch hands over what `readEach` reads of it.
- `batches_runs`: the batches from `start` on read the messages from `start` up to some UID;
  they read up to the highest UID unless a failure ended them (`Ended`).
- `syncMailbox_runs`: the sync of a mailbox reads its messages above the mark up to some UID.
-/

namespace MailIngest.Sync

open Service Imap

/-- A consumer that takes every message: it never stops the cycle and never fails, and what it
does between messages leaves the server's mail and the connection as they are. -/
structure Consumer.Patient (c : Consumer) : Prop where
  take : c.take = none
  raiseAfter : c.raiseAfter = none
  react : ∀ n M, Triple (Framed M true) (c.react n) fun r w => Framed M true w ∧ r = .ok ()

/-- A state of a cycle: the world's server holds `M` and there is a connection, and the
engine is `e`. -/
abbrev At (M : Mail) (e : Engine) (s : World × Engine) : Prop := Framed M true s.1 ∧ s.2 = e

/-- Run from a state `At M e`, `x` keeps the server's mail and the connection, and `Q` holds of
its outcome and the engine after it. -/
def Runs {α : Type} (M : Mail) (e : Engine) (x : CycleM α) (Q : Except Halt α → Engine → Prop) : Prop :=
  Triple (At M e) x fun r s => Framed M true s.1 ∧ Q r s.2

namespace Runs

variable {α β : Type} {M : Mail} {e : Engine} {Q : Except Halt α → Engine → Prop}

theorem conseq {x : CycleM α} {Q' : Except Halt α → Engine → Prop} (h : Runs M e x Q)
    (hQ : ∀ r e', Q r e' → Q' r e') : Runs M e x Q' :=
  fun s hs => ⟨(h s hs).1, hQ _ _ (h s hs).2⟩

theorem pure {a : α} (h : Q (.ok a) e) : Runs M e (Pure.pure a) Q :=
  fun _ hs => ⟨hs.1, hs.2 ▸ h⟩

theorem throw {h : Halt} (hq : Q (.error h) e) : Runs M e (MonadExcept.throw h) Q :=
  fun _ hs => ⟨hs.1, hs.2 ▸ hq⟩

theorem bind {x : CycleM α} {f : α → CycleM β} {R : Except Halt α → Engine → Prop}
    {Q : Except Halt β → Engine → Prop} (hx : Runs M e x R) (hf : ∀ a e', R (.ok a) e' → Runs M e' (f a) Q)
    (he : ∀ h e', R (.error h) e' → Q (.error h) e') : Runs M e (x >>= f) Q :=
  Triple.bind (R := fun (r : Except Halt α) (s : World × Engine) => Framed M true s.1 ∧ R r s.2) hx
    (fun a s hs => hf a s.2 hs.2 s ⟨hs.1, rfl⟩) fun h s hs => ⟨hs.1, he h s.2 hs.2⟩

theorem throw_bind {γ : Type} {h : Halt} {g : γ → CycleM α} (hq : Q (.error h) e) :
    Runs M e (MonadExcept.throw h >>= g) Q :=
  bind (R := fun r e' => r = .error h ∧ e' = e) (throw ⟨rfl, rfl⟩) (fun _ _ hr => nomatch hr.1)
    fun _ _ hr => by obtain ⟨he, rfl⟩ := hr; cases he; exact hq

/-- The rule of a handler: `R` says how `x` ends; a result must already satisfy `Q`, and the
handler runs from a halt. -/
theorem tryCatch {x : CycleM α} {h : Halt → CycleM α} {R : Except Halt α → Engine → Prop}
    (hx : Runs M e x R) (hok : ∀ a e', R (.ok a) e' → Q (.ok a) e')
    (hh : ∀ k e', R (.error k) e' → Runs M e' (h k) Q) : Runs M e (MonadExcept.tryCatch x h) Q :=
  Triple.tryCatch (R := fun (r : Except Halt α) (s : World × Engine) => Framed M true s.1 ∧ R r s.2) hx
    (fun a s hs => ⟨hs.1, hok a s.2 hs.2⟩) fun k s hs => hh k s.2 hs.2 s ⟨hs.1, rfl⟩

theorem ite {c : Prop} [Decidable c] {x y : CycleM α} (hx : c → Runs M e x Q) (hy : ¬c → Runs M e y Q) :
    Runs M e (if c then x else y) Q := by
  by_cases h : c
  · rw [if_pos h]; exact hx h
  · rw [if_neg h]; exact hy h

theorem engine {Q : Except Halt Engine → Engine → Prop} (h : Q (.ok e) e) : Runs M e Sync.engine Q :=
  fun _ hs => by obtain ⟨hw, rfl⟩ := hs; exact ⟨hw, h⟩

theorem modifyEngine {g : Engine → Engine} {Q : Except Halt Unit → Engine → Prop} (h : Q (.ok ()) (g e)) :
    Runs M e (Sync.modifyEngine g) Q :=
  fun _ hs => by obtain ⟨hw, rfl⟩ := hs; exact ⟨hw, h⟩

/-- A step of the service inside the cycle: its values are those it yields, and its failure is
a fault of the cycle; the engine stays. -/
theorem act {a : Act α} {P : α → Prop} (ha : Yields (Framed M true) a P) (hok : ∀ v, P v → Q (.ok v) e)
    (hfail : ∀ f, Q (.error (.fault f)) e) : Runs M e (Sync.act a) Q := by
  unfold Runs Sync.act
  refine Triple.bind (R := fun (r : Except Halt (Except Fault α)) (s : World × Engine) =>
      At M e s ∧ ∃ r', r = .ok r' ∧ ∀ v, r' = .ok v → P v)
    (Triple.modifyGet fun ⟨w, _⟩ hs => ?_) (fun r => ?_) fun _ _ h => ?_
  · obtain ⟨hw, rfl⟩ := hs
    obtain ⟨hw', hp⟩ := ha w hw
    exact ⟨⟨hw', rfl⟩, _, rfl, hp⟩
  · cases r with
    | ok v => exact Triple.pure fun s hs => ⟨hs.1.1, hs.1.2 ▸ hok v (by
        obtain ⟨_, hr, hp⟩ := hs.2
        cases hr
        exact hp v rfl)⟩
    | error f => exact Triple.throw fun s hs => ⟨hs.1.1, hs.1.2 ▸ hfail f⟩
  · obtain ⟨_, _, h, _⟩ := h
    cases h

theorem map {x : CycleM α} {g : α → β} {R : Except Halt α → Engine → Prop} {Q : Except Halt β → Engine → Prop}
    (hx : Runs M e x R) (hok : ∀ a e', R (.ok a) e' → Q (.ok (g a)) e')
    (he : ∀ h e', R (.error h) e' → Q (.error h) e') : Runs M e (g <$> x) Q := by
  rw [map_eq_pure_bind]
  exact bind hx (fun a e' h => pure (hok a e' h)) he

/-- A step that returns a known value and leaves a known engine, then the rest. -/
theorem seq {x : CycleM α} {f : α → CycleM β} {a : α} {d : Engine} {Q : Except Halt β → Engine → Prop}
    (hx : Runs M e x fun r e' => r = .ok a ∧ e' = d) (hf : Runs M d (f a) Q) : Runs M e (x >>= f) Q :=
  bind hx (fun _ _ h => by obtain ⟨h1, h2⟩ := h; cases h1; exact h2 ▸ hf) fun _ _ h => nomatch h.1

/-- Changing the connection inside the cycle never fails. -/
theorem act_modifyLink (g : Link → Link) : Runs M e (Sync.act (modifyLink g)) fun r e' => r = .ok () ∧ e' = e := by
  rintro ⟨w, _⟩ ⟨hw, rfl⟩
  exact ⟨modifyLink_keepsMail g M true w hw, rfl, rfl⟩

/-- A step of the service that always returns `v`, inside the cycle. -/
theorem act_ok {a : Act α} {v : α} (ha : Triple (Framed M true) a fun r w => Framed M true w ∧ r = .ok v) :
    Runs M e (Sync.act a) fun r e' => r = .ok v ∧ e' = e := by
  rintro ⟨w, _⟩ ⟨hw, rfl⟩
  obtain ⟨hw', hr⟩ := ha w hw
  rcases hrun : a.run.run w with ⟨r, w'⟩
  rw [hrun] at hw' hr
  cases hr
  simp only [Sync.act, run_bind, run_modifyGet, hrun, run_pure]
  exact ⟨hw', trivial, trivial⟩

end Runs

/-! ## One message -/

variable {M : Mail} {c : Consumer}

theorem readMessage_runs (e : Engine) (raw : List UInt8) (path : String) (uid : Nat) :
    Runs M e (readMessage raw path uid) fun r e' =>
      r = .ok ((Archive.read e.now raw path (.ofInt uid)).run.run e.converter).1 ∧
      e' = { e with converter := ((Archive.read e.now raw path (.ofInt uid)).run.run e.converter).2 } := by
  exact Runs.seq (Runs.engine ⟨rfl, rfl⟩) (Runs.seq (Runs.modifyEngine ⟨rfl, rfl⟩) (Runs.pure ⟨rfl, rfl⟩))

/-- A patient consumer takes a message and the cycle goes on. -/
theorem handOver_runs (hc : c.Patient) (e : Engine) (path : String) (m : Archive.Message) :
    Runs M e (handOver c path m) fun r e' => r = .ok () ∧ e' = e.handOne path m := by
  refine Runs.seq (Runs.modifyEngine ⟨rfl, rfl⟩) (Runs.seq (Runs.engine ⟨rfl, rfl⟩) ?_)
  rintro ⟨w, _⟩ ⟨hw, rfl⟩
  obtain ⟨hw', hr⟩ := hc.react (e.handed ++ [m]).length M w hw
  rcases hrun : (c.react (e.handed ++ [m]).length).run.run w with ⟨r, w'⟩
  rw [hrun] at hw' hr
  cases hr
  simp only [Engine.handOne, run_bind, run_modifyGet, hrun, hc.raiseAfter, hc.take, Option.any_none,
    Bool.false_eq_true, ↓reduceIte, run_pure]
  exact ⟨hw', trivial, rfl⟩

/-! ## A batch -/

def parseFault (φ : Archive.Failure) : Fault := Fault.withMessage .messageParse φ.message

/-- How handing over a batch ends: it goes on, unless a message ended the mailbox. -/
def stopOf : Option Archive.Failure → Except Halt Unit
  | none => .ok ()
  | some φ => .error (.fault (parseFault φ))

theorem batchMessages_runs (hc : c.Patient) (path : String) (last : Int) :
    ∀ (ms : List Stored) (e : Engine), Runs M e (batchMessages c path last ms) fun r e' =>
      e' = e.absorb path (e.reading path last ms) ∧ r = stopOf (e.reading path last ms).failure
  | [], e => Runs.pure ⟨(absorb_reading_nil e path last).symm, rfl⟩
  | m :: rest, e => by
    have ih := batchMessages_runs hc path last rest
    unfold batchMessages
    refine Runs.ite (fun hle => ?_) fun hgt => ?_
    · have hread : e.reading path last (m :: rest) = e.reading path last rest := by
        simp [Engine.reading, readEach, hle]
      rw [hread]
      exact ih e
    cases hsrc : sourceOf m with
    | none =>
      have hread : e.reading path last (m :: rest) = e.reading path last rest := by
        simp [Engine.reading, readEach, hgt, hsrc]
      rw [hread]
      exact ih e
    | some raw =>
      refine Runs.bind (readMessage_runs e raw path m.uid) (fun r e' h => ?_) fun _ _ h => by cases h.1
      obtain ⟨hr, rfl⟩ := h
      cases hr
      rcases hres : (Archive.read e.now raw path (.ofInt m.uid)).run.run e.converter with ⟨_ | msg, conv'⟩
      · -- a message that cannot be read ends the mailbox, or is passed over, as the policy says
        next φ =>
        refine Runs.seq (Runs.engine ⟨rfl, rfl⟩) (Runs.ite (fun habort => Runs.throw_bind ?_) fun hskip => ?_)
        · have hp : e.options.policy = .abortMailbox := habort
          have hread : e.reading path last (m :: rest) = ⟨[], conv', some φ⟩ := by
            simp [Engine.reading, readEach, hgt, hsrc, hres, hp]
          rw [hread, absorb_nothing]
          exact ⟨rfl, rfl⟩
        · have hp : ¬e.options.policy = .abortMailbox := hskip
          have hread : e.reading path last (m :: rest) = readEach e.options.policy e.now path last conv' rest := by
            simp [Engine.reading, readEach, hgt, hsrc, hres, hp]
          rw [hread]
          exact ih _
      · -- a message read is handed over, and the rest of the batch follows
        refine Runs.seq (handOver_runs hc _ path msg) (Runs.conseq (ih _) fun r e'' h => ?_)
        have hread : e.reading path last (m :: rest) =
            ⟨msg :: (readEach e.options.policy e.now path last conv' rest).read,
              (readEach e.options.policy e.now path last conv' rest).converter,
              (readEach e.options.policy e.now path last conv' rest).failure⟩ := by
          simp [Engine.reading, readEach, hgt, hsrc, hres]
        rw [hread, ← handOne_absorb]
        exact h

/-! ## The batches of a mailbox -/

/-- How the sync of a mailbox ended, given the highest UID found, the UID `b` through which its
messages were read, and the reading: it returns once it read up to the highest UID with no
message ending the mailbox; a message that ended the mailbox ends it with a parse fault; any
other end is a fault of the connection. -/
def Ended (top b : Int) (rd : Reading) : Except Halt Unit → Prop
  | .ok () => top ≤ b ∧ rd.failure = none
  | .error (.fault f) => ∀ φ, rd.failure = some φ → f = parseFault φ
  | .error _ => False

/-- A sync that has read nothing more ends well when there is nothing more to read, and may
end with any fault. -/
theorem ended_nil {top b : Int} {conv : Html.Converter} :
    (top ≤ b → Ended top b ⟨[], conv, none⟩ (.ok ())) ∧ ∀ f, Ended top b ⟨[], conv, none⟩ (.error (.fault f)) :=
  ⟨fun h => ⟨h, rfl⟩, fun _ _ h => nomatch h⟩

/-- A sync that read a batch without a failure ends as the rest of it ends. -/
theorem ended_andThen {top b : Int} {rd : Reading} (hrd : rd.failure = none) {k : Html.Converter → Reading}
    {r : Except Halt Unit} (h : Ended top b (k rd.converter) r) : Ended top b (rd.andThen k) r := by
  unfold Reading.andThen
  rw [hrd]
  exact h

section Batches

variable {path : String} {last top : Int}

/-- The batches from `start` on read the messages above `start - 1` up to some UID `b`, and end
as `Ended` says; `fuel` is enough for every batch, since each one moves `start` up. -/
theorem batches_runs (hc : c.Patient) (hM : M.Orderly path) (h0 : 0 ≤ last) :
    ∀ (fuel : Nat) (start : Int) (e : Engine), last < start → top < start + fuel → 1 ≤ e.options.batchSize →
      Runs M e (batches c path last top fuel start) fun r e' => ∃ b, start - 1 ≤ b ∧
        e' = e.absorb path (e.reading path last (M.upTo path (start - 1) b)) ∧
        Ended top b (e.reading path last (M.upTo path (start - 1) b)) r := by
  -- past the highest UID nothing more is read, and the batches end well
  have hdone : ∀ (start : Int) (e : Engine), top < start → ∃ b, start - 1 ≤ b ∧
      e = e.absorb path (e.reading path last (M.upTo path (start - 1) b)) ∧
      Ended top b (e.reading path last (M.upTo path (start - 1) b)) (.ok ()) := fun start e h =>
    ⟨start - 1, Int.le_refl _, by rw [Mail.upTo_self, absorb_reading_nil],
      by rw [Mail.upTo_self]; exact ended_nil.1 (by omega)⟩
  intro fuel
  induction fuel with
  | zero =>
    intro start e _ htop _
    unfold batches
    exact Runs.ite (fun hgt => Runs.pure (hdone start e hgt)) fun hle => absurd (by omega) hle
  | succ fuel ih =>
    intro start e hstart htop hsize
    unfold batches
    refine Runs.ite (fun hgt => Runs.pure (hdone start e hgt)) fun hle => ?_
    refine Runs.seq (Runs.engine ⟨rfl, rfl⟩) ?_
    dsimp only
    generalize hstop : min (start + e.options.batchSize - 1) top = stop
    have hstart_stop : start ≤ stop := by omega
    refine Runs.bind (R := fun r e' => e = e' ∧ (∀ ms, r = .ok ms → ms = M.upTo path (start - 1) stop) ∧
        ∀ h, r = .error h → ∃ f, h = .fault f)
      (Runs.act (withRetry_yields (fetchBatch_yields path start stop) _)
        (fun ms hms => ⟨rfl, fun _ h => by cases h; rw [hms, Mail.window_eq_upTo hM (by omega)], nofun⟩)
        fun f => ⟨rfl, nofun, fun _ h => by cases h; exact ⟨f, rfl⟩⟩)
      (fun ms e' h => ?_) fun h e' h' => ?_
    rotate_left
    · -- the fetch failed after every retry: the batches end where they were
      obtain ⟨rfl, -, hf⟩ := h'
      obtain ⟨f, rfl⟩ := hf h rfl
      refine ⟨start - 1, Int.le_refl _, by rw [Mail.upTo_self, absorb_reading_nil], ?_⟩
      rw [Mail.upTo_self]
      exact ended_nil.2 f
    obtain ⟨rfl, hms, -⟩ := h
    cases hms ms rfl
    refine Runs.seq (Runs.act_modifyLink _) ?_
    refine Runs.bind (batchMessages_runs hc path last _ e) (fun _ e₁ h => ?_) fun h' e₁ h => ?_
    rotate_left
    · -- a message ended the mailbox
      obtain ⟨rfl, hr⟩ := h
      refine ⟨stop, by omega, rfl, ?_⟩
      cases hfail : (e.reading path last (M.upTo path (start - 1) stop)).failure with
      | none => rw [hfail] at hr; cases hr
      | some φ =>
        rw [hfail] at hr
        cases hr
        intro φ' h
        rw [hfail] at h
        cases h
        rfl
    obtain ⟨rfl, hr⟩ := h
    have hfail : (e.reading path last (M.upTo path (start - 1) stop)).failure = none := by
      cases hf : (e.reading path last (M.upTo path (start - 1) stop)).failure with
      | none => rfl
      | some φ => rw [hf] at hr; cases hr
    refine Runs.seq (Runs.act_modifyLink _) (Runs.conseq (ih (stop + 1) _ (by omega) (by omega) hsize) ?_)
    rintro r e₂ ⟨b, hb, rfl, hend⟩
    rw [Int.add_sub_cancel] at hb hend ⊢
    have hsplit : e.reading path last (M.upTo path (start - 1) b) =
        (e.reading path last (M.upTo path (start - 1) stop)).andThen
          fun c => readEach e.options.policy e.now path last c (M.upTo path stop b) := by
      rw [← Mail.upTo_append hM (by omega) hb, Engine.reading, readEach_append]
      rfl
    refine ⟨b, by omega, ?_, ?_⟩
    · rw [hsplit, absorb_andThen, hfail]
      rfl
    · rw [hsplit]
      exact ended_andThen hfail hend

end Batches

/-! ## A mailbox -/

/-- The engine with a mark for a mailbox, unless it has one already. -/
def Engine.markDefault (e : Engine) (path : String) (last : Int) : Engine :=
  { e with marks := setDefault e.marks path last }

@[simp] theorem reading_markDefault (e : Engine) (path : String) (last : Int) :
    (e.markDefault path last).reading = e.reading := rfl

@[simp] theorem markDefault_options (e : Engine) (path : String) (last : Int) :
    (e.markDefault path last).options = e.options := rfl

/-- The sync of a mailbox reads its messages above the mark up to some UID `b`, and ends as
`Ended` says. -/
theorem syncMailbox_runs (hc : c.Patient) {path : String} (hM : M.Orderly path) {last : Int} (h0 : 0 ≤ last)
    (e : Engine) (hsize : 1 ≤ e.options.batchSize) :
    Runs M e (syncMailbox c path last) fun r e' => ∃ b, last ≤ b ∧
      e' = (e.markDefault path last).absorb path (e.reading path last (M.upTo path last b)) ∧
      Ended (M.top path) b (e.reading path last (M.upTo path last b)) r := by
  unfold syncMailbox
  refine Runs.seq (d := e.markDefault path last) (Runs.modifyEngine ⟨rfl, rfl⟩) ?_
  have hnone : ∃ b, last ≤ b ∧
      e.markDefault path last = (e.markDefault path last).absorb path (e.reading path last (M.upTo path last b)) ∧
      e.reading path last (M.upTo path last b) = ⟨[], e.converter, none⟩ :=
    ⟨last, Int.le_refl _, by rw [Mail.upTo_self, ← reading_markDefault, absorb_reading_nil],
      by rw [Mail.upTo_self]; rfl⟩
  refine Runs.bind (R := fun r e' => e.markDefault path last = e' ∧ (∀ t, r = .ok t → t = M.top path) ∧
      ∀ h, r = .error h → ∃ f, h = .fault f)
    (Runs.act (withRetry_yields (highestUid_yields path) _)
      (fun t ht => ⟨rfl, fun _ h => by cases h; exact ht, nofun⟩)
      fun f => ⟨rfl, nofun, fun _ h => by cases h; exact ⟨f, rfl⟩⟩)
    (fun t e' h => ?_) fun h e' h' => ?_
  rotate_left
  · obtain ⟨rfl, -, hf⟩ := h'
    obtain ⟨f, rfl⟩ := hf h rfl
    obtain ⟨b, hb, he, hrd⟩ := hnone
    exact ⟨b, hb, he, by rw [hrd]; exact ended_nil.2 f⟩
  obtain ⟨rfl, ht, -⟩ := h
  cases ht t rfl
  refine Runs.ite (fun hle => ?_) fun hgt => ?_
  · -- the mailbox holds nothing above its mark
    refine Runs.pure ⟨last, Int.le_refl _, ?_, ?_⟩ <;> rw [Mail.upTo_self]
    · rw [← reading_markDefault, absorb_reading_nil]
    · exact ended_nil.1 hle
  · refine Runs.conseq (batches_runs hc hM h0 _ (last + 1) _ (by omega) (by omega) hsize) ?_
    rintro r e' ⟨b, hb, rfl, hend⟩
    rw [Int.add_sub_cancel] at hb hend ⊢
    exact ⟨b, hb, rfl, hend⟩

end MailIngest.Sync
