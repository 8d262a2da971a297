import MailIngest.Proofs.Sweep

/-!
# How the sync of a mailbox fails

A credential failure (a token or vault failure) ends a retried operation at once: the
connection drops its client first (`withRetry_dropped`), and a connection without a client
logs out without a word to the server (`logout_quiet`).

For a consumer that reads the whole sequence (`Consumer.Reads`), the sync of a mailbox leaves
the errors and the note of the engine as they are, and fails only with a failure of the
service, a credential failure only as a retried operation left the world (`syncMailbox_keepsBook`).
-/

namespace MailIngest

namespace Service

def Dropped (w : World) : Prop := ∃ l, w.link = some l ∧ l.client = none

/-- `w` is a world that a retried operation left as it failed with `f`. -/
def RetryFailed (f : Fault) (w : World) : Prop :=
  ∃ (α : Type) (op : Act α) (context : String) (w₀ : World), (withRetry op context).run.run w₀ = (.error f, w)

theorem fatal_exhausted (context : String) (attempts : Int) (last : Option Fault) :
    fatal (exhausted context attempts last) = false := rfl

/-- The live connection, or a failure that is no credential's. -/
theorem link_spec {P : World → Prop} : Triple P link fun r w =>
    (∀ l, r = .ok l → w.link = some l) ∧ ∀ f, r = .error f → fatal f = false := by
  unfold link
  refine Triple.get_bind fun w _ => ?_
  cases hl : w.link with
  | none =>
    refine Triple.throw fun _ _ => ⟨fun _ h => ?_, fun _ h => ?_⟩
    · cases h
    · cases h
      rfl
  | some l =>
    refine Triple.pure fun _ h => ⟨fun _ hr => ?_, fun _ hr => ?_⟩
    · cases hr
      rw [h, hl]
    · cases hr

/-- A change of the connection that leaves its client keeps it dropped. -/
theorem modifyLink_dropped {g : Link → Link} (hg : ∀ l, (g l).client = l.client) : Keeps Dropped (modifyLink g) :=
  Keeps.modify fun w h => by
    obtain ⟨l, hl, hc⟩ := h
    exact ⟨g l, by simp only [hl, Option.map_some], (hg l).trans hc⟩

/-- Dropping the client leaves the connection without one, unless there is no connection. -/
theorem discard_spec {P : World → Prop} : Triple P discard fun r w =>
    (r = .ok () → Dropped w) ∧ ∀ f, r = .error f → fatal f = false := by
  unfold discard
  refine Triple.bind link_spec (fun l => ?_) fun e _ h => ⟨fun h' => (by cases h'), fun _ hf => (by cases hf; exact h.2 e rfl)⟩
  refine Triple.bind (R := fun r w => r = .ok () ∧ Dropped w)
    (Triple.modify fun w h => ⟨rfl, { l with client := none, state := .disconnected }, ?_, rfl⟩)
    (fun _ => ?_) fun _ _ h => (by cases h.1)
  · show w.link.map _ = _
    rw [h.1 l rfl]
    rfl
  refine Triple.ite (fun _ => ?_) fun _ => Triple.pure fun _ h => ⟨fun _ => h.2, fun _ hf => (by cases hf)⟩
  exact Triple.bind (R := fun r w => Dropped w ∧ ∀ f, r = .error f → False)
    (Triple.modifyGet fun _ h => ⟨h.2, fun _ hf => (by cases hf)⟩)
    (fun _ => Triple.pure fun _ h => ⟨fun _ => h.1, fun _ hf => (by cases hf)⟩) fun _ _ h => (h.2 _ rfl).elim

theorem backOff_dropped (attempt : Nat) : Keeps Dropped (backOff attempt) := by
  unfold backOff
  refine Keeps.bind (Keeps.bind Keeps.get fun _ => ?_) fun l => Keeps.bind (Keeps.liftExcept _) fun _ => ?_
  · split
    · exact Keeps.pure _
    · exact Keeps.throw _
  · exact Keeps.bind (modifyLink_dropped fun _ => rfl) fun _ => modifyLink_dropped fun _ => rfl

/-- The attempts of an operation: one that ends with a credential failure has dropped the client. -/
theorem attempts_dropped {α : Type} {P : World → Prop} (op : Act α) (context : String) (max : Nat) :
    ∀ fuel attempt, Triple P (attempts op context max fuel attempt)
      fun r w => ∀ f, r = .error f → fatal f = true → Dropped w
  | 0, _ => Triple.throw fun _ _ _ hf hfat => by
    cases hf
    rw [fatal_exhausted] at hfat
    cases hfat
  | fuel + 1, attempt => by
    unfold attempts
    -- the attempt's own failure is caught, so it always returns
    refine Triple.bind (R := fun r _ => ∀ f, r = .error f → False)
      (Triple.tryCatch (R := fun _ _ => True) (fun _ _ => trivial) (fun _ _ _ _ hf => (by cases hf))
        fun _ => Triple.pure fun _ _ _ hf => (by cases hf))
      (fun r => ?_) fun _ _ h => (h _ rfl).elim
    cases r with
    | ok a => exact Triple.pure fun _ _ _ hf => (by cases hf)
    | error f =>
      have hdiscard : ∀ e w, ((fun r w => (r = .ok () → Dropped w) ∧ ∀ f, r = .error f → fatal f = false)
          (Except.error e : Except Fault Unit) w) → ∀ f', (Except.error e : Except Fault α) = .error f' →
            fatal f' = true → Dropped w := fun _ _ h _ hf hfat => by
        cases hf
        rw [h.2 _ rfl] at hfat
        cases hfat
      refine Triple.ite (fun hfat => ?_) fun hfat => Triple.ite (fun _ => ?_) fun _ => ?_
      · -- a credential failure: the client is dropped, then the failure passes on
        exact Triple.bind discard_spec (fun _ => Triple.throw fun _ h _ _ _ => h.1 rfl) hdiscard
      · -- a failure worth retrying: the client is dropped before the backoff and the next attempt
        refine Triple.bind discard_spec (fun _ => ?_) hdiscard
        extract_lets next
        refine Triple.ite (fun _ => Triple.throw_bind fun _ _ _ hf hfat => ?_) fun _ => ?_
        · cases hf
          rw [fatal_exhausted] at hfat
          cases hfat
        · exact Triple.bind (R := fun _ w => Dropped w) (Triple.conseq (backOff_dropped attempt) (fun _ h => h.1 rfl)
            fun _ _ h => h) (fun _ => attempts_dropped op context max fuel (attempt + 1)) fun _ _ h _ _ _ => h
      · refine Triple.throw fun _ _ f' hf hfat' => ?_
        cases hf
        rw [hfat'] at hfat
        exact absurd rfl hfat

/-- A retried operation that ends with a credential failure has dropped the client. -/
theorem withRetry_dropped {α : Type} {P : World → Prop} (op : Act α) (context : String) :
    Triple P (withRetry op context) fun r w => ∀ f, r = .error f → fatal f = true → Dropped w := by
  unfold withRetry
  refine Triple.bind link_spec (fun l => ?_) fun _ _ h _ hf hfat => ?_
  · extract_lets max go
    refine Triple.ite (fun _ => Triple.throw_bind fun _ _ _ hf hfat => ?_) fun _ => attempts_dropped op context _ _ _
    cases hf
    rw [fatal_exhausted] at hfat
    cases hfat
  · cases hf
    rw [h.2 _ rfl] at hfat
    cases hfat

theorem RetryFailed.dropped {f : Fault} {w : World} (h : RetryFailed f w) (hf : fatal f = true) : Dropped w := by
  obtain ⟨_, op, context, w₀, hrun⟩ := h
  have := withRetry_dropped (P := fun _ => True) op context w₀ trivial
  rw [hrun] at this
  exact this f rfl hf

/-- Nothing reached the server and nothing waited a backoff between the worlds `w` and `w'`. -/
def Quiet (w w' : World) : Prop := w'.server = w.server ∧ w'.link.map (·.sleeps) = w.link.map (·.sleeps)

/-- Logging out of a connection without a client leaves the server and the backoff waits alone. -/
theorem logout_quiet {w : World} (h : Dropped w) : Quiet w (logout.run.run w).2 := by
  obtain ⟨l, hl, hc⟩ := h
  unfold Quiet
  simp only [logout, link, run_bind, run_get, hl, run_pure, run_modify, modifyLink, Option.map_some, hc,
    Option.isSome_none, Bool.false_eq_true, ↓reduceIte]
  exact ⟨trivial, trivial⟩

end Service

namespace Sync

open Service

/-- A consumer that reads the whole sequence: whatever the world, it neither stops nor fails. -/
structure Consumer.Reads (c : Consumer) : Prop where
  take : c.take = none
  raiseAfter : c.raiseAfter = none
  react : ∀ n w, ((c.react n).run.run w).1 = .ok ()

/-- The failures noted in the engine are `E` and its note is `S`. -/
abbrev Kept (E : List (String × String)) (S : Option String) (s : World × Engine) : Prop :=
  s.2.errors = E ∧ s.2.status = S

/-- A failure of the service stops the cycle; a credential failure only as a retried operation
left the world. -/
def ServiceFailure (h : Halt) (s : World × Engine) : Prop :=
  ∃ f, h = .fault f ∧ (credentialFailure f = true → RetryFailed f s.1)

theorem credentialFailure_parse (m : String) : credentialFailure (Fault.withMessage .messageParse m) = false :=
  rfl

section Steps

variable {E : List (String × String)} {S : Option String} {c : Consumer}

/-- A step of the service whose credential failures are those of a retried operation. -/
theorem act_fails {α : Type} {a : Act α}
    (ha : ∀ w f w', a.run.run w = (.error f, w') → credentialFailure f = true → RetryFailed f w') :
    Fails (Kept E S) (act a) ServiceFailure := by
  unfold act
  refine Triple.modifyGet_bind fun s h => ?_
  obtain ⟨w, e⟩ := s
  dsimp only
  rcases hrun : a.run.run w with ⟨r, w'⟩
  cases r with
  | ok v => exact Triple.pure fun _ ht => ⟨by rw [ht]; exact h, fun _ he => (by cases he)⟩
  | error f =>
    refine Triple.throw fun _ ht => ⟨by rw [ht]; exact h, fun _ he => ?_⟩
    cases he
    rw [ht]
    exact ⟨f, rfl, ha w f w' hrun⟩

theorem act_withRetry_fails {α : Type} (op : Act α) (context : String) :
    Fails (Kept E S) (act (withRetry op context)) ServiceFailure :=
  act_fails fun w _ _ hrun _ => ⟨α, op, context, w, hrun⟩

theorem act_modifyLink_fails (g : Link → Link) : Fails (Kept E S) (act (modifyLink g)) ServiceFailure :=
  act_fails fun _ _ _ hrun _ => (by cases hrun)

theorem engine_fails : Fails (Kept E S) engine ServiceFailure :=
  Fails.bind Fails.get fun _ => Fails.pure _

/-- Handing a record to a consumer that reads on changes the marks, the records and the world. -/
theorem handOver_fails (hc : c.Reads) (path : String) (m : Archive.Message) :
    Fails (Kept E S) (handOver c path m) ServiceFailure := by
  unfold handOver
  refine Fails.bind (Fails.modify fun _ h => h) fun _ => Fails.bind engine_fails fun e => ?_
  refine Triple.modifyGet_bind fun s h => ?_
  obtain ⟨w, e'⟩ := s
  dsimp only
  rcases hrun : (c.react e.handed.length).run.run w with ⟨r, w'⟩
  have hok := hc.react e.handed.length w
  rw [hrun] at hok
  subst hok
  dsimp only
  refine Triple.conseq (P := Kept E S) ?_ (fun _ ht => by rw [ht]; exact h) fun _ _ h => h
  refine Fails.ite (fun hraise => ?_) fun _ => Fails.ite (fun htake => ?_) fun _ => Fails.pure ()
  · rw [hc.raiseAfter] at hraise
    cases hraise
  · rw [hc.take] at htake
    cases htake

theorem readMessage_fails (raw : List UInt8) (path : String) (uid : Nat) :
    Fails (Kept E S) (readMessage raw path uid) ServiceFailure := by
  unfold readMessage
  exact Fails.bind engine_fails fun _ => Fails.bind (Fails.modify fun _ h => h) fun _ => Fails.pure _

theorem batchMessages_fails (hc : c.Reads) (path : String) (last : Int) :
    ∀ ms, Fails (Kept E S) (batchMessages c path last ms) ServiceFailure
  | [] => Fails.pure ()
  | m :: rest => by
    unfold batchMessages
    refine Fails.ite (fun _ => batchMessages_fails hc path last rest) fun _ => ?_
    cases sourceOf m with
    | none => exact batchMessages_fails hc path last rest
    | some raw =>
      refine Fails.bind (readMessage_fails raw path m.uid) fun r => ?_
      cases r with
      | error φ =>
        refine Fails.bind engine_fails fun _ => Fails.ite (fun _ => ?_) fun _ => batchMessages_fails hc path last rest
        exact Fails.throw fun _ _ => ⟨_, rfl, fun hcred => absurd hcred (by rw [credentialFailure_parse]; exact Bool.false_ne_true)⟩
      | ok msg => exact Fails.bind (handOver_fails hc path msg) fun _ => batchMessages_fails hc path last rest

theorem batches_fails (hc : c.Reads) (path : String) (last top : Int) :
    ∀ fuel start, Fails (Kept E S) (batches c path last top fuel start) ServiceFailure
  | 0, _ => by
    unfold batches
    exact Fails.ite (fun _ => Fails.pure ()) fun _ => Fails.throw fun _ _ => ⟨endless, rfl, fun h => absurd h (by decide)⟩
  | fuel + 1, start => by
    unfold batches
    refine Fails.ite (fun _ => Fails.pure ()) fun _ => ?_
    refine Fails.bind engine_fails fun _ => ?_
    refine Fails.bind (act_withRetry_fails _ _) fun ms => ?_
    refine Fails.bind (act_modifyLink_fails _) fun _ => ?_
    refine Fails.bind (batchMessages_fails hc path last ms) fun _ => ?_
    exact Fails.bind (act_modifyLink_fails _) fun _ => batches_fails hc path last top fuel _

/-- The sync of a mailbox, with a consumer that reads on, leaves the failures noted in the
engine and its note as they were, and fails only with a failure of the service. -/
theorem syncMailbox_fails (hc : c.Reads) (path : String) (last : Int) :
    Fails (Kept E S) (syncMailbox c path last) ServiceFailure := by
  unfold syncMailbox
  refine Fails.bind (Fails.modify fun _ h => h) fun _ => Fails.bind (act_withRetry_fails _ _) fun top => ?_
  exact Fails.ite (fun _ => Fails.pure ()) fun _ => batches_fails hc path last top _ _

end Steps

end Sync

end MailIngest
