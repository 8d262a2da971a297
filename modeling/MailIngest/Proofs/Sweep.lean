import MailIngest.Proofs.MailboxSync

/-!
# The sweep over the mailboxes of a cycle

For a consumer that takes every message, a cycle visits the selected mailboxes in the order
the server lists them. Each visit reads the mailbox's messages above its mark up to some UID
(`Visit.Fits`); when its sync fails, the cycle notes the failure (`Engine.settle`) and goes on,
or ends, or ends with the failure, as the failure's kind says (`goesOn`).

- `mailbox_runs`: one mailbox is one visit.
- `mailboxes_runs`: the loop over the mailboxes is a sweep (`Swept`): the mailboxes are visited
  in order while the visits go on, and the first visit that ends the cycle is the last.
- `run_runs`: a whole cycle from a position lists the mailboxes, and either the listing failed
  or the selected mailboxes were swept (`Cycled`).
-/

namespace MailIngest.Sync

open Service Imap

/-! ## Visits -/

/-- Whether a failure after every retry was caused by a refused login. -/
def byLogin (f : Fault) : Bool :=
  match f with
  | .raised _ _ _ (some cause) => cause.isA .login
  | _ => false

/-- The engine after a mailbox's sync failed with `f`, as the cycle notes it: the mailbox's error
for a failure of the connection, of a credential or of a parse, and the note of the position for
all but a parse. -/
def Engine.settle (e : Engine) (path : String) (f : Fault) : Engine :=
  let noted (note : Option String) : Engine :=
    { e with errors := setKey e.errors path (f.message?.getD ""), status := note.or e.status }
  if f.isA .retriesExhausted then noted (some (if byLogin f then credentialsNote else rateLimitNote))
  else if f.isA .connection then noted (some rateLimitNote)
  else if credentialFailure f then noted (some credentialsNote)
  else if f.isA .messageParse then noted none
  else e

/-- Whether the cycle goes on after a mailbox whose sync failed with `f`: on to the next
mailbox, or to its end, or to its end with the failure (`none`). -/
def goesOn (f : Fault) : Option Bool :=
  if f.isA .retriesExhausted || f.isA .connection then some true
  else if credentialFailure f then some false
  else if f.isA .messageParse then some true
  else none

theorem lookup_setKey {α : Type} (m : List (String × α)) (k k' : String) (v : α) :
    (setKey m k v).lookup k' = if k' = k then some v else m.lookup k' := by
  induction m with
  | nil =>
    by_cases h : k' = k
    · simp [setKey, h]
    · simp [setKey, List.lookup_cons, h, beq_eq_false_iff_ne.mpr h]
  | cons x rest ih =>
    obtain ⟨k'', v'⟩ := x
    by_cases hk : k'' = k
    · subst hk
      by_cases h : k' = k''
      · simp [setKey, h]
      · simp [setKey, List.lookup_cons, h, beq_eq_false_iff_ne.mpr h]
    · by_cases h : k' = k''
      · subst h
        simp [setKey, hk]
      · simp [setKey, List.lookup_cons, hk, ih, beq_eq_false_iff_ne.mpr h]

/-- A credential failure is no failure of the connection. -/
theorem ErrorKind.credential_not_connection (k : ErrorKind)
    (h : (k.isA .authorization || k.isA .encryption) = true) :
    k.isA .retriesExhausted = false ∧ k.isA .connection = false := by
  revert h
  cases k <;> decide

/-- The cycle ends after a mailbox whose sync failed on a credential. -/
theorem goesOn_of_credential {f : Fault} (h : credentialFailure f = true) : goesOn f = some false := by
  cases f with
  | raised k msg details cause =>
    obtain ⟨hre, hcon⟩ := ErrorKind.credential_not_connection k h
    have hconn : (Fault.isA (.raised k msg details cause) .retriesExhausted ||
        Fault.isA (.raised k msg details cause) .connection) = false := by
      simp only [Fault.isA, hre, hcon, Bool.or_false]
    unfold goesOn
    rw [hconn, if_neg Bool.false_ne_true, if_pos h]
  | invalid _ => cases h
  | runtime _ _ => cases h

/-- The cycle ends without its failure only after a credential failure. -/
theorem credential_of_goesOn {f : Fault} (h : goesOn f = some false) : credentialFailure f = true := by
  unfold goesOn at h
  by_cases hconn : (f.isA .retriesExhausted || f.isA .connection) = true
  · rw [if_pos hconn] at h
    cases h
  · rw [if_neg hconn] at h
    by_cases hcred : credentialFailure f = true
    · exact hcred
    · rw [if_neg hcred] at h
      by_cases hparse : f.isA .messageParse = true
      · rw [if_pos hparse] at h
        cases h
      · rw [if_neg hparse] at h
        cases h

/-- The note of the position after a mailbox's sync failed with `f`: after every retry failed,
by the cause of the last attempt; for a failure of the connection; for a credential's. -/
def noteOf (f : Fault) : Option String :=
  if f.isA .retriesExhausted then some (if byLogin f then credentialsNote else rateLimitNote)
  else if f.isA .connection then some rateLimitNote
  else if credentialFailure f then some credentialsNote
  else none

/-- Noting a failure: its message under the path when the cycle handles it, and its note. -/
theorem Engine.settle_eq (e : Engine) (path : String) (f : Fault) :
    e.settle path f = { e with
      errors := if (goesOn f).isSome then setKey e.errors path (f.message?.getD "") else e.errors
      status := (noteOf f).or e.status } := by
  unfold Engine.settle goesOn noteOf
  by_cases hre : f.isA .retriesExhausted = true
  · simp only [hre, Bool.true_or, ↓reduceIte, Option.isSome_some]
  by_cases hcon : f.isA .connection = true
  · simp only [hre, hcon, Bool.or_true, ↓reduceIte, Option.isSome_some, Bool.false_eq_true]
  by_cases hcred : credentialFailure f = true
  · simp only [hre, hcon, hcred, Bool.or_false, ↓reduceIte, Option.isSome_some, Bool.false_eq_true]
  by_cases hparse : f.isA .messageParse = true
  · simp only [hre, hcon, hcred, hparse, Bool.or_false, ↓reduceIte, Option.isSome_some, Bool.false_eq_true]
  · simp only [hre, hcon, hcred, hparse, Bool.or_false, ↓reduceIte, Option.isSome_none, Bool.false_eq_true]
    rfl

/-- One mailbox of a cycle as it went: the UID through which its messages above the mark were
read, and the failure its sync ended with, if one did. -/
structure Visit where
  path : String
  through : Int
  ending : Option Fault

def Visit.result (v : Visit) : Except Halt Unit :=
  match v.ending with
  | none => .ok ()
  | some f => .error (.fault f)

/-- What the loop over the mailboxes does after a visit: go on (`true`), end (`false`), or end
with the failure. -/
def Visit.next (v : Visit) : Except Halt Bool :=
  match v.ending with
  | none => .ok true
  | some f => match goesOn f with
    | some b => .ok b
    | none => .error (.fault f)

/-- The loop ends after a visit only when its sync failed on a credential, or with a failure
the cycle does not handle. -/
theorem Visit.next_ne_true {v : Visit} (h : v.next ≠ .ok true) :
    ∃ f, v.ending = some f ∧ (credentialFailure f = true ∨ goesOn f = none) := by
  obtain ⟨path, through, ending⟩ := v
  cases ending with
  | none => exact absurd rfl h
  | some f =>
    refine ⟨f, rfl, ?_⟩
    cases hg : goesOn f with
    | none => exact Or.inr rfl
    | some b =>
      cases b with
      | true => exact absurd (by simp only [Visit.next, hg]) h
      | false => exact Or.inl (credential_of_goesOn hg)

/-- The messages a visit read: those above the mailbox's mark up to the visit's UID. -/
def Visit.fetched (v : Visit) (M : Mail) (P : Position) : List Stored :=
  M.upTo v.path (P.lastUid v.path) v.through

/-- A visit fits a cycle run from the engine `e` with the position `P`: it read the mailbox's
messages above the mark, up to a UID at least the mark, and its sync ended as `Ended` says. -/
def Visit.Fits (v : Visit) (M : Mail) (P : Position) (e : Engine) : Prop :=
  P.lastUid v.path ≤ v.through ∧
    Ended (M.top v.path) v.through (e.reading v.path (P.lastUid v.path) (v.fetched M P)) v.result

/-- The engine after a visit: the mailbox's mark set unless it has one, the messages read handed
over, and the failure noted. -/
def Engine.visit (e : Engine) (M : Mail) (P : Position) (v : Visit) : Engine :=
  let e₁ := (e.markDefault v.path (P.lastUid v.path)).absorb v.path
    (e.reading v.path (P.lastUid v.path) (v.fetched M P))
  match v.ending with
  | none => e₁
  | some f => e₁.settle v.path f

/-! ## One mailbox -/

variable {M : Mail} {c : Consumer}

theorem noteFailure_runs (e : Engine) (path : String) (f : Fault) (note : String) (b : Bool) :
    Runs M e (noteFailure path f note >>= fun _ => pure b) fun r e' =>
      e' = { e with errors := setKey e.errors path (f.message?.getD ""), status := some note } ∧ r = .ok b :=
  Runs.seq (Runs.modifyEngine ⟨rfl, rfl⟩) (Runs.pure ⟨rfl, rfl⟩)

theorem mailbox_runs (hc : c.Patient) {P : Position} {path : String} (hM : M.Orderly path)
    (h0 : 0 ≤ P.lastUid path) (e : Engine) (hsize : 1 ≤ e.options.batchSize) :
    Runs M e (mailbox c P path) fun r e' =>
      ∃ v : Visit, v.path = path ∧ v.Fits M P e ∧ e' = e.visit M P v ∧ r = v.next := by
  unfold mailbox
  refine Runs.tryCatch (R := fun r e' => ∃ b, P.lastUid path ≤ b ∧
      e' = (e.markDefault path (P.lastUid path)).absorb path
        (e.reading path (P.lastUid path) (M.upTo path (P.lastUid path) b)) ∧
      match r with
      | .ok t => t = true ∧ Ended (M.top path) b
          (e.reading path (P.lastUid path) (M.upTo path (P.lastUid path) b)) (.ok ())
      | .error k => Ended (M.top path) b (e.reading path (P.lastUid path) (M.upTo path (P.lastUid path) b)) (.error k))
    (Runs.bind (syncMailbox_runs hc hM h0 e hsize) (fun _ _ h => ?_) fun _ _ h => h)
    (fun t e' h => ?_) fun k e' h => ?_
  · obtain ⟨b, hb, rfl, hend⟩ := h
    exact Runs.pure ⟨b, hb, rfl, rfl, hend⟩
  · -- the sync went through
    obtain ⟨b, hb, rfl, rfl, hend⟩ := h
    exact ⟨⟨path, b, none⟩, rfl, ⟨hb, hend⟩, rfl, rfl⟩
  obtain ⟨b, hb, rfl, hend⟩ := h
  cases k with
  | consumer _ => exact absurd hend id
  | stop => exact absurd hend id
  | fault f =>
  have hfits : (⟨path, b, some f⟩ : Visit).Fits M P e := ⟨hb, hend⟩
  refine Runs.ite (fun hre => ?_) fun hre => Runs.ite (fun hcon => ?_) fun hcon =>
    Runs.ite (fun hcred => ?_) fun hcred => Runs.ite (fun hparse => ?_) fun hparse => ?_
  · refine Runs.conseq (noteFailure_runs _ path f _ true) fun r e'' ⟨he, hr⟩ => ⟨_, rfl, hfits, ?_, ?_⟩
    · simp only [he, Engine.visit, Engine.settle, hre, ↓reduceIte]
      rfl
    · simp [hr, Visit.next, goesOn, hre]
  · refine Runs.conseq (noteFailure_runs _ path f _ true) fun r e'' ⟨he, hr⟩ => ⟨_, rfl, hfits, ?_, ?_⟩
    · simp only [he, Engine.visit, Engine.settle, hre, hcon, ↓reduceIte, Bool.false_eq_true]
      rfl
    · simp [hr, Visit.next, goesOn, hcon]
  · refine Runs.conseq (noteFailure_runs _ path f _ false) fun r e'' ⟨he, hr⟩ => ⟨_, rfl, hfits, ?_, ?_⟩
    · simp only [he, Engine.visit, Engine.settle, hre, hcon, hcred, ↓reduceIte, Bool.false_eq_true]
      rfl
    · simp [hr, Visit.next, goesOn, hre, hcon, hcred]
  · refine Runs.seq (Runs.modifyEngine ⟨rfl, rfl⟩) (Runs.pure ⟨_, rfl, hfits, ?_, ?_⟩)
    · simp only [Engine.visit, Engine.settle, hre, hcon, hcred, hparse, ↓reduceIte, Bool.false_eq_true]
      rfl
    · simp [Visit.next, goesOn, hre, hcon, hcred, hparse]
  · refine Runs.throw ⟨_, rfl, hfits, ?_, ?_⟩
    · simp [Engine.visit, Engine.settle, Visit.fetched, hre, hcon, hcred, hparse]
    · simp [Visit.next, goesOn, hre, hcon, hcred, hparse]

/-! ## The mailboxes in order -/

@[simp] theorem settle_options (e : Engine) (path : String) (f : Fault) : (e.settle path f).options = e.options := by
  unfold Engine.settle
  split <;> (try split) <;> (try split) <;> (try split) <;> rfl

@[simp] theorem settle_now (e : Engine) (path : String) (f : Fault) : (e.settle path f).now = e.now := by
  unfold Engine.settle
  split <;> (try split) <;> (try split) <;> (try split) <;> rfl

@[simp] theorem settle_converter (e : Engine) (path : String) (f : Fault) :
    (e.settle path f).converter = e.converter := by
  unfold Engine.settle
  split <;> (try split) <;> (try split) <;> (try split) <;> rfl

@[simp] theorem settle_handed (e : Engine) (path : String) (f : Fault) : (e.settle path f).handed = e.handed := by
  unfold Engine.settle
  split <;> (try split) <;> (try split) <;> (try split) <;> rfl

@[simp] theorem settle_marks (e : Engine) (path : String) (f : Fault) : (e.settle path f).marks = e.marks := by
  unfold Engine.settle
  split <;> (try split) <;> (try split) <;> (try split) <;> rfl

/-- A visit changes the engine's marks, converter and records handed over as reading the
visited mailbox does, and nothing else of what the reading uses. -/
theorem visit_reading (e : Engine) (P : Position) (v : Visit) :
    let e₁ := (e.markDefault v.path (P.lastUid v.path)).absorb v.path
      (e.reading v.path (P.lastUid v.path) (v.fetched M P))
    (e.visit M P v).options = e.options ∧ (e.visit M P v).now = e.now ∧
      (e.visit M P v).converter = e₁.converter ∧ (e.visit M P v).handed = e₁.handed ∧
      (e.visit M P v).marks = e₁.marks := by
  unfold Engine.visit
  split <;> simp [Engine.markDefault]

@[simp] theorem visit_options (e : Engine) (P : Position) (v : Visit) : (e.visit M P v).options = e.options :=
  (visit_reading e P v).1

/-- The loop over the mailboxes `ms` of a cycle, from the engine `e`, visits `vs` in order and
ends with `r` and the engine `e'`: a mailbox is visited when the visits before it went on, and
a visit after which the loop does not go on is the last. -/
inductive Swept (M : Mail) (P : Position) : List Mailbox.Entry → Engine → List Visit → Except Halt Unit →
    Engine → Prop
  | done (e : Engine) : Swept M P [] e [] (.ok ()) e
  | next {m : Mailbox.Entry} {rest : List Mailbox.Entry} {e : Engine} {v : Visit} {vs : List Visit}
      {r : Except Halt Unit} {e' : Engine} :
      v.path = m.path → v.Fits M P e → v.next = .ok true → Swept M P rest (e.visit M P v) vs r e' →
      Swept M P (m :: rest) e (v :: vs) r e'
  | last {m : Mailbox.Entry} {rest : List Mailbox.Entry} {e : Engine} {v : Visit} :
      v.path = m.path → v.Fits M P e → v.next ≠ .ok true →
      Swept M P (m :: rest) e [v] (v.next.map fun _ => ()) (e.visit M P v)

def Position.Valid (P : Position) : Prop := ∀ entry ∈ P.mailboxes, 0 ≤ entry.2

theorem Position.Valid.lastUid_nonneg {P : Position} (hP : P.Valid) (path : String) : 0 ≤ P.lastUid path := by
  unfold Position.lastUid
  cases h : P.mailboxes.find? (·.1 = path) with
  | none => exact Int.le_refl 0
  | some entry => exact hP entry (List.mem_of_find?_eq_some h)

theorem mailboxes_runs (hc : c.Patient) {P : Position} (hP : P.Valid) :
    ∀ (ms : List Mailbox.Entry) (e : Engine), (∀ m ∈ ms, M.Orderly m.path) → 1 ≤ e.options.batchSize →
      Runs M e (mailboxes c P ms) fun r e' => ∃ vs, Swept M P ms e vs r e'
  | [], e, _, _ => Runs.pure ⟨[], .done e⟩
  | m :: rest, e, hM, hsize => by
    unfold mailboxes
    refine Runs.bind (mailbox_runs hc (hM m List.mem_cons_self) (hP.lastUid_nonneg _) e hsize)
      (fun b e' h => ?_) fun k e' h => ?_
    · obtain ⟨v, hv, hfits, rfl, hnext⟩ := h
      refine Runs.ite (fun hb => ?_) fun hb => ?_
      · -- the loop goes on with the rest
        rw [hb] at hnext
        refine Runs.conseq (mailboxes_runs hc hP rest _ (fun m' hm' => hM m' (List.mem_cons_of_mem _ hm'))
          (by rw [visit_options]; exact hsize)) fun r e'' ⟨vs, hvs⟩ => ⟨v :: vs, .next hv hfits hnext.symm hvs⟩
      · -- the loop ends after this mailbox
        have hfalse : b = false := by simpa using hb
        rw [hfalse] at hnext
        exact Runs.pure ⟨[v], by
          have : Swept M P (m :: rest) e [v] (v.next.map fun _ => ()) (e.visit M P v) :=
            .last hv hfits (by rw [← hnext]; nofun)
          rwa [← hnext] at this⟩
    · obtain ⟨v, hv, hfits, rfl, hnext⟩ := h
      have : Swept M P (m :: rest) e [v] (v.next.map fun _ => ()) (e.visit M P v) :=
        .last hv hfits (by rw [← hnext]; nofun)
      rw [← hnext] at this
      exact ⟨[v], this⟩

/-! ## A whole cycle -/

/-- The engine a cycle from the position `P` starts from: the position's marks, and no failure
noted yet. -/
def Engine.restart (e : Engine) (P : Position) : Engine :=
  { e with marks := P.mailboxes, errors := [], status := none }

@[simp] theorem restart_options (e : Engine) (P : Position) : (e.restart P).options = e.options := rfl

/-- How the messages of a cycle from the position `P` went, from the engine `e₀` it starts
from, for a consumer that takes every message. -/
inductive Cycled (M : Mail) (P : Position) (e₀ : Engine) : Except Halt Unit → Engine → Prop
  /-- The listing failed on a credential: the position gets the credentials note. -/
  | refused {f : Fault} : credentialFailure f = true →
      Cycled M P e₀ (.ok ()) { e₀ with status := some credentialsNote }
  /-- The listing failed otherwise, and the cycle with it. -/
  | unlisted {f : Fault} : credentialFailure f = false → Cycled M P e₀ (.error (.fault f)) e₀
  /-- The selected mailboxes were swept. -/
  | swept {vs : List Visit} {r : Except Halt Unit} {e' : Engine} :
      Swept M P (archived e₀.options.allInclusive M.entries) e₀ vs r e' → Cycled M P e₀ r e'

/-- The messages of a cycle: the listing, then the sweep over the selected mailboxes. -/
theorem messages_runs (hc : c.Patient) {P : Position} (hP : P.Valid) (hM : ∀ path, M.Orderly path)
    (e : Engine) (hsize : 1 ≤ e.options.batchSize) :
    Runs M e (messages c P) fun r e' => Cycled M P (e.restart P) r e' := by
  unfold messages
  refine Runs.seq (d := e.restart P) (Runs.modifyEngine ⟨rfl, rfl⟩) ?_
  refine Runs.bind (R := fun r e' => (r = .ok (some M.entries) ∧ e' = e.restart P) ∨
      (∃ f, credentialFailure f = true ∧ r = .ok none ∧ e' = { e.restart P with status := some credentialsNote }) ∨
      (∃ f, credentialFailure f = false ∧ r = .error (.fault f) ∧ e' = e.restart P))
    (Runs.tryCatch (R := fun r e' => e' = e.restart P ∧ (∀ x, r = .ok x → x = some M.entries) ∧
        ∀ k, r = .error k → ∃ f, k = .fault f)
      (Runs.map (R := fun r e' => e' = e.restart P ∧ (∀ es, r = .ok es → es = M.entries) ∧
          ∀ k, r = .error k → ∃ f, k = .fault f)
        (Runs.act (Service.listed_yields) (fun es hes => ⟨rfl, fun _ h => by cases h; exact hes, nofun⟩)
          fun f => ⟨rfl, nofun, fun _ h => by cases h; exact ⟨f, rfl⟩⟩)
        (fun _ _ h => ⟨h.1, fun _ hx => by cases hx; rw [h.2.1 _ rfl], nofun⟩)
        fun k _ h => ⟨h.1, nofun, fun _ hk => h.2.2 _ (by cases hk; rfl)⟩)
      (fun x e' h => Or.inl ⟨by rw [h.2.1 x rfl], h.1⟩) fun k e' h => ?_)
    (fun listing e' h => ?_) fun k e' h => ?_
  · obtain ⟨rfl, -, hk⟩ := h
    obtain ⟨f, rfl⟩ := hk k rfl
    refine Runs.ite (fun hcred => ?_) fun hcred => Runs.throw (Or.inr (Or.inr ⟨f, by simpa using hcred, rfl, rfl⟩))
    exact Runs.seq (Runs.modifyEngine ⟨rfl, rfl⟩) (Runs.pure (Or.inr (Or.inl ⟨f, hcred, rfl, rfl⟩)))
  · rcases h with ⟨h, rfl⟩ | ⟨f, hcred, h, rfl⟩ | ⟨_, _, h, _⟩
    · -- the listing went through: the selected mailboxes are swept
      cases h
      refine Runs.seq (Runs.engine ⟨rfl, rfl⟩) (Runs.conseq (mailboxes_runs hc hP _ _ (fun m _ => hM m.path) hsize)
        fun r e' ⟨vs, hvs⟩ => .swept hvs)
    · cases h
      exact Runs.pure (.refused hcred)
    · cases h
  · rcases h with ⟨h, _⟩ | ⟨_, _, h, _⟩ | ⟨f, hcred, h, rfl⟩
    · cases h
    · cases h
    · cases h
      exact .unlisted hcred

def outcomeOf : Except Halt Unit → Option Fault
  | .ok () => none
  | .error .stop => none
  | .error (.fault f) => some f
  | .error (.consumer f) => some f

/-- A whole cycle from a position, for a consumer that takes every message: the consumer's
first reaction, the messages as `Cycled` says, and the logout. -/
theorem run_runs (hc : c.Patient) {P : Position} (hP : P.Valid) (hM : ∀ path, M.Orderly path)
    (e : Engine) (hsize : 1 ≤ e.options.batchSize) :
    Runs M e (run c (some P)) fun r e' => ∃ r', Cycled M P (e.restart P) r' e' ∧ r = .ok (outcomeOf r') := by
  unfold run
  refine Runs.bind (R := fun r e' => ∃ r', Cycled M P (e.restart P) r' e' ∧ r = .ok (outcomeOf r'))
    (Runs.tryCatch (R := fun r e' => ∃ r', Cycled M P (e.restart P) r' e' ∧
        (∀ x, r = .ok x → x = none ∧ r' = .ok ()) ∧ ∀ k, r = .error k → r' = .error k) ?_
      (fun a e' h => ?_) fun k e' h => ?_)
    (fun outcome e' h => ?_) fun _ _ h => ?_
  · -- the consumer's first reaction succeeds, and the messages follow
    refine Runs.bind (R := fun r e' => r = .ok (.ok ()) ∧ e' = e) ?_ (fun r e' h => ?_) fun _ _ h => by cases h.1
    · rintro ⟨w, _⟩ ⟨hw, rfl⟩
      obtain ⟨hw', hr⟩ := hc.react 0 M w hw
      rcases hrun : (c.react 0).run.run w with ⟨r, w'⟩
      rw [hrun] at hw' hr
      cases hr
      simp only [run_modifyGet, hrun]
      exact ⟨hw', trivial, trivial⟩
    obtain ⟨h, rfl⟩ := h
    cases h
    refine Runs.bind (messages_runs hc hP hM _ hsize) (fun u e' hcyc => Runs.pure ⟨.ok u, hcyc, ?_, ?_⟩)
      fun k e' hcyc => ⟨.error k, hcyc, ?_, ?_⟩
    · rintro _ ⟨⟩
      exact ⟨rfl, rfl⟩
    · rintro _ ⟨⟩
    · rintro _ ⟨⟩
    · rintro _ ⟨⟩
      rfl
  · obtain ⟨r', hcyc, hok, -⟩ := h
    obtain ⟨ha, hr'⟩ := hok a rfl
    exact ⟨r', hcyc, by rw [ha, hr']; rfl⟩
  · -- the handler reports the failure
    obtain ⟨r', hcyc, -, herr⟩ := h
    have hr' := herr k rfl
    subst hr'
    cases k with
    | stop => exact Runs.pure ⟨_, hcyc, rfl⟩
    | fault f => exact Runs.pure ⟨_, hcyc, rfl⟩
    | consumer f => exact Runs.pure ⟨_, hcyc, rfl⟩
  · -- the logout never fails
    obtain ⟨r', hcyc, h⟩ := h
    cases h
    exact Runs.seq (Runs.act_ok Service.logout_ok) (Runs.pure ⟨r', hcyc, rfl⟩)
  · obtain ⟨_, _, h⟩ := h
    cases h

end MailIngest.Sync
