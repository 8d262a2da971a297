import MailIngest.Proofs.Delivery
import MailIngest.Proofs.Escapes

/-!
# A mailbox's failure stays with it

A cycle whose consumer reads the whole sequence syncs the selected mailboxes one after the
other, each from the state the one before left (`Synced`). When the sync of a mailbox fails,
the cycle notes the failure (`Engine.settle_eq`): under the mailbox's path for a failure of the
connection, of a credential or of a parse, and in the position's note for all but a parse. It
goes on with the next mailbox unless the failure is a credential's or one the cycle does not
handle, and the latter ends the cycle with it (`Closing.next_ne_true`).

- `mailboxes_synced`: the loop over the mailboxes is a `Synced` run.
- `Synced.errors`, `Synced.status`: the failures noted and the note are the last ones the
  closings give.
- `cycle_isolates_failures`: a whole cycle, the listing's failure included; after a credential
  failure nothing more reaches the server or waits.
-/

namespace MailIngest.Sync

open Service

/-! ## Lookups -/

theorem getLast?_filterMap_cons {α β : Type} (g : α → Option β) (a : α) (l : List α) :
    ((a :: l).filterMap g).getLast? = (l.filterMap g).getLast?.or (g a) := by
  rw [List.filterMap_cons]
  cases g a with
  | none => simp
  | some b => cases h : (l.filterMap g).getLast? <;> simp [List.getLast?_cons, h]

/-! ## How the sync of a mailbox ended -/

/-- A mailbox whose sync a cycle ran, and the failure that sync ended with, if one did. -/
structure Closing where
  path : String
  ending : Option Fault

namespace Closing

def result (cl : Closing) : Except Halt Unit :=
  match cl.ending with
  | none => .ok ()
  | some f => .error (.fault f)

/-- What the loop over the mailboxes does after the mailbox: go on (`true`), end (`false`), or
end with the failure. -/
def next (cl : Closing) : Except Halt Bool :=
  match cl.ending with
  | none => .ok true
  | some f => match goesOn f with
    | some b => .ok b
    | none => .error (.fault f)

def settle (cl : Closing) (s : World × Engine) : World × Engine :=
  match cl.ending with
  | none => s
  | some f => (s.1, s.2.settle cl.path f)

/-- The message the failure is noted under, if the cycle notes it. -/
def error? (cl : Closing) : Option String :=
  cl.ending.bind fun f => if (goesOn f).isSome then some (f.message?.getD "") else none

/-- The note the failure gives the position, if it gives one. -/
def note? (cl : Closing) : Option String := cl.ending.bind noteOf

/-- The loop ends after a mailbox only when its sync failed on a credential, or with a failure
the cycle does not handle. -/
theorem next_ne_true {cl : Closing} (h : cl.next ≠ .ok true) :
    ∃ f, cl.ending = some f ∧ (credentialFailure f = true ∨ goesOn f = none) := by
  have hv : (Visit.mk cl.path 0 cl.ending).next = cl.next := by
    obtain ⟨path, ending⟩ := cl
    cases ending <;> rfl
  exact Visit.next_ne_true (hv ▸ h)

theorem next_of_credential {cl : Closing} {f : Fault} (hend : cl.ending = some f) (hcred : credentialFailure f = true) :
    cl.next = .ok false := by
  simp only [next, hend, goesOn_of_credential hcred]

@[simp] theorem settle_world (cl : Closing) (s : World × Engine) : (cl.settle s).1 = s.1 := by
  unfold settle
  cases cl.ending <;> rfl

theorem lookup_settle (cl : Closing) (s : World × Engine) (p : String) :
    (cl.settle s).2.errors.lookup p = (if cl.path = p then cl.error? else none).or (s.2.errors.lookup p) := by
  unfold settle error?
  cases cl.ending with
  | none => simp
  | some f =>
    simp only [Engine.settle_eq, Option.bind_some]
    by_cases hg : (goesOn f).isSome = true
    · by_cases hp : cl.path = p
      · simp [hg, hp, lookup_setKey]
      · simp [hg, hp, lookup_setKey, Ne.symm hp]
    · simp [hg]

theorem status_settle (cl : Closing) (s : World × Engine) : (cl.settle s).2.status = cl.note?.or s.2.status := by
  unfold settle note?
  cases cl.ending with
  | none => rfl
  | some f => simp only [Engine.settle_eq, Option.bind_some]

end Closing

/-- The message noted last for the mailbox `p` among the closings. -/
def errorOf (cs : List Closing) (p : String) : Option String :=
  (cs.filterMap fun cl => if cl.path = p then cl.error? else none).getLast?

def statusOf (cs : List Closing) : Option String := (cs.filterMap Closing.note?).getLast?

theorem errorOf_cons (cl : Closing) (cs : List Closing) (p : String) :
    errorOf (cl :: cs) p = (errorOf cs p).or (if cl.path = p then cl.error? else none) :=
  getLast?_filterMap_cons _ cl cs

theorem statusOf_cons (cl : Closing) (cs : List Closing) : statusOf (cl :: cs) = (statusOf cs).or cl.note? :=
  getLast?_filterMap_cons _ cl cs

/-! ## One mailbox -/

variable {c : Consumer}

/-- The sync of a mailbox, for a consumer that reads on, as a run. -/
theorem syncMailbox_ran (hc : c.Reads) {path : String} {last : Int} {s s₁ : World × Engine}
    {r : Except Halt Unit} (h : (syncMailbox c path last).run.run s = (r, s₁)) :
    Kept s.2.errors s.2.status s₁ ∧ ∀ k, r = .error k → ServiceFailure k s₁ := by
  have hfails := syncMailbox_fails (E := s.2.errors) (S := s.2.status) hc path last s ⟨rfl, rfl⟩
  rwa [h] at hfails

/-- One mailbox of a cycle, for a consumer that reads on: its sync ends as a closing says, and
the loop goes on as the closing says from the state its failure is noted in. -/
theorem mailbox_closes (hc : c.Reads) (P : Position) (path : String) (s : World × Engine) :
    ∃ (cl : Closing) (s₁ : World × Engine), cl.path = path ∧
      (syncMailbox c path (P.lastUid path)).run.run s = (cl.result, s₁) ∧
      (mailbox c P path).run.run s = (cl.next, cl.settle s₁) := by
  rcases hsync : (syncMailbox c path (P.lastUid path)).run.run s with ⟨r, s₁⟩
  have hran := syncMailbox_ran hc hsync
  unfold mailbox
  rw [run_tryCatch, run_bind, hsync]
  cases r with
  | ok u => exact ⟨⟨path, none⟩, s₁, rfl, rfl, rfl⟩
  | error k =>
    obtain ⟨f, rfl, -⟩ := hran.2 _ rfl
    refine ⟨⟨path, some f⟩, s₁, rfl, rfl, ?_⟩
    obtain ⟨w₁, e₁⟩ := s₁
    simp only [Closing.next, Closing.settle, Engine.settle, goesOn]
    by_cases hre : f.isA .retriesExhausted = true
    · simp only [hre, ↓reduceIte, Bool.true_or, noteFailure, modifyEngine, run_bind, run_modify, run_pure]
      rfl
    by_cases hcon : f.isA .connection = true
    · simp only [hre, hcon, ↓reduceIte, Bool.or_true, Bool.false_eq_true, noteFailure, modifyEngine, run_bind,
        run_modify, run_pure]
      rfl
    by_cases hcred : credentialFailure f = true
    · simp only [hre, hcon, hcred, ↓reduceIte, Bool.or_false, Bool.false_eq_true, noteFailure, modifyEngine,
        run_bind, run_modify, run_pure]
      rfl
    by_cases hparse : f.isA .messageParse = true
    · simp only [hre, hcon, hcred, hparse, ↓reduceIte, Bool.or_false, Bool.false_eq_true, modifyEngine, run_bind,
        run_modify, run_pure]
      rfl
    · simp only [hre, hcon, hcred, hparse, ↓reduceIte, Bool.or_false, Bool.false_eq_true, run_throw]

/-! ## The mailboxes in order -/

/-- The loop over the mailboxes `ms` from the state `s` ran the syncs of the closings `cs` in
order, each from the state the one before left with its failure noted, and ended with `r` in
the state `s'`: it goes on after a mailbox while the mailbox's closing says so. -/
inductive Synced (c : Consumer) (P : Position) :
    List Mailbox.Entry → World × Engine → List Closing → Except Halt Unit → World × Engine → Prop
  | done (s : World × Engine) : Synced c P [] s [] (.ok ()) s
  | next {m : Mailbox.Entry} {rest : List Mailbox.Entry} {s s₁ : World × Engine} {cl : Closing}
      {cs : List Closing} {r : Except Halt Unit} {s' : World × Engine} :
      cl.path = m.path → (syncMailbox c m.path (P.lastUid m.path)).run.run s = (cl.result, s₁) →
      cl.next = .ok true → Synced c P rest (cl.settle s₁) cs r s' → Synced c P (m :: rest) s (cl :: cs) r s'
  | last {m : Mailbox.Entry} {rest : List Mailbox.Entry} {s s₁ : World × Engine} {cl : Closing} :
      cl.path = m.path → (syncMailbox c m.path (P.lastUid m.path)).run.run s = (cl.result, s₁) →
      cl.next ≠ .ok true → Synced c P (m :: rest) s [cl] (cl.next.map fun _ => ()) (cl.settle s₁)

/-- The loop over the mailboxes, for a consumer that reads on, is a `Synced` run. -/
theorem mailboxes_synced (hc : c.Reads) (P : Position) :
    ∀ (ms : List Mailbox.Entry) (s : World × Engine),
      ∃ cs, Synced c P ms s cs ((mailboxes c P ms).run.run s).1 ((mailboxes c P ms).run.run s).2
  | [], s => ⟨[], .done s⟩
  | m :: rest, s => by
    obtain ⟨cl, s₁, hpath, hsync, hmailbox⟩ := mailbox_closes hc P m.path s
    unfold mailboxes
    rw [run_bind, hmailbox]
    by_cases hnext : cl.next = .ok true
    · -- the loop goes on with the rest
      rw [hnext]
      obtain ⟨cs, hcs⟩ := mailboxes_synced hc P rest (cl.settle s₁)
      exact ⟨cl :: cs, .next hpath hsync hnext hcs⟩
    · have hlast : Synced c P (m :: rest) s [cl] (cl.next.map fun _ => ()) (cl.settle s₁) :=
        .last hpath hsync hnext
      refine ⟨[cl], ?_⟩
      cases hn : cl.next with
      | ok b =>
        cases b with
        | true => exact absurd hn hnext
        | false =>
          rw [hn] at hlast
          exact hlast
      | error k =>
        rw [hn] at hlast
        exact hlast

namespace Synced

variable {P : Position} {ms : List Mailbox.Entry} {s s' : World × Engine} {cs : List Closing}
  {r : Except Halt Unit}

/-- The mailboxes synced start the mailboxes given, in order. -/
theorem paths (h : Synced c P ms s cs r s') : cs.map (·.path) <+: ms.map (·.path) := by
  induction h with
  | done => exact List.nil_prefix
  | next hp _ _ _ ih => exact List.cons_prefix_cons.mpr ⟨hp, ih⟩
  | last hp _ _ => exact List.cons_prefix_cons.mpr ⟨hp, List.nil_prefix⟩

/-- A loop that did not reach every mailbox ended at one whose sync failed on a credential, or
with a failure the cycle does not handle. -/
theorem stops (h : Synced c P ms s cs r s') (hshort : cs.length < ms.length) :
    ∃ cl f, cs.getLast? = some cl ∧ cl.ending = some f ∧ (credentialFailure f = true ∨ goesOn f = none) := by
  induction h with
  | done => exact absurd hshort (Nat.lt_irrefl 0)
  | @next m rest s s₁ cl cs r s' _ _ _ _ ih =>
    obtain ⟨cl', f, hl, hend, hf⟩ := ih (by simpa using hshort)
    refine ⟨cl', f, ?_, hend, hf⟩
    rw [List.getLast?_cons, hl]
    rfl
  | last _ _ hnext =>
    obtain ⟨f, hend, hf⟩ := Closing.next_ne_true hnext
    exact ⟨_, f, rfl, hend, hf⟩

/-- The failures noted after the loop: for each mailbox, the last one its closings note, else
the one noted before. -/
theorem errors (hc : c.Reads) (h : Synced c P ms s cs r s') (p : String) :
    s'.2.errors.lookup p = (errorOf cs p).or (s.2.errors.lookup p) := by
  induction h with
  | done => rfl
  | next _ hsync _ _ ih =>
    rw [ih, Closing.lookup_settle, (syncMailbox_ran hc hsync).1.1, errorOf_cons, Option.or_assoc]
  | last _ hsync _ =>
    rw [Closing.lookup_settle, (syncMailbox_ran hc hsync).1.1, errorOf_cons]
    rfl

/-- The note after the loop: the last one the closings give, else the one before. -/
theorem status (hc : c.Reads) (h : Synced c P ms s cs r s') : s'.2.status = (statusOf cs).or s.2.status := by
  induction h with
  | done => rfl
  | next _ hsync _ _ ih =>
    rw [ih, Closing.status_settle, (syncMailbox_ran hc hsync).1.2, statusOf_cons, Option.or_assoc]
  | last _ hsync _ =>
    rw [Closing.status_settle, (syncMailbox_ran hc hsync).1.2, statusOf_cons]
    rfl

/-- A loop that ended at a credential failure ended in the world the retried operation left as
it failed. -/
theorem credential_world (hc : c.Reads) (h : Synced c P ms s cs r s') {cl : Closing} {f : Fault}
    (hlast : cs.getLast? = some cl) (hend : cl.ending = some f) (hcred : credentialFailure f = true) :
    RetryFailed f s'.1 := by
  induction h with
  | done => cases hlast
  | @next m rest s s₁ cl₀ cs r s' _ _ hnext _ ih =>
    rw [List.getLast?_cons] at hlast
    cases hcs : cs.getLast? with
    | none =>
      -- the closing is the one that went on, which a credential failure does not
      rw [hcs, Option.getD_none, Option.some.injEq] at hlast
      subst hlast
      rw [Closing.next_of_credential hend hcred] at hnext
      cases hnext
    | some cl' =>
      rw [hcs, Option.getD_some] at hlast
      exact ih (hcs.trans hlast)
  | last _ hsync _ =>
    rw [List.getLast?_singleton, Option.some.injEq] at hlast
    subst hlast
    obtain ⟨f', hf', hretry⟩ := (syncMailbox_ran hc hsync).2 (.fault f) (by simp only [Closing.result, hend])
    cases hf'
    rw [Closing.settle_world]
    exact hretry hcred

end Synced

/-! ## A whole cycle -/

/-- A step of the service run inside a cycle: its failure stops the cycle, and the engine stays. -/
theorem run_act {α : Type} {a : Act α} {w w' : World} {r : Except Fault α} (e : Engine)
    (h : a.run.run w = (r, w')) : (act a).run.run (w, e) = (r.mapError .fault, (w', e)) := by
  unfold act
  rw [run_bind, run_modifyGet]
  dsimp only
  rw [h]
  cases r <;> rfl

/-- The listing fails only as a retried operation does. -/
theorem listed_failed {w w₁ : World} {f : Fault} (h : listed.run.run w = (.error f, w₁)) : RetryFailed f w₁ := by
  unfold listed at h
  rw [run_bind] at h
  rcases hr : (withRetry (clientStep Imap.Server.listFolders) "list mailboxes").run.run w with ⟨r, w'⟩
  rw [hr] at h
  cases r with
  | ok ls => cases h
  | error f' =>
    cases h
    exact ⟨_, _, _, w, hr⟩

/-- The messages of a cycle, for a consumer that reads on: the listing failed on a credential,
or failed otherwise, or went through and the selected mailboxes were synced. -/
theorem messages_cases (hc : c.Reads) (P : Position) (w₀ : World) (e : Engine) :
    (∃ f w₁, listed.run.run w₀ = (.error f, w₁) ∧ credentialFailure f = true ∧
      ((messages c P).run.run (w₀, e)).2 = (w₁, { e.restart P with status := some credentialsNote })) ∨
    (∃ f w₁, listed.run.run w₀ = (.error f, w₁) ∧ credentialFailure f = false ∧
      ((messages c P).run.run (w₀, e)).2 = (w₁, e.restart P)) ∨
    (∃ es w₁ cs, listed.run.run w₀ = (.ok es, w₁) ∧
      Synced c P (archived e.options.allInclusive es) (w₁, e.restart P) cs
        ((messages c P).run.run (w₀, e)).1 ((messages c P).run.run (w₀, e)).2) := by
  rcases hl : listed.run.run w₀ with ⟨rl, w₁⟩
  unfold messages
  simp only [modifyEngine, run_bind, run_modify, run_tryCatch, map_eq_pure_bind]
  rw [show ({ e with marks := P.mailboxes, errors := [], status := none } : Engine) = e.restart P from rfl]
  cases rl with
  | ok es =>
    have hact : (act listed).run.run (w₀, e.restart P) = (.ok es, (w₁, e.restart P)) := run_act _ hl
    simp only [hact, run_pure, engine, run_bind, run_get]
    obtain ⟨cs, hcs⟩ := mailboxes_synced hc P (archived e.options.allInclusive es) (w₁, e.restart P)
    exact Or.inr (Or.inr ⟨es, w₁, cs, rfl, hcs⟩)
  | error f =>
    have hact : (act listed).run.run (w₀, e.restart P) = (.error (.fault f), (w₁, e.restart P)) := run_act _ hl
    simp only [hact]
    by_cases hcred : credentialFailure f = true
    · rw [if_pos hcred]
      simp only [run_bind, run_modify, run_pure]
      exact Or.inl ⟨f, w₁, rfl, hcred, rfl⟩
    · rw [if_neg hcred]
      simp only [run_throw]
      exact Or.inr (Or.inl ⟨f, w₁, rfl, (Bool.not_eq_true _).mp hcred, rfl⟩)

/-- A whole cycle, for a consumer that reads on: its first reaction, the messages from the world
it left, and the logout, which changes the world only. -/
theorem run_state (hc : c.Reads) (P : Position) (w : World) (e : Engine) :
    ((run c (some P)).run.run (w, e)).2 =
      ((logout.run.run ((messages c P).run.run (((c.react 0).run.run w).2, e)).2.1).2,
        ((messages c P).run.run (((c.react 0).run.run w).2, e)).2.2) := by
  rcases hreact : (c.react 0).run.run w with ⟨r, w₀⟩
  have hok := hc.react 0 w
  rw [hreact] at hok
  subst hok
  rcases hm : (messages c P).run.run (w₀, e) with ⟨rm, w', e'⟩
  rcases hlo : logout.run.run w' with ⟨rl, w''⟩
  unfold run
  simp only [run_bind, run_tryCatch, run_modifyGet, hreact, Option.getD_some, hm, run_pure]
  cases rm with
  | ok u =>
    simp only [run_act e' hlo]
    cases rl <;> rfl
  | error h => cases h <;> simp only [run_pure, run_act e' hlo] <;> cases rl <;> rfl

/-- A cycle from a position, for a consumer that reads the whole sequence, from any world and
engine. Either the listing failed on a credential: no mailbox error, the credentials note, and
nothing reached the server or waited after the failure. Or the listing failed otherwise: no
mailbox error and no note. Or the listing went through, and the selected mailboxes were synced
in order, each from the state the one before left. The loop stopped short only at a mailbox
whose sync failed on a credential or with a failure the cycle does not handle, which ends the
cycle with it. Each mailbox's error is the last failure noted for it, and the note is the last
one given. A loop that ended at a credential failure ended in the world the failing retried
operation left, and from that world to the cycle's end nothing reached the server or waited. -/
theorem cycle_isolates_failures {c : Consumer} (hc : c.Reads) (P : Position) (w : World) (e : Engine) :
    let w₀ := ((c.react 0).run.run w).2
    let selected := archived e.options.allInclusive
    let s' := ((run c (some P)).run.run (w, e)).2
    (∃ f w₁, listed.run.run w₀ = (.error f, w₁) ∧ credentialFailure f = true ∧
      s'.2.errors = [] ∧ s'.2.status = some credentialsNote ∧ Quiet w₁ s'.1) ∨
    (∃ f w₁, listed.run.run w₀ = (.error f, w₁) ∧ credentialFailure f = false ∧
      s'.2.errors = [] ∧ s'.2.status = none) ∨
    (∃ es w₁ cs r s₂, listed.run.run w₀ = (.ok es, w₁) ∧
      Synced c P (selected es) (w₁, e.restart P) cs r s₂ ∧ s' = ((logout.run.run s₂.1).2, s₂.2) ∧
      cs.map (·.path) <+: (selected es).map (·.path) ∧
      (cs.length < (selected es).length →
        ∃ cl f, cs.getLast? = some cl ∧ cl.ending = some f ∧ (credentialFailure f = true ∨ goesOn f = none)) ∧
      (∀ p, s'.2.errors.lookup p = errorOf cs p) ∧ s'.2.status = statusOf cs ∧
      ∀ cl f, cs.getLast? = some cl → cl.ending = some f → credentialFailure f = true →
        RetryFailed f s₂.1 ∧ Quiet s₂.1 s'.1) := by
  intro w₀ selected s'
  have hs' : s' = ((logout.run.run ((messages c P).run.run (w₀, e)).2.1).2, ((messages c P).run.run (w₀, e)).2.2) :=
    run_state hc P w e
  rcases messages_cases hc P w₀ e with ⟨f, w₁, hl, hcred, hm⟩ | ⟨f, w₁, hl, hcred, hm⟩ | ⟨es, w₁, cs, hl, hsync⟩
  · -- the listing failed on a credential: the client was dropped, so the logout is silent
    rw [hm] at hs'
    refine Or.inl ⟨f, w₁, hl, hcred, ?_, ?_, ?_⟩
    · rw [hs']
      rfl
    · rw [hs']
    · rw [hs']
      exact logout_quiet ((listed_failed hl).dropped hcred)
  · rw [hm] at hs'
    refine Or.inr (Or.inl ⟨f, w₁, hl, hcred, ?_, ?_⟩)
    · rw [hs']
      rfl
    · rw [hs']
      rfl
  · refine Or.inr (Or.inr ⟨es, w₁, cs, _, _, hl, hsync, hs', hsync.paths, hsync.stops, fun p => ?_, ?_, ?_⟩)
    · -- the cycle starts with no failure noted
      rw [hs', hsync.errors hc p]
      exact Option.or_none
    · rw [hs', hsync.status hc]
      exact Option.or_none
    · intro cl f hlast hend hcred
      have hretry := hsync.credential_world hc hlast hend hcred
      refine ⟨hretry, ?_⟩
      rw [hs']
      exact logout_quiet (hretry.dropped hcred)

/-- The consumer that takes every message reads the whole sequence. -/
theorem takeAll_reads : takeAll.Reads := ⟨rfl, rfl, fun _ _ => rfl⟩

theorem takeAll_isolates_failures :
    let w₀ := ((takeAll.react 0).run.run oneMessageWorld).2
    let selected := archived freshEngine.options.allInclusive
    let s' := ((run takeAll (some {})).run.run (oneMessageWorld, freshEngine)).2
    (∃ f w₁, listed.run.run w₀ = (.error f, w₁) ∧ credentialFailure f = true ∧
      s'.2.errors = [] ∧ s'.2.status = some credentialsNote ∧ Quiet w₁ s'.1) ∨
    (∃ f w₁, listed.run.run w₀ = (.error f, w₁) ∧ credentialFailure f = false ∧
      s'.2.errors = [] ∧ s'.2.status = none) ∨
    (∃ es w₁ cs r s₂, listed.run.run w₀ = (.ok es, w₁) ∧
      Synced takeAll {} (selected es) (w₁, freshEngine.restart {}) cs r s₂ ∧ s' = ((logout.run.run s₂.1).2, s₂.2) ∧
      cs.map (·.path) <+: (selected es).map (·.path) ∧
      (cs.length < (selected es).length →
        ∃ cl f, cs.getLast? = some cl ∧ cl.ending = some f ∧ (credentialFailure f = true ∨ goesOn f = none)) ∧
      (∀ p, s'.2.errors.lookup p = errorOf cs p) ∧ s'.2.status = statusOf cs ∧
      ∀ cl f, cs.getLast? = some cl → cl.ending = some f → credentialFailure f = true →
        RetryFailed f s₂.1 ∧ Quiet s₂.1 s'.1) :=
  cycle_isolates_failures takeAll_reads {} oneMessageWorld freshEngine

end MailIngest.Sync
