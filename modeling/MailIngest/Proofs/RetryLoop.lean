import MailIngest.Proofs.ConnectionStates

/-!
# The attempts of a retried operation

`withRetry` runs an operation on a live client up to the policy's number of attempts. An
attempt signs in if need be and runs the operation, its failure caught as a value
(`attempt`). A fatal failure drops the client and is raised as it is; a retryable one drops the
client and, if the policy allows another attempt, waits the policy's backoff and tries again, or
else ends the loop with the exhaustion of its attempts, whose cause is that failure; any other
failure is raised as it is.

`Tries` lists the attempts a loop made, each run from the world the one before left, with the
outcomes of the operation. The main statement, `withRetry_retries`, says of every call on a
connection whose operation leaves the pacing alone (`Paced`: the policy, the jitter source and
the waits taken): the loop makes at most the policy's number of attempts, every attempt but the
last failed with a retryable fault, it waited after each of them the policy's delay for it in
order, and its end is read off the last outcome (`Ends`); a fatal or retryable last failure
leaves the connection without a client and disconnected. A delay that cannot be reckoned, as a
backoff too large for a float, ends the loop with that failure.

An attempt signs in through `ensureConnected`, once at most. `SignIn` says how a sign-in resolves
the credentials: once without forcing a refresh, and a second time, forcing one (`Forced`), only
after a bearer login was refused and its credential can be refreshed (`authenticate_signIn`).
-/

namespace MailIngest.Service

variable {α β : Type}

/-- One attempt of an operation: it signs in if need be and runs the operation, its failure
caught as a value. -/
def attempt (op : Act α) : Act (Except Fault α) :=
  tryCatch (Except.ok <$> (do ensureConnected; op)) fun f => pure (.error f)

/-- The world's connection is there, with the policy `p`, the jitter source `j` and the waits
`ds` taken so far. -/
def Paced (p : Retry.Policy) (j : Retry.Jitter) (ds : List Number) (w : World) : Prop :=
  ∃ l, w.link = some l ∧ l.policy = p ∧ l.jitter = j ∧ l.sleeps = ds

/-- The world's connection is there, without a client and disconnected. -/
def World.Idle (w : World) : Prop := ∃ l, w.link = some l ∧ l.Idle

/-! ## Steps that leave the pacing alone -/

section Pacing

variable {p : Retry.Policy} {j : Retry.Jitter} {ds : List Number}

theorem Aside.paced {x : Act β} (hx : Aside x) : Keeps (Paced p j ds) x := by
  intro w hw
  have hl := (hx w.link w.server.logouts w ⟨rfl, rfl⟩).1
  obtain ⟨l, hwl, hp⟩ := hw
  exact ⟨l, hl.trans hwl, hp⟩

theorem modifyLink_paced {g : Link → Link}
    (hg : ∀ l, (g l).policy = l.policy ∧ (g l).jitter = l.jitter ∧ (g l).sleeps = l.sleeps) :
    Keeps (Paced p j ds) (modifyLink g) := by
  intro w ⟨l, hl, hp, hj, hs⟩
  obtain ⟨h1, h2, h3⟩ := hg l
  refine ⟨g l, ?_, h1.trans hp, h2.trans hj, h3.trans hs⟩
  show w.link.map g = some (g l)
  rw [hl]
  rfl

theorem discard_paced : Keeps (Paced p j ds) discard := by
  unfold discard
  refine Keeps.bind link_aside.paced fun l => Keeps.bind (modifyLink_paced fun _ => ⟨rfl, rfl, rfl⟩) fun _ => ?_
  split
  · exact Keeps.bind (onServer_aside Imap.Server.shutdown_keepsLogouts).paced fun _ => Keeps.pure _
  · exact Keeps.pure _

theorem establish_paced : Keeps (Paced p j ds) establish := by
  unfold establish
  refine Keeps.bind (modifyLink_paced fun _ => ⟨rfl, rfl, rfl⟩) fun _ => ?_
  refine Keeps.bind link_aside.paced fun l => ?_
  split
  · exact (fail_aside _).paced
  refine Keeps.bind (onServer_aside (Imap.Server.connect_keepsLogouts _)).paced fun _ => ?_
  refine Keeps.bind (modifyLink_paced fun _ => ⟨rfl, rfl, rfl⟩) fun _ => ?_
  refine Keeps.bind (Keeps.tryCatch authenticate_aside.paced fun f =>
    Keeps.bind discard_paced fun _ => (fail_aside f).paced) fun _ => ?_
  exact modifyLink_paced fun _ => ⟨rfl, rfl, rfl⟩

theorem ensureConnected_paced : Keeps (Paced p j ds) ensureConnected := by
  unfold ensureConnected
  refine Keeps.bind link_aside.paced fun l => ?_
  split
  · exact Keeps.pure _
  · exact establish_paced

/-- An attempt of an operation that leaves the pacing alone leaves it alone too. -/
theorem attempt_paced {op : Act α} (hop : ∀ j ds, Keeps (Paced p j ds) op) :
    Keeps (Paced p j ds) (attempt op) :=
  Keeps.tryCatch (Keeps.map _ (Keeps.bind ensureConnected_paced fun _ => hop j ds)) fun _ => Keeps.pure _

end Pacing

/-! ## One step at a time -/

section Runs

variable {p : Retry.Policy} {j : Retry.Jitter} {ds : List Number} {u : World}

/-- An attempt never fails: the operation's failure is its outcome. -/
theorem attempt_ok (op : Act α) (u : World) : ∃ o u', (attempt op).run.run u = (.ok o, u') := by
  unfold attempt
  rw [run_tryCatch, map_eq_pure_bind, run_bind]
  rcases (do ensureConnected; op : Act α).run.run u with ⟨f | a, u'⟩
  · exact ⟨_, _, rfl⟩
  · exact ⟨_, _, rfl⟩

/-- Dropping the client of a connection that is there never fails. -/
theorem discard_ok (hu : Paced p j ds u) : ∃ v, discard.run.run u = (.ok (), v) := by
  obtain ⟨l, hl, -⟩ := hu
  simp only [discard, run_bind, link_some hl, modifyLink, run_modify]
  split
  · simp only [run_bind, onServer, run_modifyGet, run_pure]
    exact ⟨_, rfl⟩
  · exact ⟨_, rfl⟩

/-- Dropping the client leaves the connection idle, and its pacing alone. -/
theorem discard_after {r : Except Fault Unit} {v : World} (hu : Paced p j ds u)
    (hd : discard.run.run u = (r, v)) : Paced p j ds v ∧ v.Idle := by
  have hp := discard_paced.of_run hu hd
  obtain ⟨l, hl, -⟩ := hu
  have hv : (discard.run.run u).2.link = some { l with client := none, state := .disconnected } := by
    simp only [discard, run_bind, link_some hl, modifyLink, run_modify]
    split
    · rcases hout : Imap.Server.shutdown.run.run u.server with ⟨r, s⟩
      simp only [onServer, run_bind, run_modifyGet, hout, run_pure, hl, Option.map_some]
    · simp only [run_pure, hl, Option.map_some]
  rw [hd] at hv
  exact ⟨hp, _, hv, rfl, rfl⟩

/-- Waiting the backoff after attempt `i` either fails, with nothing changed, because the policy's
delay for it cannot be reckoned, or takes that delay with the next draw of jitter. -/
theorem backOff_run (i : Nat) (hu : Paced p j ds u) :
    (∃ g, p.delayFor j i = .error g ∧ (backOff i).run.run u = (.error g, u)) ∨
      ∃ d j' v, p.delayFor j i = .ok (d, j') ∧ (backOff i).run.run u = (.ok (), v) ∧
        Paced p j' (ds ++ [d]) v := by
  obtain ⟨l, hl, rfl, rfl, rfl⟩ := hu
  rcases hdl : l.policy.delayFor l.jitter i with g | ⟨d, j'⟩
  · refine .inl ⟨g, rfl, ?_⟩
    simp only [backOff, run_bind, link_some hl, run_liftExcept, hdl]
  · right
    simp only [backOff, run_bind, link_some hl, run_liftExcept, hdl, modifyLink, run_modify, hl,
      Option.map_some]
    exact ⟨d, j', _, rfl, rfl, _, rfl, rfl, rfl, rfl⟩

theorem backOff_failed {i : Nat} {g : Fault} {v : World} (hu : Paced p j ds u)
    (h : (backOff i).run.run u = (.error g, v)) : p.delayFor j i = .error g := by
  rcases backOff_run i hu with ⟨g', hg, hrun⟩ | ⟨d, j', w, -, hrun, -⟩
  · rw [h] at hrun
    cases hrun
    exact hg
  · rw [h] at hrun
    cases hrun

/-- A wait that was taken took the policy's delay, with the next draw of jitter. -/
theorem backOff_waited {i : Nat} {v : World} (hu : Paced p j ds u)
    (h : (backOff i).run.run u = (.ok (), v)) :
    ∃ d j', p.delayFor j i = .ok (d, j') ∧ Paced p j' (ds ++ [d]) v := by
  rcases backOff_run i hu with ⟨g, -, hrun⟩ | ⟨d, j', w, hd, hrun, hw⟩
  · rw [h] at hrun
    cases hrun
  · rw [h] at hrun
    cases hrun
    exact ⟨d, j', hd, hw⟩

end Runs

/-! ## The attempts of a loop -/

/-- The attempts a retry loop of at most `m` attempts makes from attempt `i` in world `u`: the
faults of the attempts it retried, the outcome of the last one, and the loop's result and world.
Each way an attempt can end is one constructor, the next attempt starting from the world the
waiting left. -/
inductive Tries (op : Act α) (context : String) (m : Nat) :
    Nat → World → List Fault → Except Fault α → Except Fault α → World → Prop
  /-- The operation succeeds. -/
  | done {i u a v} : (attempt op).run.run u = (.ok (.ok a), v) → Tries op context m i u [] (.ok a) (.ok a) v
  /-- A fatal failure drops the client and is raised. -/
  | dropped {i u f u' v} : (attempt op).run.run u = (.ok (.error f), u') → fatal f = true →
      discard.run.run u' = (.ok (), v) → Tries op context m i u [] (.error f) (.error f) v
  /-- A failure neither fatal nor worth retrying is raised as it is. -/
  | passed {i u f v} : (attempt op).run.run u = (.ok (.error f), v) → fatal f = false →
      retryable f = false → Tries op context m i u [] (.error f) (.error f) v
  /-- A retryable failure of the last attempt drops the client and exhausts the loop. -/
  | spent {u f u' v} : (attempt op).run.run u = (.ok (.error f), u') → fatal f = false →
      retryable f = true → discard.run.run u' = (.ok (), v) →
      Tries op context m m u [] (.error f) (.error (exhausted context m (some f))) v
  /-- A retryable failure before the last attempt drops the client, and a backoff that cannot
  be reckoned ends the loop. -/
  | unpaced {i u f u' v g} : i < m → (attempt op).run.run u = (.ok (.error f), u') → fatal f = false →
      retryable f = true → discard.run.run u' = (.ok (), v) → (backOff i).run.run v = (.error g, v) →
      Tries op context m i u [] (.error f) (.error g) v
  /-- A retryable failure before the last attempt drops the client, waits the backoff and tries
  again. -/
  | retried {i u f u' u'' w fs o r v} : i < m → (attempt op).run.run u = (.ok (.error f), u') →
      fatal f = false → retryable f = true → discard.run.run u' = (.ok (), u'') →
      (backOff i).run.run u'' = (.ok (), w) → Tries op context m (i + 1) w fs o r v →
      Tries op context m i u (f :: fs) o r v

/-- How a loop ends on the outcome `o` of its last attempt, attempt `n` of `m`, with jitter
source `j` left: with the result `r` in world `v`. A success is returned; a fatal failure is
raised; a retryable one ends the loop with the exhaustion of its attempts after the last of
them, and before it with the failure of a delay that cannot be reckoned; either leaves the
connection idle. Any other failure is raised as it is. -/
def Ends (context : String) (m n : Nat) (p : Retry.Policy) (j : Retry.Jitter) :
    Except Fault α → Except Fault α → World → Prop
  | .ok a, r, _ => r = .ok a
  | .error f, r, v =>
    if fatal f then r = .error f ∧ v.Idle
    else if retryable f then v.Idle ∧
      (n = m ∧ r = .error (exhausted context m (some f)) ∨
        n < m ∧ ∃ g, p.delayFor j n = .error g ∧ r = .error g)
    else r = .error f

/-- What a loop of at most `m` attempts did from attempt `i`, on a connection paced by `p` from
jitter source `j` and waits `ds`, when it retried the faults `fs`, its last attempt had the
outcome `o` and it ended with `r` in world `v`. -/
structure Retried (context : String) (m i : Nat) (p : Retry.Policy) (j : Retry.Jitter)
    (ds : List Number) (fs : List Fault) (o r : Except Fault α) (v : World) : Prop where
  /-- It made no more attempts than were left. -/
  bounded : i + fs.length ≤ m
  /-- Every attempt but the last failed with a fault worth retrying. -/
  retried : ∀ f ∈ fs, fatal f = false ∧ retryable f = true
  /-- After each of those it waited the policy's delay for it, in order, and the outcome of the
  last attempt decides how it ended. -/
  waited : ∃ ds' j', p.delays j ((List.range' i fs.length).map Nat.cast) = .ok (ds', j') ∧
    Paced p j' (ds ++ ds') v ∧ Ends context m (i + fs.length) p j' o r v

section Loop

variable {op : Act α} {p : Retry.Policy}

/-- The run of the loop from attempt `i` of `m`, on a connection whose pacing the operation
leaves alone, is a trace of its attempts. -/
theorem attempts_tries (context : String) (m : Nat) (hop : ∀ j ds, Keeps (Paced p j ds) op) :
    ∀ fuel i u j ds r v, i + fuel = m + 1 → i ≤ m → Paced p j ds u →
      (attempts op context m fuel i).run.run u = (r, v) → ∃ fs o, Tries op context m i u fs o r v := by
  intro fuel
  induction fuel with
  | zero => intro i u j ds r v hi him; omega
  | succ fuel ih =>
    intro i u j ds r v hi him hu h
    obtain ⟨o, u', ho⟩ := attempt_ok op u
    have hu' := (attempt_paced hop).of_run hu ho
    rw [attempts] at h
    change (attempt op >>= _).run.run u = _ at h
    rw [run_bind, ho] at h
    dsimp only at h
    rcases o with f | a
    · obtain ⟨u'', hd⟩ := discard_ok hu'
      have hu'' := discard_paced.of_run hu' hd
      cases hfat : fatal f
      · cases hret : retryable f
        · simp only [hfat, hret, Bool.false_eq_true, if_false, fail, run_throw] at h
          obtain ⟨rfl, rfl⟩ := Prod.mk.inj h
          exact ⟨[], _, .passed ho hfat hret⟩
        · simp only [hfat, hret, Bool.false_eq_true, if_false, if_true, run_bind, hd] at h
          by_cases hlast : i = m
          · subst hlast
            simp only [if_true, run_bind, fail, run_throw] at h
            obtain ⟨rfl, rfl⟩ := Prod.mk.inj h
            exact ⟨[], _, .spent ho hfat hret hd⟩
          simp only [hlast, if_false, run_bind] at h
          rcases backOff_run i hu'' with ⟨g, -, hrun⟩ | ⟨d, j', w, -, hrun, hw⟩
          · rw [hrun] at h
            obtain ⟨rfl, rfl⟩ := Prod.mk.inj h
            exact ⟨[], _, .unpaced (by omega) ho hfat hret hd hrun⟩
          · rw [hrun] at h
            obtain ⟨fs, o, ht⟩ := ih (i + 1) w j' (ds ++ [d]) r v (by omega) (by omega) hw h
            exact ⟨f :: fs, o, .retried (by omega) ho hfat hret hd hrun ht⟩
      · simp only [hfat, if_true, run_bind, hd, fail, run_throw] at h
        obtain ⟨rfl, rfl⟩ := Prod.mk.inj h
        exact ⟨[], _, .dropped ho hfat hd⟩
    · simp only [run_pure] at h
      obtain ⟨rfl, rfl⟩ := Prod.mk.inj h
      exact ⟨[], _, .done ho⟩

/-- A loop that ends on the attempt it starts with retried nothing and waited for nothing. -/
theorem Retried.last {context : String} {m i : Nat} {j : Retry.Jitter} {ds : List Number}
    {o r : Except Fault α} {v : World} (him : i ≤ m) (hv : Paced p j ds v)
    (he : Ends context m i p j o r v) : Retried context m i p j ds [] o r v :=
  ⟨him, by simp, [], j, rfl, by rwa [List.append_nil], he⟩

/-- A trace of the loop from an attempt within the bound, on a connection whose pacing the
operation leaves alone, is what `Retried` says. -/
theorem Tries.outcome {context : String} {m : Nat} (hop : ∀ j ds, Keeps (Paced p j ds) op) {i u fs o r v}
    (ht : Tries op context m i u fs o r v) :
    ∀ {j ds}, i ≤ m → Paced p j ds u → Retried context m i p j ds fs o r v := by
  -- induction on the trace; the pacing is the invariant, the jitter and waits moving on with
  -- each backoff
  induction ht with
  | done ho =>
    intro j ds him hu
    exact Retried.last him ((attempt_paced hop).of_run hu ho) rfl
  | dropped ho hfat hd =>
    intro j ds him hu
    obtain ⟨hv, hidle⟩ := discard_after ((attempt_paced hop).of_run hu ho) hd
    refine Retried.last him hv ?_
    rw [Ends, if_pos hfat]
    exact ⟨rfl, hidle⟩
  | passed ho hfat hret =>
    intro j ds him hu
    refine Retried.last him ((attempt_paced hop).of_run hu ho) ?_
    rw [Ends, if_neg (Bool.eq_false_iff.mp hfat), if_neg (Bool.eq_false_iff.mp hret)]
  | spent ho hfat hret hd =>
    intro j ds him hu
    obtain ⟨hv, hidle⟩ := discard_after ((attempt_paced hop).of_run hu ho) hd
    refine Retried.last him hv ?_
    rw [Ends, if_neg (Bool.eq_false_iff.mp hfat), if_pos hret]
    exact ⟨hidle, .inl ⟨rfl, rfl⟩⟩
  | unpaced hlt ho hfat hret hd hback =>
    intro j ds him hu
    obtain ⟨hv, hidle⟩ := discard_after ((attempt_paced hop).of_run hu ho) hd
    refine Retried.last him hv ?_
    rw [Ends, if_neg (Bool.eq_false_iff.mp hfat), if_pos hret]
    exact ⟨hidle, .inr ⟨hlt, _, backOff_failed hv hback, rfl⟩⟩
  | @retried i u f u' u'' w fs o r v hlt ho hfat hret hd hback _ ih =>
    intro j ds him hu
    obtain ⟨hu'', -⟩ := discard_after ((attempt_paced hop).of_run hu ho) hd
    obtain ⟨d, j', hdl, hw⟩ := backOff_waited hu'' hback
    obtain ⟨hb, hr, ds', j'', hdel, hv, hend⟩ := ih hlt hw
    refine ⟨by simp only [List.length_cons]; omega, List.forall_mem_cons.mpr ⟨⟨hfat, hret⟩, hr⟩,
      d :: ds', j'', ?_, by simpa using hv, ?_⟩
    · -- the first wait is the delay for this attempt, the rest those of the attempts after it
      simp only [List.length_cons, List.range'_succ, List.map_cons, Retry.Policy.delays, hdl]
      change (p.delays j' _ >>= fun x => pure (d :: x.1, x.2)) = _
      rw [hdel]
      rfl
    · have hn : i + (f :: fs).length = i + 1 + fs.length := by simp only [List.length_cons]; omega
      rw [hn]
      exact hend

end Loop

/-! ## Signing in -/

/-- The second try of a sign-in: the credentials resolved again, forcing a refresh, and tried
once more. -/
inductive Forced (w : World) : Except Fault Unit → World → Prop
  | unresolved {f v} : (resolveAuth true).run.run w = (.error f, v) → Forced w (.error f) v
  | accepted {a w₁ v} : (resolveAuth true).run.run w = (.ok a, w₁) → (login a).run.run w₁ = (.ok true, v) →
      Forced w (.ok ()) v
  | refused {a w₁ w₂ f v} : (resolveAuth true).run.run w = (.ok a, w₁) → (login a).run.run w₁ = (.ok false, w₂) →
      (do fail (← loginRefused) : Act Unit).run.run w₂ = (.error f, v) → Forced w (.error f) v

/-- How a sign-in from `w` ends. The credentials are resolved once, without forcing a refresh,
and tried; only a refused login that may be tried again (`mayRetry`) goes on to a second
resolution, which forces a refresh (`Forced`). -/
inductive SignIn (w : World) : Except Fault Unit → World → Prop
  | unresolved {f v} : (resolveAuth false).run.run w = (.error f, v) → SignIn w (.error f) v
  | accepted {a w₁ v} : (resolveAuth false).run.run w = (.ok a, w₁) → (login a).run.run w₁ = (.ok true, v) →
      SignIn w (.ok ()) v
  | undecided {a w₁ w₂ f v} : (resolveAuth false).run.run w = (.ok a, w₁) →
      (login a).run.run w₁ = (.ok false, w₂) → (mayRetry a).run.run w₂ = (.error f, v) → SignIn w (.error f) v
  | refused {a w₁ w₂ w₃ f v} : (resolveAuth false).run.run w = (.ok a, w₁) →
      (login a).run.run w₁ = (.ok false, w₂) → (mayRetry a).run.run w₂ = (.ok false, w₃) →
      (do fail (← loginRefused) : Act Unit).run.run w₃ = (.error f, v) → SignIn w (.error f) v
  | forced {u t id w₁ w₂ w₃ r v} : (resolveAuth false).run.run w = (.ok (.bearer u t id), w₁) →
      (login (.bearer u t id)).run.run w₁ = (.ok false, w₂) → canRefreshAfterRejection.run.run w₂ = (.ok true, w₃) →
      Forced w₃ r v → SignIn w r v

/-- A refused login is tried again only with a bearer token whose credential can be refreshed. -/
theorem mayRetry_true {a : Auth} {w w' : World} (h : (mayRetry a).run.run w = (.ok true, w')) :
    ∃ u t id, a = .bearer u t id ∧ canRefreshAfterRejection.run.run w = (.ok true, w') := by
  cases a with
  | bearer u t id => exact ⟨u, t, id, rfl, h⟩
  | password => cases h

/-- A login reports a refusal as `false`; it never fails. -/
theorem login_ok (a : Auth) (w : World) : ∃ b v, (login a).run.run w = (.ok b, v) := by
  cases a <;>
  · simp only [login, onServer, run_bind, run_modifyGet]
    split <;> exact ⟨_, _, rfl⟩

theorem refusal_fails (w : World) : ∃ f v, (do fail (← loginRefused) : Act Unit).run.run w = (.error f, v) := by
  rw [run_bind]
  rcases loginRefused.run.run w with ⟨_ | f, v⟩
  · exact ⟨_, _, rfl⟩
  · exact ⟨f, v, rfl⟩

theorem forced_run (w : World) :
    Forced w ((do let a ← resolveAuth true; if !(← login a) then fail (← loginRefused) : Act Unit).run.run w).1
      ((do let a ← resolveAuth true; if !(← login a) then fail (← loginRefused) : Act Unit).run.run w).2 := by
  simp only [run_bind]
  rcases h1 : (resolveAuth true).run.run w with ⟨_ | a, w₁⟩
  · exact .unresolved h1
  obtain ⟨b, w₂, h2⟩ := login_ok a w₁
  cases b with
  | true =>
    simp only [h2]
    exact .accepted h1 h2
  | false =>
    obtain ⟨f, v, hf⟩ := refusal_fails w₂
    simp only [h2, Bool.not_false, if_true]
    rw [hf]
    exact .refused h1 h2 hf

theorem authenticate_signIn (w : World) :
    SignIn w (authenticate.run.run w).1 (authenticate.run.run w).2 := by
  unfold authenticate
  simp only [run_bind]
  rcases h1 : (resolveAuth false).run.run w with ⟨_ | a, w₁⟩
  · exact .unresolved h1
  obtain ⟨b, w₂, h2⟩ := login_ok a w₁
  cases b with
  | true =>
    simp only [h2]
    exact .accepted h1 h2
  | false =>
    simp only [h2, Bool.false_eq_true, ↓reduceIte, run_bind]
    rcases h3 : (mayRetry a).run.run w₂ with ⟨_ | again, w₃⟩
    · exact .undecided h1 h2 h3
    cases again with
    | false =>
      simp only [Bool.not_false, ↓reduceIte, run_bind]
      rcases hl : loginRefused.run.run w₃ with ⟨_ | f, v⟩
      · exact .refused h1 h2 h3 (by simp only [run_bind, hl])
      · exact .refused h1 h2 h3 (by simp only [run_bind, hl]; rfl)
    | true =>
      obtain ⟨u, tok, id, rfl, hcan⟩ := mayRetry_true h3
      simp only [Bool.not_true, Bool.false_eq_true, ↓reduceIte]
      exact .forced h1 h2 hcan (forced_run w₃)

/-! ## The retried operation -/

/-- An operation under retries, on a connection whose policy allows an attempt and whose pacing
the operation leaves alone, makes the attempts of a loop of the policy's number of attempts from
the first, and ends as `Retried` says: at most that many attempts, all but the last failed with
a fault worth retrying and each followed by the policy's delay for it, and the end read off the
last outcome. An attempt signs in only through `ensureConnected`, once at most, and every
sign-in resolves the credentials as `SignIn` says: once, and a second time, forcing a refresh,
only after its bearer token was refused and its credential can be refreshed. -/
theorem withRetry_retries (op : Act α) (context : String) {w : World} {p : Retry.Policy}
    {j : Retry.Jitter} {ds : List Number} (hw : Paced p j ds w) (hm : 0 < p.maxAttempts)
    (hop : ∀ j ds, Keeps (Paced p j ds) op) :
    (∃ fs o, Tries op context p.maxAttempts.toNat 1 w fs o ((withRetry op context).run.run w).1
        ((withRetry op context).run.run w).2 ∧
      Retried context p.maxAttempts.toNat 1 p j ds fs o ((withRetry op context).run.run w).1
        ((withRetry op context).run.run w).2) ∧
      ∀ u, SignIn u (authenticate.run.run u).1 (authenticate.run.run u).2 := by
  obtain ⟨l, hl, hp, -, -⟩ := id hw
  have hrun : (withRetry op context).run.run w =
      (attempts op context p.maxAttempts.toNat p.maxAttempts.toNat 1).run.run w := by
    simp only [withRetry, run_bind, link_some hl, hp]
    rw [if_neg (Int.not_le.mpr hm)]
  rw [hrun]
  obtain ⟨fs, o, ht⟩ := attempts_tries context p.maxAttempts.toNat hop p.maxAttempts.toNat 1 w j ds _ _ (by omega) (by omega) hw rfl
  exact ⟨⟨fs, o, ht, ht.outcome hop (by omega) hw⟩, authenticate_signIn⟩

/-- The default policy, retrying an operation that does nothing on a connection without a
client. -/
theorem idleLink_withRetry_retries :
    Paced {} {} [] { (default : World) with link := some { account := default } } ∧
      0 < ({} : Retry.Policy).maxAttempts ∧ (∀ j ds, Keeps (Paced {} j ds) (pure () : Act Unit)) ∧
      (∃ fs o,
        Tries (pure () : Act Unit) "noop" 5 1 { (default : World) with link := some { account := default } } fs o
          ((withRetry (pure ()) "noop").run.run { (default : World) with link := some { account := default } }).1
          ((withRetry (pure ()) "noop").run.run { (default : World) with link := some { account := default } }).2 ∧
        Retried "noop" 5 1 {} {} [] fs o
          ((withRetry (pure ()) "noop").run.run { (default : World) with link := some { account := default } }).1
          ((withRetry (pure ()) "noop").run.run { (default : World) with link := some { account := default } }).2) ∧
        ∀ u, SignIn u (authenticate.run.run u).1 (authenticate.run.run u).2 :=
  ⟨⟨_, rfl, rfl, rfl, rfl⟩, by decide, fun _ _ => Keeps.pure (),
    withRetry_retries (w := { (default : World) with link := some { account := default } }) (p := {})
      (pure ()) "noop" ⟨_, rfl, rfl, rfl, rfl⟩ (by decide) fun _ _ => Keeps.pure ()⟩

end MailIngest.Service
