import MailIngest.Proofs.Isolation

/-!
# The states of a connection between calls

A connection passes through `connecting` and `backoff` only inside a call. Whenever a call
returns or fails, the connection is at rest (`Link.AtRest`): without a client and disconnected
(`Link.Idle`), or with a client that is connected or fetching (`Link.Live`).

- `Aside`: the sign-in, with the token lifecycle under it, leaves the connection and the
  server's count of logouts as they are (`authenticate_aside`).
- `ensureConnected_rested`, `withRetry_rested`: a call leaves the connection at rest, and live
  when it succeeded; `discard_idle` and `logout_idle`: dropping the client or logging out leaves
  it idle, and only the logout sends a logout, one exactly when there was a client.
- `LinkCall.trace_rests`: after every call of a sequence the connection is at rest.
- `Sync.run_logs_out`: a sync cycle, whatever its consumer does short of touching the
  connection, keeps it at rest and sends no logout before its own.
-/

namespace MailIngest

namespace Imap.Server

def KeepsLogouts {α : Type} (x : ServerM α) : Prop := ∀ n, Keeps (fun s : Server => s.logouts = n) x

theorem hiccup_keepsLogouts : KeepsLogouts hiccup := by
  intro n s hs
  unfold hiccup
  simp only [run_bind, run_get]
  split
  · simp only [run_bind, run_set, run_throw]; exact hs
  · exact hs

theorem connect_keepsLogouts (record : Json) : KeepsLogouts (connect record) :=
  fun _ => Keeps.modify fun _ hs => hs

theorem login_keepsLogouts (kind user secret : String) : KeepsLogouts (login kind user secret) := by
  intro n s hs
  unfold login
  simp only [run_bind, run_get, run_set]
  split
  · simp only [run_bind, run_modify, run_throw]; exact hs
  · exact hs

theorem listFolders_keepsLogouts : KeepsLogouts listFolders :=
  fun n => Keeps.bind (hiccup_keepsLogouts n) fun _ => Keeps.bind Keeps.get fun _ => Keeps.pure _

theorem select_keepsLogouts (path : String) : KeepsLogouts (select path) := by
  intro n
  refine Keeps.bind (hiccup_keepsLogouts n) fun _ => Keeps.bind Keeps.get fun s => ?_
  split
  · exact Keeps.bind (Keeps.throw _) fun _ => Keeps.pure _
  · exact Keeps.pure _

theorem noteFetch_keepsLogouts (opened criteria : String) : KeepsLogouts (noteFetch opened criteria) :=
  fun _ => Keeps.modify fun _ hs => hs

theorem fetchHighest_keepsLogouts (opened : String) : KeepsLogouts (fetchHighest opened) :=
  fun n => Keeps.bind (hiccup_keepsLogouts n) fun _ => Keeps.bind (noteFetch_keepsLogouts _ _ n) fun _ =>
    Keeps.bind Keeps.get fun _ => Keeps.pure _

theorem fetchRange_keepsLogouts (opened : String) (lo hi : Nat) : KeepsLogouts (fetchRange opened lo hi) :=
  fun n => Keeps.bind (hiccup_keepsLogouts n) fun _ => Keeps.bind (noteFetch_keepsLogouts _ _ n) fun _ =>
    Keeps.bind Keeps.get fun _ => Keeps.pure _

theorem noop_keepsLogouts : KeepsLogouts noop := hiccup_keepsLogouts

theorem shutdown_keepsLogouts : KeepsLogouts shutdown := by
  intro n s hs
  unfold shutdown
  simp only [run_bind, run_get, run_set]
  split
  · simp only [run_bind, run_modify, run_throw]; exact hs
  · exact hs

/-- A logout is counted, whether the server accepts it or not. -/
theorem logout_logouts (s : Server) : (logout.run.run s).2.logouts = s.logouts + 1 := by
  unfold logout
  simp only [run_bind, run_get, run_set]
  split
  · simp only [run_bind, run_modify, run_throw]
  · rfl

end Imap.Server

namespace Service

/-! ## Connections at rest -/

namespace Link

def Idle (l : Link) : Prop := l.client = none ∧ l.state = .disconnected

def Live (l : Link) : Prop := l.client.isSome ∧ (l.state = .connected ∨ l.state = .fetching)

/-- How a connection is whenever a call on it has returned or failed. -/
def AtRest (l : Link) : Prop := l.Idle ∨ l.Live

end Link

/-- The world's connection, if it has one, is as `p` says and its client factory makes every
client asked for, and `n` logouts have been sent. -/
def LinkIs (p : Link → Prop) (n : Nat) (w : World) : Prop :=
  (∀ l ∈ w.link, p l ∧ l.refusal = none) ∧ w.server.logouts = n

def World.hasClient (w : World) : Bool := (w.link.bind Link.client).isSome

/-- Where a call leaves the connection: at rest, and live if the call succeeded. -/
def Rested {ε α : Type} (n : Nat) (r : Except ε α) (w : World) : Prop :=
  LinkIs Link.AtRest n w ∧ ∀ a, r = .ok a → LinkIs Link.Live n w

/-- Where an attempt, its failure caught as a value, leaves the connection: at rest, and live if
it succeeded. -/
def Tried {α : Type} (n : Nat) (r : Except Fault (Except Fault α)) (w : World) : Prop :=
  LinkIs Link.AtRest n w ∧ ∀ a, r = .ok (.ok a) → LinkIs Link.Live n w

section Shapes

variable {p q : Link → Prop} {n : Nat} {w : World}

theorem LinkIs.mono (hpq : ∀ l, p l → q l) (h : LinkIs p n w) : LinkIs q n w :=
  ⟨fun l hl => ⟨hpq l (h.1 l hl).1, (h.1 l hl).2⟩, h.2⟩

theorem LinkIs.of_none (h : w.link = none) (hn : w.server.logouts = n) : LinkIs p n w :=
  ⟨fun l hl => (by rw [h] at hl; cases hl), hn⟩

theorem LinkIs.atRest_of_idle (h : LinkIs Link.Idle n w) : LinkIs Link.AtRest n w := h.mono fun _ => Or.inl

theorem LinkIs.atRest_of_live (h : LinkIs Link.Live n w) : LinkIs Link.AtRest n w := h.mono fun _ => Or.inr

/-- A live connection is at rest, whatever the call returned. -/
theorem Rested.of_live {ε α : Type} {r : Except ε α} (h : LinkIs Link.Live n w) : Rested n r w :=
  ⟨h.atRest_of_live, fun _ _ => h⟩

/-- After a failed call, a connection at rest is all there is to ask. -/
theorem Rested.of_error {ε α : Type} {e : ε} (h : LinkIs Link.AtRest n w) : Rested n (.error e : Except ε α) w :=
  ⟨h, fun _ hr => by cases hr⟩

end Shapes

/-! ## Steps aside from the connection -/

/-- A step that leaves the connection and the count of logouts as they are. -/
def Aside {α : Type} (x : Act α) : Prop :=
  ∀ L n, Keeps (fun w : World => w.link = L ∧ w.server.logouts = n) x

section Aside

variable {α β : Type}

theorem Aside.keeps {x : Act α} {p : Link → Prop} {n : Nat} (hx : Aside x) : Keeps (LinkIs p n) x := by
  intro w hw
  obtain ⟨hl, hn⟩ := hx w.link n w ⟨rfl, hw.2⟩
  exact ⟨by rw [hl]; exact hw.1, hn⟩

theorem Aside.pure (a : α) : Aside (Pure.pure a : Act α) := fun _ _ => Keeps.pure a

theorem Aside.bind {x : Act α} {f : α → Act β} (hx : Aside x) (hf : ∀ a, Aside (f a)) : Aside (x >>= f) :=
  fun L n => Keeps.bind (hx L n) fun a => hf a L n

theorem Aside.tryCatch {x : Act α} {h : Fault → Act α} (hx : Aside x) (hh : ∀ f, Aside (h f)) :
    Aside (MonadExcept.tryCatch x h) :=
  fun L n => Keeps.tryCatch (hx L n) fun f => hh f L n

theorem fail_aside (f : Fault) : Aside (fail f : Act α) := fun _ _ => Keeps.throw f

theorem Aside.fail_bind (f : Fault) (g : α → Act β) : Aside (fail f >>= g) :=
  fun _ _ => Triple.throw_bind fun _ hs => hs

theorem get_aside : Aside (get : Act World) := fun _ _ => Keeps.get

theorem liftOutcome_aside (r : Outcome α) : Aside (liftM r : Act α) := fun _ _ => Keeps.liftExcept r

theorem onServer_aside {m : Imap.ServerM α} (hm : Imap.Server.KeepsLogouts m) : Aside (onServer m) :=
  fun _ n => Keeps.modifyGet fun w hw => ⟨hw.1, hm n w.server hw.2⟩

theorem clientStep_aside {m : Imap.ServerM α} (hm : Imap.Server.KeepsLogouts m) : Aside (clientStep m) := by
  refine Aside.bind (onServer_aside hm) fun r => ?_
  cases r with
  | ok a => exact Aside.pure a
  | error t => exact fail_aside _

theorem sealing_aside (m : Vault.SealM α) : Aside (sealing m) :=
  fun _ _ => Keeps.bind (Keeps.modifyGet fun _ hw => hw) fun _ => Keeps.ofExcept _

theorem onStore_aside (f : Store.Credentials → α × Store.Credentials) : Aside (onStore f) :=
  fun _ _ => Keeps.modifyGet fun _ hw => hw

theorem store_aside : Aside store := Aside.bind get_aside fun _ => Aside.pure _

theorem utcNow_aside : Aside utcNow := by
  refine Aside.bind get_aside fun w => ?_
  split <;> exact Aside.pure _

theorem link_aside : Aside link := by
  refine Aside.bind get_aside fun w => ?_
  split
  · exact Aside.pure _
  · exact fail_aside _

end Aside

/-! ## The sign-in and the token lifecycle under it -/

section Tokens

theorem load_aside (id : String) : Aside (load id) := by
  refine Aside.bind store_aside fun s => ?_
  split
  · exact Aside.pure _
  · exact fail_aside _

theorem sealRefresh_aside (r : Option String) : Aside (sealRefresh r) := by
  unfold sealRefresh
  split
  · split
    · exact Aside.pure _
    · exact Aside.bind (sealing_aside _) fun _ => Aside.pure _
  · exact Aside.pure _

theorem postForm_aside (url : String) (form : List (String × Json)) : Aside (postForm url form) := by
  intro L n
  unfold postForm
  dsimp only
  refine Triple.get_bind fun w hw => Triple.set_bind (Keeps.triple ?_ hw)
  split
  · exact Aside.bind (onStore_aside _) (fun _ => Aside.pure _) L n
  · exact Keeps.pure _

theorem needsRefresh_aside (c : Store.Credential) : Aside (needsRefresh c) := by
  unfold needsRefresh
  split
  · exact Aside.pure _
  · refine Aside.bind get_aside fun _ => Aside.bind (liftOutcome_aside _) fun _ => ?_
    exact Aside.bind utcNow_aside fun _ => Aside.bind (liftOutcome_aside _) fun _ => Aside.pure _

theorem askRenewal_aside (id : String) : Aside (askRenewal id) := by
  unfold askRenewal
  refine Aside.bind (load_aside id) fun c => ?_
  dsimp only
  split
  rotate_left
  · exact Aside.fail_bind _ _
  split
  · exact Aside.fail_bind _ _
  refine Aside.bind (Aside.pure _) fun stored => ?_
  refine Aside.bind (Aside.tryCatch (sealing_aside _) fun f => ?_) fun token => ?_
  · split <;> exact fail_aside _
  refine Aside.bind (Aside.bind get_aside fun _ => liftOutcome_aside _) fun _ => postForm_aside _ _

theorem storeRenewal_aside (id : String) (t : OAuth.Tokens) : Aside (storeRenewal id t) := by
  refine Aside.bind (sealing_aside _) fun _ => Aside.bind (sealRefresh_aside _) fun _ => ?_
  refine Aside.bind utcNow_aside fun _ => Aside.bind (liftOutcome_aside _) fun _ => ?_
  refine Aside.bind (Aside.bind get_aside fun _ => Aside.pure _) fun _ => Aside.bind (onStore_aside _) fun u => ?_
  split
  · exact Aside.pure _
  · exact fail_aside _

theorem refresh_aside (id : String) : Aside (refresh id) := by
  refine Aside.bind (askRenewal_aside id) fun reply => ?_
  unfold renewalReply
  split
  · exact fail_aside _
  · split
    · split
      dsimp only
      split <;> exact fail_aside _
    · split
      · exact fail_aside _
      · exact storeRenewal_aside id _

theorem resolveAccessToken_aside (id : String) (force : Bool) : Aside (resolveAccessToken id force) := by
  unfold resolveAccessToken
  refine Aside.bind (load_aside id) fun c => Aside.bind ?_ fun stale => ?_
  · split
    · exact Aside.pure _
    · exact needsRefresh_aside c
  · dsimp only
    split
    · exact Aside.bind (refresh_aside id) fun _ => sealing_aside _
    · exact Aside.bind (Aside.pure _) fun _ => sealing_aside _

theorem resolveAuth_aside (force : Bool) : Aside (resolveAuth force) := by
  refine Aside.bind link_aside fun l => ?_
  dsimp only
  split
  · split
    · exact Aside.pure _
    · exact Aside.bind (resolveAccessToken_aside _ _) fun _ => Aside.pure _
  · exact Aside.pure _

theorem canRefreshAfterRejection_aside : Aside canRefreshAfterRejection := by
  refine Aside.bind link_aside fun l => ?_
  split
  · split
    · exact Aside.pure _
    · refine Aside.bind store_aside fun s => ?_
      split <;> exact Aside.pure _
  · exact Aside.pure _

theorem login_aside (auth : Auth) : Aside (login auth) := by
  cases auth with
  | password u p =>
    refine Aside.bind (onServer_aside (Imap.Server.login_keepsLogouts _ _ _)) fun r => ?_
    split <;> exact Aside.pure _
  | bearer u t _ =>
    refine Aside.bind (onServer_aside (Imap.Server.login_keepsLogouts _ _ _)) fun r => ?_
    split <;> exact Aside.pure _

theorem loginRefused_aside : Aside loginRefused :=
  Aside.bind link_aside fun _ => Aside.pure _

theorem mayRetry_aside : ∀ a : Auth, Aside (mayRetry a)
  | .bearer .. => canRefreshAfterRejection_aside
  | .password .. => Aside.pure _

/-- Signing in, a forced refresh and a second sign-in included, leaves the connection alone. -/
theorem authenticate_aside : Aside authenticate := by
  unfold authenticate
  refine Aside.bind (resolveAuth_aside false) fun auth => Aside.bind (login_aside auth) fun ok => ?_
  split
  · exact Aside.pure _
  refine Aside.bind (mayRetry_aside auth) fun again => ?_
  extract_lets retry
  have hretry : ∀ u, Aside (retry u) := fun _ => by
    refine Aside.bind (resolveAuth_aside true) fun a => Aside.bind (login_aside a) fun b => ?_
    split
    · exact Aside.bind loginRefused_aside fun f => fail_aside f
    · exact Aside.pure _
  split
  · exact Aside.bind loginRefused_aside fun f => Aside.bind (fail_aside f) hretry
  · exact hretry ()

end Tokens

/-! ## The calls of a connection -/

section Calls

variable {α β : Type} {p q : Link → Prop} {n : Nat}

theorem link_some {w : World} {l : Link} (h : w.link = some l) : link.run.run w = (.ok l, w) := by
  simp only [link, run_bind, run_get, h, run_pure]

theorem link_none {w : World} (h : w.link = none) : link.run.run w = (.error (Fault.named "NoConnection"), w) := by
  simp only [link, run_bind, run_get, h, fail, run_throw]

/-- A step that begins by reading the connection fails at once without one. -/
theorem link_bind {f : Link → Act β} {P : World → Prop} {Q : Except Fault β → World → Prop}
    (hnone : ∀ w, P w → w.link = none → Q (.error (Fault.named "NoConnection")) w)
    (hsome : ∀ l, Triple (fun w => P w ∧ w.link = some l) (f l) Q) : Triple P (link >>= f) Q := by
  intro w hw
  rw [run_bind]
  cases hl : w.link with
  | none => rw [link_none hl]; exact hnone w hw hl
  | some l => rw [link_some hl]; exact hsome l w ⟨hw, hl⟩

theorem modifyLink_linkIs {g : Link → Link} (hg : ∀ l, p l → q (g l)) (hr : ∀ l, (g l).refusal = l.refusal) :
    Triple (LinkIs p n) (modifyLink g) fun _ => LinkIs q n := by
  intro w hw
  refine ⟨fun l hl => ?_, hw.2⟩
  have hl' : w.link.map g = some l := hl
  obtain ⟨l₀, h₀, rfl⟩ := Option.map_eq_some_iff.mp hl'
  exact ⟨hg l₀ (hw.1 l₀ h₀).1, (hr l₀).trans (hw.1 l₀ h₀).2⟩

/-- A change of the connection, followed by the rest of a step. -/
theorem modifyLink_bind {g : Link → Link} {k : PUnit → Act β} {Q : Except Fault β → World → Prop}
    (hg : ∀ l, p l → q (g l)) (hr : ∀ l, (g l).refusal = l.refusal) (hk : Triple (LinkIs q n) (k ⟨⟩) Q) :
    Triple (LinkIs p n) (modifyLink g >>= k) Q := by
  intro w hw
  rw [run_bind]
  exact hk _ (modifyLink_linkIs hg hr w hw)

/-- A client step whose trouble is returned, followed by the rest of a step. -/
theorem onServer_bind {γ : Type} {m : Imap.ServerM γ} {k : Except Imap.Trouble γ → Act β}
    {Q : Except Fault β → World → Prop} (hm : Imap.Server.KeepsLogouts m) (hk : ∀ r, Triple (LinkIs p n) (k r) Q) :
    Triple (LinkIs p n) (onServer m >>= k) Q := by
  intro w hw
  rw [run_bind]
  exact hk _ _ ((onServer_aside hm).keeps w hw)

/-- Dropping the client leaves the connection idle, whatever it was, and sends no logout. -/
theorem discard_idle : Triple (LinkIs p n) discard fun _ => LinkIs Link.Idle n := by
  unfold discard
  refine link_bind (fun w hw hl => LinkIs.of_none hl hw.2) fun l => ?_
  refine Triple.conseq ?_ (fun w hw => hw.1) fun _ _ h => h
  refine modifyLink_bind (q := Link.Idle) (fun _ _ => ⟨rfl, rfl⟩) (fun _ => rfl) ?_
  split
  · exact Keeps.bind (onServer_aside Imap.Server.shutdown_keepsLogouts).keeps fun _ => Keeps.pure _
  · exact Keeps.pure _

/-- Logging out of the connection `l`: no client, disconnected, and a logout sent if it had a
client. -/
theorem logout_run {w : World} {l : Link} (hl : w.link = some l) :
    (logout.run.run w).2 = { w with
      link := some { l with client := none, state := .disconnected }
      server := if l.client.isSome then (Imap.Server.logout.run.run w.server).2 else w.server } := by
  unfold logout
  simp only [run_bind, link_some hl, modifyLink, run_modify]
  split
  · rcases hout : Imap.Server.logout.run.run w.server with ⟨r, s⟩
    simp only [onServer, run_bind, run_modifyGet, hout, run_modify, hl, Option.map_some]
  · simp only [run_modify, hl, Option.map_some]

/-- Logging out leaves the connection idle, and sends one logout exactly when it had a client. -/
theorem logout_idle (w : World) (hf : ∀ l ∈ w.link, l.refusal = none) :
    LinkIs Link.Idle (w.server.logouts + if w.hasClient then 1 else 0) (logout.run.run w).2 := by
  cases hl : w.link with
  | none =>
    have hrun : (logout.run.run w).2 = w := by
      unfold logout
      rw [run_bind, link_none hl]
    rw [hrun]
    exact LinkIs.of_none hl (by simp [World.hasClient, hl])
  | some l =>
    rw [logout_run hl]
    refine ⟨fun l' hl' => ?_, ?_⟩
    · cases hl'
      exact ⟨⟨rfl, rfl⟩, hf l hl⟩
    · simp only [World.hasClient, hl, Option.bind_some]
      split <;> simp [Imap.Server.logout_logouts]

theorem backOff_idle (attempt : Nat) : Keeps (LinkIs Link.Idle n) (backOff attempt) := by
  unfold backOff
  refine Keeps.bind link_aside.keeps fun l => Keeps.bind (liftOutcome_aside _).keeps fun dj => ?_
  obtain ⟨d, j⟩ := dj
  exact modifyLink_bind (q := fun l => l.client = none) (fun _ h => h.1) (fun _ => rfl)
    (modifyLink_linkIs (fun _ h => ⟨h, rfl⟩) fun _ => rfl)

/-- Opening a client and signing in leaves a live connection, or an idle one when the sign-in
failed. -/
theorem establish_rested : Triple (LinkIs p n) establish (Rested n) := by
  unfold establish
  refine modifyLink_bind (q := fun _ => True) (fun _ _ => trivial) (fun _ => rfl) ?_
  refine link_bind (fun w hw hl => Rested.of_error (LinkIs.of_none hl hw.2)) fun l => ?_
  split
  · -- the factory of a connection under the invariant makes every client
    rename_i name hname
    intro w hw
    have hnone := (hw.1.1 l hw.2).2
    rw [hname] at hnone
    cases hnone
  refine Triple.conseq ?_ (fun w hw => hw.1) fun _ _ h => h
  refine onServer_bind (Imap.Server.connect_keepsLogouts _) fun _ => ?_
  refine modifyLink_bind (q := fun l => l.client.isSome) (fun _ _ => rfl) (fun _ => rfl) ?_
  refine Triple.bind (R := fun r w => (r = .ok () → LinkIs (fun l => l.client.isSome) n w) ∧
      ∀ e, r = .error e → LinkIs Link.Idle n w) ?_ (fun _ => ?_)
    fun e w h => Rested.of_error (h.2 e rfl).atRest_of_idle
  · refine Triple.tryCatch authenticate_aside.keeps (fun _ _ h => ⟨fun _ => h, fun _ hr => by cases hr⟩) fun f => ?_
    exact Triple.bind discard_idle (fun _ => Triple.throw fun w hw => ⟨fun hr => (by cases hr), fun _ _ => hw⟩)
      fun _ _ h => ⟨fun hr => (by cases hr), fun _ _ => h⟩
  · refine Triple.conseq (modifyLink_linkIs (q := Link.Live) (fun l hl => ⟨hl, Or.inl rfl⟩) fun _ => rfl)
      (fun w hw => hw.1 rfl) fun _ _ h => Rested.of_live h

/-- Making sure of a client leaves the connection live, or at rest when it fails. -/
theorem ensureConnected_rested : Triple (LinkIs Link.AtRest n) ensureConnected (Rested n) := by
  unfold ensureConnected
  refine link_bind (fun w hw _ => Rested.of_error hw) fun l => ?_
  split
  · rename_i hlive
    refine Triple.pure fun w hw => Rested.of_live ⟨fun l' hl' => ?_, hw.1.2⟩
    rw [hw.2] at hl'
    cases hl'
    simp only [Bool.and_eq_true, Bool.or_eq_true, decide_eq_true_eq] at hlive
    exact ⟨hlive, (hw.1.1 l hw.2).2⟩
  · exact Triple.conseq establish_rested (fun w hw => hw.1) fun _ _ h => h

/-- A client factory that raises breaks the rest: making sure of a client on an idle connection
fails with what the factory raised and leaves the connection connecting, without a client. -/
theorem ensureConnected_refused {w : World} {l : Link} {name : String} (hl : w.link = some l) (hidle : l.Idle)
    (hr : l.refusal = some name) :
    ensureConnected.run.run w = (.error (Fault.named name), { w with link := some { l with state := .connecting } }) := by
  unfold ensureConnected establish
  simp only [run_bind, link_some hl, hidle.1, Option.isSome_none, Bool.false_and, Bool.false_eq_true, if_false,
    modifyLink, run_modify, hl, Option.map_some]
  rw [link_some rfl]
  simp only [hr]
  rfl

theorem opened_aside : Aside opened := by
  refine Aside.bind link_aside fun l => ?_
  split <;> exact Aside.pure _

theorem openMailbox_live (path : String) : Keeps (LinkIs Link.Live n) (openMailbox path) := by
  refine Keeps.bind (clientStep_aside (Imap.Server.select_keepsLogouts path)).keeps fun _ => ?_
  exact modifyLink_bind (fun _ h => ⟨rfl, h.2⟩) (fun _ => rfl) (Keeps.pure _)

section Retry

variable {op : Act α} (hop : Keeps (LinkIs Link.Live n) op)
include hop

/-- One attempt, its failure caught: the connection at rest, and live if the operation
succeeded. -/
theorem attempt_rested : Triple (LinkIs Link.AtRest n)
    (MonadExcept.tryCatch (Except.ok <$> (do ensureConnected; op)) fun f => Pure.pure (.error f)) (Tried n) := by
  have hrun : Triple (LinkIs Link.AtRest n) (do ensureConnected; op) (Rested n) :=
    Triple.bind ensureConnected_rested (fun _ => Triple.conseq hop (fun _ h => h.2 _ rfl) fun _ _ h => Rested.of_live h)
      fun _ _ h => Rested.of_error h.1
  refine Triple.tryCatch (R := Tried n)
    (Triple.map (Triple.conseq hrun (fun _ h => h) fun r _ h => ⟨h.1, fun a ha => ?_⟩))
    (fun _ _ h => h) fun _ => Triple.pure fun _ h => ⟨h.1, fun _ ha => (by cases ha)⟩
  cases r with
  | ok b => exact h.2 b rfl
  | error _ => cases ha

/-- Each attempt of an operation that keeps a live client live: the connection at rest, live
when an attempt succeeded, idle between attempts. -/
theorem attempts_rested (context : String) (max : Nat) :
    ∀ fuel attempt, Triple (LinkIs Link.AtRest n) (attempts op context max fuel attempt) (Rested n)
  | 0, _ => Triple.throw fun _ hw => Rested.of_error hw
  | fuel + 1, attempt => by
    unfold attempts
    refine Triple.bind (attempt_rested hop) (fun r => ?_) fun _ _ h => Rested.of_error h.1
    have hidle : ∀ {γ : Type} (k : PUnit → Act γ), Triple (LinkIs Link.Idle n) (k ⟨⟩) (Rested n) →
        Triple (LinkIs Link.AtRest n) (discard >>= k) (Rested n) := fun _ hk =>
      Triple.bind discard_idle (fun _ => hk) fun _ _ h => Rested.of_error h.atRest_of_idle
    split
    · exact Triple.pure fun _ h => Rested.of_live (h.2 _ rfl)
    · refine Triple.conseq ?_ (fun _ h => h.1) fun _ _ h => h
      split
      · refine hidle _ ?_
        exact Triple.throw fun _ h => Rested.of_error h.atRest_of_idle
      · split
        · refine hidle _ ?_
          extract_lets next
          have hnext : ∀ u, Triple (LinkIs Link.Idle n) (next u) (Rested n) := fun _ =>
            Triple.bind (backOff_idle attempt)
              (fun _ => Triple.conseq (attempts_rested context max fuel (attempt + 1))
                (fun _ h => h.atRest_of_idle) fun _ _ h => h)
              fun _ _ h => Rested.of_error h.atRest_of_idle
          split
          · exact Triple.throw_bind fun _ h => Rested.of_error h.atRest_of_idle
          · exact hnext ()
        · exact Triple.throw fun _ h => Rested.of_error h

/-- An operation under retries that keeps a live client live leaves the connection at rest, and
live when it succeeded. -/
theorem withRetry_rested (context : String) : Triple (LinkIs Link.AtRest n) (withRetry op context) (Rested n) := by
  unfold withRetry
  refine link_bind (fun w hw _ => Rested.of_error hw) fun l => ?_
  refine Triple.conseq ?_ (fun w hw => hw.1) fun _ _ h => h
  extract_lets max go
  split
  · exact Triple.throw_bind fun _ h => Rested.of_error h
  · exact attempts_rested hop _ _ _ _

end Retry

end Calls

/-! ## Sequences of calls -/

/-- The connection of the world, if there is one, is at rest. -/
def Rests (w : World) : Prop := ∀ l ∈ w.link, l.AtRest

/-- The client factory of the world's connection, if there is one, makes every client asked for. -/
def MakesClients (w : World) : Prop := ∀ l ∈ w.link, l.refusal = none

theorem LinkIs.rests {n : Nat} {w : World} (h : LinkIs Link.AtRest n w) : Rests w ∧ MakesClients w :=
  ⟨fun l hl => (h.1 l hl).1, fun l hl => (h.1 l hl).2⟩

theorem LinkIs.of_rests {w : World} (hw : Rests w) (hf : MakesClients w) : LinkIs Link.AtRest w.server.logouts w :=
  ⟨fun l hl => ⟨hw l hl, hf l hl⟩, rfl⟩

/-- A call on a connection. -/
inductive LinkCall : Type 1 where
  | ensure
  | retry {α : Type} (op : Act α) (context : String)
  | discard
  | logout

namespace LinkCall

def serve : LinkCall → Act Unit
  | ensure => ensureConnected
  | retry op context => do
    let _ ← withRetry op context
    pure ()
  | discard => Service.discard
  | logout => Service.logout

/-- An operation run under retries sees only its client: it keeps a live client live and
sends no logout. -/
def Fair : LinkCall → Prop
  | retry op _ => ∀ n, Keeps (LinkIs Link.Live n) op
  | _ => True

/-- The worlds each call of a sequence leaves, every call made on the world the one before
left, whether it returned or failed. -/
def trace : World → List LinkCall → List World
  | _, [] => []
  | w, call :: rest => (call.serve.run.run w).2 :: trace (call.serve.run.run w).2 rest

theorem serve_rests (call : LinkCall) (hcall : call.Fair) (w : World) (hw : Rests w) (hf : MakesClients w) :
    Rests (call.serve.run.run w).2 ∧ MakesClients (call.serve.run.run w).2 := by
  have hrest := LinkIs.of_rests hw hf
  cases call with
  | ensure => exact (ensureConnected_rested w hrest).1.rests
  | retry op context =>
    have hretry : Triple (LinkIs Link.AtRest w.server.logouts) (retry op context).serve (Rested w.server.logouts) :=
      Triple.bind (withRetry_rested (hcall _) context) (fun a => Triple.pure fun _ h => ⟨h.1, fun _ _ => h.2 a rfl⟩)
        fun _ _ h => Rested.of_error h.1
    exact (hretry w hrest).1.rests
  | discard => exact (discard_idle w hrest).atRest_of_idle.rests
  | logout => exact (logout_idle w hf).atRest_of_idle.rests

/-- After every call of a sequence the connection is at rest, if it was before the first and
its client factory makes every client. -/
theorem trace_rests (calls : List LinkCall) (hcalls : ∀ call ∈ calls, call.Fair) (w : World) (hw : Rests w)
    (hf : MakesClients w) : ∀ v ∈ trace w calls, Rests v := by
  induction calls generalizing w with
  | nil => intro v hv; cases hv
  | cons call rest ih =>
    obtain ⟨hnext, hfnext⟩ := serve_rests call (hcalls call List.mem_cons_self) w hw hf
    intro v hv
    simp only [trace, List.mem_cons] at hv
    rcases hv with rfl | hv
    · exact hnext
    · exact ih (fun c hc => hcalls c (List.mem_cons_of_mem _ hc)) _ hnext hfnext v hv

end LinkCall

end Service

namespace Sync

open Service

/-- A consumer that never touches the connection: its reactions leave the connection and the
count of logouts as they are. -/
def Consumer.Aside (c : Consumer) : Prop := ∀ k, Service.Aside (c.react k)

/-- The connection of a cycle's world is as `p` says, `n` logouts sent. -/
def Linked (p : Link → Prop) (n : Nat) (s : World × Engine) : Prop := LinkIs p n s.1

/-! ## The operations of a cycle -/

section Operations

variable {n : Nat}

theorem listed_rests : Keeps (LinkIs Link.AtRest n) listed :=
  Triple.bind (withRetry_rested (clientStep_aside Imap.Server.listFolders_keepsLogouts).keeps _)
    (fun _ => Triple.pure fun _ h => h.1) fun _ _ h => h.1

theorem highestUid_live (path : String) : Keeps (LinkIs Link.Live n) (highestUid path) := by
  unfold highestUid
  refine Keeps.bind (openMailbox_live path) fun k => ?_
  split
  · exact Keeps.pure _
  · refine Keeps.bind opened_aside.keeps fun _ => ?_
    exact Keeps.bind (clientStep_aside (Imap.Server.fetchHighest_keepsLogouts _)).keeps fun _ => Keeps.pure _

theorem fetchBatch_live (path : String) (lo hi : Int) : Keeps (LinkIs Link.Live n) (fetchBatch path lo hi) := by
  refine Keeps.bind (openMailbox_live path) fun _ => Keeps.bind opened_aside.keeps fun _ => ?_
  exact Keeps.bind (clientStep_aside (Imap.Server.fetchRange_keepsLogouts _ _ _)).keeps fun _ => Keeps.pure _

end Operations

/-! ## A cycle -/

section Cycle

variable {p q : Link → Prop} {n : Nat} {c : Consumer}

theorem Linked.mono (hpq : ∀ l, p l → q l) {s : World × Engine} (h : Linked p n s) : Linked q n s :=
  LinkIs.mono hpq h

/-- A step of the service inside a cycle does to the world what it does alone, its failure
becoming the cycle's. -/
theorem act_spec {α : Type} {a : Act α} {P : World → Prop} {Q : Except Fault α → World → Prop}
    (ha : Triple P a Q) : Triple (fun s : World × Engine => P s.1) (act a) fun r s =>
      ∃ r', Q r' s.1 ∧ r = r'.mapError .fault := by
  intro s hs
  obtain ⟨w, e⟩ := s
  rcases h : a.run.run w with ⟨r, w'⟩
  have hw := ha w hs
  rw [h] at hw
  rw [run_act e h]
  exact ⟨r, hw, rfl⟩

theorem act_linked {α : Type} {a : Act α} (ha : Triple (LinkIs p n) a fun _ => LinkIs q n) :
    Triple (Linked p n) (act a) fun _ => Linked q n :=
  Triple.conseq (act_spec ha) (fun _ h => h) fun _ _ h => h.elim fun _ h' => h'.1

/-- A call inside a cycle: the connection at rest, and live if the call succeeded. -/
theorem act_rested {α : Type} {a : Act α} (ha : Triple (LinkIs Link.AtRest n) a (Rested n)) :
    Triple (Linked Link.AtRest n) (act a) fun r s => Rested n r s.1 := by
  refine Triple.conseq (act_spec ha) (fun _ h => h) fun r s h => ?_
  obtain ⟨r', hr', rfl⟩ := h
  cases r' with
  | ok a => exact Rested.of_live (hr'.2 a rfl)
  | error f => exact Rested.of_error hr'.1

/-- The logout that ends a cycle, from the world it finds. -/
theorem act_logout : Triple (Linked Link.AtRest n) (act logout) fun _ s =>
    ∃ v, LinkIs Link.AtRest n v ∧ s.1 = (logout.run.run v).2 := by
  intro s hs
  obtain ⟨v, e⟩ := s
  rcases h : logout.run.run v with ⟨r, v'⟩
  rw [run_act e h]
  exact ⟨v, hs, by rw [h]⟩

theorem engine_linked : Keeps (Linked p n) engine :=
  Keeps.bind Keeps.get fun _ => Keeps.pure _

theorem modifyEngine_linked {f : Engine → Engine} : Keeps (Linked p n) (modifyEngine f) :=
  Keeps.modify fun s h => by
    obtain ⟨w, e⟩ := s
    exact h

theorem readMessage_linked (raw : List UInt8) (path : String) (uid : Nat) :
    Keeps (Linked p n) (readMessage raw path uid) := by
  unfold readMessage
  refine Keeps.bind engine_linked fun e => ?_
  split
  exact Keeps.bind modifyEngine_linked fun _ => Keeps.pure _

section Consumer

variable (hc : c.Aside)
include hc

/-- Handing over a message; the consumer's reaction leaves the connection alone. -/
theorem handOver_linked (path : String) (m : Archive.Message) : Keeps (Linked p n) (handOver c path m) := by
  unfold handOver
  refine Keeps.bind modifyEngine_linked fun _ => Keeps.bind engine_linked fun _ => ?_
  refine Keeps.bind (Keeps.modifyGet fun s h => ?_) fun r => ?_
  · obtain ⟨w, e⟩ := s
    exact (hc _).keeps w h
  · cases r with
    | error f => exact Keeps.throw _
    | ok u =>
      cases u
      dsimp only
      have hstop : ∀ b : Bool, Keeps (Linked p n) (if b = true then throw Halt.stop else pure ()) :=
        fun _ => Keeps.ite (fun _ => Keeps.throw _) fun _ => Keeps.pure _
      exact Keeps.ite (fun _ => Keeps.bind (Keeps.throw _) fun _ => hstop _) fun _ => hstop _

theorem batchMessages_linked (path : String) (last : Int) :
    ∀ ms, Keeps (Linked p n) (batchMessages c path last ms)
  | [] => Keeps.pure ()
  | m :: rest => by
    unfold batchMessages
    refine Keeps.ite (fun _ => batchMessages_linked path last rest) fun _ => ?_
    cases sourceOf m with
    | none => exact batchMessages_linked path last rest
    | some raw =>
      refine Keeps.bind (readMessage_linked raw path m.uid) fun r => ?_
      cases r with
      | error f =>
        exact Keeps.bind engine_linked fun _ =>
          Keeps.ite (fun _ => Keeps.throw _) fun _ => batchMessages_linked path last rest
      | ok msg => exact Keeps.bind (handOver_linked hc path msg) fun _ => batchMessages_linked path last rest

/-- The batches of a mailbox: each fetched under retries, its messages handed over while the
client is live and marked fetching. -/
theorem batches_rests (path : String) (last top : Int) :
    ∀ fuel start, Keeps (Linked Link.AtRest n) (batches c path last top fuel start)
  | 0, _ => by
    unfold batches
    exact Keeps.ite (fun _ => Keeps.pure ()) fun _ => Keeps.throw _
  | fuel + 1, start => by
    unfold batches
    refine Keeps.ite (fun _ => Keeps.pure ()) fun _ => Keeps.bind engine_linked fun _ => ?_
    refine Triple.bind (act_rested (withRetry_rested (fetchBatch_live _ _ _) _)) (fun ms => ?_) fun _ _ h => h.1
    refine Triple.conseq (P := Linked Link.Live n) ?_ (fun _ h => h.2 ms rfl) fun _ _ h => h
    have hlive : ∀ s, Linked Link.Live n s → Linked Link.AtRest n s := fun _ h => LinkIs.atRest_of_live h
    refine Triple.bind (act_linked (modifyLink_linkIs (fun _ h => ⟨h.1, Or.inr rfl⟩) fun _ => rfl)) (fun _ => ?_)
      fun _ => hlive
    refine Triple.bind (batchMessages_linked hc path last ms) (fun _ => ?_) fun _ => hlive
    refine Triple.bind (act_linked (modifyLink_linkIs (fun _ h => ⟨h.1, Or.inl rfl⟩) fun _ => rfl)) (fun _ => ?_)
      fun _ => hlive
    exact Triple.conseq (batches_rests path last top fuel _) hlive fun _ _ h => h

theorem syncMailbox_rests (path : String) (last : Int) : Keeps (Linked Link.AtRest n) (syncMailbox c path last) := by
  unfold syncMailbox
  refine Keeps.bind modifyEngine_linked fun _ => ?_
  refine Triple.bind (act_rested (withRetry_rested (highestUid_live path) _)) (fun top => ?_) fun _ _ h => h.1
  refine Triple.conseq ?_ (fun _ h => h.1) fun _ _ h => h
  exact Keeps.ite (fun _ => Keeps.pure ()) fun _ => batches_rests hc _ _ _ _ _

theorem mailbox_rests (position : Position) (path : String) :
    Keeps (Linked Link.AtRest n) (mailbox c position path) := by
  unfold mailbox
  refine Keeps.tryCatch (Keeps.bind (syncMailbox_rests hc path _) fun _ => Keeps.pure true) fun h => ?_
  cases h with
  | fault f =>
    have hnote : ∀ note (b : Bool), Keeps (Linked Link.AtRest n) (noteFailure path f note >>= fun _ => pure b) :=
      fun _ b => Keeps.bind modifyEngine_linked fun _ => Keeps.pure b
    refine Keeps.ite (fun _ => hnote _ true) fun _ => Keeps.ite (fun _ => hnote _ true) fun _ =>
      Keeps.ite (fun _ => hnote _ false) fun _ => Keeps.ite (fun _ => ?_) fun _ => Keeps.throw _
    exact Keeps.bind modifyEngine_linked fun _ => Keeps.pure true
  | consumer f => exact Keeps.throw _
  | stop => exact Keeps.throw _

theorem mailboxes_rests (position : Position) : ∀ ms, Keeps (Linked Link.AtRest n) (mailboxes c position ms)
  | [] => Keeps.pure ()
  | m :: rest => by
    unfold mailboxes
    exact Keeps.bind (mailbox_rests hc position m.path) fun _ =>
      Keeps.ite (fun _ => mailboxes_rests position rest) fun _ => Keeps.pure ()

theorem messages_rests (position : Position) : Keeps (Linked Link.AtRest n) (messages c position) := by
  unfold messages
  refine Keeps.bind modifyEngine_linked fun _ => ?_
  refine Keeps.bind (Keeps.tryCatch (Keeps.map _ (act_linked listed_rests)) fun h => ?_) fun listing => ?_
  · cases h with
    | fault f =>
      exact Keeps.ite (fun _ => Keeps.bind modifyEngine_linked fun _ => Keeps.pure _) fun _ => Keeps.throw _
    | consumer f => exact Keeps.throw _
    | stop => exact Keeps.throw _
  · cases listing with
    | none => exact Keeps.pure ()
    | some es => exact Keeps.bind engine_linked fun _ => mailboxes_rests hc position _

/-- A whole cycle: however it ends, its logout finds the connection at rest with no logout sent
during the cycle. -/
theorem run_logs_out (position : Option Position) :
    Triple (Linked Link.AtRest n) (run c position) fun _ s =>
      ∃ v, LinkIs Link.AtRest n v ∧ s.1 = (logout.run.run v).2 := by
  unfold run
  -- every way the cycle stops is caught, so the logout always comes
  refine Triple.bind (R := fun r s => (∃ a, r = .ok a) ∧ Linked Link.AtRest n s)
    (Triple.tryCatch (R := fun _ => Linked Link.AtRest n) ?_ (fun a _ h => ⟨⟨a, rfl⟩, h⟩) fun h => ?_)
    (fun _ => ?_) fun _ _ h => ?_
  · refine Keeps.bind (Keeps.modifyGet fun s h => ?_) fun r => ?_
    · obtain ⟨w, e⟩ := s
      exact (hc 0).keeps w h
    · cases r with
      | error f => exact Keeps.bind (Keeps.throw _) fun _ => Keeps.pure none
      | ok u =>
        cases u
        exact Keeps.bind (messages_rests hc _) fun _ => Keeps.pure none
  · cases h with
    | stop => exact Triple.pure fun _ h => ⟨⟨_, rfl⟩, h⟩
    | fault f => exact Triple.pure fun _ h => ⟨⟨_, rfl⟩, h⟩
    | consumer f => exact Triple.pure fun _ h => ⟨⟨_, rfl⟩, h⟩
  · exact Triple.bind (Triple.conseq act_logout (fun _ h => h.2) fun _ _ h => h) (fun _ => Triple.pure fun _ h => h)
      fun _ _ h => h
  · obtain ⟨⟨a, ha⟩, -⟩ := h
    cases ha

end Consumer

end Cycle

end Sync

end MailIngest
