import MailIngest.Proofs.Steps
import MailIngest.Service.Connection

/-!
# The mail a connection leaves alone

A connection reads the server's mail, its listing of mailboxes and the messages stored in each,
but never changes it: it only uses up scheduled trouble, counts clients, logins, logouts and
fetches, and changes the connection, the credential store, the vault and the token endpoint.

- `Imap.Server.KeepsMail`: a client step leaves the server's mail as it is; every client
  operation does (`select_keepsMail`, `fetchRange_keepsMail` and so on).
- `Service.KeepsMail`: a service step leaves the mail of the world's server as it is, and the
  world with or without a connection; every step a connection takes does, up to
  `withRetry_keepsMail` for an operation that does.
- `withRetry_yields`: what an operation returns under retries is what one attempt of it
  returns, since every attempt sees the same mail.
-/

namespace MailIngest

/-- The mail of a server: its listing of mailboxes and the stored messages of each. -/
structure Imap.Mail where
  listing : List Imap.Listing
  boxes : List (String × List Imap.Stored)

def Imap.Server.mail (s : Imap.Server) : Imap.Mail := ⟨s.listing, s.boxes⟩

namespace Imap.Server

def KeepsMail {α : Type} (x : ServerM α) : Prop := ∀ M, Keeps (fun s : Server => s.mail = M) x

theorem hiccup_keepsMail : KeepsMail hiccup := by
  intro M s hs
  unfold hiccup
  simp only [run_bind, run_get]
  split
  · simp only [run_bind, run_set, run_throw]; exact hs
  · exact hs

theorem connect_keepsMail (record : Json) : KeepsMail (connect record) :=
  fun _ => Keeps.modify fun _ hs => hs

theorem login_keepsMail (kind user secret : String) : KeepsMail (login kind user secret) := by
  intro M s hs
  unfold login
  simp only [run_bind, run_get, run_set]
  split
  · simp only [run_bind, run_modify, run_throw]; exact hs
  · exact hs

theorem select_keepsMail (path : String) : KeepsMail (select path) := by
  intro M
  refine Keeps.bind (hiccup_keepsMail M) fun _ => Keeps.bind Keeps.get fun s => ?_
  split
  · exact Keeps.bind (Keeps.throw _) fun _ => Keeps.pure _
  · exact Keeps.pure _

theorem noteFetch_keepsMail (opened criteria : String) : KeepsMail (noteFetch opened criteria) :=
  fun _ => Keeps.modify fun _ hs => hs

theorem fetchRange_keepsMail (opened : String) (lo hi : Nat) : KeepsMail (fetchRange opened lo hi) :=
  fun M => Keeps.bind (hiccup_keepsMail M) fun _ => Keeps.bind (noteFetch_keepsMail _ _ M) fun _ =>
    Keeps.bind Keeps.get fun _ => Keeps.pure _

theorem logout_keepsMail : KeepsMail logout := by
  intro M s hs
  unfold logout
  simp only [run_bind, run_get, run_set]
  split
  · simp only [run_bind, run_modify, run_throw]; exact hs
  · exact hs

theorem shutdown_keepsMail : KeepsMail shutdown := by
  intro M s hs
  unfold shutdown
  simp only [run_bind, run_get, run_set]
  split
  · simp only [run_bind, run_modify, run_throw]; exact hs
  · exact hs

end Imap.Server

namespace Service

/-- The world's server holds the mail `M`, and the world has a connection exactly when `b`. -/
abbrev Framed (M : Imap.Mail) (b : Bool) (w : World) : Prop := w.server.mail = M ∧ w.link.isSome = b

/-- A service step leaves the mail of the world's server as it is, and the world with a
connection or without one as it was. -/
def KeepsMail {α : Type} (x : Act α) : Prop := ∀ M b, Keeps (Framed M b) x

section Primitives

variable {α : Type}

theorem KeepsMail.pure (a : α) : KeepsMail (Pure.pure a : Act α) := fun _ _ => Keeps.pure a

theorem KeepsMail.bind {β : Type} {x : Act α} {f : α → Act β} (hx : KeepsMail x) (hf : ∀ a, KeepsMail (f a)) :
    KeepsMail (x >>= f) :=
  fun M b => Keeps.bind (hx M b) fun a => hf a M b

theorem KeepsMail.tryCatch {x : Act α} {h : Fault → Act α} (hx : KeepsMail x) (hh : ∀ f, KeepsMail (h f)) :
    KeepsMail (MonadExcept.tryCatch x h) :=
  fun M b => Keeps.tryCatch (hx M b) fun f => hh f M b

theorem fail_keepsMail (f : Fault) : KeepsMail (fail f : Act α) := fun _ _ => Keeps.throw f

theorem get_keepsMail : KeepsMail (get : Act World) := fun _ _ => Keeps.get

theorem KeepsMail.fail_bind {β : Type} (f : Fault) (g : α → Act β) : KeepsMail (fail f >>= g) :=
  fun M b => Triple.bind (R := fun r w => r = .error f ∧ Framed M b w) (Triple.throw fun _ hs => ⟨rfl, hs⟩)
    (fun _ _ h => nomatch h.1) fun _ _ h => h.2

theorem onServer_keepsMail {m : Imap.ServerM α} (hm : Imap.Server.KeepsMail m) : KeepsMail (onServer m) :=
  fun M _ => Keeps.modifyGet fun w hw => ⟨hm M w.server hw.1, hw.2⟩

theorem sealing_keepsMail (m : Vault.SealM α) : KeepsMail (sealing m) :=
  fun _ _ => Keeps.bind (Keeps.modifyGet fun _ hw => hw) fun _ => Keeps.ofExcept _

theorem onStore_keepsMail (f : Store.Credentials → α × Store.Credentials) : KeepsMail (onStore f) :=
  fun _ _ => Keeps.modifyGet fun _ hw => hw

theorem store_keepsMail : KeepsMail store := fun _ _ => Keeps.bind Keeps.get fun _ => Keeps.pure _

theorem utcNow_keepsMail : KeepsMail utcNow := by
  intro M b
  refine Keeps.bind Keeps.get fun w => ?_
  split <;> exact Keeps.pure _

theorem storeNow_keepsMail : KeepsMail storeNow := fun _ _ => Keeps.bind Keeps.get fun _ => Keeps.pure _

theorem link_keepsMail : KeepsMail link := by
  intro M b
  refine Keeps.bind Keeps.get fun w => ?_
  split
  · exact Keeps.pure _
  · exact Keeps.throw _

theorem modifyLink_keepsMail (f : Link → Link) : KeepsMail (modifyLink f) :=
  fun _ _ => Keeps.modify fun _ hw => ⟨hw.1, Option.isSome_map.trans hw.2⟩

end Primitives

/-! ## The token lifecycle -/

section Tokens

theorem liftOutcome_keepsMail {α : Type} (r : Outcome α) : KeepsMail (liftM r : Act α) :=
  fun _ _ => Keeps.liftExcept r

theorem load_keepsMail (id : String) : KeepsMail (load id) := by
  refine KeepsMail.bind store_keepsMail fun s => ?_
  split
  · exact KeepsMail.pure _
  · exact fail_keepsMail _

theorem openText_keepsMail (token : String) : KeepsMail (openText token) := sealing_keepsMail _

theorem sealText_keepsMail (s : String) : KeepsMail (sealText s) := sealing_keepsMail _

theorem sealRefresh_keepsMail (r : Option String) : KeepsMail (sealRefresh r) := by
  unfold sealRefresh
  split
  · split
    · exact KeepsMail.pure _
    · exact KeepsMail.bind (sealText_keepsMail _) fun _ => KeepsMail.pure _
  · exact KeepsMail.pure _

theorem providerConfig_keepsMail (provider : Json) : KeepsMail (providerConfig provider) :=
  fun M b => Keeps.bind Keeps.get fun _ => liftOutcome_keepsMail _ M b

/-- Posting to the token endpoint changes the endpoint, and the store when the credential vanishes. -/
theorem postForm_keepsMail (url : String) (form : List (String × Json)) : KeepsMail (postForm url form) := by
  intro M b
  unfold postForm
  dsimp only
  refine Triple.get_bind fun w hw => Triple.set_bind (Keeps.triple ?_ hw)
  split
  · exact KeepsMail.bind (onStore_keepsMail _) (fun _ => KeepsMail.pure _) M b
  · exact Keeps.pure _

theorem needsRefresh_keepsMail (c : Store.Credential) : KeepsMail (needsRefresh c) := by
  unfold needsRefresh
  split
  · exact KeepsMail.pure _
  · refine KeepsMail.bind get_keepsMail fun _ => KeepsMail.bind (liftOutcome_keepsMail _) fun _ => ?_
    refine KeepsMail.bind utcNow_keepsMail fun _ => ?_
    exact KeepsMail.bind (liftOutcome_keepsMail _) fun _ => KeepsMail.pure _

theorem askRenewal_keepsMail (id : String) : KeepsMail (askRenewal id) := by
  unfold askRenewal
  refine KeepsMail.bind (load_keepsMail id) fun c => ?_
  dsimp only
  split
  rotate_left
  · exact KeepsMail.fail_bind _ _
  split
  · exact KeepsMail.fail_bind _ _
  refine KeepsMail.bind (KeepsMail.pure _) fun stored => ?_
  refine KeepsMail.bind (KeepsMail.tryCatch (openText_keepsMail _) fun f => ?_) fun token => ?_
  · split <;> exact fail_keepsMail _
  exact KeepsMail.bind (providerConfig_keepsMail _) fun config => postForm_keepsMail _ _

theorem storeRenewal_keepsMail (id : String) (t : OAuth.Tokens) : KeepsMail (storeRenewal id t) := by
  refine KeepsMail.bind (sealText_keepsMail _) fun _ => KeepsMail.bind (sealRefresh_keepsMail _) fun _ => ?_
  refine KeepsMail.bind utcNow_keepsMail fun _ => KeepsMail.bind (liftOutcome_keepsMail _) fun _ => ?_
  refine KeepsMail.bind storeNow_keepsMail fun _ => KeepsMail.bind (onStore_keepsMail _) fun u => ?_
  split
  · exact KeepsMail.pure _
  · exact fail_keepsMail _

/-- A refresh changes the store, the vault and the endpoint, never the server. -/
theorem refresh_keepsMail (id : String) : KeepsMail (refresh id) := by
  refine KeepsMail.bind (askRenewal_keepsMail id) fun reply => ?_
  unfold renewalReply
  split
  · exact fail_keepsMail _
  · split
    · split
      dsimp only
      split <;> exact fail_keepsMail _
    · split
      · exact fail_keepsMail _
      · exact storeRenewal_keepsMail id _

theorem resolveAccessToken_keepsMail (id : String) (force : Bool) : KeepsMail (resolveAccessToken id force) := by
  unfold resolveAccessToken
  refine KeepsMail.bind (load_keepsMail id) fun c => KeepsMail.bind ?_ fun stale => ?_
  · split
    · exact KeepsMail.pure _
    · exact needsRefresh_keepsMail c
  · dsimp only
    split
    · exact KeepsMail.bind (refresh_keepsMail id) fun _ => openText_keepsMail _
    · exact KeepsMail.bind (KeepsMail.pure _) fun _ => openText_keepsMail _

end Tokens

/-! ## The connection -/

section Connection

theorem resolveAuth_keepsMail (force : Bool) : KeepsMail (resolveAuth force) := by
  refine KeepsMail.bind link_keepsMail fun l => ?_
  dsimp only
  split
  · split
    · exact KeepsMail.pure _
    · exact KeepsMail.bind (resolveAccessToken_keepsMail _ _) fun _ => KeepsMail.pure _
  · exact KeepsMail.pure _

theorem canRefreshAfterRejection_keepsMail : KeepsMail canRefreshAfterRejection := by
  refine KeepsMail.bind link_keepsMail fun l => ?_
  split
  · split
    · exact KeepsMail.pure _
    · refine KeepsMail.bind store_keepsMail fun s => ?_
      split <;> exact KeepsMail.pure _
  · exact KeepsMail.pure _

theorem login_keepsMail (auth : Auth) : KeepsMail (login auth) := by
  cases auth with
  | password u p =>
    refine KeepsMail.bind (onServer_keepsMail (Imap.Server.login_keepsMail _ _ _)) fun r => ?_
    split <;> exact KeepsMail.pure _
  | bearer u t _ =>
    refine KeepsMail.bind (onServer_keepsMail (Imap.Server.login_keepsMail _ _ _)) fun r => ?_
    split <;> exact KeepsMail.pure _

theorem loginRefused_keepsMail : KeepsMail loginRefused :=
  KeepsMail.bind link_keepsMail fun _ => KeepsMail.pure _

theorem mayRetry_keepsMail : ∀ a : Auth, KeepsMail (mayRetry a)
  | .bearer .. => canRefreshAfterRejection_keepsMail
  | .password .. => KeepsMail.pure _

theorem authenticate_keepsMail : KeepsMail authenticate := by
  unfold authenticate
  refine KeepsMail.bind (resolveAuth_keepsMail false) fun auth => KeepsMail.bind (login_keepsMail auth) fun ok => ?_
  split
  · exact KeepsMail.pure _
  refine KeepsMail.bind (mayRetry_keepsMail auth) fun again => ?_
  extract_lets retry
  have hretry : ∀ u, KeepsMail (retry u) := fun _ => by
    refine KeepsMail.bind (resolveAuth_keepsMail true) fun a => KeepsMail.bind (login_keepsMail a) fun b => ?_
    split
    · exact KeepsMail.bind loginRefused_keepsMail fun f => fail_keepsMail f
    · exact KeepsMail.pure _
  split
  · exact KeepsMail.bind loginRefused_keepsMail fun f => KeepsMail.bind (fail_keepsMail f) hretry
  · exact hretry ()

theorem discard_keepsMail : KeepsMail discard := by
  refine KeepsMail.bind link_keepsMail fun l => KeepsMail.bind (modifyLink_keepsMail _) fun _ => ?_
  split
  · exact KeepsMail.bind (onServer_keepsMail Imap.Server.shutdown_keepsMail) fun _ => KeepsMail.pure _
  · exact KeepsMail.pure _

theorem logout_keepsMail : KeepsMail logout := by
  refine KeepsMail.bind link_keepsMail fun l => KeepsMail.bind (modifyLink_keepsMail _) fun _ => ?_
  extract_lets after
  have hafter : ∀ u, KeepsMail (after u) := fun _ => modifyLink_keepsMail _
  split
  · exact KeepsMail.bind (onServer_keepsMail Imap.Server.logout_keepsMail) fun _ => hafter ()
  · exact hafter ()

theorem establish_keepsMail : KeepsMail establish := by
  refine KeepsMail.bind (modifyLink_keepsMail _) fun _ => KeepsMail.bind link_keepsMail fun l => ?_
  split
  · exact fail_keepsMail _
  refine KeepsMail.bind (onServer_keepsMail (Imap.Server.connect_keepsMail _)) fun _ => ?_
  refine KeepsMail.bind (modifyLink_keepsMail _) fun _ => ?_
  refine KeepsMail.bind (KeepsMail.tryCatch authenticate_keepsMail fun f => ?_) fun _ => modifyLink_keepsMail _
  exact KeepsMail.bind discard_keepsMail fun _ => fail_keepsMail f

theorem ensureConnected_keepsMail : KeepsMail ensureConnected := by
  refine KeepsMail.bind link_keepsMail fun l => ?_
  split
  · exact KeepsMail.pure _
  · exact establish_keepsMail

theorem backOff_keepsMail (attempt : Nat) : KeepsMail (backOff attempt) := by
  refine KeepsMail.bind link_keepsMail fun l => KeepsMail.bind (liftOutcome_keepsMail _) fun d => ?_
  exact KeepsMail.bind (modifyLink_keepsMail _) fun _ => modifyLink_keepsMail _

end Connection

/-! ## Retries -/

section Retry

variable {α : Type}

/-- Every attempt of an operation that keeps the mail keeps it, and so does the backoff between
attempts. -/
theorem attempts_keepsMail {op : Act α} (hop : KeepsMail op) (context : String) (max : Nat) :
    ∀ fuel attempt, KeepsMail (attempts op context max fuel attempt)
  | 0, _ => fail_keepsMail _
  | fuel + 1, attempt => by
    unfold attempts
    refine KeepsMail.bind (KeepsMail.tryCatch (fun M b => Keeps.map _ (KeepsMail.bind ensureConnected_keepsMail
      (fun _ => hop) M b)) fun _ => KeepsMail.pure _) fun r => ?_
    split
    · exact KeepsMail.pure _
    · split
      · exact KeepsMail.bind discard_keepsMail fun _ => fail_keepsMail _
      · split
        · refine KeepsMail.bind discard_keepsMail fun _ => ?_
          extract_lets next
          have hnext : ∀ u, KeepsMail (next u) := fun _ =>
            KeepsMail.bind (backOff_keepsMail attempt) fun _ => attempts_keepsMail hop context max fuel (attempt + 1)
          split
          · exact KeepsMail.bind (fail_keepsMail _) hnext
          · exact hnext ()
        · exact fail_keepsMail _

theorem withRetry_keepsMail {op : Act α} (hop : KeepsMail op) (context : String) : KeepsMail (withRetry op context) := by
  refine KeepsMail.bind link_keepsMail fun l => ?_
  extract_lets go
  split
  · exact KeepsMail.bind (fail_keepsMail _) fun _ => attempts_keepsMail hop _ _ _ _
  · exact attempts_keepsMail hop _ _ _ _

/-- One attempt, its failure caught: what it yields is a value of the operation. -/
theorem attempt_yields {M : Imap.Mail} {Q : α → Prop} {op : Act α} (hop : Yields (Framed M true) op Q) :
    Yields (Framed M true) (MonadExcept.tryCatch (Except.ok <$> (do ensureConnected; op)) fun f => Pure.pure (.error f))
      fun r => ∀ a, r = .ok a → Q a := by
  have hrun : Yields (Framed M true) (do ensureConnected; op) Q :=
    Yields.bind (Yields.of_keeps (ensureConnected_keepsMail M true) fun _ => trivial) fun _ _ => hop
  refine Triple.tryCatch
    (R := fun (r : Except Fault (Except Fault α)) (w : World) =>
      Framed M true w ∧ ∀ e, r = .ok e → ∀ a, e = .ok a → Q a)
    (Triple.map (Triple.conseq hrun (fun _ h => h) fun r w h => ⟨h.1, ?_⟩))
    (fun _ _ h => h) fun e => Triple.pure fun _ h => ⟨h.1, fun _ hr a ha => ?_⟩
  · intro e he a ha
    cases r with
    | ok b => cases he; cases ha; exact h.2 _ rfl
    | error _ => cases he
  · cases hr; cases ha

/-- The values an operation yields under retries are values it yields: every attempt runs it
on a world with the same mail. -/
theorem attempts_yields {M : Imap.Mail} {Q : α → Prop} {op : Act α} (hop : Yields (Framed M true) op Q)
    (context : String) (max : Nat) : ∀ fuel attempt, Yields (Framed M true) (attempts op context max fuel attempt) Q
  | 0, _ => Yields.throw _
  | fuel + 1, attempt => by
    unfold attempts
    have hdiscard : Yields (Framed M true) discard fun _ => True :=
      Yields.of_keeps (discard_keepsMail M true) fun _ => trivial
    refine Yields.bind (attempt_yields hop) fun r hr => ?_
    split
    · exact Yields.pure (hr _ rfl)
    · split
      · exact Yields.bind hdiscard fun _ _ => Yields.throw _
      · split
        · refine Yields.bind hdiscard fun _ _ => ?_
          extract_lets next
          have hnext : ∀ u, Yields (Framed M true) (next u) Q := fun _ =>
            Yields.bind (Yields.of_keeps (backOff_keepsMail attempt M true) fun _ => trivial) fun _ _ =>
              attempts_yields hop context max fuel (attempt + 1)
          split
          · exact Yields.throw_bind _ _
          · exact hnext ()
        · exact Yields.throw _

theorem withRetry_yields {M : Imap.Mail} {Q : α → Prop} {op : Act α} (hop : Yields (Framed M true) op Q)
    (context : String) : Yields (Framed M true) (withRetry op context) Q := by
  refine Yields.bind (Yields.of_keeps (link_keepsMail M true) fun _ => trivial) fun l _ => ?_
  extract_lets max go
  split
  · exact Yields.throw_bind _ _
  · exact attempts_yields hop _ _ _ _

end Retry

end Service

end MailIngest
