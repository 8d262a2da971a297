import MailIngest.Proofs.SignInCompletion

/-!
# A refresh is all or nothing

A refresh asks the token endpoint for a new access token with the stored refresh token, and then
writes the reply's tokens over the credential. The write is its last step, so a refresh that
fails leaves every row of the store as it was, whatever the endpoint answered, and one that
succeeds changes the credential's row alone (`refresh_all_or_nothing`).

- **Asking** (`askRenewal_spec`): up to its post a refresh changes only the vault; a failure
  posts nothing, and the reply is the endpoint's next one. A missing credential, a missing
  refresh token and one the vault cannot open each fail in their own way before the post.
- **The reply** (`renewalReply_fails`): a reply without tokens fails the refresh as its status
  says (`FailsOn`): a status in the 400s rejects the refresh token, every other failure of the
  endpoint is one to try again.
- **The write** (`storeRenewal_spec`): the reply's tokens sealed under the vault's key, the
  refresh token kept when the reply brings none, the reply's expiry and the time of the write,
  over the credential's row and no other; a write that fails leaves the store.

A credential can also vanish while the post is in flight, deleted by someone else. The
statements here are about an endpoint that is `Quiet`: nothing is deleted behind the refresh's
back.
-/

namespace MailIngest.OAuth.Endpoint

/-- The reply the next post takes: the first one queued, or an endpoint that cannot be
reached. -/
def next (e : Endpoint) : Queued :=
  match e.queue with
  | [] => { reply := .unreachable false }
  | q :: _ => q

/-- No queued reply deletes a credential while its post is in flight. -/
def Quiet (e : Endpoint) : Prop := ∀ q ∈ e.queue, q.vanishing = none

theorem post_fst (e : Endpoint) (url : String) (form : List (String × Json)) (t : Float) :
    (e.post url form t).1 = e.next := by
  obtain ⟨q, ps⟩ := e
  cases q <;> rfl

theorem Quiet.next_quiet {e : Endpoint} (h : e.Quiet) : e.next.vanishing = none := by
  obtain ⟨q, ps⟩ := e
  cases q with
  | nil => rfl
  | cons q rest => exact h q List.mem_cons_self

theorem Quiet.post {e : Endpoint} (h : e.Quiet) (url : String) (form : List (String × Json))
    (t : Float) : (e.post url form t).2.Quiet := by
  obtain ⟨q, ps⟩ := e
  cases q with
  | nil => exact h
  | cons q rest => exact fun x hx => h x (List.mem_cons_of_mem q hx)

end MailIngest.OAuth.Endpoint

namespace MailIngest.Vault

/-- A key that is found is kept, and a kept key is the one found. -/
theorem key_spec (c₀ : Option (List UInt8)) :
    Triple (fun s => s.cache = c₀) key fun r s =>
      ∀ k, r = .ok k → s.cache = some k ∧ ∀ k₀, c₀ = some k₀ → k = k₀ := by
  refine Triple.get_bind fun s hs => ?_
  split
  · rename_i k hk
    refine Triple.pure fun s' hs' k' hk' => ?_
    cases hk'
    subst hs'
    exact ⟨hk, fun k₀ h₀ => Option.some.inj (hk.symm.trans (hs.trans h₀))⟩
  · rename_i hk
    have hkept : ∀ text : String, Triple (fun _ => True) (do
        let k ← liftM (decodeKey text)
        modify fun s : Sealer => { s with cache := some k }
        pure k : SealM (List UInt8)) fun r s =>
          ∀ k, r = .ok k → s.cache = some k ∧ ∀ k₀, c₀ = some k₀ → k = k₀ := by
      intro text
      refine Triple.bind (R := fun _ _ => True) (fun _ _ => trivial) (fun k => ?_)
        fun _ _ _ _ h => by cases h
      refine Triple.bind (R := fun _ s => s.cache = some k) (Triple.modify fun _ _ => rfl)
        (fun _ => Triple.pure fun _ h k' hk' => ?_) fun _ _ _ _ h => by cases h
      cases hk'
      exact ⟨h, fun k₀ h₀ => by rw [← hs, hk] at h₀; cases h₀⟩
    refine Triple.bind (R := fun _ _ => True) (fun _ _ => trivial) (fun x => ?_)
      fun _ _ _ _ h => by cases h
    dsimp only
    split
    · exact Triple.bind (R := fun _ _ => True) (Triple.pure fun _ _ => trivial) (fun text => hkept text)
        fun _ _ _ _ h => by cases h
    · split
      · exact Triple.throw_bind fun _ _ _ h => by cases h
      · exact Triple.bind (R := fun _ _ => True) (fun _ _ => trivial) (fun text => hkept text) fun _ _ _ _ h => by cases h

/-- Sealing without a given nonce seals under the vault's key, which it keeps. -/
theorem encrypt_spec (pt : List UInt8) (c₀ : Option (List UInt8)) :
    Triple (fun s => s.cache = c₀) (encrypt pt none) fun r s =>
      ∀ tok, r = .ok tok → ∃ k n, s.cache = some k ∧ (∀ k₀, c₀ = some k₀ → k = k₀) ∧
        tok = sealToken k n pt := by
  refine Triple.bind (key_spec c₀) (fun k => ?_) fun _ _ _ _ h => by cases h
  refine Triple.bind (R := fun r s => s.cache = some k ∧ (∀ k₀, c₀ = some k₀ → k = k₀))
    (Triple.modifyGet fun _ h => h k rfl) (fun n => ?_) fun _ _ _ _ h => by cases h
  refine Triple.ite (fun _ => Triple.pure fun s h tok htok => ?_) fun _ => Triple.throw fun _ _ _ h => by cases h
  cases htok
  exact ⟨k, n, h.1, h.2, rfl⟩

end MailIngest.Vault

namespace MailIngest.Store.Credentials

/-- Rows rewritten to `c` where they have `c`'s id are found as `c`. -/
theorem find_replace (rows : List Credential) (id : String) (c : Credential)
    (hc : c.id = id) :
    (rows.map fun r => if r.id = id then c else r).find? (·.id = id) =
      (rows.find? (·.id = id)).map fun _ => c := by
  induction rows with
  | nil => rfl
  | cons r rows ih =>
    by_cases h : r.id = id
    · simp [h, hc]
    · simpa [h] using ih

/-- A renewal that finds its grant writes the new tokens over it, where `get` then finds them. -/
theorem updateTokens_get {s : Credentials} {id access : String}
    {expires : Option Time.DateTime} {refresh : Option (Option String)} {now : Time.DateTime}
    {c : Credential} (h : (s.updateTokens id access expires refresh now).1 = some c) :
    ∃ old, s.get id = some old ∧
      c = { old with accessToken := access, refreshToken := refresh.getD old.refreshToken,
                     expiresAt := expires.map stamp, updatedAt := now.iso } ∧
      (s.updateTokens id access expires refresh now).2.get id = some c := by
  unfold updateTokens at h ⊢
  split at h
  · cases h
  · rename_i old hold
    cases h
    have hid : old.id = id := by simpa using List.find?_some hold
    refine ⟨old, hold, rfl, ?_⟩
    simp only [get]
    rw [find_replace _ _ _ ?_]
    · simp only [get] at hold
      rw [hold]
      rfl
    · exact hid

theorem updateTokens_none {s : Credentials} {id access : String}
    {expires : Option Time.DateTime} {refresh : Option (Option String)} {now : Time.DateTime}
    (h : (s.updateTokens id access expires refresh now).1 = none) :
    (s.updateTokens id access expires refresh now).2 = s := by
  unfold updateTokens at h ⊢
  split at h
  · rfl
  · cases h

end MailIngest.Store.Credentials

namespace MailIngest.Service

open OAuth

/-! ## The stages one at a time -/

def World.tokenTime (w : World) : Time.DateTime :=
  w.tokenClock.getD (if w.naive then w.wall.withOffset (some 0) else w.wall)

theorem load_some {id : String} {w : World} {c : Store.Credential} (h : w.store.get id = some c) :
    (load id).run.run w = (.ok c, w) := by
  simp only [load, store, run_bind, run_get, run_pure, h]

theorem load_none {id : String} {w : World} (h : w.store.get id = none) :
    (load id).run.run w = (.error (raisedOr .credentialNotFound none (credentialDetails id)), w) := by
  simp only [load, store, run_bind, run_get, run_pure, h]
  rfl

theorem sealing_run {α : Type} (m : Vault.SealM α) (w : World) :
    (sealing m).run.run w = ((m.run.run w.sealer).1, { w with sealer := (m.run.run w.sealer).2 }) := by
  simp only [sealing, run_bind, run_modifyGet]
  rcases m.run.run w.sealer with ⟨_ | _, s⟩ <;> rfl

/-- A post to an endpoint that deletes nothing takes its next reply and records the post. -/
theorem postForm_quiet (url : String) (form : List (String × Json)) {w : World}
    (h : w.endpoint.next.vanishing = none) :
    (postForm url form).run.run w = (.ok w.endpoint.next.reply,
      { w with endpoint := (w.endpoint.post url form w.settings.requestTimeoutSeconds).2 }) := by
  have hq := Endpoint.post_fst w.endpoint url form w.settings.requestTimeoutSeconds
  simp only [postForm, run_bind, run_get, run_set]
  split
  · rename_i id hv
    rw [hq, h] at hv
    cases hv
  · rw [hq]
    rfl

def VaultOnly (w v : World) : Prop := v = { w with sealer := v.sealer }

theorem VaultOnly.refl (w : World) : VaultOnly w w := rfl

/-- Steps that read the world, or change only the vault, keep `VaultOnly w`. -/
theorem load_vaultOnly (w : World) (id : String) : Keeps (VaultOnly w) (load id) := by
  intro v hv
  cases h : v.store.get id
  · rw [load_none h]
    exact hv
  · rw [load_some h]
    exact hv

theorem sealing_vaultOnly {α : Type} (w : World) (m : Vault.SealM α) : Keeps (VaultOnly w) (sealing m) := by
  intro v hv
  rw [sealing_run]
  rw [hv]
  rfl

/-! ## Asking for a renewal -/

/-- Until its post a refresh changes only the vault: a failure posts nothing, and a reply is
the endpoint's next one, after the post. -/
theorem askRenewal_spec (id : String) (w : World) (hq : w.endpoint.Quiet) :
    Triple (· = w) (askRenewal id) fun r v =>
      (∀ f, r = .error f → VaultOnly w v) ∧
      ∀ q, r = .ok q → q = w.endpoint.next.reply ∧ ∃ url form,
        v = { w with sealer := v.sealer,
                     endpoint := (w.endpoint.post url form w.settings.requestTimeoutSeconds).2 } := by
  refine Triple.conseq (P := VaultOnly w) ?_ (fun _ h => h ▸ VaultOnly.refl w) fun _ _ h => h
  refine Triple.bind (load_vaultOnly w id) (fun c => ?_) fun _ _ hv => ⟨fun _ _ => hv, fun _ h => by cases h⟩
  dsimp only
  split
  rotate_left
  · exact Triple.throw_bind fun _ hv => ⟨fun _ _ => hv, fun _ h => by cases h⟩
  split
  · exact Triple.throw_bind fun _ hv => ⟨fun _ _ => hv, fun _ h => by cases h⟩
  refine Triple.bind (Keeps.pure _) (fun stored => ?_) fun _ _ hv => ⟨fun _ _ => hv, fun _ h => by cases h⟩
  refine Triple.bind (R := fun _ => VaultOnly w)
    (Keeps.tryCatch (sealing_vaultOnly w _) fun f => Keeps.ite (fun _ => Keeps.throw _) fun _ => Keeps.throw _)
    (fun token => ?_) fun _ _ hv => ⟨fun _ _ => hv, fun _ h => by cases h⟩
  refine Triple.bind (R := fun _ => VaultOnly w) ?_ (fun config => ?_) fun _ _ hv => ⟨fun _ _ => hv, fun _ h => by cases h⟩
  · intro v hv
    rw [providerConfig_run]
    exact hv
  intro v hv
  obtain ⟨s, rfl⟩ : ∃ s, v = { w with sealer := s } := ⟨v.sealer, hv⟩
  rw [postForm_quiet (w := { w with sealer := s }) _ _ hq.next_quiet]
  dsimp only
  refine ⟨fun _ h => (by cases h), fun q h => ?_⟩
  cases h
  exact ⟨rfl, _, _, rfl⟩

/-- A credential that is not there fails the refresh, and nothing changes. -/
theorem askRenewal_missing {id : String} {w : World} (h : w.store.get id = none) :
    (askRenewal id).run.run w = (.error (raisedOr .credentialNotFound none (credentialDetails id)), w) := by
  rw [askRenewal, run_bind, load_none h]

/-- A credential without a refresh token fails the refresh, and nothing changes. -/
theorem askRenewal_noToken {id : String} {w : World} {c : Store.Credential} (h : w.store.get id = some c)
    (hr : c.refreshToken.getD "" = "") :
    (askRenewal id).run.run w = (.error (raisedOr .noRefreshToken none (credentialDetails id)), w) := by
  rw [askRenewal, run_bind, load_some h]
  dsimp only
  rcases hc : c.refreshToken with _ | r
  · rfl
  · rw [hc] at hr
    simp only [Option.getD_some] at hr
    subst hr
    rfl

/-- A refresh token the vault cannot open rejects the refresh before anything is posted. -/
theorem askRenewal_unreadable {id t : String} {w : World} {c : Store.Credential} {f : Fault}
    {s : Vault.Sealer} (h : w.store.get id = some c) (hr : c.refreshToken = some t) (ht : t ≠ "")
    (hopen : (Vault.decrypt (.str t)).run.run w.sealer = (.error f, s)) (hf : f.isA .decryption = true) :
    (askRenewal id).run.run w = (.error (.raised .refreshRejected
      "Stored refresh token is unreadable; re-authorize the mailbox" (credentialDetails id) none),
      { w with sealer := s }) := by
  have hne : t.isEmpty = false := by
    cases hte : t.isEmpty
    · rfl
    · exact absurd (String.isEmpty_iff.mp hte) ht
  rw [askRenewal, run_bind, load_some h]
  simp only [hr, hne, Bool.false_eq_true, if_false, run_bind, run_pure, run_tryCatch,
    openText, sealing_run, hopen, hf, if_true]
  rfl

/-! ## The reply -/

/-- How a refresh fails on an endpoint reply, when the reply brings no tokens: an endpoint that
cannot be reached and a status outside the 400s are failures to try again, a status in the
400s rejects the refresh token, and so does nothing else. -/
def FailsOn : Reply → Fault → Prop
  | .unreachable _, f => f.kind? = some .tokenRefresh
  | .response status body, f =>
    if status = 200 then tokensOf body = none → f.kind? = some .tokenRefresh
    else if 400 ≤ status ∧ status < 500 then f.kind? = some .refreshRejected
    else f.kind? = some .tokenRefresh

theorem renewalReply_fails (id : String) (q : Reply) (v : World) :
    ∀ f, ((renewalReply id q).run.run v).1 = .error f → FailsOn q f := by
  intro f hf
  cases q with
  | unreachable b =>
    cases hf
    rfl
  | response status body =>
    unfold renewalReply at hf
    unfold FailsOn
    by_cases h200 : status = 200
    · subst h200
      simp only [ne_eq, not_true_eq_false, if_false] at hf
      simp only [if_true]
      intro hnone
      rw [hnone] at hf
      cases hf
      rfl
    · simp only [ne_eq, h200, not_false_eq_true, if_true] at hf
      simp only [h200, if_false]
      split at hf
      · rename_i h4
        cases hf
        simp only [h4, and_self, if_true]
        rfl
      · rename_i h4
        cases hf
        simp only [h4, if_false]
        rfl

/-! ## The write -/

/-- `c` is `old` with the tokens of a reply `t` written over it at `now`: the access token
sealed under the key `k`, the refresh token sealed when the reply brings a new one and kept
otherwise, and the reply's expiry. -/
structure Renews (k : List UInt8) (t : Tokens) (expires : Option Time.DateTime) (now : Time.DateTime)
    (old c : Store.Credential) : Prop where
  access : ∃ n, c.accessToken = Vault.sealToken k n (Text.Utf8.encode t.accessToken)
  rotated : ∀ r, t.refreshToken = some r → r ≠ "" →
    ∃ n, c.refreshToken = some (Vault.sealToken k n (Text.Utf8.encode r))
  kept : t.refreshToken.getD "" = "" → c.refreshToken = old.refreshToken
  rest : c = { old with accessToken := c.accessToken, refreshToken := c.refreshToken,
                        expiresAt := expires.map Store.stamp, updatedAt := now.iso }

/-- The vault holds the key `k`, and at most the vault differs from `w`. -/
def Keyed (w : World) (k : List UInt8) (v : World) : Prop := VaultOnly w v ∧ v.sealer.cache = some k

theorem utcNow_tokenTime (w : World) : utcNow.run.run w = (.ok w.tokenTime, w) := utcNow_run w

/-- Sealing a text changes only the vault, and seals under the key it then holds: the key it
held before, if it held one. -/
theorem sealText_spec (w : World) (x : String) (c₀ : Option (List UInt8)) :
    Triple (fun v => VaultOnly w v ∧ v.sealer.cache = c₀) (sealText x) fun r v =>
      VaultOnly w v ∧ ∀ tok, r = .ok tok → ∃ k n, v.sealer.cache = some k ∧
        (∀ k₀, c₀ = some k₀ → k = k₀) ∧ tok = Vault.sealToken k n (Text.Utf8.encode x) := by
  rintro v ⟨hv, hc⟩
  refine ⟨sealing_vaultOnly w _ v hv, ?_⟩
  rw [sealText, sealing_run]
  exact Vault.encrypt_spec _ c₀ v.sealer hc

/-- A reply's refresh token is sealed under the vault's key when there is a non-empty one, and
is none otherwise. -/
theorem sealRefresh_spec (w : World) (k : List UInt8) (r : Option String) :
    Triple (Keyed w k) (sealRefresh r) fun res v => VaultOnly w v ∧ ∀ rot, res = .ok rot →
      Keyed w k v ∧ (r.getD "" = "" → rot = none) ∧
      ∀ x, r = some x → x ≠ "" → ∃ n, rot = some (Vault.sealToken k n (Text.Utf8.encode x)) := by
  rcases r with _ | x
  · exact Triple.pure fun v hv => ⟨hv.1, fun _ h => by cases h; exact ⟨hv, fun _ => rfl, fun _ h => by cases h⟩⟩
  simp only [sealRefresh]
  by_cases hx : x.isEmpty = true
  · rw [if_pos hx]
    refine Triple.pure fun v hv => ⟨hv.1, fun _ h => ?_⟩
    cases h
    exact ⟨hv, fun _ => rfl, fun _ h hne => absurd (by cases h; exact String.isEmpty_iff.mp hx) hne⟩
  · rw [if_neg hx]
    refine Triple.map (Triple.conseq (sealText_spec w x (some k)) (fun _ h => h) fun res v h => ⟨h.1, fun rot hrot => ?_⟩)
    cases res with
    | error e => cases hrot
    | ok tok =>
      cases hrot
      obtain ⟨k', n, hk', hkk, rfl⟩ := h.2 tok rfl
      obtain rfl := hkk k rfl
      refine ⟨⟨h.1, hk'⟩, fun hempty => absurd (String.isEmpty_iff.mpr hempty) hx, fun y hy _ => ?_⟩
      cases hy
      exact ⟨n, rfl⟩

/-- The credential `updateTokens` writes from sealed tokens renews the old one. -/
theorem Renews.of_sealed {k : List UInt8} {t : Tokens} {expires : Option Time.DateTime}
    {now : Time.DateTime} {old : Store.Credential} {access : String} {rot : Option String}
    (hacc : ∃ n, access = Vault.sealToken k n (Text.Utf8.encode t.accessToken))
    (hnone : t.refreshToken.getD "" = "" → rot = none)
    (hsome : ∀ x, t.refreshToken = some x → x ≠ "" → ∃ n, rot = some (Vault.sealToken k n (Text.Utf8.encode x))) :
    Renews k t expires now old
      { old with accessToken := access, refreshToken := (rot.map some).getD old.refreshToken,
                 expiresAt := expires.map Store.stamp, updatedAt := now.iso } where
  access := hacc
  rotated x hx hne := by
    obtain ⟨n, hn⟩ := hsome x hx hne
    refine ⟨n, ?_⟩
    show (rot.map some).getD old.refreshToken = _
    rw [hn]
    rfl
  kept h := by
    show (rot.map some).getD old.refreshToken = _
    rw [hnone h]
    rfl
  rest := rfl

/-- Tokens `t` were written over row `id` of the store `s`, read at token time `time` and
stamped at `now`, giving the credential `c` in the world `v`, whose vault holds the key they
were sealed under. -/
def Written (s : Store.Credentials) (time now : Time.DateTime) (id : String) (t : Tokens)
    (c : Store.Credential) (v : World) : Prop :=
  ∃ old k expires, s.get id = some old ∧ v.sealer.cache = some k ∧ t.expiresAt time = .ok expires ∧
    Renews k t expires now old c ∧ v.store.get id = some c ∧ v.store.users = s.users ∧
    v.store.rows.filter (·.id ≠ id) = s.rows.filter (·.id ≠ id)

/-- The write of a refresh: a failure leaves the store; a success renews row `id` under the
vault's key, at the token time and the store's time, and changes no other row. -/
theorem storeRenewal_spec (id : String) (t : Tokens) (v : World) :
    Triple (· = v) (storeRenewal id t) fun r v' =>
      (∀ f, r = .error f → v'.store = v.store) ∧
      ∀ c, r = .ok c → Written v.store v.tokenTime v.wall id t c v' := by
  have hfail : ∀ f (s : World), VaultOnly v s →
      (∀ g, (Except.error f : Except Fault Store.Credential) = .error g → s.store = v.store) ∧
        ∀ c, (Except.error f : Except Fault Store.Credential) = .ok c →
          Written v.store v.tokenTime v.wall id t c s :=
    fun _ _ hs => ⟨fun _ _ => by rw [hs], fun _ h => by cases h⟩
  refine Triple.bind (Triple.conseq (sealText_spec v t.accessToken v.sealer.cache)
    (fun _ h => by subst h; exact ⟨VaultOnly.refl _, rfl⟩) fun _ _ h => h)
    (fun access => Triple.each fun s hs => ?_) fun f s h => hfail f s h.1
  obtain ⟨k, n, hk, -, rfl⟩ := hs.2 _ rfl
  refine Triple.bind (Triple.conseq (sealRefresh_spec v k t.refreshToken) (fun _ h => by subst h; exact ⟨hs.1, hk⟩)
    fun _ _ h => h) (fun rot => Triple.each fun s hs => ?_) fun f s h => hfail f s h.1
  obtain ⟨⟨hs, hk⟩, hnone, hsome⟩ := hs.2 _ rfl
  intro _ h
  rw [h]
  have hstore : s.store = v.store := by rw [hs]
  have htime : s.tokenTime = v.tokenTime := by rw [hs]; rfl
  have hwall : s.wall = v.wall := by rw [hs]
  simp only [run_bind, utcNow_tokenTime, run_liftExcept, storeNow, run_get, run_pure, onStore, run_modifyGet]
  rw [htime]
  rcases he : t.expiresAt v.tokenTime with e | expires
  · -- an expiry that cannot be computed fails before the write
    exact ⟨fun _ _ => hstore, fun _ h => by cases h⟩
  simp only [hstore, hwall]
  have hframe := Store.Credentials.updateTokens_frame v.store id
    (Vault.sealToken k n (Text.Utf8.encode t.accessToken)) expires (rot.map some) v.wall
  rcases hu : v.store.updateTokens id (Vault.sealToken k n (Text.Utf8.encode t.accessToken)) expires
    (rot.map some) v.wall with ⟨_ | c, S⟩
  · -- a row that is gone is written to nowhere
    have hS := Store.Credentials.updateTokens_none (congrArg Prod.fst hu)
    rw [hu] at hS
    simp only [fail, run_throw]
    exact ⟨fun _ _ => hS, fun _ h => by cases h⟩
  · obtain ⟨old, hold, rfl, hget⟩ := Store.Credentials.updateTokens_get (congrArg Prod.fst hu)
    rw [hu] at hget hframe
    simp only [run_pure]
    refine ⟨fun _ h => (by cases h), fun c h => ?_⟩
    cases h
    exact ⟨old, k, expires, hold, hk, he, Renews.of_sealed ⟨n, rfl⟩ hnone hsome, hget, hframe⟩

/-- What a reply makes of a refresh: a failure leaves the store, and a success took a 200
reply with tokens and wrote them. -/
theorem renewalReply_spec (id : String) (q : Reply) (v : World) :
    Triple (· = v) (renewalReply id q) fun r v' =>
      (∀ f, r = .error f → v'.store = v.store) ∧
      ∀ c, r = .ok c → ∃ body t, q = .response 200 body ∧ tokensOf body = some t ∧
        Written v.store v.tokenTime v.wall id t c v' := by
  have hfail : ∀ f, Triple (· = v) (fail f : Act Store.Credential) fun r v' =>
      (∀ f, r = .error f → v'.store = v.store) ∧
      ∀ c, r = .ok c → ∃ body t, q = .response 200 body ∧ tokensOf body = some t ∧
        Written v.store v.tokenTime v.wall id t c v' :=
    fun _ => Triple.throw fun _ h => ⟨fun _ _ => by rw [h], fun _ h' => by cases h'⟩
  cases q with
  | unreachable b => exact hfail _
  | response status body =>
    unfold renewalReply
    by_cases h200 : status = 200
    · subst h200
      simp only [ne_eq, not_true_eq_false, if_false]
      rcases ht : tokensOf body with _ | t
      · exact hfail _
      · exact Triple.conseq (storeRenewal_spec id t v) (fun _ h => h)
          fun _ _ h => ⟨h.1, fun c hc => ⟨body, t, rfl, ht, h.2 c hc⟩⟩
    · simp only [ne_eq, h200, not_false_eq_true, if_true]
      split <;> exact hfail _

/-! ## The whole refresh -/

/-- How a refresh of credential `id` from the world `w` ends, with the result `r` in the world
`v`. -/
structure AllOrNothing (w : World) (id : String) (r : Except Fault Store.Credential) (v : World) :
    Prop where
  /-- A refresh that fails leaves every row of the store. -/
  unchanged : ∀ f, r = .error f → v.store = w.store
  /-- A missing credential fails the refresh, and nothing changes. -/
  missing : w.store.get id = none →
    r = .error (raisedOr .credentialNotFound none (credentialDetails id)) ∧ v = w
  /-- A credential without a refresh token fails the refresh, and nothing changes: nothing is
  posted. -/
  noToken : ∀ c, w.store.get id = some c → c.refreshToken.getD "" = "" →
    r = .error (raisedOr .noRefreshToken none (credentialDetails id)) ∧ v = w
  /-- A refresh token the vault cannot open rejects the refresh; only the vault changes, and
  nothing is posted. -/
  unreadable : ∀ c t f s, w.store.get id = some c → c.refreshToken = some t → t ≠ "" →
    (Vault.decrypt (.str t)).run.run w.sealer = (.error f, s) → f.isA .decryption = true →
    r = .error (.raised .refreshRejected "Stored refresh token is unreadable; re-authorize the mailbox"
      (credentialDetails id) none) ∧ v = { w with sealer := s }
  /-- A refresh that fails after its post fails as the endpoint's reply says. -/
  answered : ∀ f, r = .error f → v.endpoint.posts ≠ w.endpoint.posts → FailsOn w.endpoint.next.reply f
  /-- A refresh that succeeds took a 200 reply with tokens, and wrote them over row `id` alone. -/
  renewed : ∀ c, r = .ok c → ∃ body t, w.endpoint.next.reply = .response 200 body ∧
    tokensOf body = some t ∧ Written w.store w.tokenTime w.wall id t c v

/-- A refresh is all or nothing: against an endpoint that deletes nothing, a refresh that fails
leaves every row of the store, with the error its case calls for, and one that succeeds renews
the credential's row and no other. -/
theorem refresh_all_or_nothing (w : World) (id : String) (hq : w.endpoint.Quiet) :
    AllOrNothing w id ((refresh id).run.run w).1 ((refresh id).run.run w).2 := by
  have hask := askRenewal_spec id w hq w rfl
  unfold refresh
  rw [run_bind]
  rcases hrun : (askRenewal id).run.run w with ⟨_ | q, v⟩
  · -- the refresh failed before its post: only the vault may have changed
    rw [hrun] at hask
    have hv : VaultOnly w v := hask.1 _ rfl
    dsimp only
    refine ⟨fun _ _ => by rw [hv], fun h => ?_, fun c hc hr => ?_, fun c t f s hc hr ht hopen hf => ?_,
      fun _ _ hp => absurd (by rw [hv]) hp, fun _ h => by cases h⟩
    · rw [askRenewal_missing h] at hrun
      cases hrun
      exact ⟨rfl, rfl⟩
    · rw [askRenewal_noToken hc hr] at hrun
      cases hrun
      exact ⟨rfl, rfl⟩
    · rw [askRenewal_unreadable hc hr ht hopen hf] at hrun
      cases hrun
      exact ⟨rfl, rfl⟩
  · -- the post was made, and its reply decides
    rw [hrun] at hask
    obtain ⟨rfl, url, form, hv⟩ := hask.2 q rfl
    obtain ⟨s, e, rfl⟩ : ∃ s e, v = { w with sealer := s, endpoint := e } := ⟨_, _, hv⟩
    have hreply := renewalReply_spec id w.endpoint.next.reply { w with sealer := s, endpoint := e } _ rfl
    dsimp only
    refine ⟨fun f hf => hreply.1 f hf, fun h => ?_, fun c hc hr => ?_, fun c t f s hc hr ht hopen hf => ?_,
      fun f hf _ => renewalReply_fails id _ _ f hf, fun c hc => hreply.2 c hc⟩
    · rw [askRenewal_missing h] at hrun
      cases hrun
    · rw [askRenewal_noToken hc hr] at hrun
      cases hrun
    · rw [askRenewal_unreadable hc hr ht hopen hf] at hrun
      cases hrun

/-- A vault configured with the base64 text of a 32-byte key. -/
def configuredVault : Vault.Sealer :=
  { configured := .str (Text.Base64.encode .standard (List.replicate Vault.keySize 7)), entropy := default }

/-- A world holding `alice`'s connection, its refresh token sealed under the vault's key, and an
endpoint that will refuse the refresh. -/
def refusingWorld : World :=
  { (default : World) with
    sealer := configuredVault
    store := Store.Credentials.replay
      [.ensureUser "alice" (some "alice@example.com"),
       .upsert ⟨"alice", "microsoft", "alice@example.com", "sealed-access",
         some (Vault.sealToken (List.replicate Vault.keySize 7) (List.replicate Vault.nonceSize 1)
           (Text.Utf8.encode "refresh-1")), none, none⟩ default]
    settings := { clientId := some "app" }
    endpoint := { queue := [{ reply := .response 400 (some (.obj [("error", .str "invalid_grant")])) }] } }

/-- Refreshing the stored connection against the refusing endpoint meets the hypothesis. -/
theorem refusal_refresh_all_or_nothing :
    refusingWorld.endpoint.Quiet ∧
      ((refusingWorld.store.rows.find? (·.id = Store.grantId 1)).bind (·.refreshToken)).isSome ∧
      AllOrNothing refusingWorld (Store.grantId 1) ((refresh (Store.grantId 1)).run.run refusingWorld).1
        ((refresh (Store.grantId 1)).run.run refusingWorld).2 := by
  have hq : refusingWorld.endpoint.Quiet := fun q hq => by
    rw [List.mem_singleton.mp hq]
  exact ⟨hq, by decide, refresh_all_or_nothing refusingWorld _ hq⟩

end MailIngest.Service
