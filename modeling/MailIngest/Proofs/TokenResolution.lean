import MailIngest.Proofs.Sealing

/-!
# Which access token a resolution returns

Resolving the access token of a credential refreshes it first when asked to, or when its expiry
is no later than the skew past the token clock's now (`Stale`); otherwise the stored token is
opened as it is (`Fresh`). The limit is a time of the calendar only up to year 9999: past it
the check itself fails with an overflow, before anything is asked or changed
(`resolveAccessToken_beyond`), so near the end of the calendar an expired token is not
refreshed at all.

The whole resolution (`Resolution`, `resolveAccessToken_resolution`):

- **Decision.** A stale credential is refreshed and the new token opened; a fresh one has its
  stored token opened, and the token endpoint is not reached; either way the endpoint is reached
  at most once.
- **Result.** The text returned is what opening the stored token again gives, with nothing
  changed by that second opening. After a refresh it is the access token of the endpoint's
  reply; which text a stored token holds over a run of calls is `TokenHistory`'s matter.
- **Failure.** A resolution that fails leaves the store as it was: the refresh writes last, and
  a token it has just sealed always opens.

As for a refresh alone, the endpoint is `Quiet`: nothing is deleted behind the resolution's
back.
-/

namespace MailIngest.Service

open OAuth

/-! ## The expiry check -/

/-- The latest expiry that needs a refresh: the skew past the token clock's now, which fails
when either is out of range. -/
def World.refreshLimit (w : World) : Outcome Time.DateTime := do
  w.tokenTime.addMicros (← Time.secondsMicros w.settings.expirySkewSeconds)

/-- A credential resolved from `w` is refreshed first: a refresh is forced, or the expiry is
no later than the limit. -/
def Stale (w : World) (force : Bool) (c : Store.Credential) : Prop :=
  force = true ∨ ∃ e limit, c.expiry = some e ∧ w.refreshLimit = .ok limit ∧ e.le limit = true

/-- A credential resolved from `w` is used as it is: no refresh is forced, and it has no expiry
or one later than the limit. -/
def Fresh (w : World) (force : Bool) (c : Store.Credential) : Prop :=
  force = false ∧
    (c.expiry = none ∨ ∃ e limit, c.expiry = some e ∧ w.refreshLimit = .ok limit ∧ e.le limit = false)

/-- A credential is stale or fresh, unless its expiry is checked against a limit out of
range. -/
theorem stale_or_fresh (w : World) (force : Bool) (c : Store.Credential) :
    Stale w force c ∨ Fresh w force c ∨
      force = false ∧ ∃ e f, c.expiry = some e ∧ w.refreshLimit = .error f := by
  cases force with
  | true => exact .inl (.inl rfl)
  | false =>
    rcases he : c.expiry with _ | e
    · exact .inr (.inl ⟨rfl, .inl he⟩)
    rcases hl : w.refreshLimit with f | limit
    · exact .inr (.inr ⟨rfl, e, f, rfl, rfl⟩)
    cases hle : e.le limit
    · exact .inr (.inl ⟨rfl, .inr ⟨e, limit, he, hl, hle⟩⟩)
    · exact .inl (.inr ⟨e, limit, he, hl, hle⟩)

/-- The expiry check reads the skew and the token clock and changes nothing: no expiry needs no
refresh, and an expiry needs one when it is no later than the limit. -/
theorem needsRefresh_run (c : Store.Credential) (w : World) :
    (needsRefresh c).run.run w = (match c.expiry with
      | none => .ok false
      | some e => e.le <$> w.refreshLimit, w) := by
  unfold needsRefresh
  rcases c.expiry with _ | e
  · rfl
  · simp only [run_bind, run_get, run_liftExcept, utcNow_tokenTime, World.refreshLimit]
    rcases Time.secondsMicros w.settings.expirySkewSeconds with f | skew
    · rfl
    · show _ = (e.le <$> w.tokenTime.addMicros skew, w)
      dsimp only
      rcases w.tokenTime.addMicros skew with f | limit <;> rfl

/-! ## The three ways a resolution goes -/

section Resolve

variable {w : World} {id : String} {force : Bool} {c : Store.Credential}

theorem resolveAccessToken_missing (h : w.store.get id = none) :
    (resolveAccessToken id force).run.run w =
      (.error (raisedOr .credentialNotFound none (credentialDetails id)), w) := by
  rw [resolveAccessToken, run_bind, load_none h]

/-- A stale credential is refreshed, and the refreshed token opened. -/
theorem resolveAccessToken_stale (hc : w.store.get id = some c) (hs : Stale w force c) :
    (resolveAccessToken id force).run.run w = (do
      let c' ← refresh id
      openText c'.accessToken).run.run w := by
  rw [resolveAccessToken, run_bind, load_some hc]
  dsimp only
  rw [run_bind]
  rcases hs with rfl | ⟨e, limit, he, hl, hle⟩
  · rfl
  · cases force
    · rw [if_neg Bool.false_ne_true, needsRefresh_run, he, hl]
      dsimp only [Functor.map, Except.map]
      rw [hle]
      rfl
    · rfl

theorem resolveAccessToken_fresh (hc : w.store.get id = some c) (hf : Fresh w force c) :
    (resolveAccessToken id force).run.run w = (openText c.accessToken).run.run w := by
  obtain ⟨rfl, hf⟩ := hf
  rw [resolveAccessToken, run_bind, load_some hc]
  dsimp only
  rw [run_bind, if_neg Bool.false_ne_true, needsRefresh_run]
  rcases hf with he | ⟨e, limit, he, hl, hle⟩
  · rw [he]
    rfl
  · rw [he, hl]
    dsimp only [Functor.map, Except.map]
    rw [hle]
    rfl

/-- A limit out of range fails the check, and nothing changes. -/
theorem resolveAccessToken_beyond {e : Time.DateTime} {f : Fault} (hc : w.store.get id = some c)
    (hforce : force = false) (he : c.expiry = some e) (hl : w.refreshLimit = .error f) :
    (resolveAccessToken id force).run.run w = (.error f, w) := by
  subst hforce
  rw [resolveAccessToken, run_bind, load_some hc]
  dsimp only
  rw [run_bind, if_neg Bool.false_ne_true, needsRefresh_run, he, hl]
  rfl

end Resolve

/-! ## What a refresh leaves behind -/

/-- The write of a refresh stores the access token it sealed first, under a 12-byte nonce and
the key the vault then keeps. -/
theorem storeRenewal_sealed {id : String} {t : Tokens} {v v' : World} {c : Store.Credential}
    (h : (storeRenewal id t).run.run v = (.ok c, v')) :
    ∃ k n, n.length = Vault.nonceSize ∧ v'.sealer.cache = some k ∧
      c.accessToken = Vault.sealToken k n (Text.Utf8.encode t.accessToken) := by
  rw [storeRenewal, run_bind, sealText, sealing_run] at h
  rcases henc : (Vault.encrypt (Text.Utf8.encode t.accessToken) none).run.run v.sealer with ⟨_ | access, s⟩ <;>
    rw [henc] at h
  · cases h
  obtain ⟨k, n, hn, hk, rfl⟩ := Vault.encrypt_sealed _ v.sealer (by rw [henc])
  rw [henc] at hk
  have hrot := sealRefresh_spec { v with sealer := s } k t.refreshToken { v with sealer := s }
    ⟨VaultOnly.refl _, hk⟩
  dsimp only at h
  rw [run_bind] at h
  rcases hr : (sealRefresh t.refreshToken).run.run { v with sealer := s } with ⟨_ | rot, v1⟩ <;>
    rw [hr] at h hrot
  · cases h
  obtain ⟨-, hk1⟩ := (hrot.2 rot rfl).1
  simp only [run_bind, utcNow_tokenTime, run_liftExcept, storeNow, run_get, run_pure, onStore,
    run_modifyGet] at h
  rcases he : t.expiresAt v1.tokenTime with e | expires <;> rw [he] at h
  · cases h
  dsimp only at h
  rcases hu : v1.store.updateTokens id (Vault.sealToken k n (Text.Utf8.encode t.accessToken)) expires
    (rot.map some) v1.wall with ⟨_ | u, S⟩ <;> rw [hu] at h
  · cases h
  obtain ⟨old, -, rfl, -⟩ := Store.Credentials.updateTokens_get (congrArg Prod.fst hu)
  cases h
  exact ⟨k, n, hn, hk1, rfl⟩

/-- A reply that gives a credential was a 200 reply with tokens, and what followed was their
write. -/
theorem renewalReply_ok {id : String} {q : Reply} {v v' : World} {c : Store.Credential}
    (h : (renewalReply id q).run.run v = (.ok c, v')) :
    ∃ body t, q = .response 200 body ∧ tokensOf body = some t ∧ (storeRenewal id t).run.run v = (.ok c, v') := by
  cases q with
  | unreachable b => cases h
  | response status body =>
    unfold renewalReply at h
    dsimp only at h
    by_cases h200 : status = 200
    · subst h200
      rw [if_neg (fun h => h rfl)] at h
      rcases ht : tokensOf body with _ | t <;> rw [ht] at h
      · cases h
      · exact ⟨body, t, rfl, ht, h⟩
    · rw [if_pos h200] at h
      split at h <;> cases h

theorem storeRenewal_keepsSignIns (id : String) (t : Tokens) : KeepsSignIns (storeRenewal id t) := by
  unfold storeRenewal
  refine KeepsSignIns.bind (sealing_keepsSignIns _) fun _ => ?_
  refine KeepsSignIns.bind (sealRefresh_keepsSignIns _) fun _ => ?_
  refine KeepsSignIns.bind utcNow_keepsSignIns fun _ => ?_
  refine KeepsSignIns.bind (liftOutcome_keepsSignIns _) fun _ => ?_
  refine KeepsSignIns.bind storeNow_keepsSignIns fun _ => ?_
  refine KeepsSignIns.bind (onStore_keepsSignIns _) fun _ => ?_
  split
  · exact KeepsSignIns.pure _
  · exact fail_keepsSignIns _

theorem renewalReply_keepsSignIns (id : String) (q : Reply) : KeepsSignIns (renewalReply id q) := by
  cases q with
  | unreachable b => exact fail_keepsSignIns _
  | response status body =>
    unfold renewalReply
    dsimp only
    split
    · rcases errorFields body with ⟨err, desc⟩
      split <;> exact fail_keepsSignIns _
    · rcases tokensOf body with _ | t
      · exact fail_keepsSignIns _
      · exact storeRenewal_keepsSignIns id t

/-- A refresh posts at most once; a failure leaves the store, and a success took a 200 reply with
tokens and stored its access token sealed under a 12-byte nonce and the key the vault keeps. -/
theorem refresh_spec (id : String) (w : World) (hq : w.endpoint.Quiet) :
    Triple (· = w) (refresh id) fun r v =>
      (∃ ps, v.endpoint.posts = w.endpoint.posts ++ ps ∧ ps.length ≤ 1) ∧
      (∀ f, r = .error f → v.store = w.store) ∧
      ∀ c, r = .ok c → ∃ body t k n, w.endpoint.next.reply = .response 200 body ∧ tokensOf body = some t ∧
        v.store.get id = some c ∧ v.sealer.cache = some k ∧ n.length = Vault.nonceSize ∧
        c.accessToken = Vault.sealToken k n (Text.Utf8.encode t.accessToken) ∧
        v.store.rows.filter (·.id ≠ id) = w.store.rows.filter (·.id ≠ id) := by
  intro s hs
  subst s
  have hask := askRenewal_spec id w hq w rfl
  unfold refresh
  rw [run_bind]
  rcases hrun : (askRenewal id).run.run w with ⟨_ | q, v⟩ <;> rw [hrun] at hask
  · -- the refresh failed before its post: only the vault may have changed
    have hv : VaultOnly w v := hask.1 _ rfl
    exact ⟨⟨[], by rw [hv, List.append_nil], Nat.zero_le _⟩, fun _ _ => by rw [hv], fun _ h => by cases h⟩
  · -- one post was made, and the reply is taken without another
    obtain ⟨rfl, url, form, hv⟩ := hask.2 q rfl
    dsimp only at hv ⊢
    have hposts : ((renewalReply id w.endpoint.next.reply).run.run v).2.endpoint.posts = v.endpoint.posts :=
      congrArg SignIns.posts ((renewalReply_keepsSignIns id _).triple v.signIns v rfl)
    have hreply := renewalReply_spec id w.endpoint.next.reply v _ rfl
    rcases hr : (renewalReply id w.endpoint.next.reply).run.run v with ⟨r, v'⟩
    rw [hr] at hposts hreply
    refine ⟨⟨[_], by rw [hposts, hv]; exact post_posts _ _ _ _, Nat.le_refl _⟩, fun f hf => ?_, fun c hc => ?_⟩
    · rw [hreply.1 f hf, hv]
    · subst hc
      obtain ⟨body, t, hq1, ht1, old, k, expires, -, -, -, -, hget, -, hframe⟩ := hreply.2 c rfl
      obtain ⟨body', t', hq2, ht2, hs⟩ := renewalReply_ok hr
      rw [hq1] at hq2
      cases hq2
      rw [ht1] at ht2
      cases ht2
      obtain ⟨k', n, hn, hk, hacc⟩ := storeRenewal_sealed hs
      exact ⟨body, t, k', n, hq1, ht1, hget, hk, hn, hacc, by rw [hframe, hv]⟩

/-! ## Opening the stored token -/

/-- Opening a token a second time gives the same text and changes nothing. -/
theorem openText_again {t x : String} {w v : World} (h : (openText t).run.run w = (.ok x, v)) :
    (openText t).run.run v = (.ok x, v) := by
  rw [openText, sealing_run] at h ⊢
  obtain ⟨hx, rfl⟩ := Prod.mk.inj h
  have hd : (Vault.decrypt (.str t)).run.run w.sealer =
      (.ok x, ((Vault.decrypt (.str t)).run.run w.sealer).2) := by
    rw [← hx]
    rfl
  rw [Vault.decrypt_again hd]

/-- A token sealed under the key the vault keeps opens to its text, and nothing changes. -/
theorem openText_sealed {v : World} {k n : List UInt8} (hk : v.sealer.cache = some k)
    (hn : n.length = Vault.nonceSize) (x : String) :
    (openText (Vault.sealToken k n (Text.Utf8.encode x))).run.run v = (.ok x, v) := by
  rw [openText, sealing_run, Vault.decrypt_sealToken hk x hn]

/-! ## The whole resolution -/

section Whole

variable {w : World} {id : String} {force : Bool} {c : Store.Credential} {r : Except Fault String}
  {v : World}

theorem Stale.not_fresh (hs : Stale w force c) : ¬Fresh w force c := by
  rintro ⟨rfl, hf⟩
  rcases hs with h | ⟨e, limit, he, hl, hle⟩
  · cases h
  · rcases hf with he' | ⟨e', limit', he', hl', hle'⟩
    · rw [he] at he'
      cases he'
    · rw [he] at he'
      cases he'
      rw [hl] at hl'
      cases hl'
      rw [hle] at hle'
      cases hle'

/-- A credential is stale without a forced refresh only under a limit in range. -/
theorem Stale.limit_ok (hs : Stale w force c) (hforce : force = false) (f : Fault) :
    w.refreshLimit ≠ .error f := by
  rcases hs with h | ⟨e, limit, -, hl, -⟩
  · rw [hforce] at h
    cases h
  · rw [hl]
    intro h
    cases h

/-- A credential with an expiry is fresh only under a limit in range. -/
theorem Fresh.limit_ok (hf : Fresh w force c) {e : Time.DateTime} (he : c.expiry = some e) (f : Fault) :
    w.refreshLimit ≠ .error f := by
  rcases hf.2 with he' | ⟨e', limit, -, hl, -⟩
  · rw [he] at he'
    cases he'
  · rw [hl]
    intro h
    cases h

/-- How resolving the access token of credential `id` from the world `w`, forced or not, ends
with the result `r` in the world `v`. -/
structure Resolution (w : World) (id : String) (force : Bool) (r : Except Fault String) (v : World) :
    Prop where
  /-- A missing credential fails, and nothing changes. -/
  missing : w.store.get id = none →
    r = .error (raisedOr .credentialNotFound none (credentialDetails id)) ∧ v = w
  /-- A stale credential is refreshed, and the refreshed token opened. -/
  refreshed : ∀ c, w.store.get id = some c → Stale w force c →
    (r, v) = (do let c' ← refresh id; openText c'.accessToken).run.run w
  /-- A fresh credential has its stored token opened, and the token endpoint is not reached. -/
  kept : ∀ c, w.store.get id = some c → Fresh w force c →
    (r, v) = (openText c.accessToken).run.run w ∧ v.endpoint = w.endpoint
  /-- An expiry checked against a limit out of range fails as the limit does, and nothing
  changes. -/
  beyond : ∀ c e f, w.store.get id = some c → force = false → c.expiry = some e →
    w.refreshLimit = .error f → r = .error f ∧ v = w
  /-- The token endpoint is reached at most once. -/
  once : ∃ ps, v.endpoint.posts = w.endpoint.posts ++ ps ∧ ps.length ≤ 1
  /-- The text returned is what opening the stored token again gives, with nothing changed. -/
  stored : ∀ x, r = .ok x → ∃ c, v.store.get id = some c ∧ (openText c.accessToken).run.run v = (.ok x, v)
  /-- After a refresh the text is the access token of the endpoint's reply. -/
  renewed : ∀ c x, w.store.get id = some c → Stale w force c → r = .ok x →
    ∃ body t, w.endpoint.next.reply = .response 200 body ∧ tokensOf body = some t ∧ x = t.accessToken
  /-- A resolution that fails leaves the store. -/
  unchanged : ∀ f, r = .error f → v.store = w.store

theorem resolution_missing (hc : w.store.get id = none)
    (hrun : (resolveAccessToken id force).run.run w = (r, v)) : Resolution w id force r v := by
  rw [resolveAccessToken_missing hc] at hrun
  obtain ⟨rfl, rfl⟩ := Prod.mk.inj hrun
  refine ⟨fun _ => ⟨rfl, rfl⟩, fun c' h _ => ?_, fun c' h _ => ?_, fun c' _ _ h _ _ _ => ?_,
    ⟨[], (List.append_nil _).symm, Nat.zero_le _⟩, fun _ h => (by cases h), fun c' _ h _ _ => ?_,
    fun _ _ => rfl⟩ <;> (rw [hc] at h; cases h)

theorem resolution_fresh (hc : w.store.get id = some c) (hf : Fresh w force c)
    (hrun : (resolveAccessToken id force).run.run w = (r, v)) : Resolution w id force r v := by
  have ho : (openText c.accessToken).run.run w = (r, v) := by
    rw [← resolveAccessToken_fresh hc hf]
    exact hrun
  have hv : v = { w with sealer := v.sealer } := by
    rw [openText, sealing_run] at ho
    rw [← (Prod.mk.inj ho).2]
  have same : ∀ c', w.store.get id = some c' → c' = c := fun c' h => Option.some.inj (h.symm.trans hc)
  refine ⟨fun h => ?_, fun c' h hs => ?_, fun c' h _ => ?_, fun c' e f h _ he hl => ?_,
    ⟨[], by rw [hv, List.append_nil], Nat.zero_le _⟩, fun x hx => ?_, fun c' x h hs _ => ?_,
    fun _ _ => by rw [hv]⟩
  · rw [hc] at h
    cases h
  · cases same c' h
    exact absurd hf hs.not_fresh
  · cases same c' h
    exact ⟨ho.symm, by rw [hv]⟩
  · cases same c' h
    exact absurd hl (hf.limit_ok he f)
  · subst hx
    exact ⟨c, by rw [hv]; exact hc, openText_again ho⟩
  · cases same c' h
    exact absurd hf hs.not_fresh

theorem resolution_stale (hq : w.endpoint.Quiet) (hc : w.store.get id = some c) (hs : Stale w force c)
    (hrun : (resolveAccessToken id force).run.run w = (r, v)) : Resolution w id force r v := by
  have hres : (do let c' ← refresh id; openText c'.accessToken).run.run w = (r, v) := by
    rw [← resolveAccessToken_stale hc hs]
    exact hrun
  have same : ∀ c', w.store.get id = some c' → c' = c := fun c' h => Option.some.inj (h.symm.trans hc)
  have hspec := refresh_spec id w hq w rfl
  have hsplit := hres
  rw [run_bind] at hsplit
  rcases hr : (refresh id).run.run w with ⟨_ | c', v1⟩ <;> rw [hr] at hsplit hspec <;> dsimp only at hsplit
  · -- the refresh failed, and the resolution with it
    obtain ⟨rfl, rfl⟩ := Prod.mk.inj hsplit
    obtain ⟨hposts, hstore, -⟩ := hspec
    refine ⟨fun h => ?_, fun c' _ _ => hres.symm, fun c' h hf => ?_, fun c' e f h hforce _ hl => ?_, hposts,
      fun _ h => (by cases h), fun _ _ _ _ h => (by cases h), fun _ h => (by cases h; exact hstore _ rfl)⟩
    · rw [hc] at h
      cases h
    · cases same c' h
      exact absurd hf hs.not_fresh
    · exact absurd hl (hs.limit_ok hforce f)
  · -- the refreshed token was sealed under the kept key, so it opens, and nothing more changes
    obtain ⟨hposts, -, hok⟩ := hspec
    obtain ⟨body, t, k, n, hreply, ht, hget, hk, hn, hacc, -⟩ := hok c' rfl
    rw [hacc, openText_sealed hk hn] at hsplit
    obtain ⟨rfl, rfl⟩ := Prod.mk.inj hsplit
    refine ⟨fun h => ?_, fun c' _ _ => hres.symm, fun c' h hf => ?_, fun c' e f h hforce _ hl => ?_, hposts,
      fun x hx => ?_, fun _ x _ _ hx => ?_, fun _ h => (by cases h)⟩
    · rw [hc] at h
      cases h
    · cases same c' h
      exact absurd hf hs.not_fresh
    · exact absurd hl (hs.limit_ok hforce f)
    · cases hx
      exact ⟨c', hget, by rw [hacc]; exact openText_sealed hk hn _⟩
    · cases hx
      exact ⟨body, t, hreply, ht, rfl⟩

theorem resolution_beyond {e : Time.DateTime} {f : Fault} (hc : w.store.get id = some c)
    (hforce : force = false) (he : c.expiry = some e) (hl : w.refreshLimit = .error f)
    (hrun : (resolveAccessToken id force).run.run w = (r, v)) : Resolution w id force r v := by
  rw [resolveAccessToken_beyond hc hforce he hl] at hrun
  obtain ⟨rfl, rfl⟩ := Prod.mk.inj hrun
  have same : ∀ c', w.store.get id = some c' → c' = c := fun c' h => Option.some.inj (h.symm.trans hc)
  refine ⟨fun h => ?_, fun c' h hs => ?_, fun c' h hf => ?_, fun c' e' f' _ _ _ hl' => ?_,
    ⟨[], (List.append_nil _).symm, Nat.zero_le _⟩, fun _ h => (by cases h), fun c' _ h hs _ => ?_,
    fun _ _ => rfl⟩
  · rw [hc] at h
    cases h
  · cases same c' h
    exact absurd hl (hs.limit_ok hforce f)
  · cases same c' h
    exact absurd hl (hf.limit_ok he f)
  · rw [hl] at hl'
    cases hl'
    exact ⟨rfl, rfl⟩
  · cases same c' h
    exact absurd hl (hs.limit_ok hforce f)

end Whole

/-- Resolving an access token from a world whose endpoint deletes nothing goes as `Resolution`
says. -/
theorem resolveAccessToken_resolution (w : World) (id : String) (force : Bool) (hq : w.endpoint.Quiet) :
    Resolution w id force ((resolveAccessToken id force).run.run w).1
      ((resolveAccessToken id force).run.run w).2 := by
  have hrun : (resolveAccessToken id force).run.run w =
      (((resolveAccessToken id force).run.run w).1, ((resolveAccessToken id force).run.run w).2) := rfl
  rcases hc : w.store.get id with _ | c
  · exact resolution_missing hc hrun
  · rcases stale_or_fresh w force c with hs | hf | ⟨hforce, e, f, he, hl⟩
    · exact resolution_stale hq hc hs hrun
    · exact resolution_fresh hc hf hrun
    · exact resolution_beyond hc hforce he hl hrun

/-- An expired credential resolved 30 seconds before the calendar ends is not refreshed: the
limit a minute later is out of range, so the resolution fails with an overflow and changes
nothing, though the expiry is well within the skew. -/
theorem resolveAccessToken_overflows_at_calendar_end :
    let c : Store.Credential :=
      { id := "c1", userId := "alice", provider := "microsoft", email := "alice@example.com",
        accessToken := "v1:", refreshToken := some "v1:", expiresAt := some "2024-01-01T01:00:00+00:00",
        scope := none, createdAt := "", updatedAt := "" }
    let w : World :=
      { (default : World) with
        store := { rows := [c] }, tokenClock := some (Time.DateTime.ofParts 9999 12 31 23 59 30 0 (some 0)) }
    (∃ e, c.expiry = some e ∧
      e.instant ≤ w.tokenTime.instant + w.settings.expirySkewSeconds * Time.usSecond) ∧
    (resolveAccessToken "c1" false).run.run w = (.error (Fault.named "OverflowError"), w) := by
  intro c w
  have he : c.expiry = some (Time.DateTime.ofParts 2024 1 1 1 0 0 0 (some 0)) := by decide
  refine ⟨⟨_, he, by decide⟩, resolveAccessToken_beyond (c := c) rfl rfl he ?_⟩
  rfl

end MailIngest.Service
