import MailIngest.Proofs.TokenResolution
import MailIngest.Proofs.CallbackAnswer

/-!
# The token a grant holds over a run of calls

A grant's access token is written by a write of tokens (`storeToken`) and by a refresh, alone or
inside a resolution. Over any run of these calls from an empty store, each of them succeeding or
failing (`runCalls`), every stored grant's access token is sealed, under the key the vault
keeps, from the text of the latest successful write of that grant (`SealedLatest`,
`runCalls_sealedLatest`). A resolution that returns gives the stored token opened again, so it
gives that text, its own refresh counted (`resolveAccessToken_resolves`).

The invariant is carried one call at a time. Every call keeps the store consistent, the token
endpoint quiet and a key the vault keeps (`Steady`), whether it succeeds or fails; a call that
fails keeps the rows, and one that writes replaces the one grant it names.
-/

namespace MailIngest

namespace Vault

theorem key_keepsKey (k : List UInt8) : Keeps (fun s : Sealer => s.cache = some k) key := fun s hs => by
  rw [key_cached s k hs]
  exact hs

/-- A kept key stays kept: sealing and opening only draw from the random stream. -/
theorem encrypt_keepsKey (pt : List UInt8) (k : List UInt8) :
    Keeps (fun s : Sealer => s.cache = some k) (encrypt pt none) := fun s hs => by
  obtain ⟨n, s', hrun, -, hc⟩ := encrypt_found (Sealer.KeySource.cached hs).finds pt
  rw [hrun]
  exact hc

theorem decrypt_keepsKey (t : Json) (k : List UInt8) :
    Keeps (fun s : Sealer => s.cache = some k) (decrypt t) := by
  refine Keeps.bind ?_ fun _ => Keeps.liftExcept _
  refine Keeps.bind (Keeps.liftExcept _) fun _ => Keeps.bind (Keeps.liftExcept _) fun p => ?_
  exact Keeps.bind (key_keepsKey k) fun _ => Keeps.liftExcept _

end Vault

/-- The access token a reply brings: that of a 200 reply with tokens. -/
def OAuth.Reply.accessToken? : OAuth.Reply → Option String
  | .response status body => if status = 200 then (Service.tokensOf body).map (·.accessToken) else none
  | .unreachable _ => none

namespace Service

open OAuth

/-! ## Calls that keep the store, the endpoint and the key -/

/-- A step keeps the credential store consistent, the token endpoint quiet, and the key the vault
holds, if it holds one. -/
def Steady {α : Type} (x : Act α) : Prop :=
  ∀ o : Option (List UInt8), Keeps (fun w : World =>
    w.store.Consistent ∧ w.endpoint.Quiet ∧ ∀ k, o = some k → w.sealer.cache = some k) x

section Steady

variable {α β : Type}

theorem Steady.pure (a : α) : Steady (Pure.pure a : Act α) := fun _ => Keeps.pure a

theorem Steady.bind {x : Act α} {f : α → Act β} (hx : Steady x) (hf : ∀ a, Steady (f a)) :
    Steady (x >>= f) :=
  fun o => Keeps.bind (hx o) fun a => hf a o

theorem Steady.tryCatch {x : Act α} {h : Fault → Act α} (hx : Steady x) (hh : ∀ f, Steady (h f)) :
    Steady (MonadExcept.tryCatch x h) :=
  fun o => Keeps.tryCatch (hx o) fun f => hh f o

theorem Steady.map {x : Act α} (g : α → β) (hx : Steady x) : Steady (g <$> x) :=
  fun o => Keeps.map g (hx o)

theorem fail_steady (f : Fault) : Steady (fail f : Act α) := fun _ => Keeps.throw f

theorem get_steady : Steady (get : Act World) := fun _ => Keeps.get

theorem liftOutcome_steady (r : Outcome α) : Steady (liftM r : Act α) := fun _ => Keeps.liftExcept r

theorem sealing_steady {m : Vault.SealM α} (hm : ∀ k, Keeps (fun s : Vault.Sealer => s.cache = some k) m) :
    Steady (sealing m) := by
  intro o w hw
  rw [sealing_run]
  exact ⟨hw.1, hw.2.1, fun k hk => hm k w.sealer (hw.2.2 k hk)⟩

theorem onStore_steady {f : Store.Credentials → α × Store.Credentials} (hf : ∀ s, s.Consistent → (f s).2.Consistent) :
    Steady (onStore f) :=
  fun _ => Keeps.modifyGet fun w hw => ⟨hf w.store hw.1, hw.2⟩

end Steady

theorem load_steady (id : String) : Steady (load id) := by
  intro o w hw
  cases h : w.store.get id
  · rw [load_none h]
    exact hw
  · rw [load_some h]
    exact hw

theorem utcNow_steady : Steady utcNow := by
  refine Steady.bind get_steady fun w => ?_
  split <;> exact Steady.pure _

theorem storeNow_steady : Steady storeNow := Steady.bind get_steady fun _ => Steady.pure _

theorem sealText_steady (x : String) : Steady (sealText x) := sealing_steady (Vault.encrypt_keepsKey _)

theorem openText_steady (t : String) : Steady (openText t) := sealing_steady (Vault.decrypt_keepsKey _)

theorem sealRefresh_steady (r : Option String) : Steady (sealRefresh r) := by
  unfold sealRefresh
  split
  · split
    · exact Steady.pure _
    · exact Steady.map _ (sealText_steady _)
  · exact Steady.pure _

theorem providerConfig_steady (provider : Json) : Steady (providerConfig provider) := fun _ w hw => by
  rw [providerConfig_run]
  exact hw

/-- A post to a quiet endpoint takes its next reply and deletes nothing. -/
theorem postForm_steady (url : String) (form : List (String × Json)) : Steady (postForm url form) :=
  fun _ w hw => by
    rw [postForm_quiet url form hw.2.1.next_quiet]
    exact ⟨hw.1, hw.2.1.post _ _ _, hw.2.2⟩

theorem askRenewal_steady (id : String) : Steady (askRenewal id) := by
  unfold askRenewal
  refine Steady.bind (load_steady id) fun c => ?_
  extract_lets missing post
  have hpost : ∀ stored, Steady (post stored) := fun stored =>
    Steady.bind (Steady.tryCatch (openText_steady _) fun f => by split <;> exact fail_steady _) fun _ =>
      Steady.bind (providerConfig_steady _) fun _ => postForm_steady _ _
  split
  · split
    · exact Steady.bind (fail_steady _) hpost
    · exact Steady.bind (Steady.pure _) hpost
  · exact Steady.bind (fail_steady _) hpost

theorem storeRenewal_steady (id : String) (t : Tokens) : Steady (storeRenewal id t) := by
  unfold storeRenewal
  refine Steady.bind (sealText_steady _) fun _ => Steady.bind (sealRefresh_steady _) fun _ => ?_
  refine Steady.bind utcNow_steady fun _ => Steady.bind (liftOutcome_steady _) fun _ => ?_
  refine Steady.bind storeNow_steady fun _ => ?_
  refine Steady.bind (onStore_steady fun s hs => Store.Credentials.updateTokens_consistent hs _ _ _ _ _) fun u => ?_
  split
  · exact Steady.pure _
  · exact fail_steady _

theorem renewalReply_steady (id : String) (q : Reply) : Steady (renewalReply id q) := by
  cases q with
  | unreachable b => exact fail_steady _
  | response status body =>
    unfold renewalReply
    dsimp only
    split
    · rcases errorFields body with ⟨err, desc⟩
      split <;> exact fail_steady _
    · rcases tokensOf body with _ | t
      · exact fail_steady _
      · exact storeRenewal_steady id t

theorem refresh_steady (id : String) : Steady (refresh id) :=
  Steady.bind (askRenewal_steady id) fun q => renewalReply_steady id q

theorem storeToken_steady (user provider email : String) (t : Tokens) :
    Steady (storeToken user provider email t) := by
  unfold storeToken
  refine Steady.bind (sealText_steady _) fun _ => Steady.bind (sealRefresh_steady _) fun _ => ?_
  refine Steady.bind (onStore_steady fun s hs => Store.Credentials.ensureUser_consistent hs _ _) fun _ => ?_
  refine Steady.bind utcNow_steady fun _ => Steady.bind (liftOutcome_steady _) fun _ => ?_
  refine Steady.bind storeNow_steady fun _ => ?_
  exact Steady.bind (onStore_steady fun s hs => Store.Credentials.upsert_consistent hs _ _) fun _ =>
    fun _ => Keeps.ofExcept _

theorem needsRefresh_steady (c : Store.Credential) : Steady (needsRefresh c) := fun _ w hw => by
  rw [needsRefresh_run]
  exact hw

theorem resolveAccessToken_steady (id : String) (force : Bool) : Steady (resolveAccessToken id force) := by
  unfold resolveAccessToken
  refine Steady.bind (load_steady id) fun c => Steady.bind ?_ fun stale => ?_
  · split
    · exact Steady.pure _
    · exact needsRefresh_steady c
  · extract_lets opening
    split
    · exact Steady.bind (refresh_steady id) fun _ => openText_steady _
    · exact Steady.bind (Steady.pure _) fun _ => openText_steady _

/-! ## What a successful write leaves -/

/-- A write of tokens that succeeds seals their access token under the key the vault then keeps,
and leaves the grant it returns and, besides it, only earlier grants with other ids. -/
theorem storeToken_written {u p e : String} {t : Tokens} {w v : World} {c : Store.Credential}
    (hw : w.store.Consistent) (h : (storeToken u p e t).run.run w = (.ok c, v)) :
    ∃ k n, v.sealer.cache = some k ∧ n.length = Vault.nonceSize ∧
      c.accessToken = Vault.sealToken k n (Text.Utf8.encode t.accessToken) ∧
      ∀ r ∈ v.store.rows, r = c ∨ (r ∈ w.store.rows ∧ r.id ≠ c.id) := by
  rw [storeToken, run_bind, sealText, sealing_run] at h
  rcases henc : (Vault.encrypt (Text.Utf8.encode t.accessToken) none).run.run w.sealer with ⟨_ | access, s⟩ <;>
    rw [henc] at h
  · cases h
  obtain ⟨k, n, hn, hk, rfl⟩ := Vault.encrypt_sealed _ w.sealer (by rw [henc])
  rw [henc] at hk
  have hrot := sealRefresh_spec { w with sealer := s } k t.refreshToken { w with sealer := s }
    ⟨VaultOnly.refl _, hk⟩
  dsimp only at h
  rw [run_bind] at h
  rcases hr : (sealRefresh t.refreshToken).run.run { w with sealer := s } with ⟨_ | rot, v1⟩ <;>
    rw [hr] at h hrot
  · cases h
  obtain ⟨⟨hv1, hk1⟩, -⟩ := hrot.2 rot rfl
  have hrows1 : v1.store = w.store := by
    dsimp only [VaultOnly] at hv1
    rw [hv1]
  simp only [run_bind, ensureUser, onStore, run_modifyGet, utcNow_tokenTime, run_liftExcept, storeNow,
    run_get, run_pure] at h
  rcases he : t.expiresAt _ with _ | expires <;> rw [he] at h
  · cases h
  dsimp only at h
  rcases hu : Store.Credentials.upsert (v1.store.ensureUser u none) _ _ with ⟨_ | c', S⟩ <;> rw [hu] at h
  · cases h
  cases h
  have hw1 : (v1.store.ensureUser u none).Consistent := Store.Credentials.ensureUser_consistent (hrows1 ▸ hw) _ _
  obtain ⟨hacc, hrows⟩ := Store.Credentials.upsert_written hw1 hu
  refine ⟨k, n, hk1, hn, hacc, fun r hr => ?_⟩
  rw [Store.Credentials.ensureUser_rows, hrows1] at hrows
  exact hrows r hr

/-- A refresh that succeeds seals the access token of the endpoint's reply under the key the vault
then keeps, into the grant it names, and changes no other grant. -/
theorem refresh_written {id : String} {w v : World} {c : Store.Credential} (hw : w.store.Consistent)
    (hq : w.endpoint.Quiet) (h : (refresh id).run.run w = (.ok c, v)) :
    ∃ x k n, w.endpoint.next.reply.accessToken? = some x ∧ v.sealer.cache = some k ∧
      n.length = Vault.nonceSize ∧ c.accessToken = Vault.sealToken k n (Text.Utf8.encode x) ∧ c.id = id ∧
      ∀ r ∈ v.store.rows, r = c ∨ (r ∈ w.store.rows ∧ r.id ≠ c.id) := by
  have hspec := refresh_spec id w hq w rfl
  rw [h] at hspec
  obtain ⟨body, t, k, n, hreply, ht, hget, hk, hn, hacc, hframe⟩ := hspec.2.2 c rfl
  have hv : v.store.Consistent := ((refresh_steady id none).of_run ⟨hw, hq, fun _ h => by cases h⟩ h).1
  obtain ⟨hmem, hid⟩ := (Store.Credentials.get_eq_some_iff hv).1 hget
  refine ⟨t.accessToken, k, n, by rw [hreply, Reply.accessToken?, if_pos rfl, ht]; rfl, hk, hn, hacc, hid,
    fun r hr => ?_⟩
  by_cases hr' : r.id = id
  · exact .inl (hv.eq_of_id hr hmem (hr'.trans hid.symm))
  · have hmem' : r ∈ v.store.rows.filter (·.id ≠ id) := List.mem_filter.2 ⟨hr, by simpa using hr'⟩
    rw [hframe] at hmem'
    exact .inr ⟨(List.mem_filter.1 hmem').1, hid ▸ hr'⟩

/-! ## The invariant -/

/-- The text last written for the grant `id` by the writes `hs`, oldest first. -/
def lastWritten (hs : List (String × String)) (id : String) : Option String := hs.reverse.lookup id

@[simp] theorem lastWritten_append_self (hs : List (String × String)) (id x : String) :
    lastWritten (hs ++ [(id, x)]) id = some x := by
  simp [lastWritten]

theorem lastWritten_append_ne (hs : List (String × String)) {id id' : String} (x : String) (h : id' ≠ id) :
    lastWritten (hs ++ [(id, x)]) id' = lastWritten hs id' := by
  simp only [lastWritten, List.reverse_append, List.reverse_cons, List.reverse_nil, List.nil_append,
    List.cons_append, List.lookup_cons, beq_false_of_ne h]

/-- Every stored grant's access token is sealed, under the key the vault keeps, from the text the
writes `hs` last wrote for its id; the store is consistent and the endpoint quiet. -/
structure SealedLatest (hs : List (String × String)) (w : World) : Prop where
  consistent : w.store.Consistent
  quiet : w.endpoint.Quiet
  sealed : ∀ r ∈ w.store.rows, ∃ k n x, w.sealer.cache = some k ∧ n.length = Vault.nonceSize ∧
    r.accessToken = Vault.sealToken k n (Text.Utf8.encode x) ∧ lastWritten hs r.id = some x

section Invariant

variable {α : Type} {x : Act α} {hs : List (String × String)} {w v : World} {r : Except Fault α}

/-- What a steady step keeps of the invariant's start: the store consistent, the endpoint quiet,
and each key the vault kept. -/
theorem SealedLatest.steady (hx : Steady x) (h : SealedLatest hs w) (hrun : x.run.run w = (r, v)) :
    v.store.Consistent ∧ v.endpoint.Quiet ∧ ∀ k, w.sealer.cache = some k → v.sealer.cache = some k := by
  have hv := fun o (ho : ∀ k, o = some k → w.sealer.cache = some k) => (hx o).of_run ⟨h.1, h.2, ho⟩ hrun
  exact ⟨(hv none fun _ h => by cases h).1, (hv none fun _ h => by cases h).2.1,
    fun k hk => (hv (some k) fun _ h => by cases h; exact hk).2.2 k rfl⟩

/-- A steady step that keeps the rows keeps the invariant. -/
theorem SealedLatest.keep (hx : Steady x) (h : SealedLatest hs w) (hrun : x.run.run w = (r, v))
    (hrows : v.store.rows = w.store.rows) : SealedLatest hs v := by
  obtain ⟨hc, hq, hk⟩ := h.steady hx hrun
  refine ⟨hc, hq, fun r hr => ?_⟩
  rw [hrows] at hr
  obtain ⟨k, n, y, hkw, hn, hacc, hy⟩ := h.sealed r hr
  exact ⟨k, n, y, hk k hkw, hn, hacc, hy⟩

/-- A steady step that writes grant `c`, sealing the text `y` under the key the vault keeps, and
changes no other grant, extends the invariant by that write. -/
theorem SealedLatest.write (hx : Steady x) (h : SealedLatest hs w) (hrun : x.run.run w = (r, v))
    {c : Store.Credential} {y : String} {k n : List UInt8} (hk : v.sealer.cache = some k)
    (hn : n.length = Vault.nonceSize) (hacc : c.accessToken = Vault.sealToken k n (Text.Utf8.encode y))
    (hrows : ∀ r ∈ v.store.rows, r = c ∨ (r ∈ w.store.rows ∧ r.id ≠ c.id)) :
    SealedLatest (hs ++ [(c.id, y)]) v := by
  obtain ⟨hc, hq, hkept⟩ := h.steady hx hrun
  refine ⟨hc, hq, fun r hr => ?_⟩
  rcases hrows r hr with rfl | ⟨hr, hne⟩
  · exact ⟨k, n, y, hk, hn, hacc, lastWritten_append_self _ _ _⟩
  · obtain ⟨k', n', y', hkw, hn', hacc', hy⟩ := h.sealed r hr
    exact ⟨k', n', y', hkept k' hkw, hn', hacc', by rw [lastWritten_append_ne _ _ hne, hy]⟩

end Invariant

/-! ## One call at a time -/

/-- A call of the token service that may write a grant's access token. -/
inductive TokenCall where
  | store (user provider email : String) (t : Tokens)
  | refresh (id : String)
  | resolve (id : String) (force : Bool)

/-- Whether resolving credential `c` from `w` refreshes it first: forced, or the expiry check
says so. -/
def World.refreshes (w : World) (force : Bool) (c : Store.Credential) : Bool :=
  force || ((needsRefresh c).run.run w).1.toOption == some true

/-- Runs a call from `w`: the grant id and access-token text it wrote, if it wrote one, and the
world it leaves. -/
def TokenCall.run : TokenCall → World → Option (String × String) × World
  | .store u p e t, w =>
    let o := (storeToken u p e t).run.run w
    (o.1.toOption.map fun c => (c.id, t.accessToken), o.2)
  | .refresh id, w =>
    let o := (Service.refresh id).run.run w
    (o.1.toOption.bind fun c => w.endpoint.next.reply.accessToken?.map (c.id, ·), o.2)
  | .resolve id force, w =>
    let o := (resolveAccessToken id force).run.run w
    ((o.1.toOption.bind fun _ => w.store.get id).bind fun c =>
      if w.refreshes force c then w.endpoint.next.reply.accessToken?.map (c.id, ·) else none, o.2)

/-- One call more: its write, if any, after the writes so far. -/
def TokenCall.step (acc : List (String × String) × World) (call : TokenCall) :
    List (String × String) × World :=
  (acc.1 ++ (call.run acc.2).1.toList, (call.run acc.2).2)

/-- Runs calls one after another from `w`: the writes they made, oldest first, and the world they
leave. -/
def runCalls (calls : List TokenCall) (w : World) : List (String × String) × World :=
  calls.foldl TokenCall.step ([], w)

section Steps

variable {hs : List (String × String)} {w v : World}

theorem storeToken_sealedLatest {u p e : String} {t : Tokens} (h : SealedLatest hs w)
    {r : Except Fault Store.Credential} (hrun : (storeToken u p e t).run.run w = (r, v)) :
    SealedLatest (hs ++ (r.toOption.map fun c => (c.id, t.accessToken)).toList) v := by
  cases r with
  | error f =>
    have hout := storeToken_outcome w.store.rows u p e t w rfl
    rw [hrun] at hout
    rw [Except.toOption, Option.map_none, Option.toList_none, List.append_nil]
    exact h.keep (storeToken_steady u p e t) hrun (hout.1 f rfl).2
  | ok c =>
    obtain ⟨k, n, hk, hn, hacc, hrows⟩ := storeToken_written h.consistent hrun
    exact h.write (storeToken_steady u p e t) hrun hk hn hacc hrows

theorem refresh_sealedLatest {id : String} (h : SealedLatest hs w) {r : Except Fault Store.Credential}
    (hrun : (refresh id).run.run w = (r, v)) :
    SealedLatest (hs ++ (r.toOption.bind fun c => w.endpoint.next.reply.accessToken?.map (c.id, ·)).toList) v := by
  cases r with
  | error f =>
    have hspec := refresh_spec id w h.quiet w rfl
    rw [hrun] at hspec
    rw [Except.toOption, Option.bind_none, Option.toList_none, List.append_nil]
    exact h.keep (refresh_steady id) hrun (by rw [hspec.2.1 f rfl])
  | ok c =>
    obtain ⟨x, k, n, hx, hk, hn, hacc, -, hrows⟩ := refresh_written h.consistent h.quiet hrun
    rw [Except.toOption, Option.bind_some, hx, Option.map_some, Option.toList_some]
    exact h.write (refresh_steady id) hrun hk hn hacc hrows

theorem Stale.refreshes {force : Bool} {c : Store.Credential} (hs : Stale w force c) :
    w.refreshes force c = true := by
  rcases hs with rfl | ⟨e, limit, he, hl, hle⟩
  · rfl
  · rw [World.refreshes, needsRefresh_run, he, hl]
    simp only [Functor.map, Except.map, hle, Except.toOption]
    cases force <;> rfl

theorem Fresh.refreshes {force : Bool} {c : Store.Credential} (hf : Fresh w force c) :
    w.refreshes force c = false := by
  obtain ⟨rfl, he | ⟨e, limit, he, hl, hle⟩⟩ := hf
  · rw [World.refreshes, needsRefresh_run, he]
    rfl
  · rw [World.refreshes, needsRefresh_run, he, hl]
    simp only [Functor.map, Except.map, hle, Except.toOption]
    rfl

/-- A resolution writes only through its refresh: a stale grant's refresh writes the access token
of the endpoint's reply, and nothing else a resolution does changes a row. -/
theorem resolveAccessToken_sealedLatest {id : String} {force : Bool} (h : SealedLatest hs w)
    {r : Except Fault String} (hrun : (resolveAccessToken id force).run.run w = (r, v)) :
    SealedLatest (hs ++ ((r.toOption.bind fun _ => w.store.get id).bind fun c =>
      if w.refreshes force c then w.endpoint.next.reply.accessToken?.map (c.id, ·) else none).toList) v := by
  rcases hc : w.store.get id with _ | c
  · rw [resolveAccessToken_missing hc, Prod.mk.injEq] at hrun
    obtain ⟨rfl, rfl⟩ := hrun
    simpa only [Except.toOption, Option.bind_none, Option.toList_none, List.append_nil] using h
  rcases stale_or_fresh w force c with hs' | hf | ⟨hforce, e, f, he, hl⟩
  · -- a stale grant is refreshed, and the refreshed token opened
    rw [resolveAccessToken_stale hc hs', run_bind] at hrun
    rcases hr : (refresh id).run.run w with ⟨_ | c', v1⟩ <;> rw [hr] at hrun <;> dsimp only at hrun
    · obtain ⟨rfl, rfl⟩ := Prod.mk.inj hrun
      simpa only [Except.toOption, Option.bind_none, Option.toList_none] using refresh_sealedLatest h hr
    · obtain ⟨x, k, n, hx, hk, hn, hacc, hid, -⟩ := refresh_written h.consistent h.quiet hr
      rw [hacc, openText_sealed hk hn, Prod.mk.injEq] at hrun
      obtain ⟨rfl, rfl⟩ := hrun
      have hid' : c.id = id := ((Store.Credentials.get_eq_some_iff h.consistent).1 hc).2
      have hw1 := refresh_sealedLatest h hr
      rw [Except.toOption, Option.bind_some, hx, Option.map_some, Option.toList_some, hid] at hw1
      rw [Except.toOption, Option.bind_some, Option.bind_some, hs'.refreshes, if_pos rfl, hx,
        Option.map_some, Option.toList_some, hid']
      exact hw1
  · -- a fresh grant's token is opened, which changes only the vault
    have hkeep := h.keep (resolveAccessToken_steady id force) hrun (by
      rw [resolveAccessToken_fresh hc hf, openText, sealing_run, Prod.mk.injEq] at hrun
      rw [← hrun.2])
    cases r with
    | error f' => simpa only [Except.toOption, Option.bind_none, Option.toList_none, List.append_nil] using hkeep
    | ok x =>
      rw [Except.toOption, Option.bind_some, Option.bind_some, hf.refreshes]
      simpa only [Bool.false_eq_true, if_false, Option.toList_none, List.append_nil] using hkeep
  · rw [resolveAccessToken_beyond hc hforce he hl, Prod.mk.injEq] at hrun
    obtain ⟨rfl, rfl⟩ := hrun
    simpa only [Except.toOption, Option.bind_none, Option.toList_none, List.append_nil] using h

end Steps

/-- One call keeps the invariant, extended by the write the call made. -/
theorem TokenCall.step_sealedLatest {acc : List (String × String) × World} (h : SealedLatest acc.1 acc.2)
    (call : TokenCall) : SealedLatest (TokenCall.step acc call).1 (TokenCall.step acc call).2 := by
  cases call with
  | store u p e t => exact storeToken_sealedLatest h rfl
  | refresh id => exact refresh_sealedLatest h rfl
  | resolve id force => exact resolveAccessToken_sealedLatest h rfl

/-- Every run of calls keeps the invariant: by induction on the calls, one step at a time. -/
theorem runCalls_sealedLatest (calls : List TokenCall) :
    ∀ acc : List (String × String) × World, SealedLatest acc.1 acc.2 →
      SealedLatest (calls.foldl TokenCall.step acc).1 (calls.foldl TokenCall.step acc).2 := by
  induction calls with
  | nil => exact fun _ h => h
  | cons call rest ih => exact fun acc h => ih _ (TokenCall.step_sealedLatest h call)

/-- Over any run of writes of tokens, refreshes and resolutions from an empty store whose token
endpoint deletes nothing, a resolution goes as `Resolution` says, and the text it returns is the
access token of the latest successful write of that grant, its own refresh counted. -/
theorem resolveAccessToken_resolves (calls : List TokenCall) (w₀ : World) (h₀ : w₀.store.rows = [])
    (hq : w₀.endpoint.Quiet) (id : String) (force : Bool) :
    let w := (runCalls calls w₀).2
    Resolution w id force ((resolveAccessToken id force).run.run w).1 ((resolveAccessToken id force).run.run w).2 ∧
      ∀ x, ((resolveAccessToken id force).run.run w).1 = .ok x →
        lastWritten (runCalls (calls ++ [.resolve id force]) w₀).1 id = some x := by
  intro w
  have hstart : SealedLatest [] w₀ :=
    ⟨⟨by simp [h₀], by simp [h₀], by simp [h₀], by simp [h₀]⟩, hq, by simp [h₀]⟩
  have hw : SealedLatest (runCalls calls w₀).1 w := runCalls_sealedLatest calls _ hstart
  have hres := resolveAccessToken_resolution w id force hw.quiet
  refine ⟨hres, fun x hx => ?_⟩
  have hv : SealedLatest _ ((resolveAccessToken id force).run.run w).2 :=
    TokenCall.step_sealedLatest hw (.resolve id force)
  obtain ⟨c, hget, hopen⟩ := hres.stored x hx
  obtain ⟨hmem, hid⟩ := (Store.Credentials.get_eq_some_iff hv.consistent).1 hget
  obtain ⟨k, n, y, hk, hn, hacc, hy⟩ := hv.sealed c hmem
  rw [hacc, openText_sealed hk hn, Prod.mk.injEq, Except.ok.injEq] at hopen
  rw [runCalls, List.foldl_append, List.foldl_cons, List.foldl_nil, ← hopen.1]
  rw [hid] at hy
  exact hy

/-- A world that has stored one grant, under a configured vault, meets the hypotheses. -/
theorem storedGrant_resolveAccessToken_resolves :
    let w₀ : World := { (default : World) with sealer := configuredVault }
    let calls := [TokenCall.store "alice" "microsoft" "alice@example.com" { accessToken := "access-1" }]
    let w := (runCalls calls w₀).2
    w₀.store.rows = [] ∧ w₀.endpoint.Quiet ∧
      (Resolution w (Store.grantId 1) false ((resolveAccessToken (Store.grantId 1) false).run.run w).1
          ((resolveAccessToken (Store.grantId 1) false).run.run w).2 ∧
        ∀ x, ((resolveAccessToken (Store.grantId 1) false).run.run w).1 = .ok x →
          lastWritten (runCalls (calls ++ [.resolve (Store.grantId 1) false]) w₀).1 (Store.grantId 1) = some x) := by
  intro w₀ calls w
  have hq : w₀.endpoint.Quiet := fun _ h => by cases h
  exact ⟨rfl, hq, resolveAccessToken_resolves calls w₀ rfl hq (Store.grantId 1) false⟩

end Service

end MailIngest
