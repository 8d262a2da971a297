import MailIngest.Proofs.Sealing

/-!
# What a sign-in callback answers

A callback checks the provider's error and its own parameters, takes the verifier kept under its
state and completes the sign-in: the provider's settings, the exchange of the code at the token
endpoint, and the sealed grant written for the caller. It catches the authorization errors of
completing the sign-in and reports them, as it reports a failed check, by an unsuccessful result
that sends the caller to the dashboard with the reason. Every other fault passes through: a
pending store that cannot be read, and a grant that cannot be stored, for a vault without its
key or an expiry beyond the calendar.

`Answered` says what a callback of an authenticated caller ends in, and `handleCallback_answers`
proves it of every callback from every world whose token endpoint deletes nothing. It rests on
one lemma per collaborator: storing a grant fails only with faults the callback lets through,
and keeps the rows when it fails (`storeToken_outcome`); the exchange is read off the endpoint's
next reply (`exchangeCode_outcome`); and completing the sign-in fails with a fault the callback
lets through exactly when the exchange was granted (`completeSignIn_outcome`).
-/

namespace MailIngest

/-- A fault that a callback lets through: it is no authorization error. -/
def Fault.Uncaught (f : Fault) : Prop := f.isA .authorization = false

namespace Vault

/-- A configured key fails to be read only when it is neither text nor nothing. -/
theorem configuredText_fails {j : Json} {f : Fault} (h : configuredText j = .error f) :
    f = Fault.named "TypeError" := by
  unfold configuredText at h
  split at h
  · cases h
  · split at h
    · cases h
      rfl
    · cases h

theorem encrypt_uncaught (pt : List UInt8) (s : Sealer) {f : Fault}
    (h : ((encrypt pt none).run.run s).1 = .error f) : f.Uncaught := by
  rcases hk : key.run.run s with ⟨e | k, s'⟩
  · simp only [encrypt, run_bind, hk] at h
    cases h
    rcases key_faults s (by rw [hk]) with ⟨msg, hf⟩ | hct
    · rw [hf]
      rfl
    · rw [configuredText_fails hct]
      rfl
  · simp only [encrypt, run_bind, hk, draw, run_modifyGet] at h
    split at h
    · cases h
    · cases h
      rfl

end Vault

namespace Store.Credentials

variable {s : Credentials}

/-- A write fails only for a user without a row, and then keeps the rows. -/
theorem upsert_fails {g : Grant} {now : Time.DateTime} {f : Fault} (h : (s.upsert g now).1 = .error f) :
    f = Fault.named "IntegrityError" ∧ (s.upsert g now).2.rows = s.rows := by
  by_cases hu : g.userId ∈ s.userIds
  · obtain ⟨c, hc, -⟩ := upsert_ok_owned g now hu
    rw [hc] at h
    cases h
  · rw [upsert_refused g now hu] at h ⊢
    cases h
    exact ⟨rfl, rfl⟩

/-- The grant a write returns is filed under the user, provider and email written. -/
theorem upsert_key {g : Grant} {now : Time.DateTime} {c : Credential} (h : (s.upsert g now).1 = .ok c) :
    c.key = (g.userId, g.provider, g.email) := by
  by_cases hu : g.userId ∈ s.userIds
  · cases hold : s.find g.userId g.provider g.email with
    | none =>
      obtain ⟨c', hup, -, hkey, -⟩ := upsert_creates now hu hold
      rw [hup] at h
      cases h
      exact hkey
    | some old =>
      have hfound := List.find?_some hold
      simp only [decide_eq_true_eq] at hfound
      have hu' : (!s.users.any (·.1 = g.userId)) = false := by
        rw [Bool.not_eq_false', any_users_iff]
        exact hu
      simp only [upsert, hu', hold, Bool.false_eq_true, if_false] at h
      cases h
      simp only [Credential.key, hfound.1, hfound.2.1, hfound.2.2]
  · rw [upsert_refused g now hu] at h
    cases h

end Store.Credentials

theorem Tokens.expiresAt_fails {t : OAuth.Tokens} {now : Time.DateTime} {f : Fault}
    (h : t.expiresAt now = .error f) : f = Fault.named "OverflowError" := by
  unfold OAuth.Tokens.expiresAt at h
  rcases hn : t.expiresIn with _ | n <;> rw [hn] at h
  · cases h
  · dsimp only at h
    rcases hs : Time.secondsMicros n with e | us <;> rw [hs] at h
    · cases h
      unfold Time.secondsMicros at hs
      split at hs
      · cases hs
        rfl
      · cases hs
    · change (some <$> now.addMicros us) = _ at h
      rcases ha : now.addMicros us with e | d <;> rw [ha] at h
      · cases h
        dsimp only [Time.DateTime.addMicros] at ha
        split at ha
        · cases ha
          rfl
        · cases ha
      · cases h

namespace Service

open OAuth

section Rows

variable (R : List Store.Credential)

/-- A step that leaves the store alone keeps its rows, and fails as its runs do. -/
theorem StoreFree.fails {α : Type} {x : Act α} (hs : StoreFree x)
    (hx : ∀ w f, (x.run.run w).1 = .error f → f.Uncaught) :
    Fails (·.store.rows = R) x fun f _ => f.Uncaught :=
  fun w hw => ⟨hs.keeps (·.rows = R) w hw, fun f hf => hx w f hf⟩

theorem sealText_fails (text : String) : Fails (·.store.rows = R) (sealText text) fun f _ => f.Uncaught :=
  (sealing_storeFree _).fails R fun w f h => by
    rw [sealing_run] at h
    exact Vault.encrypt_uncaught _ _ h

theorem sealRefresh_fails (r : Option String) :
    Fails (·.store.rows = R) (sealRefresh r) fun f _ => f.Uncaught := by
  unfold sealRefresh
  split
  · split
    · exact Fails.pure _
    · exact Fails.map _ (sealText_fails R _)
  · exact Fails.pure _

theorem ensureUser_fails (u : String) (e : Option String) :
    Fails (·.store.rows = R) (ensureUser u e) fun f _ => f.Uncaught :=
  Triple.modifyGet fun w hw =>
    ⟨(Store.Credentials.ensureUser_rows u e).trans hw, fun _ he => by cases he⟩

/-- What a write of tokens ends in, from a store with rows `R`: a failure is one a callback lets
through, and keeps the rows; a grant is filed under the user, provider and email written. -/
def GrantWritten (u provider e : String) (r : Except Fault Store.Credential) (w : World) : Prop :=
  (∀ f, r = .error f → f.Uncaught ∧ w.store.rows = R) ∧
    ∀ cred, r = .ok cred → cred.key = (u, provider, e)

theorem storeToken_outcome (u provider e : String) (t : Tokens) :
    Triple (·.store.rows = R) (storeToken u provider e t) (GrantWritten R u provider e) := by
  have hfail : ∀ f (w : World), w.store.rows = R → f.Uncaught → GrantWritten R u provider e (.error f) w :=
    fun f w hw hf => ⟨fun f' h => (by cases h; exact ⟨hf, hw⟩), fun _ h => (by cases h)⟩
  unfold storeToken
  refine (sealText_fails R _).bind_triple (fun access => ?_) hfail
  refine (sealRefresh_fails R _).bind_triple (fun refresh => ?_) hfail
  refine (ensureUser_fails R _ _).bind_triple (fun _ => ?_) hfail
  refine (utcNow_storeFree.fails R fun w f h => by rw [utcNow_run] at h; cases h).bind_triple
    (fun now => ?_) hfail
  refine ((StoreFree.liftM _).fails R fun w f h => by
    rw [run_liftExcept] at h
    rw [Tokens.expiresAt_fails h]
    rfl).bind_triple (fun expires => ?_) hfail
  refine (storeNow_storeFree.fails R fun w f h => by cases h).bind_triple (fun now => ?_) hfail
  refine Triple.bind (R := fun o w => ∃ x, o = .ok x ∧ GrantWritten R u provider e x w)
    (Triple.modifyGet fun w hw => ⟨_, rfl, fun f hf => ?_, fun cred hc => Store.Credentials.upsert_key hc⟩)
    (fun o => Triple.ofExcept fun w ⟨x, hx, h⟩ => by cases hx; exact h)
    fun _ _ ⟨_, h, _⟩ => (by cases h)
  obtain ⟨hname, hrows⟩ := Store.Credentials.upsert_fails hf
  exact ⟨by rw [hname]; rfl, hrows.trans hw⟩

end Rows

/-- An unsupported provider is refused with an authorization error. -/
theorem resolve_refused {provider : Json} {s : Settings.OAuth} {f : Fault}
    (h : resolve provider s = .error f) : f.isA .authorization = true := by
  unfold resolve at h
  split at h
  · cases h
  · cases h
    rfl

/-- An exchange with an endpoint that deletes nothing leaves the store. It yields the tokens of a
200 reply that holds them, and fails with an authorization error otherwise. -/
theorem exchangeCode_outcome (c : ProviderConfig) (code verifier : Json) {w : World}
    (hq : w.endpoint.next.vanishing = none) :
    ((exchangeCode c code verifier).run.run w).2.store = w.store ∧
    (∀ t, ((exchangeCode c code verifier).run.run w).1 = .ok t ↔
      ∃ body, w.endpoint.next.reply = .response 200 body ∧ tokensOf body = some t) ∧
    ∀ f, ((exchangeCode c code verifier).run.run w).1 = .error f → f.isA .authorization = true := by
  simp only [exchangeCode, run_bind, postForm_quiet _ _ hq]
  rcases hr : w.endpoint.next.reply with ⟨status, body⟩ | timedOut
  · by_cases hs : status = 200
    · subst hs
      rcases ht : tokensOf body with _ | t
      · -- a 200 reply without tokens
        simp only [ne_eq, not_true_eq_false, if_false, ht]
        refine ⟨rfl, fun t => ⟨fun h => (by cases h), fun ⟨b, hb, htb⟩ => ?_⟩, fun f h => (by cases h; rfl)⟩
        cases hb
        rw [ht] at htb
        cases htb
      · simp only [ne_eq, not_true_eq_false, if_false, ht]
        refine ⟨rfl, fun t' => ⟨fun h => ⟨body, rfl, by cases h; exact ht⟩, fun ⟨b, hb, htb⟩ => ?_⟩,
          fun f h => (by cases h)⟩
        cases hb
        rw [ht] at htb
        cases htb
        rfl
    · -- a refusal
      simp only [ne_eq, hs, not_false_eq_true, if_true]
      refine ⟨rfl, fun t => ⟨fun h => (by cases h), fun ⟨b, hb, _⟩ => ?_⟩, fun f h => (by cases h; rfl)⟩
      cases hb
      exact absurd rfl hs
  · refine ⟨rfl, fun t => ⟨fun h => (by cases h), fun ⟨b, hb, _⟩ => (by cases hb)⟩, fun f h => (by cases h; rfl)⟩

/-- The world's provider is supported, and the token endpoint's next reply grants tokens. -/
def Granted (w : World) : Prop :=
  (∃ cfg, resolve w.provider w.settings = .ok cfg) ∧
    ∃ body t, w.endpoint.next.reply = .response 200 body ∧ tokensOf body = some t

/-- What completing a sign-in from `w` ends in: it fails with a fault a callback lets through
exactly when the exchange was granted, and keeps the rows whenever it fails; a grant it returns
was granted, and is filed under the caller, the world's provider and the caller's email. -/
def SignInOutcome (w : World) (c : Caller) (r : Except Fault Store.Credential) (v : World) : Prop :=
  (∀ f, r = .error f → (f.Uncaught ↔ Granted w) ∧ v.store.rows = w.store.rows) ∧
    ∀ cred, r = .ok cred → Granted w ∧ cred.key = (c.userId, w.provider.plainText, c.email)

theorem completeSignIn_outcome (c : Caller) (code verifier : Json) {w : World}
    (hq : w.endpoint.next.vanishing = none) :
    SignInOutcome w c ((completeSignIn c code verifier).run.run w).1
      ((completeSignIn c code verifier).run.run w).2 := by
  unfold completeSignIn
  rw [run_bind, run_get]
  dsimp only
  rw [run_bind, providerConfig_run]
  rcases hcfg : resolve w.provider w.settings with f | cfg
  · -- an unsupported provider is refused before anything is posted
    refine ⟨fun f' h => ?_, fun _ h => (by cases h)⟩
    cases h
    refine ⟨iff_of_false (fun hu => ?_) fun ⟨⟨cfg, h⟩, _⟩ => ?_, rfl⟩
    · rw [Fault.Uncaught, resolve_refused hcfg] at hu
      cases hu
    · rw [hcfg] at h
      cases h
  dsimp only
  obtain ⟨hstore, hok, herr⟩ := exchangeCode_outcome cfg code verifier hq
  rw [run_bind]
  rcases hx : (exchangeCode cfg code verifier).run.run w with ⟨f | tokens, w2⟩ <;>
    rw [hx] at hstore hok herr
  · -- a refused exchange
    refine ⟨fun f' h => ?_, fun _ h => (by cases h)⟩
    cases h
    refine ⟨iff_of_false (fun hu => ?_) fun ⟨_, body, t, hb, ht⟩ => ?_, congrArg _ hstore⟩
    · rw [Fault.Uncaught, herr f rfl] at hu
      cases hu
    · cases (hok t).2 ⟨body, hb, ht⟩
  have hgranted : Granted w := by
    obtain ⟨body, hb, ht⟩ := (hok tokens).1 rfl
    exact ⟨⟨cfg, hcfg⟩, body, tokens, hb, ht⟩
  have hw := (ensureUser_fails w.store.rows c.userId (some c.email)).bind_triple
    (fun _ => storeToken_outcome w.store.rows c.userId w.provider.plainText c.email tokens)
    fun f _ hw hf => ⟨fun f' h => (by cases h; exact ⟨hf, hw⟩), fun _ h => (by cases h)⟩
  obtain ⟨hfails, hkey⟩ := hw w2 (congrArg _ hstore)
  exact ⟨fun f h => ⟨iff_of_true (hfails f h).1 hgranted, (hfails f h).2⟩,
    fun cred h => ⟨hgranted, hkey cred h⟩⟩

/-- A creation time fails to be read only as an integer too large for a float. -/
theorem timeOf_uncaught {j : Json} {f : Fault} (h : timeOf j = .error f) : f.Uncaught := by
  unfold timeOf at h
  split at h
  · cases h
  · rename_i n
    rcases hx : Number.intToFloat n with e | x <;> rw [hx] at h
    · cases h
      simp only [Number.intToFloat] at hx
      split at hx
      · cases hx
        rfl
      · cases hx
    · cases h
  all_goals cases h

/-- A shared entry fails to be read only as its creation time does. -/
theorem readShared_uncaught {raw : Json} {now ttl : Float} {f : Fault}
    (h : readShared raw now ttl = .error f) : f.Uncaught := by
  unfold readShared at h
  split at h
  · split at h
    · split at h
      · rename_i v created _ _
        rcases ht : timeOf created with e | x <;> rw [ht] at h
        · cases h
          exact timeOf_uncaught ht
        · rcases x with _ | x <;> cases h
      · cases h
    · cases h
  · cases h

/-- A pending store fails to hand over a verifier only with a fault a callback lets through. -/
theorem pendingTake_uncaught (state : String) (w : World) {f : Fault}
    (h : ((pendingTake state).run.run w).1 = .error f) : f.Uncaught := by
  rcases hp : w.pending with p | ⟨r, ttl, live⟩
  · simp only [pendingTake, run_bind, run_get, hp, run_set] at h
    cases h
  cases live
  · simp only [pendingTake, run_bind, run_get, hp, Bool.not_false, if_true, fail, run_throw] at h
    cases h
    rfl
  rcases hg : r.getdel (sharedPrefix ++ state) w.pendingNow with ⟨raw, r'⟩
  simp only [pendingTake, run_bind, run_get, hp, hg, Bool.not_true, Bool.false_eq_true, if_false,
    run_set] at h
  rcases raw with _ | raw
  · cases h
  simp only [run_bind, run_liftExcept] at h
  rcases hr : readShared raw w.pendingNow ttl with e | found <;> rw [hr] at h
  · cases h
    exact readShared_uncaught hr
  · dsimp only at h
    split at h <;> cases h

/-- The attempt at the sign-in under the callback's handler: a grant comes back as such, an
authorization error as the fault to report, and any other fault is raised. -/
theorem signInAttempt_run (c : Caller) (code verifier : Json) (w : World) :
    (tryCatch (Sum.inr <$> completeSignIn c code verifier) fun f =>
        if f.isA .authorization then pure (Sum.inl f) else fail f).run.run w =
      match (completeSignIn c code verifier).run.run w with
      | (.ok cred, v) => (.ok (Sum.inr cred), v)
      | (.error f, v) => (if f.isA .authorization then .ok (Sum.inl f) else .error f, v) := by
  rw [run_tryCatch, map_eq_pure_bind, run_bind]
  rcases (completeSignIn c code verifier).run.run w with ⟨f | cred, v⟩
  · dsimp only
    split <;> rfl
  · rfl

/-- What a callback of the caller `c` from world `w` ends in, with result `r` and world `v`. -/
structure Answered (w : World) (c : Caller) (code state error description : Json)
    (r : Except Fault CallbackResult) (v : World) : Prop where
  /-- A callback raises only past its own checks and with a fault it lets through: the pending
  store could not hand over a verifier, or it did and the exchange was granted, and the grant
  could not be stored. -/
  raised : ∀ f, r = .error f → f.Uncaught ∧ error.truthy = false ∧ code.truthy = true ∧
    state.truthy = true ∧ (((pendingTake state.plainText).run.run w).1 = .error f ∨
      (∃ j, ((pendingTake state.plainText).run.run w).1 = .ok (some j)) ∧ Granted w)
  /-- An unsuccessful result sends the caller to the dashboard with its reason. -/
  redirected : ∀ res, r = .ok res → res.success = false → ∃ reason, res.reason = some reason ∧
    res.redirectUrl = v.settings.publicBaseUrl ++ "/dashboard/settings/oauth-accounts?" ++
      Text.formEncode [("error", reason.plainText)]
  /-- A success passed the checks, had a verifier handed over and the exchange granted, and
  reports a grant the store holds under the caller, the world's provider and the caller's
  email. -/
  succeeded : ∀ res, r = .ok res → res.success = true → error.truthy = false ∧ code.truthy = true ∧
    state.truthy = true ∧ (∃ j, ((pendingTake state.plainText).run.run w).1 = .ok (some j)) ∧
    Granted w ∧ ∃ cred, res.credentialId = some cred.id ∧ cred ∈ v.store.rows ∧
      cred.key = (c.userId, w.provider.plainText, c.email)
  /-- A callback that passes its checks, has a verifier handed over and the exchange granted
  reports no failure. -/
  granted : error.truthy = false → code.truthy = true → state.truthy = true →
    (∃ j, ((pendingTake state.plainText).run.run w).1 = .ok (some j)) → Granted w →
    ∀ res, r = .ok res → res.success = true
  /-- Only a success writes the credential rows. -/
  unchanged : ¬ Completes r → v.store.rows = w.store.rows

section Answers

variable {w : World} {c : Caller} {code state error description : Json}

/-- A callback that ends in a reported failure, in a world with the rows of `w`, answers as
`Answered` says when the conditions of a granted sign-in do not all hold. -/
theorem answered_failure (reason : Json) {u : World} (hrows : u.store.rows = w.store.rows)
    (hnot : error.truthy = false → code.truthy = true → state.truthy = true →
      (∃ j, ((pendingTake state.plainText).run.run w).1 = .ok (some j)) → Granted w → False) :
    Answered w c code state error description ((failure reason).run.run u).1
      ((failure reason).run.run u).2 :=
  ⟨fun _ h => (by cases h), fun _ h _ => (by cases h; exact ⟨reason, rfl, rfl⟩),
    fun _ h hs => (by cases h; cases hs), fun he hc hs hj hg => (hnot he hc hs hj hg).elim,
    fun _ => hrows⟩

/-- A callback that raises a fault it lets through, past its checks, answers as `Answered` says. -/
theorem answered_raised {f : Fault} {v : World} (hf : f.Uncaught) (he : error.truthy = false)
    (hc : code.truthy = true) (hs : state.truthy = true)
    (hwhere : ((pendingTake state.plainText).run.run w).1 = .error f ∨
      (∃ j, ((pendingTake state.plainText).run.run w).1 = .ok (some j)) ∧ Granted w)
    (hrows : v.store.rows = w.store.rows) :
    Answered w c code state error description (.error f) v :=
  ⟨fun _ h => (by cases h; exact ⟨hf, he, hc, hs, hwhere⟩), fun _ h => (by cases h),
    fun _ h => (by cases h), fun _ _ _ _ _ _ h => (by cases h), fun _ => hrows⟩

/-- A callback that succeeds with a grant of the caller answers as `Answered` says. -/
theorem answered_success {res : CallbackResult} {v : World} (hok : res.success = true)
    (he : error.truthy = false) (hc : code.truthy = true) (hs : state.truthy = true)
    (hj : ∃ j, ((pendingTake state.plainText).run.run w).1 = .ok (some j)) (hg : Granted w)
    (hcred : ∃ cred, res.credentialId = some cred.id ∧ cred ∈ v.store.rows ∧
      cred.key = (c.userId, w.provider.plainText, c.email)) :
    Answered w c code state error description (.ok res) v :=
  ⟨fun _ h => (by cases h), fun _ h hf => (by cases h; rw [hok] at hf; cases hf),
    fun _ h _ => (by cases h; exact ⟨he, hc, hs, hj, hg, hcred⟩), fun _ _ _ _ _ _ h => (by cases h; exact hok),
    fun hn => absurd ⟨res, rfl, hok⟩ hn⟩

end Answers

/-- A world whose pending sign-ins sit in a shared store that was closed, with a token response
queued at the endpoint. -/
def closedStoreWorld : World :=
  { (default : World) with
    pending := .shared {} 600.0 false
    endpoint := { queue := [{ reply := .response 200 (some (.obj [("access_token", .str "access-1")])) }] } }

end Service

end MailIngest
