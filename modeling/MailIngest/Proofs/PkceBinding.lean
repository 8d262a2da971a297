import MailIngest.Proofs.PendingEntries

/-!
# Exchanges bound to their challenges

A sign-in is started in one request and completed in another: the start draws a PKCE verifier
and a state, keeps the verifier in the pending store under the state, and returns the consent
address, which carries the verifier's challenge; the provider's callback brings the state back,
and the service takes the verifier from the store and posts it with the code to the token
endpoint. Between the two, any number of other sign-ins may start and complete, the pending
clock may move either way, and entries expire.

`serveCalls` serves a sequence of starts, callbacks and clock moves and keeps a log of what
each call did. Over any such sequence, from an empty store of either kind, and as long as the
states that starts return never repeat:

- every post is the one exchange of a callback;
- an exchange for a state posts the verifier whose challenge went out in the address returned
  with that state, while the state's entry was fresh;
- no two callbacks exchange for one state, so replayed, expired and unknown states post
  nothing (`exchanges_match_challenges`).

The proof goes through the sign-in part of the world (`SignIns`): every step of the service
but keeping and taking an entry leaves the store and the clock alone, and only the token
exchange posts (`KeepsSignIns`, `exchangeCode_posts`). A start keeps one entry
(`startAuthorization_spec`), a callback takes one and posts at most one exchange of what it
found (`handleCallback_spec`). The invariant `Ready` says that every entry of the store was
issued by a start of the log and has not been exchanged; `serveCall_ready` shows one call
keeps it, and `serveCalls_bound` runs it over the sequence.
-/

namespace MailIngest.Service

open OAuth PendingStore

/-! ## The sign-in part of the world -/

/-- What sign-ins read and leave: the pending store, its clock, and the forms posted to the
token endpoint. -/
structure SignIns where
  store : PendingStore
  clock : Float
  posts : List Json

def World.signIns (w : World) : SignIns := ⟨w.pending, w.pendingNow, w.endpoint.posts⟩

/-- `S'` is `S` with one more post: a form whose code verifier is `v`. -/
def SignIns.Posted (S : SignIns) (v : Json) (S' : SignIns) : Prop :=
  S'.store = S.store ∧ S'.clock = S.clock ∧
    ∃ url form t, S'.posts = S.posts ++ [Endpoint.postRecord url form t] ∧
      Json.lookup "code_verifier" form = some v

/-- A step leaves the pending store, its clock and the endpoint's posts as they are. -/
def KeepsSignIns {α : Type} (x : Act α) : Prop := ∀ Q : SignIns → Prop, Keeps (fun w => Q w.signIns) x

section Frame

variable {α β : Type}

theorem KeepsSignIns.pure (a : α) : KeepsSignIns (Pure.pure a : Act α) := fun _ => Keeps.pure a

theorem KeepsSignIns.bind {x : Act α} {f : α → Act β} (hx : KeepsSignIns x)
    (hf : ∀ a, KeepsSignIns (f a)) : KeepsSignIns (x >>= f) :=
  fun Q => Keeps.bind (hx Q) fun a => hf a Q

theorem KeepsSignIns.tryCatch {x : Act α} {h : Fault → Act α} (hx : KeepsSignIns x)
    (hh : ∀ f, KeepsSignIns (h f)) : KeepsSignIns (MonadExcept.tryCatch x h) :=
  fun Q => Keeps.tryCatch (hx Q) fun f => hh f Q

theorem KeepsSignIns.map {x : Act α} (g : α → β) (hx : KeepsSignIns x) : KeepsSignIns (g <$> x) :=
  fun Q => Keeps.map g (hx Q)

/-- A step that keeps the sign-in part keeps every property of it. -/
theorem KeepsSignIns.triple {x : Act α} (hx : KeepsSignIns x) (S : SignIns) :
    Triple (fun w => w.signIns = S) x fun _ w => w.signIns = S :=
  hx fun S' => S' = S

theorem fail_keepsSignIns (f : Fault) : KeepsSignIns (fail f : Act α) := fun _ => Keeps.throw f

theorem get_keepsSignIns : KeepsSignIns (get : Act World) := fun _ => Keeps.get

theorem liftOutcome_keepsSignIns (r : Outcome α) : KeepsSignIns (liftM r : Act α) :=
  fun _ => Keeps.liftExcept r

theorem sealing_keepsSignIns (m : Vault.SealM α) : KeepsSignIns (sealing m) :=
  fun _ => Keeps.bind (Keeps.modifyGet fun _ hw => hw) fun _ => Keeps.ofExcept _

theorem onStore_keepsSignIns (f : Store.Credentials → α × Store.Credentials) :
    KeepsSignIns (onStore f) :=
  fun _ => Keeps.modifyGet fun _ hw => hw

theorem utcNow_keepsSignIns : KeepsSignIns utcNow := by
  refine KeepsSignIns.bind get_keepsSignIns fun w => ?_
  split <;> exact KeepsSignIns.pure _

theorem storeNow_keepsSignIns : KeepsSignIns storeNow :=
  KeepsSignIns.bind get_keepsSignIns fun _ => KeepsSignIns.pure _

theorem providerConfig_keepsSignIns (provider : Json) : KeepsSignIns (providerConfig provider) :=
  KeepsSignIns.bind get_keepsSignIns fun _ => liftOutcome_keepsSignIns _

theorem failure_keepsSignIns (reason : Json) : KeepsSignIns (failure reason) :=
  KeepsSignIns.bind (KeepsSignIns.bind get_keepsSignIns fun _ => KeepsSignIns.pure _)
    fun _ => KeepsSignIns.pure _

theorem sealRefresh_keepsSignIns (r : Option String) : KeepsSignIns (sealRefresh r) := by
  unfold sealRefresh
  split
  · split
    · exact KeepsSignIns.pure _
    · exact KeepsSignIns.map _ (sealing_keepsSignIns _)
  · exact KeepsSignIns.pure _

theorem ensureUser_keepsSignIns (user : String) (email : Option String) :
    KeepsSignIns (ensureUser user email) :=
  onStore_keepsSignIns _

/-- Storing tokens seals them and writes the credential store, nothing a sign-in reads. -/
theorem storeToken_keepsSignIns (user provider email : String) (t : Tokens) :
    KeepsSignIns (storeToken user provider email t) := by
  unfold storeToken
  refine KeepsSignIns.bind (sealing_keepsSignIns _) fun _ => ?_
  refine KeepsSignIns.bind (sealRefresh_keepsSignIns _) fun _ => ?_
  refine KeepsSignIns.bind (ensureUser_keepsSignIns _ _) fun _ => ?_
  refine KeepsSignIns.bind utcNow_keepsSignIns fun _ => ?_
  refine KeepsSignIns.bind (liftOutcome_keepsSignIns _) fun _ => ?_
  refine KeepsSignIns.bind storeNow_keepsSignIns fun _ => ?_
  exact KeepsSignIns.bind (onStore_keepsSignIns _) fun _ => fun _ => Keeps.ofExcept _

end Frame

/-! ## Posting the exchange -/

/-- A post to the token endpoint adds its record to the posts, and changes nothing else a
sign-in reads. -/
theorem postForm_posts (url : String) (form : List (String × Json)) (S : SignIns) :
    Triple (fun w => w.signIns = S) (postForm url form) fun _ w =>
      ∃ t, w.signIns = { S with posts := S.posts ++ [Endpoint.postRecord url form t] } := by
  unfold postForm
  dsimp only
  refine Triple.get_bind fun w hw => Triple.set_bind ?_
  have hset : ∃ t, World.signIns { w with endpoint := (w.endpoint.post url form
      w.settings.requestTimeoutSeconds).2 } = { S with posts := S.posts ++ [Endpoint.postRecord url form t] } :=
    ⟨w.settings.requestTimeoutSeconds, by
      subst hw
      simp only [World.signIns, post_posts]⟩
  intro w' hw'
  subst hw'
  split
  · exact KeepsSignIns.bind (onStore_keepsSignIns _) (fun _ => KeepsSignIns.pure _)
      (fun S' => ∃ t, S' = { S with posts := S.posts ++ [Endpoint.postRecord url form t] }) _ hset
  · exact hset

/-- The code verifier of an exchange's form is the verifier it was given. -/
theorem lookup_exchangeForm (c : ProviderConfig) (code verifier : Json) :
    Json.lookup "code_verifier" ([("client_id", .str c.clientId), ("code", code),
      ("redirect_uri", .str c.redirectUri), ("grant_type", .str "authorization_code"),
      ("code_verifier", verifier)] ++ clientSecretField c) = some verifier := by
  have h1 : ("client_id" = "code_verifier") = False := by decide
  have h2 : ("code" = "code_verifier") = False := by decide
  have h3 : ("redirect_uri" = "code_verifier") = False := by decide
  have h4 : ("grant_type" = "code_verifier") = False := by decide
  simp [Json.lookup, h1, h2, h3, h4]

/-- An exchange posts exactly one form, with the verifier it was given. -/
theorem exchangeCode_posts (c : ProviderConfig) (code verifier : Json) (S : SignIns) :
    Triple (fun w => w.signIns = S) (exchangeCode c code verifier) fun _ w =>
      S.Posted verifier w.signIns := by
  unfold exchangeCode
  refine Triple.bind (postForm_posts _ _ S) (fun reply => ?_) fun _ _ h => ?_
  rotate_left
  · obtain ⟨t, ht⟩ := h
    exact ⟨by rw [ht], by rw [ht], _, _, t, by rw [ht], lookup_exchangeForm c code verifier⟩
  intro w ⟨t, ht⟩
  have hposted : S.Posted verifier w.signIns :=
    ⟨by rw [ht], by rw [ht], _, _, t, by rw [ht], lookup_exchangeForm c code verifier⟩
  refine (?_ : KeepsSignIns _) (S.Posted verifier) w hposted
  split
  · exact fail_keepsSignIns _
  · split
    · exact fail_keepsSignIns _
    · split
      · exact KeepsSignIns.pure _
      · exact fail_keepsSignIns _

/-- Completing a sign-in posts nothing, when the provider is unknown, or one exchange of the
verifier it was given. -/
theorem completeSignIn_posts (c : Caller) (code verifier : Json) (S : SignIns) :
    Triple (fun w => w.signIns = S) (completeSignIn c code verifier) fun _ w =>
      w.signIns = S ∨ S.Posted verifier w.signIns := by
  unfold completeSignIn
  refine Triple.get_bind fun w hw => ?_
  refine Triple.conseq (P := fun w' => w'.signIns = S) ?_ (fun _ h => h ▸ hw) fun _ _ h => h
  refine Triple.bind ((providerConfig_keepsSignIns _).triple S) (fun config => ?_)
    fun _ _ h => .inl h
  refine Triple.bind (exchangeCode_posts config code verifier S) (fun tokens => ?_)
    fun _ _ h => .inr h
  have hrest := KeepsSignIns.bind (ensureUser_keepsSignIns c.userId (some c.email))
    fun _ => storeToken_keepsSignIns c.userId w.provider.plainText c.email tokens
  exact Triple.conseq (hrest (S.Posted verifier)) (fun _ h => h) fun _ _ h => .inr h

/-! ## Starts and callbacks -/

theorem requireCaller_run (caller : Option Caller) (w : World) :
    ∃ r, (requireCaller caller).run.run w = (r, w) := by
  unfold requireCaller
  split
  · split
    · exact ⟨_, rfl⟩
    · exact ⟨_, rfl⟩
  · exact ⟨_, rfl⟩

theorem providerConfig_run (provider : Json) (w : World) :
    (providerConfig provider).run.run w = (resolve provider w.settings, w) := by
  simp only [providerConfig, run_bind, run_get, run_liftExcept]

theorem drawing_run {α : Type} (f : Entropy → α × Entropy) (w : World) :
    (drawing f).run.run w =
      (.ok (f w.sealer.entropy).1, { w with sealer := { w.sealer with entropy := (f w.sealer.entropy).2 } }) :=
  rfl

/-- What a start does to the sign-in part of the world: a start that fails leaves the store as
it was; one that goes through keeps the verifier of a drawn challenge under the state it
returns with the consent address, at the pending clock. The clock and the posts stay. -/
def Started (S : SignIns) (r : Except Fault (String × String)) (S' : SignIns) : Prop :=
  S'.clock = S.clock ∧ S'.posts = S.posts ∧
    (r.toOption = none ∧ S'.store = S.store ∨
     ∃ cfg ch s, r = .ok (authorizationUrl cfg s ch, s) ∧ ch.Drawn ∧
       S'.store = S.store.put s ch.verifier S.clock)

theorem startAuthorization_spec (caller : Option Caller) (w : World) :
    Started w.signIns ((startAuthorization caller).run.run w).1
      ((startAuthorization caller).run.run w).2.signIns := by
  have hquiet : ∀ f : Fault, Started w.signIns (.error f) w.signIns :=
    fun _ => ⟨rfl, rfl, .inl ⟨rfl, rfl⟩⟩
  unfold startAuthorization
  obtain ⟨r, hr⟩ := requireCaller_run caller w
  rw [run_bind, hr]
  cases r with
  | error f => exact hquiet f
  | ok c =>
    simp only [run_bind, run_get, providerConfig_run]
    cases hcfg : resolve w.provider w.settings with
    | error f => exact hquiet f
    | ok cfg =>
      simp only [drawing_run]
      cases hlive : w.pending.live
      · rw [pendingPut_closed]
        · exact hquiet _
        · exact hlive
      · rw [pendingPut_live]
        · exact ⟨rfl, rfl, .inr ⟨cfg, _, _, rfl, ⟨_, rfl⟩, rfl⟩⟩
        · exact hlive

/-- What a callback does to the sign-in part of the world: nothing; or, on a live store, it
takes the entry of its state and then posts nothing, or one exchange of the verifier the take
found. -/
def Called (S : SignIns) (s : String) (S' : SignIns) : Prop :=
  S' = S ∨ S.store.live = true ∧
    (S' = { S with store := S.store.drop s S.clock } ∨
     ∃ j, S.store.Found s S.clock j ∧ ({ S with store := S.store.drop s S.clock } : SignIns).Posted j S')

theorem dashboardUrl_keepsSignIns (params : List (String × String)) :
    KeepsSignIns (dashboardUrl params) :=
  KeepsSignIns.bind get_keepsSignIns fun _ => KeepsSignIns.pure _

theorem handleCallback_spec (caller : Option Caller) (code state error description : Json)
    (w : World) :
    Called w.signIns state.plainText
      ((handleCallback caller code state error description).run.run w).2.signIns := by
  unfold handleCallback
  obtain ⟨r, hr⟩ := requireCaller_run caller w
  rw [run_bind, hr]
  cases r with
  | error f => exact .inl rfl
  | ok c =>
    simp only
    split
    · exact .inl (failure_keepsSignIns _ (· = w.signIns) w rfl)
    split
    · exact .inl (failure_keepsSignIns _ (· = w.signIns) w rfl)
    rw [run_bind]
    cases hlive : w.pending.live
    · rw [pendingTake_closed _ _ hlive]
      exact .inl rfl
    obtain ⟨r, hr, hfound⟩ := pendingTake_live state.plainText w hlive
    rw [hr]
    rcases r with f | _ | j
    · exact .inr ⟨hlive, .inl rfl⟩
    · exact .inr ⟨hlive, .inl (failure_keepsSignIns _ (· = _) _ rfl)⟩
    simp only
    let S1 : SignIns := { w.signIns with store := w.pending.drop state.plainText w.pendingNow }
    have hpost : ∀ S', S' = S1 ∨ S1.Posted j S' → Called w.signIns state.plainText S' := by
      rintro S' (h | h)
      · exact .inr ⟨hlive, .inl h⟩
      · exact .inr ⟨hlive, .inr ⟨j, hfound j rfl, h⟩⟩
    refine (?_ : Triple (fun w' : World => w'.signIns = S1) _ fun _ w' => Called w.signIns
      state.plainText w'.signIns) _ rfl
    refine Triple.bind (R := fun _ w' => w'.signIns = S1 ∨ S1.Posted j w'.signIns)
      (Triple.tryCatch (R := fun _ w' => w'.signIns = S1 ∨ S1.Posted j w'.signIns)
        (Triple.map (completeSignIn_posts c code j S1)) (fun _ _ h => h) fun f => ?_) (fun signedIn => ?_) fun _ w' h => hpost _ h
    · refine (?_ : KeepsSignIns _) (fun S' => S' = S1 ∨ S1.Posted j S')
      split
      · exact KeepsSignIns.pure _
      · exact fail_keepsSignIns _
    · refine Triple.conseq ((?_ : KeepsSignIns _) (fun S' => S' = S1 ∨ S1.Posted j S'))
        (fun _ h => h) fun _ w' h => hpost _ h
      split
      · exact failure_keepsSignIns _
      · exact KeepsSignIns.bind (dashboardUrl_keepsSignIns _) fun _ => KeepsSignIns.pure _

/-! ## Serving calls -/

/-- A call to the sign-in service: a start, a provider's callback, or the pending clock moving
to a time, later or earlier. -/
inductive SignInCall where
  | start (caller : Option Caller)
  | callback (caller : Option Caller) (code state error description : Json)
  | clock (now : Float)

def SignInCall.callbackState : SignInCall → Option String
  | .callback _ _ state _ _ => some state.plainText
  | _ => none

/-- One call as it was served: the call, the pending clock it ran at, the consent address and
state it returned when it was a start that went through, and the forms it posted to the token
endpoint. -/
structure Served where
  call : SignInCall
  clock : Float
  issued : Option (String × String)
  posts : List Json

def newPosts (w w' : World) : List Json := w'.endpoint.posts.drop w.endpoint.posts.length

def serveCall (w : World) : SignInCall → Served × World
  | .start caller =>
    let r := (startAuthorization caller).run.run w
    (⟨.start caller, w.pendingNow, r.1.toOption, newPosts w r.2⟩, r.2)
  | .callback caller code state error description =>
    let r := (handleCallback caller code state error description).run.run w
    (⟨.callback caller code state error description, w.pendingNow, none, newPosts w r.2⟩, r.2)
  | .clock now => (⟨.clock now, w.pendingNow, none, []⟩, { w with pendingNow := now })

def serveCalls (w : World) : List SignInCall → List Served × World
  | [] => ([], w)
  | c :: cs =>
    let r := serveCall w c
    let rest := serveCalls r.2 cs
    (r.1 :: rest.1, rest.2)

def issuedStates (log : List Served) : List String := log.filterMap fun e => e.issued.map Prod.snd

/-- A served call exchanged a code for state `s` with verifier `v`: it was a callback with that
state, and it posted one form, whose code verifier is `v`. -/
def Served.Exchanged (e : Served) (s v : String) : Prop :=
  e.call.callbackState = some s ∧
    ∃ url form t, e.posts = [Endpoint.postRecord url form t] ∧
      Json.lookup "code_verifier" form = some (.str v)

/-- The binding of exchanges to challenges over a log, for a store that expires entries as
`P` does:
- every call posts nothing, or the one exchange of a callback;
- an exchange for state `s` posts a verifier `v` whose challenge is the one the consent address
  issued with `s` carries, and comes while the entry made by that start is fresh;
- no two calls exchange for one state. -/
structure PkceBound (P : PendingStore) (log : List Served) : Prop where
  posts : ∀ e ∈ log, e.posts = [] ∨ ∃ s v, e.Exchanged s v
  bound : ∀ (i : Nat) (e : Served) s v, log[i]? = some e → e.Exchanged s v →
    ∃ e' ∈ log.take i, ∃ cfg ch, e'.issued = some (authorizationUrl cfg s ch, s) ∧
      codeChallenge v = .ok ch.challenge ∧ P.Fresh e'.clock e.clock
  once : ∀ (i k : Nat) (e e' : Served) s v v', log[i]? = some e → log[k]? = some e' → e.Exchanged s v →
    e'.Exchanged s v' → i = k

theorem Served.not_exchanged {e : Served} (h : e.posts = []) (s v : String) : ¬ e.Exchanged s v := by
  rintro ⟨-, url, form, t, hp, -⟩
  rw [h] at hp
  cases hp

theorem Served.Exchanged.unique {e : Served} {s s' v v' : String} (h : e.Exchanged s v)
    (h' : e.Exchanged s' v') : s = s' ∧ v = v' := by
  obtain ⟨hs, url, form, t, hp, hv⟩ := h
  obtain ⟨hs', url', form', t', hp', hv'⟩ := h'
  rw [hp] at hp'
  simp only [Endpoint.postRecord, List.cons.injEq, Json.obj.injEq, Prod.mk.injEq, and_true] at hp'
  obtain ⟨-, ⟨-, rfl⟩, -⟩ := hp'
  rw [hv] at hv'
  exact ⟨Option.some.inj (hs.symm.trans hs'), by simpa using hv'⟩

private theorem getElem?_snoc {log : List Served} {e x : Served} {i : Nat}
    (h : (log ++ [e])[i]? = some x) : (i < log.length ∧ log[i]? = some x) ∨ (i = log.length ∧ x = e) := by
  by_cases hi : i < log.length
  · exact .inl ⟨hi, by rwa [List.getElem?_append_left hi] at h⟩
  · rw [List.getElem?_append_right (by omega)] at h
    have h0 : i - log.length = 0 := by
      cases hk : i - log.length with
      | zero => rfl
      | succ k => rw [hk] at h; simp at h
    rw [h0] at h
    exact .inr ⟨by omega, by simpa using h.symm⟩

theorem PkceBound.nil (P : PendingStore) : PkceBound P [] where
  posts _ h := by cases h
  bound _ _ _ _ h := by simp at h
  once _ _ _ _ _ _ _ h := by simp at h

theorem PkceBound.snoc_quiet {P : PendingStore} {log : List Served} {e : Served}
    (h : PkceBound P log) (he : e.posts = []) : PkceBound P (log ++ [e]) := by
  refine ⟨fun x hx => ?_, fun i x s v hx hxv => ?_, fun i k x x' s v v' hx hx' hxv hxv' => ?_⟩
  · rcases List.mem_append.mp hx with hx | hx
    · exact h.posts x hx
    · rw [List.mem_singleton.mp hx]; exact .inl he
  · rcases getElem?_snoc hx with ⟨hi, hx⟩ | ⟨-, rfl⟩
    · rw [List.take_append_of_le_length (Nat.le_of_lt hi)]
      exact h.bound i x s v hx hxv
    · exact absurd hxv (Served.not_exchanged he s v)
  · rcases getElem?_snoc hx with ⟨-, hxi⟩ | ⟨-, rfl⟩
    · rcases getElem?_snoc hx' with ⟨-, hxk⟩ | ⟨-, rfl⟩
      · exact h.once i k x x' s v v' hxi hxk hxv hxv'
      · exact absurd hxv' (Served.not_exchanged he s v')
    · exact absurd hxv (Served.not_exchanged he s v)

/-- A call that exchanges for a state the log issued, while its entry was fresh, and for which
no call of the log exchanged, keeps the binding. -/
theorem PkceBound.snoc_exchange {P : PendingStore} {log : List Served} {e : Served} {s v : String}
    (h : PkceBound P log) (he : e.Exchanged s v)
    (hissued : ∃ e' ∈ log, ∃ cfg ch, e'.issued = some (authorizationUrl cfg s ch, s) ∧
      codeChallenge v = .ok ch.challenge ∧ P.Fresh e'.clock e.clock)
    (hnew : ∀ e' ∈ log, ∀ v', ¬ e'.Exchanged s v') : PkceBound P (log ++ [e]) := by
  refine ⟨fun x hx => ?_, fun i x s' v' hx hxv => ?_, fun i k x x' s' v' v'' hx hx' hxv hxv' => ?_⟩
  · rcases List.mem_append.mp hx with hx | hx
    · exact h.posts x hx
    · rw [List.mem_singleton.mp hx]; exact .inr ⟨s, v, he⟩
  · rcases getElem?_snoc hx with ⟨hi, hx⟩ | ⟨rfl, rfl⟩
    · rw [List.take_append_of_le_length (Nat.le_of_lt hi)]
      exact h.bound i x s' v' hx hxv
    · obtain ⟨rfl, rfl⟩ := he.unique hxv
      rw [List.take_append_of_le_length (Nat.le_refl _), List.take_length]
      exact hissued
  -- an exchange of the log for the state would contradict `hnew`
  · rcases getElem?_snoc hx with ⟨-, hxi⟩ | ⟨rfl, rfl⟩
    · rcases getElem?_snoc hx' with ⟨-, hxk⟩ | ⟨rfl, rfl⟩
      · exact h.once i k x x' s' v' v'' hxi hxk hxv hxv'
      · obtain ⟨rfl, -⟩ := he.unique hxv'
        exact absurd hxv (hnew x (List.mem_of_getElem? hxi) v')
    · obtain ⟨rfl, -⟩ := he.unique hxv
      rcases getElem?_snoc hx' with ⟨-, hxk⟩ | ⟨rfl, -⟩
      · exact absurd hxv' (hnew x' (List.mem_of_getElem? hxk) v'')
      · rfl

/-! ## The invariant of serving -/

/-- What an entry of the pending store stands for, given the calls served so far: a start of
the log issued its state, at the time the entry was made, with a drawn challenge whose
verifier the entry holds; and no call of the log has exchanged for the state. -/
def Pending (log : List Served) (s v : String) (t : Float) : Prop :=
  (∃ e ∈ log, e.clock = t ∧ ∃ cfg ch, e.issued = some (authorizationUrl cfg s ch, s) ∧
    ch.verifier = v ∧ ch.Drawn) ∧
  ∀ e ∈ log, ∀ v', ¬ e.Exchanged s v'

/-- The invariant of serving from a store that expires entries as `P` does: every entry stands
for an issue of the log that has not been exchanged, the store still expires entries as `P`
does, and the log binds its exchanges. -/
structure Ready (P : PendingStore) (log : List Served) (w : World) : Prop where
  entries : w.pending.All (Pending log)
  fresh : w.pending.Fresh = P.Fresh
  bound : PkceBound P log

theorem Pending.verbatim {log : List Served} {s v : String} {t : Float} (h : Pending log s v t) :
    ∀ c ∈ v.toList, Json.Verbatim c := by
  obtain ⟨⟨_, _, _, _, ch, _, rfl, hdrawn⟩, _⟩ := h
  exact hdrawn.verbatim

/-- An entry still stands after a call that does not exchange for its state. -/
theorem Pending.snoc {log : List Served} {e : Served} {s v : String} {t : Float}
    (h : Pending log s v t) (he : ∀ v', ¬ e.Exchanged s v') : Pending (log ++ [e]) s v t := by
  obtain ⟨⟨e', he', hrest⟩, hnew⟩ := h
  refine ⟨⟨e', List.mem_append_left _ he', hrest⟩, fun x hx v' => ?_⟩
  rcases List.mem_append.mp hx with hx | hx
  · exact hnew x hx v'
  · rw [List.mem_singleton.mp hx]; exact he v'

/-- No call of a binding log exchanged for a state that a later start issues, when issued
states never repeat. -/
theorem PkceBound.fresh_state {P : PendingStore} {log : List Served} {e : Served} {url s : String}
    (h : PkceBound P log) (hstates : (issuedStates (log ++ [e])).Nodup)
    (he : e.issued = some (url, s)) : ∀ x ∈ log, ∀ v, ¬ x.Exchanged s v := by
  intro x hx v hxv
  obtain ⟨i, hi⟩ := List.mem_iff_getElem?.mp hx
  obtain ⟨e', he', cfg, ch, hiss, -⟩ := h.bound i x s v hi hxv
  -- the state would be issued twice: once in the log, once by `e`
  have hmem : s ∈ issuedStates log :=
    List.mem_filterMap.mpr ⟨e', List.mem_of_mem_take he', by simp [hiss]⟩
  simp only [issuedStates, List.filterMap_append, List.filterMap_cons, List.filterMap_nil, he,
    Option.map_some] at hstates
  exact (List.nodup_append.mp hstates).2.2 s hmem s (List.mem_singleton_self s) rfl

theorem newPosts_of_posts_eq {w w' : World} (h : w'.endpoint.posts = w.endpoint.posts) :
    newPosts w w' = [] := by
  simp [newPosts, h]

theorem newPosts_of_append {w w' : World} {ps : List Json}
    (h : w'.endpoint.posts = w.endpoint.posts ++ ps) : newPosts w w' = ps := by
  simp [newPosts, h]

/-- A call that posts nothing and leaves the store keeps the invariant. -/
theorem Ready.quiet {P : PendingStore} {log : List Served} {w w' : World} {e : Served}
    (h : Ready P log w) (he : e.posts = []) (hw : w'.pending = w.pending) :
    Ready P (log ++ [e]) w' where
  entries := hw ▸ h.entries.mono fun _ _ _ hp => hp.snoc fun v => Served.not_exchanged he _ v
  fresh := hw ▸ h.fresh
  bound := h.bound.snoc_quiet he

/-- One call keeps the invariant, as long as a start issues a state no earlier start issued. -/
theorem serveCall_ready {P : PendingStore} {log : List Served} {w : World} (c : SignInCall)
    (h : Ready P log w) (hstates : (issuedStates (log ++ [(serveCall w c).1])).Nodup) :
    Ready P (log ++ [(serveCall w c).1]) (serveCall w c).2 := by
  cases c with
  | start caller =>
    obtain ⟨-, hposts, hstore⟩ := startAuthorization_spec caller w
    have hquiet := newPosts_of_posts_eq hposts
    rcases hstore with ⟨-, hstore⟩ | ⟨cfg, ch, s, hr, hdrawn, hstore⟩
    · exact h.quiet hquiet hstore
    have hissued : (serveCall w (.start caller)).1.issued = some (authorizationUrl cfg s ch, s) := by
      show ((startAuthorization caller).run.run w).1.toOption = _
      rw [hr]
      rfl
    have hp : (serveCall w (.start caller)).2.pending = w.pending.put s ch.verifier w.pendingNow :=
      hstore
    refine ⟨?_, by rw [hp, fresh_put, h.fresh], h.bound.snoc_quiet hquiet⟩
    rw [hp]
    refine (h.entries.mono fun _ _ _ hg => hg.snoc fun v => Served.not_exchanged hquiet _ v).put
      ⟨⟨_, List.mem_append_right _ (List.mem_singleton_self _), rfl, cfg, ch, hissued, rfl, hdrawn⟩,
        fun x hx v => ?_⟩
    rcases List.mem_append.mp hx with hx | hx
    · exact h.bound.fresh_state hstates hissued x hx v
    · rw [List.mem_singleton.mp hx]
      exact Served.not_exchanged hquiet _ v
  | callback caller code state error description =>
    rcases handleCallback_spec caller code state error description w with
      hsame | ⟨-, hdrop | ⟨j, hfound, hposted⟩⟩
    · exact h.quiet (newPosts_of_posts_eq (congrArg SignIns.posts hsame))
        (congrArg SignIns.store hsame)
    · have hquiet := newPosts_of_posts_eq (congrArg SignIns.posts hdrop)
      have hp : (serveCall w (.callback caller code state error description)).2.pending =
          w.pending.drop state.plainText w.pendingNow := congrArg SignIns.store hdrop
      refine ⟨?_, by rw [hp, fresh_drop, h.fresh], h.bound.snoc_quiet hquiet⟩
      rw [hp]
      exact h.entries.drop.mono fun _ _ _ hg => hg.1.snoc fun v => Served.not_exchanged hquiet _ v
    · obtain ⟨hp, -, url, form, t, hposts, hlookup⟩ := hposted
      obtain ⟨v, t0, rfl, hpending, hfresh⟩ :=
        found_entry h.entries (fun _ _ _ hg => hg.verbatim) hfound
      have hex : (serveCall w (.callback caller code state error description)).1.Exchanged
          state.plainText v := ⟨rfl, url, form, t, newPosts_of_append hposts, hlookup⟩
      have hp : (serveCall w (.callback caller code state error description)).2.pending =
          w.pending.drop state.plainText w.pendingNow := hp
      refine ⟨?_, by rw [hp, fresh_drop, h.fresh], ?_⟩
      · rw [hp]
        exact h.entries.drop.mono fun _ _ _ hg =>
          hg.1.snoc fun _ hx => hg.2 (hex.unique hx).1.symm
      · obtain ⟨⟨e', he', hclock, cfg, ch, hiss, rfl, hdrawn⟩, hnew⟩ := hpending
        refine h.bound.snoc_exchange hex
          ⟨e', he', cfg, ch, hiss, hdrawn.codeChallenge, ?_⟩ hnew
        rw [hclock, ← h.fresh]
        exact hfresh
  | clock now => exact h.quiet rfl rfl

/-- Serving a sequence of calls keeps the invariant, as long as starts never issue a state
twice. -/
theorem serveCalls_ready {P : PendingStore} :
    ∀ (calls : List SignInCall) (log : List Served) (w : World), Ready P log w →
      (issuedStates (log ++ (serveCalls w calls).1)).Nodup →
      Ready P (log ++ (serveCalls w calls).1) (serveCalls w calls).2
  | [], log, w, h, _ => by simpa [serveCalls] using h
  | c :: cs, log, w, h, hstates => by
    have hsplit : log ++ (serveCalls w (c :: cs)).1 =
        (log ++ [(serveCall w c).1]) ++ (serveCalls (serveCall w c).2 cs).1 := by
      simp [serveCalls]
    rw [hsplit] at hstates ⊢
    have hstep : (issuedStates (log ++ [(serveCall w c).1])).Nodup := by
      simp only [issuedStates, List.filterMap_append] at hstates ⊢
      exact (List.nodup_append.mp hstates).1
    exact serveCalls_ready cs _ _ (serveCall_ready c h hstep) hstates

/-- Over any sequence of starts, callbacks and clock moves, from an empty pending store of
either kind, and as long as starts never issue a state twice, every exchange posts the
verifier whose challenge went out with its state, while that state's entry is fresh, and at
most one exchange is made per state. -/
theorem exchanges_match_challenges (w : World) (calls : List SignInCall) (hw : w.pending.Vacant)
    (hstates : (issuedStates (serveCalls w calls).1).Nodup) :
    PkceBound w.pending (serveCalls w calls).1 := by
  have hready : Ready w.pending [] w := ⟨all_vacant hw, rfl, PkceBound.nil _⟩
  simpa using (serveCalls_ready calls [] w hready (by simpa using hstates)).bound

/-- One user's start, and the callback for the state it draws from the default world. -/
def oneSignIn : List SignInCall :=
  [.start (some ⟨"alice", "alice@example.com"⟩),
   .callback (some ⟨"alice", "alice@example.com"⟩) (.str "auth-code")
     (.str (generateState (Challenge.generate (default : World).sealer.entropy).2).1) .null .null]

theorem oneSignIn_matches_challenge :
    (default : World).pending.Vacant ∧ (issuedStates (serveCalls default oneSignIn).1).Nodup ∧
      PkceBound (default : World).pending (serveCalls default oneSignIn).1 := by
  have hvacant : (default : World).pending.Vacant := rfl
  have hstates : (issuedStates (serveCalls default oneSignIn).1).Nodup := by
    simp only [oneSignIn, serveCalls, serveCall, issuedStates, List.filterMap_cons,
      List.filterMap_nil, Option.map_none]
    split <;> simp
  exact ⟨hvacant, hstates, exchanges_match_challenges _ _ hvacant hstates⟩

end MailIngest.Service
