import MailIngest.Proofs.Renewal

/-!
# A caller reaches only their own connections

Every operation of the account service runs for a caller, and touches the connections of that
caller alone. Over any run of calls, by any callers, from a consistent store and an endpoint
that deletes nothing behind the service's back (`Settled`), each call is `Confined`:

- **Rows** (`AccountCall.serve_pinned`): a call changes the rows of no user but its caller's,
  and keeps the store consistent; a call without a caller changes no row at all.
- **Foreign connections** (`deleteConnection_foreign`, `renewConnection_foreign`): removing or
  renewing a connection that is not the caller's fails as for one that does not exist, and
  changes nothing, so nothing is posted to the token endpoint.
- **Listings** (`listConnections_run`): a listing is the token-free summary of exactly the
  caller's connections.
- **Callbacks**: a callback that completes a sign-in reports a grant of its caller.

`accounts_confined` puts these together over a run.
-/

namespace MailIngest.Store.Credentials

/-- The store is consistent, and every user but `u` has the rows `S` gives them. -/
def Pinned (u : Option String) (S : String → List Credential) (s : Credentials) : Prop :=
  s.Consistent ∧ ∀ v, u ≠ some v → s.rows.filter (·.userId = v) = S v

def OwnedBy (u : String) (id : String) (s : Credentials) : Prop := ∀ c, s.get id = some c → c.userId = u

variable {s : Credentials} {u : String} {S : String → List Credential}

/-- In a consistent store, no row of another user shares the id of a grant of `u`. -/
theorem id_ne_of_owner (hs : s.Consistent) {c : Credential} (hc : c ∈ s.rows) {v : String}
    (hcv : c.userId ≠ v) {r : Credential} (hr : r ∈ s.rows) (hrv : r.userId = v) : r.id ≠ c.id :=
  fun hid => hcv (hs.eq_of_id hr hc hid ▸ hrv)

/-- Rewriting the row of one grant in place, with a grant of the same user, leaves the rows of
every other user. -/
theorem filter_replace_other (hs : s.Consistent) {old c : Credential} (hold : old ∈ s.rows)
    {v : String} (hov : old.userId ≠ v) (hcv : c.userId ≠ v) :
    (s.rows.map fun r => if r.id = old.id then c else r).filter (·.userId = v) =
      s.rows.filter (·.userId = v) := by
  rw [List.filter_map]
  have hsame : s.rows.filter ((fun r : Credential => decide (r.userId = v)) ∘
      fun r => if r.id = old.id then c else r) = s.rows.filter (·.userId = v) := by
    refine List.filter_congr fun r hr => ?_
    by_cases hid : r.id = old.id
    · obtain rfl := hs.eq_of_id hr hold hid
      simp only [Function.comp_apply, if_true, hcv, hov, decide_false]
    · simp only [Function.comp_apply, hid, if_false]
  have hkept : ∀ r ∈ s.rows.filter (·.userId = v), (if r.id = old.id then c else r) = r := by
    intro r hr
    rw [List.mem_filter, decide_eq_true_eq] at hr
    rw [if_neg (id_ne_of_owner hs hold hov hr.1 hr.2)]
  rw [hsame, List.map_congr_left hkept, List.map_id']

theorem ensureUser_pinned {u' : Option String} (hp : Pinned u' S s) (id : String) (email : Option String) :
    Pinned u' S (s.ensureUser id email) :=
  ⟨ensureUser_consistent hp.1 id email, fun v hv => by rw [ensureUser_rows]; exact hp.2 v hv⟩

/-- A write of a grant of `u` leaves the rows of every other user. -/
theorem upsert_pinned (hp : Pinned (some u) S s) {g : Grant} (hg : g.userId = u) (now : Time.DateTime) :
    Pinned (some u) S (s.upsert g now).2 := by
  refine ⟨upsert_consistent hp.1 g now, fun v hv => ?_⟩
  have huv : u ≠ v := fun h => hv (congrArg some h)
  rw [← hp.2 v hv]
  unfold upsert
  split
  · rfl
  · split
    · rename_i old hold
      have hfound := List.find?_some hold
      simp only [decide_eq_true_eq] at hfound
      exact filter_replace_other hp.1 (List.mem_of_find?_eq_some hold) (hfound.1 ▸ hg ▸ huv)
        (hfound.1 ▸ hg ▸ huv)
    · simp only [List.filter_append, List.filter_cons, hg, huv, decide_false, Bool.false_eq_true,
        if_false, List.filter_nil, List.append_nil]

/-- Renewing the tokens of a grant of `u` leaves the rows of every other user, and the grant
stays `u`'s. -/
theorem updateTokens_pinned {id access : String} {expires : Option Time.DateTime}
    {refresh : Option (Option String)} {now : Time.DateTime} (hp : Pinned (some u) S s)
    (hown : OwnedBy u id s) :
    Pinned (some u) S (s.updateTokens id access expires refresh now).2 ∧
      OwnedBy u id (s.updateTokens id access expires refresh now).2 := by
  refine ⟨⟨updateTokens_consistent hp.1 id access expires refresh now, fun v hv => ?_⟩, fun c hc => ?_⟩
  · have huv : u ≠ v := fun h => hv (congrArg some h)
    rw [← hp.2 v hv]
    unfold updateTokens
    split
    · rfl
    · rename_i old hold
      have hid : old.id = id := by simpa using List.find?_some hold
      have hou : old.userId = u := hown old hold
      subst hid
      exact filter_replace_other hp.1 (List.mem_of_find?_eq_some hold) (hou ▸ huv) (hou ▸ huv)
  · cases hu : (s.updateTokens id access expires refresh now).1 with
    | none => rw [updateTokens_none hu] at hc; exact hown c hc
    | some c' =>
      obtain ⟨old, hold, rfl, hget⟩ := updateTokens_get hu
      rw [hget] at hc
      cases hc
      exact hown old hold

/-- Deleting a grant of `u` leaves the rows of every other user. -/
theorem delete_pinned (hp : Pinned (some u) S s) {id : String} (hown : OwnedBy u id s) :
    Pinned (some u) S (s.delete id).1 := by
  refine ⟨delete_consistent hp.1 id, fun v hv => ?_⟩
  have huv : u ≠ v := fun h => hv (congrArg some h)
  rw [← hp.2 v hv]
  unfold delete
  split
  · rw [List.filter_filter]
    refine List.filter_congr fun r hr => ?_
    by_cases hrv : r.userId = v
    · -- a row of `v` is not the grant deleted, which is `u`'s
      have hne : r.id ≠ id := fun hid => by
        have := hown r ((get_eq_some_iff hp.1).2 ⟨hr, hid⟩)
        exact huv (this ▸ hrv)
      simp only [hrv, hne, decide_true, ne_eq, not_false_eq_true, decide_true, Bool.and_true]
    · simp only [hrv, decide_false, Bool.false_and]
  · rfl

end MailIngest.Store.Credentials

namespace MailIngest.Service

open OAuth

/-- The endpoint deletes nothing, and the store satisfies `R`. -/
def Settled (R : Store.Credentials → Prop) (w : World) : Prop := w.endpoint.Quiet ∧ R w.store

/-- A step run for the caller: without one it fails at once, with nothing changed. -/
theorem requireCaller_bind {α : Type} {I : World → Prop} {caller : Option Caller} {f : Caller → Act α}
    (hf : ∀ B, caller = some B → Keeps I (f B)) : Keeps I (requireCaller caller >>= f) := by
  intro w hw
  obtain ⟨r, hr⟩ := requireCaller_run caller w
  rw [run_bind, hr]
  cases r with
  | error e => exact hw
  | ok B => exact hf B (requireCaller_ok hr).1 w hw

/-! ## Steps that leave the store and the endpoint's queue -/

section Inert

variable {R : Store.Credentials → Prop}

theorem sealing_settled {α : Type} (m : Vault.SealM α) : Keeps (Settled R) (sealing m) := by
  intro w hw
  rw [sealing_run]
  exact hw

theorem providerConfig_settled (provider : Json) : Keeps (Settled R) (providerConfig provider) := by
  intro w hw
  rw [providerConfig_run]
  exact hw

theorem utcNow_settled : Keeps (Settled R) utcNow := by
  intro w hw
  rw [utcNow_run]
  exact hw

theorem load_settled (id : String) : Keeps (Settled R) (load id) := by
  intro w hw
  cases h : w.store.get id
  · rw [load_none h]
    exact hw
  · rw [load_some h]
    exact hw

theorem pendingPut_settled (state verifier : String) : Keeps (Settled R) (pendingPut state verifier) := by
  intro w hw
  cases h : w.pending.live
  · rw [pendingPut_closed _ _ w h]
    exact hw
  · rw [pendingPut_live _ _ w h]
    exact hw

theorem pendingTake_settled (state : String) : Keeps (Settled R) (pendingTake state) := by
  intro w hw
  cases h : w.pending.live
  · rw [pendingTake_closed _ w h]
    exact hw
  · obtain ⟨r, hr, -⟩ := pendingTake_live state w h
    rw [hr]
    exact hw

/-- A post to an endpoint that deletes nothing leaves the store, and the rest of the queue
deletes nothing either. -/
theorem postForm_settled (url : String) (form : List (String × Json)) :
    Keeps (Settled R) (postForm url form) := by
  intro w hw
  rw [postForm_quiet url form hw.1.next_quiet]
  exact ⟨hw.1.post url form _, hw.2⟩

theorem sealRefresh_settled (r : Option String) : Keeps (Settled R) (sealRefresh r) := by
  unfold sealRefresh
  split
  · split
    · exact Keeps.pure _
    · exact Keeps.map _ (sealing_settled _)
  · exact Keeps.pure _

theorem startAuthorization_settled (caller : Option Caller) :
    Keeps (Settled R) (startAuthorization caller) := by
  unfold startAuthorization
  refine requireCaller_bind fun _ _ => Keeps.bind Keeps.get fun _ => ?_
  refine Keeps.bind (providerConfig_settled _) fun _ => Keeps.bind (sealing_settled _) fun _ => ?_
  refine Keeps.bind (sealing_settled _) fun _ => ?_
  exact Keeps.bind (pendingPut_settled _ _) fun _ => Keeps.pure _

theorem exchangeCode_settled (c : ProviderConfig) (code verifier : Json) :
    Keeps (Settled R) (exchangeCode c code verifier) := by
  unfold exchangeCode
  refine Keeps.bind (postForm_settled _ _) fun reply => ?_
  split
  · exact Keeps.throw _
  · split
    · split
      exact Keeps.throw _
    · split
      · exact Keeps.pure _
      · exact Keeps.throw _

theorem askRenewal_settled (id : String) : Keeps (Settled R) (askRenewal id) := by
  unfold askRenewal
  refine Keeps.bind (load_settled id) fun c => ?_
  dsimp only
  split
  rotate_left
  · exact Triple.throw_bind fun _ h => h
  split
  · exact Triple.throw_bind fun _ h => h
  refine Keeps.bind (Keeps.pure _) fun stored => ?_
  refine Keeps.bind (Keeps.tryCatch (sealing_settled _) fun f => ?_) fun token => ?_
  · exact Keeps.ite (fun _ => Keeps.throw _) fun _ => Keeps.throw _
  exact Keeps.bind (providerConfig_settled _) fun config => postForm_settled _ _

/-- A write of the store that keeps `R` keeps `Settled R`. -/
theorem onStore_settled {α : Type} {f : Store.Credentials → α × Store.Credentials}
    (hf : ∀ s, R s → R (f s).2) : Keeps (Settled R) (onStore f) :=
  Keeps.modifyGet fun _ hw => ⟨hw.1, hf _ hw.2⟩

end Inert

/-! ## Steps that write the caller's rows -/

section Writes

variable {u : String} {S : String → List Store.Credential}

theorem storeToken_settled (provider email : String) (t : Tokens) :
    Keeps (Settled (Store.Credentials.Pinned (some u) S)) (storeToken u provider email t) := by
  unfold storeToken
  refine Keeps.bind (sealing_settled _) fun _ => Keeps.bind (sealRefresh_settled _) fun _ => ?_
  refine Keeps.bind (onStore_settled fun _ h => Store.Credentials.ensureUser_pinned h _ _) fun _ => ?_
  refine Keeps.bind utcNow_settled fun _ => Keeps.bind (Keeps.liftExcept _) fun _ => ?_
  refine Keeps.bind (Keeps.bind Keeps.get fun _ => Keeps.pure _) fun _ => ?_
  exact Keeps.bind (onStore_settled fun _ h => Store.Credentials.upsert_pinned h rfl _) fun _ =>
    Keeps.ofExcept _

theorem completeSignIn_settled (c : Caller) (code verifier : Json) :
    Keeps (Settled (Store.Credentials.Pinned (some c.userId) S)) (completeSignIn c code verifier) := by
  unfold completeSignIn
  refine Keeps.bind Keeps.get fun _ => Keeps.bind (providerConfig_settled _) fun _ => ?_
  refine Keeps.bind (exchangeCode_settled _ _ _) fun _ => ?_
  exact Keeps.bind (onStore_settled fun _ h => Store.Credentials.ensureUser_pinned h _ _) fun _ =>
    storeToken_settled _ _ _

theorem handleCallback_settled (caller : Option Caller) (code state error description : Json) :
    Keeps (Settled (Store.Credentials.Pinned (caller.map (·.userId)) S))
      (handleCallback caller code state error description) := by
  unfold handleCallback
  refine requireCaller_bind fun c hc => ?_
  subst hc
  have hfailure : ∀ reason, Keeps (Settled (Store.Credentials.Pinned (some c.userId) S))
      (failure reason) := fun _ _ h => h
  split
  · exact hfailure _
  split
  · exact hfailure _
  refine Keeps.bind (pendingTake_settled _) fun r => ?_
  split
  · exact hfailure _
  refine Keeps.bind (Keeps.tryCatch (Keeps.map _ (completeSignIn_settled c code _)) fun f =>
    Keeps.ite (fun _ => Keeps.pure _) fun _ => Keeps.throw _) fun s => ?_
  split
  · exact hfailure _
  · exact Keeps.bind (fun _ h => h) fun _ => Keeps.pure _

theorem listConnections_settled (caller : Option Caller) :
    Keeps (Settled (Store.Credentials.Pinned (caller.map (·.userId)) S)) (listConnections caller) :=
  requireCaller_bind fun _ _ => Keeps.bind (Keeps.bind Keeps.get fun _ => Keeps.pure _) fun _ => Keeps.pure _

theorem owned_mine {B : Caller} {id : String} {w : World} {c : Store.Credential}
    (h : w.store.get id = some c) (hc : c.userId = B.userId) : (owned B id).run.run w = (.ok c, w) := by
  simp only [owned, store, run_bind, run_get, run_pure, h, hc, if_true]

/-- A connection that is not the caller's is missing to them: the same failure, and nothing
changes. -/
theorem owned_foreign {B : Caller} {id : String} {w : World}
    (h : ∀ c, w.store.get id = some c → c.userId ≠ B.userId) :
    (owned B id).run.run w = (.error (raisedOr .credentialNotFound none (credentialDetails id)), w) := by
  cases hg : w.store.get id with
  | none =>
    simp only [owned, store, run_bind, run_get, run_pure, hg]
    rfl
  | some c =>
    simp only [owned, store, run_bind, run_get, run_pure, hg, h c hg, if_false]
    rfl

/-- The caller's own connection `id`, read with nothing changed. -/
theorem owned_spec (B : Caller) (id : String) {I : World → Prop} :
    Triple I (owned B id) fun r w => I w ∧ ∀ c, r = .ok c → w.store.get id = some c ∧ c.userId = B.userId := by
  intro w hw
  by_cases h : ∃ c, w.store.get id = some c ∧ c.userId = B.userId
  · obtain ⟨c, hc, hcu⟩ := h
    rw [owned_mine hc hcu]
    exact ⟨hw, fun _ h' => by cases h'; exact ⟨hc, hcu⟩⟩
  · rw [owned_foreign fun c hc hcu => h ⟨c, hc, hcu⟩]
    exact ⟨hw, fun _ h' => by cases h'⟩

theorem deleteConnection_settled (caller : Option Caller) (id : String) :
    Keeps (Settled (Store.Credentials.Pinned (caller.map (·.userId)) S)) (deleteConnection caller id) := by
  unfold deleteConnection
  refine requireCaller_bind fun B hB => ?_
  subst hB
  refine Triple.bind (owned_spec B id) (fun c => Triple.modifyGet fun w h => ?_) fun _ _ h => h.1
  obtain ⟨hget, hcu⟩ := h.2 c rfl
  exact ⟨h.1.1, Store.Credentials.delete_pinned h.1.2 fun c' h' => by rw [hget] at h'; cases h'; exact hcu⟩

/-- A refresh of a grant of `u` changes the rows of no other user. -/
theorem refresh_settled (id : String) :
    Keeps (Settled fun s => Store.Credentials.Pinned (some u) S s ∧ Store.Credentials.OwnedBy u id s)
      (refresh id) := by
  refine Keeps.bind (askRenewal_settled id) fun q => ?_
  unfold renewalReply
  split
  · exact Keeps.throw _
  · split
    · split
      dsimp only
      split <;> exact Keeps.throw _
    · split
      · exact Keeps.throw _
      · unfold storeRenewal
        refine Keeps.bind (sealing_settled _) fun _ => Keeps.bind (sealRefresh_settled _) fun _ => ?_
        refine Keeps.bind utcNow_settled fun _ => Keeps.bind (Keeps.liftExcept _) fun _ => ?_
        refine Keeps.bind (Keeps.bind Keeps.get fun _ => Keeps.pure _) fun _ => ?_
        refine Keeps.bind (onStore_settled fun _ h => Store.Credentials.updateTokens_pinned h.1 h.2) fun _ => ?_
        split
        · exact Keeps.pure _
        · exact Keeps.throw _

theorem renewConnection_settled (caller : Option Caller) (id : String) :
    Keeps (Settled (Store.Credentials.Pinned (caller.map (·.userId)) S)) (renewConnection caller id) := by
  unfold renewConnection
  refine requireCaller_bind fun B hB => ?_
  subst hB
  refine Triple.bind (owned_spec B id) (fun c => ?_) fun _ _ h => h.1
  refine Triple.conseq (Keeps.bind (refresh_settled (u := B.userId) (S := S) id) fun _ => Keeps.pure _)
    (fun w h => ⟨h.1.1, h.1.2, fun c' h' => ?_⟩) fun _ _ h => ⟨h.1, h.2.1⟩
  obtain ⟨hget, hcu⟩ := h.2 c rfl
  rw [hget] at h'
  cases h'
  exact hcu

end Writes

/-! ## What a caller sees -/

/-- Removing a connection that is not the caller's fails as for one that does not exist, and
changes nothing. -/
theorem deleteConnection_foreign {B : Caller} (hB : B.userId ≠ "") {id : String} {w : World}
    (h : ∀ c, w.store.get id = some c → c.userId ≠ B.userId) :
    (deleteConnection (some B) id).run.run w =
      (.error (raisedOr .credentialNotFound none (credentialDetails id)), w) := by
  rw [deleteConnection, requireCaller_some hB, pure_bind, run_bind, owned_foreign h]

/-- Renewing a connection that is not the caller's fails as for one that does not exist, and
changes nothing: nothing is posted. -/
theorem renewConnection_foreign {B : Caller} (hB : B.userId ≠ "") {id : String} {w : World}
    (h : ∀ c, w.store.get id = some c → c.userId ≠ B.userId) :
    (renewConnection (some B) id).run.run w =
      (.error (raisedOr .credentialNotFound none (credentialDetails id)), w) := by
  rw [renewConnection, requireCaller_some hB, pure_bind, run_bind, owned_foreign h]

/-- A listing is the summary of the caller's connections, and changes nothing. -/
theorem listConnections_run {B : Caller} (hB : B.userId ≠ "") (w : World) :
    (listConnections (some B)).run.run w =
      (.ok ((w.store.listFor B.userId).map Store.Credential.summary), w) := by
  rw [listConnections, requireCaller_some hB, pure_bind]
  rfl

/-! ## Runs of calls -/

/-- A call to the account service, with its caller. -/
inductive AccountCall where
  | start (caller : Option Caller)
  | callback (caller : Option Caller) (code state error description : Json)
  | list (caller : Option Caller)
  | delete (caller : Option Caller) (id : String)
  | renew (caller : Option Caller) (id : String)

namespace AccountCall

def caller : AccountCall → Option Caller
  | start c => c
  | callback c _ _ _ _ => c
  | list c => c
  | delete c _ => c
  | renew c _ => c

def serve : AccountCall → World → World
  | start c, w => ((startAuthorization c).run.run w).2
  | callback c code state error description, w =>
    ((handleCallback c code state error description).run.run w).2
  | list c, w => ((listConnections c).run.run w).2
  | delete c id, w => ((deleteConnection c id).run.run w).2
  | renew c id, w => ((renewConnection c id).run.run w).2

/-- A call changes the rows of no user but its caller, keeps the store consistent, and leaves
an endpoint that deletes nothing. -/
theorem serve_pinned (call : AccountCall) {S : String → List Store.Credential} {w : World}
    (hw : Settled (Store.Credentials.Pinned (call.caller.map (·.userId)) S) w) :
    Settled (Store.Credentials.Pinned (call.caller.map (·.userId)) S) (call.serve w) := by
  cases call with
  | start caller => exact startAuthorization_settled caller w hw
  | callback caller code state error description =>
    exact handleCallback_settled caller code state error description w hw
  | list caller => exact listConnections_settled caller w hw
  | delete caller id => exact deleteConnection_settled caller id w hw
  | renew caller id => exact renewConnection_settled caller id w hw

end AccountCall

/-- What a call from the world `w` does to the users of the service, and shows its caller. -/
structure Confined (w : World) (call : AccountCall) : Prop where
  /-- The rows of every user but the caller stay as they were. -/
  rows : ∀ v, call.caller.map (·.userId) ≠ some v →
    (call.serve w).store.rows.filter (·.userId = v) = w.store.rows.filter (·.userId = v)
  /-- Removing a connection that is not the caller's fails as for a missing one, and changes
  nothing. -/
  delete : ∀ B id, call = .delete (some B) id → B.userId ≠ "" →
    (∀ c, w.store.get id = some c → c.userId ≠ B.userId) →
    (deleteConnection (some B) id).run.run w =
      (.error (raisedOr .credentialNotFound none (credentialDetails id)), w)
  /-- So does renewing one, with nothing posted. -/
  renew : ∀ B id, call = .renew (some B) id → B.userId ≠ "" →
    (∀ c, w.store.get id = some c → c.userId ≠ B.userId) →
    (renewConnection (some B) id).run.run w =
      (.error (raisedOr .credentialNotFound none (credentialDetails id)), w)
  /-- A listing is the token-free summary of exactly the caller's connections. -/
  list : ∀ B, call = .list (some B) → B.userId ≠ "" →
    (listConnections (some B)).run.run w =
      (.ok ((w.store.listFor B.userId).map Store.Credential.summary), w) ∧
    (w.store.listFor B.userId).Perm (w.store.rows.filter (·.userId = B.userId))
  /-- A callback that completes a sign-in reports a grant of its caller, which the store holds. -/
  callback : ∀ caller code state error description res,
    call = .callback caller code state error description →
    ((handleCallback caller code state error description).run.run w).1 = .ok res →
    res.success = true → ∃ B cred, caller = some B ∧ res.credentialId = some cred.id ∧
      cred.userId = B.userId ∧ cred ∈ (call.serve w).store.rows

/-- Every call of a run from `w` is `Confined` in the world it is made in. -/
def Confines : World → List AccountCall → Prop
  | _, [] => True
  | w, call :: rest => Confined w call ∧ Confines (call.serve w) rest

/-- A call from a consistent store and an endpoint that deletes nothing is `Confined`. -/
theorem confined_of_settled {w : World} (hw : Settled Store.Credentials.Consistent w)
    (call : AccountCall) : Confined w call where
  rows v hv := ((call.serve_pinned ⟨hw.1, hw.2, fun _ _ => rfl⟩).2.2 v hv)
  delete B id h hB hforeign := deleteConnection_foreign hB hforeign
  renew B id h hB hforeign := renewConnection_foreign hB hforeign
  list B h hB := ⟨listConnections_run hB w, Store.Credentials.listFor_perm _ _⟩
  callback caller code state error description res h hr hs := by
    subst h
    obtain ⟨B, rfl, -, -, -, -, -, cred, hid, hown, hmem⟩ := handleCallback_completes caller code state
      error description w res hr hs
    exact ⟨B, cred, rfl, hid, hown, hmem⟩

/-- One caller cannot touch another's connections: over any run of calls by any callers, from
a consistent store and an endpoint that deletes nothing, every call changes the rows of its
own caller alone, treats another's connection as missing, lists exactly the caller's own
connections without their tokens, and reports only the caller's grants. -/
theorem accounts_confined (w : World) (calls : List AccountCall) (hw : w.store.Consistent)
    (hq : w.endpoint.Quiet) : Confines w calls := by
  -- the run keeps the store consistent and the endpoint quiet, call after call
  induction calls generalizing w with
  | nil => trivial
  | cons call rest ih =>
    have hnext := call.serve_pinned (S := fun v => w.store.rows.filter (·.userId = v))
      ⟨hq, hw, fun _ _ => rfl⟩
    exact ⟨confined_of_settled ⟨hq, hw⟩ call, ih _ hnext.2.1 hnext.1⟩

/-- A store holding a connection of `alice` and one of `bob`, written as the service writes them. -/
def twoOwners : Store.Credentials :=
  Store.Credentials.replay
    [.ensureUser "alice" (some "alice@example.com"), .ensureUser "bob" (some "bob@example.com"),
     .upsert ⟨"alice", "microsoft", "alice@example.com", "sealed-a", some "sealed-ra", none, none⟩ default,
     .upsert ⟨"bob", "microsoft", "bob@example.com", "sealed-b", some "sealed-rb", none, none⟩ default]

/-- `bob` tries to delete and to renew `alice`'s connection, lists his own, and `alice` then
deletes hers: the store is consistent, the connection is `alice`'s, and the run is confined. -/
theorem foreignDeletion_confined :
    let w : World := { (default : World) with store := twoOwners }
    let bob : Caller := ⟨"bob", "bob@example.com"⟩
    let alice : Caller := ⟨"alice", "alice@example.com"⟩
    w.store.Consistent ∧ w.endpoint.Quiet ∧
      (w.store.rows.find? (·.id = Store.grantId 1)).map (·.userId) = some "alice" ∧
      Confines w [.delete (some bob) (Store.grantId 1), .renew (some bob) (Store.grantId 1), .list (some bob),
        .delete (some alice) (Store.grantId 1)] := by
  intro w bob alice
  have hw : w.store.Consistent := Store.Credentials.replay_consistent _
  have hq : w.endpoint.Quiet := fun _ h => by cases h
  exact ⟨hw, hq, by decide, accounts_confined w _ hw hq⟩

end MailIngest.Service
