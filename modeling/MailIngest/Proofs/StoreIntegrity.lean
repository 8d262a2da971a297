import MailIngest.Store.Credentials
import Mathlib.Data.List.Nodup

/-!
# Integrity of the credential store

The store is driven by five writes: creating a user, deleting a user, writing a grant,
replacing a grant's tokens and deleting a grant. Whatever sequence of them runs on an empty
database, the store stays `Consistent`: every grant has an id no other grant has, no two
grants share a user, provider and mailbox address, and every grant's user has a user row.

* **Invariant** (`replay_consistent`): every state a sequence of writes reaches is consistent.
  Ids stay unique because each is the id of a write the store counted (`Consistent.issued`),
  and ids of distinct counts differ (`grantId_inj`).
* **Writes** (`upsert_renews`, `upsert_refused`, `deleteUser_cascades`, `updateTokens_frame`,
  `delete_frame`): what each write does to the users and the grants.
* **Reads** (`get_eq_some_iff`, `find_eq_some_iff`, `listFor_perm`): reading by id, by key or
  by user gives exactly the stored grants.
* **Contract** (`replay_keeps_contract`): all of it, at every reachable state.
-/

namespace MailIngest.Store

/-- A write to the credential store. -/
inductive StoreOp where
  | ensureUser (id : String) (email : Option String)
  | deleteUser (id : String)
  | upsert (g : Grant) (now : Time.DateTime)
  | updateTokens (id access : String) (expires : Option Time.DateTime)
      (refresh : Option (Option String)) (now : Time.DateTime)
  | delete (id : String)

/-- The key a grant is unique under: its user, provider and mailbox address. -/
def Credential.key (c : Credential) : String × String × String := (c.userId, c.provider, c.email)

theorem grantId_inj {n m : Nat} (h : grantId n = grantId m) : n = m :=
  Text.Hex.padded_inj ((String.append_right_inj _).mp h)

/-- How a write of `g` at `now` renews the grant `old` into `c`: id, key and creation time
stay; tokens, expiry, scope and time are the new ones, but a write without a refresh token
keeps the old one. -/
def Renewal (old : Credential) (g : Grant) (now : Time.DateTime) (c : Credential) : Prop :=
  c.id = old.id ∧ c.key = old.key ∧ c.createdAt = old.createdAt ∧
    c.accessToken = g.accessToken ∧ c.expiresAt = g.expiresAt.map stamp ∧ c.scope = g.scope ∧
    c.updatedAt = now.iso ∧ (g.refreshToken = none → c.refreshToken = old.refreshToken) ∧
    (g.refreshToken ≠ none → c.refreshToken = g.refreshToken)

namespace Credentials

variable {s : Credentials}

def apply (s : Credentials) : StoreOp → Credentials
  | .ensureUser id email => s.ensureUser id email
  | .deleteUser id => (s.deleteUser id).1
  | .upsert g now => (s.upsert g now).2
  | .updateTokens id access expires refresh now => (s.updateTokens id access expires refresh now).2
  | .delete id => (s.delete id).1

/-- The store after a sequence of writes on an empty database. -/
def replay (ops : List StoreOp) : Credentials := ops.foldl apply {}

def userIds (s : Credentials) : List String := s.users.map (·.1)

theorem any_users_iff (s : Credentials) (id : String) :
    s.users.any (·.1 = id) = true ↔ id ∈ s.userIds := by
  simp only [List.any_eq_true, decide_eq_true_eq, userIds, List.mem_map]

/-- A consistent store: ids are counted and unique, keys are unique, and every grant's user has
a row. -/
structure Consistent (s : Credentials) : Prop where
  issued : ∀ r ∈ s.rows, ∃ k, k ≤ s.issued ∧ r.id = grantId k
  idsNodup : (s.rows.map (·.id)).Nodup
  keysNodup : (s.rows.map (·.key)).Nodup
  owned : ∀ r ∈ s.rows, r.userId ∈ s.userIds

theorem empty_consistent : Consistent {} :=
  ⟨by simp, by simp, by simp, by simp⟩

/-- The only grant with the id of a stored grant is that grant. -/
theorem Consistent.eq_of_id (hs : s.Consistent) {r r' : Credential} (hr : r ∈ s.rows)
    (hr' : r' ∈ s.rows) (h : r.id = r'.id) : r = r' :=
  List.inj_on_of_nodup_map hs.idsNodup hr hr' h

/-! ## Reading -/

theorem get_eq_some_iff (hs : s.Consistent) {id : String} {r : Credential} :
    s.get id = some r ↔ r ∈ s.rows ∧ r.id = id := by
  constructor
  · intro h
    exact ⟨List.mem_of_find?_eq_some h, by simpa using List.find?_some h⟩
  · rintro ⟨hr, rfl⟩
    cases hf : s.get r.id with
    | none =>
      rw [get, List.find?_eq_none] at hf
      simpa using hf r hr
    | some r' =>
      have he : r'.id = r.id := by simpa using List.find?_some hf
      rw [hs.eq_of_id (List.mem_of_find?_eq_some hf) hr he]

theorem find_eq_some_iff (hs : s.Consistent) {u p e : String} {r : Credential} :
    s.find u p e = some r ↔ r ∈ s.rows ∧ r.key = (u, p, e) := by
  have hkey : ∀ c : Credential,
      decide (c.userId = u ∧ c.provider = p ∧ c.email = e) = true ↔ c.key = (u, p, e) := by
    intro c
    simp [Credential.key]
  unfold find
  constructor
  · intro h
    have hp := List.find?_some h
    exact ⟨List.mem_of_find?_eq_some h, (hkey r).1 hp⟩
  · rintro ⟨hr, hk⟩
    cases hf : s.rows.find? (fun c => c.userId = u ∧ c.provider = p ∧ c.email = e) with
    | none =>
      rw [List.find?_eq_none] at hf
      exact absurd ((hkey r).2 hk) (hf r hr)
    | some r' =>
      have hp := List.find?_some hf
      have he : r'.key = r.key := ((hkey r').1 hp).trans hk.symm
      rw [List.inj_on_of_nodup_map hs.keysNodup (List.mem_of_find?_eq_some hf) hr he]

/-- A user's listing holds exactly their grants, each once. -/
theorem listFor_perm (s : Credentials) (u : String) :
    (s.listFor u).Perm (s.rows.filter (·.userId = u)) :=
  List.mergeSort_perm _ _

/-! ## What a write keeps -/

theorem Consistent.count (hs : s.Consistent) : Consistent { s with issued := s.issued + 1 } :=
  ⟨fun r hr => (hs.issued r hr).imp fun _ hk => ⟨Nat.le_succ_of_le hk.1, hk.2⟩,
    hs.idsNodup, hs.keysNodup, hs.owned⟩

/-- Changing grants in a way that keeps each one's id and key keeps a store consistent. -/
theorem Consistent.map {f : Credential → Credential} (hs : s.Consistent)
    (hf : ∀ r ∈ s.rows, (f r).id = r.id ∧ (f r).key = r.key) :
    Consistent { s with rows := s.rows.map f } := by
  have hids : (s.rows.map f).map (·.id) = s.rows.map (·.id) := by
    rw [List.map_map]
    exact List.map_congr_left fun r hr => (hf r hr).1
  have hkeys : (s.rows.map f).map (·.key) = s.rows.map (·.key) := by
    rw [List.map_map]
    exact List.map_congr_left fun r hr => (hf r hr).2
  refine ⟨?_, ?_, ?_, ?_⟩
  · simp only [List.mem_map]
    rintro _ ⟨r, hr, rfl⟩
    rw [(hf r hr).1]
    exact hs.issued r hr
  · rw [hids]; exact hs.idsNodup
  · rw [hkeys]; exact hs.keysNodup
  · simp only [List.mem_map]
    rintro _ ⟨r, hr, rfl⟩
    have huser : (f r).userId = r.userId := congrArg (·.1) (hf r hr).2
    rw [huser]
    exact hs.owned r hr

theorem Consistent.filterRows (hs : s.Consistent) (q : Credential → Bool) :
    Consistent { s with rows := s.rows.filter q } :=
  ⟨fun r hr => hs.issued r (List.mem_of_mem_filter hr),
    hs.idsNodup.sublist ((List.filter_sublist).map _),
    hs.keysNodup.sublist ((List.filter_sublist).map _),
    fun r hr => hs.owned r (List.mem_of_mem_filter hr)⟩

/-- Replacing the stored grant `old` by one with its id and key keeps a store consistent. -/
theorem Consistent.replace (hs : s.Consistent) {old c : Credential} (hold : old ∈ s.rows)
    (hid : c.id = old.id) (hkey : c.key = old.key) :
    Consistent { s with rows := s.rows.map fun r => if r.id = old.id then c else r } :=
  hs.map fun r hr => by
    split
    · rename_i h
      -- ids are unique, so the row with the old grant's id is the old grant
      obtain rfl := hs.eq_of_id hr hold h
      exact ⟨hid, hkey⟩
    · exact ⟨rfl, rfl⟩

@[simp] theorem ensureUser_rows (id : String) (email : Option String) :
    (s.ensureUser id email).rows = s.rows := by
  unfold ensureUser
  split <;> rfl

@[simp] theorem ensureUser_issued (id : String) (email : Option String) :
    (s.ensureUser id email).issued = s.issued := by
  unfold ensureUser
  split <;> rfl

/-- Creating a user or filling in an email keeps every user id. -/
theorem mem_userIds_ensureUser {u : String} (id : String) (email : Option String)
    (hu : u ∈ s.userIds) : u ∈ (s.ensureUser id email).userIds := by
  unfold ensureUser
  split
  · simp only [userIds, List.map_map, List.mem_map] at hu ⊢
    obtain ⟨⟨u', e⟩, hmem, rfl⟩ := hu
    refine ⟨(u', e), hmem, ?_⟩
    by_cases h : u' = id <;> simp [h]
  · simp only [userIds, List.map_append, List.mem_append] at hu ⊢
    exact Or.inl hu

theorem ensureUser_consistent (hs : s.Consistent) (id : String) (email : Option String) :
    (s.ensureUser id email).Consistent := by
  refine ⟨?_, ?_, ?_, ?_⟩ <;> simp only [ensureUser_rows, ensureUser_issued]
  · exact hs.issued
  · exact hs.idsNodup
  · exact hs.keysNodup
  · exact fun r hr => mem_userIds_ensureUser id email (hs.owned r hr)

/-- Deleting a user removes their row and their grants, and nothing else. -/
theorem deleteUser_cascades (hs : s.Consistent) (u : String) :
    (∀ x, x ∈ (s.deleteUser u).1.users ↔ x ∈ s.users ∧ x.1 ≠ u) ∧
      (s.deleteUser u).1.rows = s.rows.filter (·.userId ≠ u) := by
  unfold deleteUser
  split
  · simp
  · rename_i hu
    rw [Bool.not_eq_true, ← Bool.not_eq_true, any_users_iff] at hu
    refine ⟨fun x => ⟨fun hx => ⟨hx, ?_⟩, fun hx => hx.1⟩, ?_⟩
    · rintro rfl
      exact hu (List.mem_map_of_mem hx)
    · -- without a user row the user owns no grant, so the filter keeps every row
      refine (List.filter_eq_self.2 fun r hr => ?_).symm
      have hown := hs.owned r hr
      simp only [decide_eq_true_eq]
      rintro rfl
      exact hu hown

theorem deleteUser_consistent (hs : s.Consistent) (u : String) :
    (s.deleteUser u).1.Consistent := by
  unfold deleteUser
  split
  · refine ⟨(hs.filterRows _).issued, (hs.filterRows _).idsNodup, (hs.filterRows _).keysNodup,
      fun r hr => ?_⟩
    have hr' := List.mem_filter.1 hr
    have hown := hs.owned r hr'.1
    simp only [userIds, List.mem_map, List.mem_filter] at hown ⊢
    obtain ⟨x, hx, hxr⟩ := hown
    refine ⟨x, ⟨hx, ?_⟩, hxr⟩
    simpa [hxr] using hr'.2
  · exact hs

/-- Writing a grant of a user without a row is refused, and only the id count moves. -/
theorem upsert_refused (g : Grant) (now : Time.DateTime) (hu : g.userId ∉ s.userIds) :
    s.upsert g now = (.error (Fault.named "IntegrityError"), { s with issued := s.issued + 1 }) := by
  have : (!s.users.any (·.1 = g.userId)) = true := by
    rw [Bool.not_eq_true', Bool.eq_false_iff, Ne, any_users_iff]
    exact hu
  simp only [upsert, this, if_true]

/-- Writing a grant for a key that has one renews that grant, and no other grant changes. -/
theorem upsert_renews (hs : s.Consistent) {g : Grant} {old : Credential} (now : Time.DateTime)
    (hold : s.find g.userId g.provider g.email = some old) :
    ∃ c, s.upsert g now = (.ok c,
        { s with issued := s.issued + 1
                 rows := s.rows.map fun r => if r.id = old.id then c else r }) ∧
      Renewal old g now c := by
  have hmem := (find_eq_some_iff hs).1 hold
  have hu : (!s.users.any (·.1 = g.userId)) = false := by
    rw [Bool.not_eq_false', any_users_iff]
    have hown := hs.owned old hmem.1
    simp only [Credential.key, Prod.mk.injEq] at hmem
    rwa [← hmem.2.1]
  simp only [upsert, hu, hold, Bool.false_eq_true, if_false]
  refine ⟨_, rfl, rfl, rfl, rfl, rfl, rfl, rfl, rfl, ?_, ?_⟩
  · intro h
    simp [h]
  · intro h
    obtain ⟨t, ht⟩ := Option.ne_none_iff_exists'.1 h
    simp [ht]

/-- Writing a grant for a new key of a user with a row appends a grant with the next id. -/
theorem upsert_creates {g : Grant} (now : Time.DateTime) (hu : g.userId ∈ s.userIds)
    (hnew : s.find g.userId g.provider g.email = none) :
    ∃ c, s.upsert g now = (.ok c, { s with issued := s.issued + 1, rows := s.rows ++ [c] }) ∧
      c.id = grantId (s.issued + 1) ∧ c.key = (g.userId, g.provider, g.email) ∧
      c.accessToken = g.accessToken := by
  have hu' : (!s.users.any (·.1 = g.userId)) = false := by
    rw [Bool.not_eq_false', any_users_iff]
    exact hu
  simp only [upsert, hu', hnew, Bool.false_eq_true, if_false]
  exact ⟨_, rfl, rfl, rfl, rfl⟩

/-- No stored grant has the id the next write would draw. -/
theorem Consistent.fresh (hs : s.Consistent) {r : Credential} (hr : r ∈ s.rows) :
    r.id ≠ grantId (s.issued + 1) := by
  intro hrc
  obtain ⟨k, hk, hrk⟩ := hs.issued r hr
  have := grantId_inj (hrk.symm.trans hrc)
  omega

theorem upsert_consistent (hs : s.Consistent) (g : Grant) (now : Time.DateTime) :
    (s.upsert g now).2.Consistent := by
  by_cases hu : g.userId ∈ s.userIds
  · cases hold : s.find g.userId g.provider g.email with
    | some old =>
      obtain ⟨c, hup, hid, hkey, -⟩ := upsert_renews hs now hold
      rw [hup]
      exact (hs.replace ((find_eq_some_iff hs).1 hold).1 hid hkey).count
    | none =>
      obtain ⟨c, hup, hid, hkey, -⟩ := upsert_creates now hu hold
      rw [hup]
      have hfresh : c.id ∉ s.rows.map (·.id) := by
        simp only [List.mem_map, not_exists, not_and]
        intro r hr hrc
        exact hs.fresh hr (hrc.trans hid)
      have hnewKey : c.key ∉ s.rows.map (·.key) := by
        simp only [List.mem_map, not_exists, not_and]
        intro r hr hrc
        rw [find, List.find?_eq_none] at hold
        have hk : r.key = (g.userId, g.provider, g.email) := hrc.trans hkey
        simp only [Credential.key, Prod.mk.injEq] at hk
        exact hold r hr (by simp [hk])
      refine ⟨?_, ?_, ?_, ?_⟩
      · intro r hr
        rcases List.mem_append.1 hr with hr | hr
        · exact (hs.issued r hr).imp fun _ hk => ⟨by simp only; omega, hk.2⟩
        · rw [List.mem_singleton.1 hr]
          exact ⟨s.issued + 1, Nat.le_refl _, hid⟩
      · rw [List.map_append, List.nodup_append]
        refine ⟨hs.idsNodup, List.nodup_singleton _, fun a ha b hb => ?_⟩
        simp only [List.map_cons, List.map_nil, List.mem_singleton] at hb
        subst hb
        rintro rfl
        exact hfresh ha
      · rw [List.map_append, List.nodup_append]
        refine ⟨hs.keysNodup, List.nodup_singleton _, fun a ha b hb => ?_⟩
        simp only [List.map_cons, List.map_nil, List.mem_singleton] at hb
        subst hb
        rintro rfl
        exact hnewKey ha
      · intro r hr
        rcases List.mem_append.1 hr with hr | hr
        · exact hs.owned r hr
        · rw [List.mem_singleton.1 hr]
          have := congrArg (·.1) hkey
          simp only [Credential.key] at this
          rw [this]
          exact hu
  · rw [upsert_refused g now hu]
    exact hs.count

/-- A grant a write returns holds the access token written, and every grant after the write is
that one or an earlier grant with another id. -/
theorem upsert_written (hs : s.Consistent) {g : Grant} {now : Time.DateTime} {c : Credential}
    {s' : Credentials} (h : s.upsert g now = (.ok c, s')) :
    c.accessToken = g.accessToken ∧ ∀ r ∈ s'.rows, r = c ∨ (r ∈ s.rows ∧ r.id ≠ c.id) := by
  by_cases hu : g.userId ∈ s.userIds
  · cases hold : s.find g.userId g.provider g.email with
    | some old =>
      obtain ⟨c', hup, hid, -, -, hacc, -⟩ := upsert_renews hs now hold
      rw [hup, Prod.mk.injEq, Except.ok.injEq] at h
      obtain ⟨rfl, rfl⟩ := h
      refine ⟨hacc, fun r hr => ?_⟩
      obtain ⟨r₀, hr₀, rfl⟩ := List.mem_map.1 hr
      by_cases he : r₀.id = old.id
      · exact .inl (if_pos he)
      · rw [if_neg he, hid]
        exact .inr ⟨hr₀, he⟩
    | none =>
      obtain ⟨c', hup, hid, -, hacc⟩ := upsert_creates now hu hold
      rw [hup, Prod.mk.injEq, Except.ok.injEq] at h
      obtain ⟨rfl, rfl⟩ := h
      refine ⟨hacc, fun r hr => ?_⟩
      rcases List.mem_append.1 hr with hr | hr
      · exact .inr ⟨hr, by rw [hid]; exact hs.fresh hr⟩
      · exact .inl (List.mem_singleton.1 hr)
  · rw [upsert_refused g now hu] at h
    cases h

/-- Putting `c` in place of the grants with its id leaves the other grants as they are. -/
theorem filter_replace (rows : List Credential) (id : String) (c : Credential) (hc : c.id = id) :
    (rows.map fun r => if r.id = id then c else r).filter (·.id ≠ id) =
      rows.filter (·.id ≠ id) := by
  induction rows with
  | nil => rfl
  | cons r rows ih =>
    by_cases h : r.id = id
    · simpa [h, hc] using ih
    · simpa [h] using ih

/-- Replacing a grant's tokens touches no other grant and no user. -/
theorem updateTokens_frame (s : Credentials) (id access : String)
    (expires : Option Time.DateTime) (refresh : Option (Option String)) (now : Time.DateTime) :
    (s.updateTokens id access expires refresh now).2.users = s.users ∧
      (s.updateTokens id access expires refresh now).2.rows.filter (·.id ≠ id) =
        s.rows.filter (·.id ≠ id) := by
  unfold updateTokens
  split
  · exact ⟨rfl, rfl⟩
  · rename_i old hold
    have hid : old.id = id := by simpa using List.find?_some hold
    exact ⟨rfl, filter_replace s.rows id _ hid⟩

theorem updateTokens_consistent (hs : s.Consistent) (id access : String)
    (expires : Option Time.DateTime) (refresh : Option (Option String)) (now : Time.DateTime) :
    (s.updateTokens id access expires refresh now).2.Consistent := by
  unfold updateTokens
  split
  · exact hs
  · rename_i old hold
    obtain ⟨hmem, rfl⟩ := (get_eq_some_iff hs).1 hold
    exact hs.replace hmem rfl rfl

/-- Deleting a grant touches no other grant and no user. -/
theorem delete_frame (s : Credentials) (id : String) :
    (s.delete id).1.users = s.users ∧
      (s.delete id).1.rows.filter (·.id ≠ id) = s.rows.filter (·.id ≠ id) := by
  unfold delete
  split
  · refine ⟨rfl, ?_⟩
    simp only [List.filter_filter, Bool.and_self]
  · exact ⟨rfl, rfl⟩

theorem delete_consistent (hs : s.Consistent) (id : String) : (s.delete id).1.Consistent := by
  unfold delete
  split
  · exact hs.filterRows _
  · exact hs

/-! ## Every reachable state -/

theorem apply_consistent (hs : s.Consistent) : ∀ op, (s.apply op).Consistent
  | .ensureUser id email => ensureUser_consistent hs id email
  | .deleteUser id => deleteUser_consistent hs id
  | .upsert g now => upsert_consistent hs g now
  | .updateTokens id access expires refresh now =>
    updateTokens_consistent hs id access expires refresh now
  | .delete id => delete_consistent hs id

/-- Every state a sequence of writes reaches from an empty database is consistent. -/
theorem replay_consistent (ops : List StoreOp) : (replay ops).Consistent := by
  -- the fold runs from any consistent store, so generalize its start
  suffices h : ∀ s : Credentials, s.Consistent → (ops.foldl apply s).Consistent from
    h {} empty_consistent
  induction ops with
  | nil => exact fun _ hs => hs
  | cons op ops ih => exact fun s hs => ih _ (apply_consistent hs op)

/-! ## The contract -/

/-- What the store promises at a state: it is consistent; writing a grant for a key that has
one renews it, and writing one for a user without a row is refused and changes no row; deleting
a user cascades to their grants and nothing else; replacing tokens and deleting a grant touch
no other grant; and reads give exactly the stored grants. -/
structure Contract (s : Credentials) : Prop where
  consistent : s.Consistent
  renews : ∀ (g : Grant) (old : Credential) (now : Time.DateTime),
    s.find g.userId g.provider g.email = some old →
    ∃ c, s.upsert g now = (.ok c,
        { s with issued := s.issued + 1
                 rows := s.rows.map fun r => if r.id = old.id then c else r }) ∧
      Renewal old g now c
  refuses : ∀ (g : Grant) (now : Time.DateTime), g.userId ∉ s.userIds →
    s.upsert g now = (.error (Fault.named "IntegrityError"), { s with issued := s.issued + 1 })
  cascades : ∀ u, (∀ x, x ∈ (s.deleteUser u).1.users ↔ x ∈ s.users ∧ x.1 ≠ u) ∧
    (s.deleteUser u).1.rows = s.rows.filter (·.userId ≠ u)
  updatesOne : ∀ id access expires refresh now,
    (s.updateTokens id access expires refresh now).2.users = s.users ∧
      (s.updateTokens id access expires refresh now).2.rows.filter (·.id ≠ id) =
        s.rows.filter (·.id ≠ id)
  deletesOne : ∀ id, (s.delete id).1.users = s.users ∧
    (s.delete id).1.rows.filter (·.id ≠ id) = s.rows.filter (·.id ≠ id)
  gets : ∀ id r, s.get id = some r ↔ r ∈ s.rows ∧ r.id = id
  finds : ∀ u p e r, s.find u p e = some r ↔ r ∈ s.rows ∧ r.key = (u, p, e)
  lists : ∀ u, (s.listFor u).Perm (s.rows.filter (·.userId = u))

theorem Consistent.contract (hs : s.Consistent) : s.Contract where
  consistent := hs
  renews _ _ now h := upsert_renews hs now h
  refuses g now h := upsert_refused g now h
  cascades u := deleteUser_cascades hs u
  updatesOne := updateTokens_frame s
  deletesOne := delete_frame s
  gets _ _ := get_eq_some_iff hs
  finds _ _ _ _ := find_eq_some_iff hs
  lists := listFor_perm s

/-- Every state a sequence of writes reaches from an empty database keeps the store's
contract. -/
theorem replay_keeps_contract (ops : List StoreOp) : (replay ops).Contract :=
  (replay_consistent ops).contract

end Credentials

end MailIngest.Store
