import MailIngest.Time.DateTime
import MailIngest.Text.Hex

/-!
# The credential store

Stored OAuth grants, one per user, provider and mailbox address, each owned by a user row.
Tokens are held only as vault ciphertext. Writing a grant for a mailbox that already has one
replaces its tokens, expiry and scope but keeps its id and creation time, and keeps the old
refresh token when the new grant has none. Removing a user removes their grants. Every write
of a grant draws a fresh id, used only when the row is new.

Times are kept as the ISO 8601 text they are stored as; a time read back without an offset is
taken as UTC.

- `upsert_get` : a written grant can be read back by its id.
-/

namespace MailIngest.Store

/-- A stored OAuth grant. -/
structure Credential where
  id : String
  userId : String
  provider : String
  email : String
  accessToken : String
  refreshToken : Option String
  expiresAt : Option String
  scope : Option String
  createdAt : String
  updatedAt : String
deriving Inhabited

/-- A grant without its tokens, as a listing shows it. -/
structure Summary where
  id : String
  provider : String
  email : String
  expiresAt : Option String
  scope : Option String
  createdAt : String
  updatedAt : String

def Credential.summary (c : Credential) : Summary :=
  ⟨c.id, c.provider, c.email, c.expiresAt, c.scope, c.createdAt, c.updatedAt⟩

/-- The tokens of a grant as a write gives them. -/
structure Grant where
  userId : String
  provider : String
  email : String
  accessToken : String
  refreshToken : Option String
  expiresAt : Option Time.DateTime
  scope : Option String

/-- Users with their optional email, and grants in the order they were created. -/
structure Credentials where
  users : List (String × Option String) := []
  rows : List Credential := []
  issued : Nat := 0
deriving Inhabited

def stamp (t : Time.DateTime) : String := t.assumeUtc.iso

/-- A stored time read back, taken as UTC when it has no offset. -/
def readTime (s : String) : Option Time.DateTime := (Time.DateTime.parse? s).map (·.assumeUtc)

def grantId (n : Nat) : String := "00000000-0000-4000-8000-" ++ Text.Hex.padded 12 n

namespace Credentials

/-- Creates a user row, or fills in its email if one is given. -/
def ensureUser (s : Credentials) (id : String) (email : Option String) : Credentials :=
  if s.users.any (·.1 = id) then
    { s with users := s.users.map fun (u, e) => if u = id then (u, email.orElse fun _ => e) else (u, e) }
  else { s with users := s.users ++ [(id, email)] }

/-- Deletes a user and their grants; whether there was such a user. -/
def deleteUser (s : Credentials) (id : String) : Credentials × Bool :=
  if s.users.any (·.1 = id) then
    ({ s with users := s.users.filter (·.1 ≠ id), rows := s.rows.filter (·.userId ≠ id) }, true)
  else (s, false)

def get (s : Credentials) (id : String) : Option Credential := s.rows.find? (·.id = id)

def find (s : Credentials) (user provider email : String) : Option Credential :=
  s.rows.find? fun c => c.userId = user ∧ c.provider = provider ∧ c.email = email

/-- Whether the first grant is listed before the second: newer first, then by id. -/
def listedBefore (a b : Credential) : Bool :=
  decide (b.createdAt < a.createdAt) || (a.createdAt = b.createdAt && decide (a.id ≤ b.id))

def listFor (s : Credentials) (user : String) : List Credential :=
  (s.rows.filter (·.userId = user)).mergeSort listedBefore

/-- Writes a grant at time `now`: a new row, or new tokens for the existing one. A grant of
an unknown user is refused. An id is drawn either way. -/
def upsert (s : Credentials) (g : Grant) (now : Time.DateTime) :
    Outcome Credential × Credentials :=
  let s1 := { s with issued := s.issued + 1 }
  if !s.users.any (·.1 = g.userId) then (.error (Fault.named "IntegrityError"), s1)
  else
    let t := now.iso
    match s.find g.userId g.provider g.email with
    | some old =>
      let c := { old with accessToken := g.accessToken
                          refreshToken := g.refreshToken.orElse fun _ => old.refreshToken
                          expiresAt := g.expiresAt.map stamp
                          scope := g.scope
                          updatedAt := t }
      (.ok c, { s1 with rows := s1.rows.map fun r => if r.id = old.id then c else r })
    | none =>
      let c : Credential :=
        { id := grantId s1.issued
          userId := g.userId
          provider := g.provider
          email := g.email
          accessToken := g.accessToken
          refreshToken := g.refreshToken
          expiresAt := g.expiresAt.map stamp
          scope := g.scope
          createdAt := t
          updatedAt := t }
      (.ok c, { s1 with rows := s1.rows ++ [c] })

/-- Replaces the tokens of a grant; `none` keeps the refresh token. The updated grant, or
none when there is no such grant. -/
def updateTokens (s : Credentials) (id access : String) (expires : Option Time.DateTime)
    (refresh : Option (Option String)) (now : Time.DateTime) : Option Credential × Credentials :=
  match s.get id with
  | none => (none, s)
  | some old =>
    let c := { old with accessToken := access
                        refreshToken := refresh.getD old.refreshToken
                        expiresAt := expires.map stamp
                        updatedAt := now.iso }
    (some c, { s with rows := s.rows.map fun r => if r.id = id then c else r })

def delete (s : Credentials) (id : String) : Credentials × Bool :=
  if s.rows.any (·.id = id) then ({ s with rows := s.rows.filter (·.id ≠ id) }, true)
  else (s, false)

theorem find_append_self (rows : List Credential) (c : Credential)
    (h : ∀ r ∈ rows, r.id ≠ c.id) : (rows ++ [c]).find? (·.id = c.id) = some c := by
  rw [List.find?_append]
  have : rows.find? (·.id = c.id) = none := by
    simp only [List.find?_eq_none, decide_eq_true_eq]
    exact h
  simp [this]

/-- A written grant can be read back by its id, provided the id drawn for a new row is not
taken yet. -/
theorem upsert_get (s : Credentials) (g : Grant) (now : Time.DateTime) (c : Credential)
    (s' : Credentials) (h : s.upsert g now = (.ok c, s'))
    (hfresh : ∀ r ∈ s.rows, r.id ≠ grantId (s.issued + 1)) : s'.get c.id = some c := by
  unfold upsert at h
  split at h
  · simp at h
  · split at h
    · rename_i old hold
      simp only [Prod.mk.injEq, Except.ok.injEq] at h
      obtain ⟨rfl, rfl⟩ := h
      have hmem := List.mem_of_find?_eq_some hold
      simp only [get, List.find?_map]
      have hsome : (s.rows.find? (·.id = old.id)).isSome := by
        rw [List.find?_isSome]
        exact ⟨old, hmem, by simp⟩
      obtain ⟨r, hr⟩ := Option.isSome_iff_exists.mp hsome
      have hrid : r.id = old.id := by simpa using List.find?_some hr
      have hp : (fun x => decide (x.id = old.id)) ∘ (fun r => if r.id = old.id then
          { old with accessToken := g.accessToken
                     refreshToken := g.refreshToken.orElse fun _ => old.refreshToken
                     expiresAt := g.expiresAt.map stamp
                     scope := g.scope
                     updatedAt := now.iso } else r) = fun x => decide (x.id = old.id) := by
        funext x
        by_cases hx : x.id = old.id <;> simp [hx]
      simp only [hp, hr, Option.map_some, hrid, if_true]
    · simp only [Prod.mk.injEq, Except.ok.injEq] at h
      obtain ⟨rfl, rfl⟩ := h
      exact find_append_self _ _ hfresh

end Credentials

def Credential.expiry (c : Credential) : Option Time.DateTime := c.expiresAt.bind readTime

end MailIngest.Store
