import MailIngest.Error.Fault

/-!
# The system keychain

A keychain holds passwords by service and account name. A locked keychain refuses every call
with the reason it gives. Deleting a password that is not there is an error of its own.

A `SecretStore` is the library's view of the keychain under one service name: with no keychain
at all, reads find nothing, deletes do nothing, and writes fail.

- `get_set` : a written password reads back;
- `SecretStore.get_none` : without a keychain nothing is found.
-/

namespace MailIngest.Secrets

/-- Passwords by service and account, and the reason every call fails if the keychain is
locked. -/
structure Keychain where
  entries : List ((String × String) × String) := []
  lock : Option String := none
deriving Inhabited

namespace Keychain

def lockedFault (why : String) : Fault := .runtime "RuntimeError" (some why)

def get (k : Keychain) (service account : String) : Outcome (Option String) :=
  match k.lock with
  | some why => .error (lockedFault why)
  | none => .ok ((k.entries.find? (·.1 = (service, account))).map (·.2))

def put (key : String × String) (v : String) :
    List ((String × String) × String) → List ((String × String) × String)
  | [] => [(key, v)]
  | (k, w) :: rest => if k = key then (k, v) :: rest else (k, w) :: put key v rest

def set (k : Keychain) (service account value : String) : Outcome Keychain :=
  match k.lock with
  | some why => .error (lockedFault why)
  | none => .ok { k with entries := put (service, account) value k.entries }

/-- Deletes the password of an account; a missing one is an error. -/
def delete (k : Keychain) (service account : String) : Outcome Keychain :=
  match k.lock with
  | some why => .error (lockedFault why)
  | none =>
    if k.entries.any (·.1 = (service, account)) then
      .ok { k with entries := k.entries.filter (·.1 ≠ (service, account)) }
    else .error (Fault.named "PasswordDeleteError")

end Keychain

/-- Secrets of one service in an optional keychain. -/
structure SecretStore where
  service : String := "mailarchive"
deriving Inhabited

namespace SecretStore

def noKeychain : Fault := .runtime "RuntimeError" (some "Keyring module not configured")

def set (s : SecretStore) (kc : Option Keychain) (key value : String) : Outcome Keychain :=
  match kc with
  | none => .error noKeychain
  | some k => k.set s.service key value

def get (s : SecretStore) (kc : Option Keychain) (key : String) : Outcome (Option String) :=
  match kc with
  | none => .ok none
  | some k => k.get s.service key

/-- Deletes a secret; a missing one, or a missing keychain, is no error. -/
def delete (s : SecretStore) (kc : Option Keychain) (key : String) : Outcome (Option Keychain) :=
  match kc with
  | none => .ok none
  | some k => match k.delete s.service key with
    | .ok k' => .ok (some k')
    | .error (.runtime "PasswordDeleteError" _) => .ok (some k)
    | .error f => .error f

theorem get_none (s : SecretStore) (key : String) : s.get none key = .ok none := rfl

end SecretStore

theorem find_put (key : String × String) (v : String) (es : List ((String × String) × String)) :
    ((Keychain.put key v es).find? (·.1 = key)).map (·.2) = some v := by
  induction es with
  | nil => simp [Keychain.put]
  | cons e rest ih =>
    obtain ⟨k, w⟩ := e
    by_cases h : k = key
    · subst h; simp [Keychain.put]
    · simp [Keychain.put, h, ih]

theorem get_set (k k' : Keychain) (service account v : String)
    (h : k.set service account v = .ok k') : k'.get service account = .ok (some v) := by
  unfold Keychain.set at h
  split at h
  · simp at h
  · rename_i hl
    simp only [Except.ok.injEq] at h
    subst h
    simp [Keychain.get, hl, find_put]

end MailIngest.Secrets
