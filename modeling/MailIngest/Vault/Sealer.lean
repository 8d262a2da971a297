import MailIngest.Vault.Token
import MailIngest.Secrets.Keychain
import MailIngest.Json.Value

/-!
# The vault and its key

A vault seals secrets under one key. The key is the configured one when a key is configured;
otherwise it is read from the keychain, where a fresh key is generated and written the first
time. Once found, the key is kept, so later calls neither read the keychain again nor draw from
the random stream; a key that cannot be found is looked for again on the next call.

Sealing draws a fresh nonce from the random stream unless one is given. Opening checks the
token's form before the key is needed, so a malformed token is refused even without a key.

The vault and the random stream are one state, and calls that fail keep what they changed
before failing: a key written to the keychain stays there even when it cannot be read back.

- `key_cached` : a kept key is used as it is, and nothing changes.
-/

namespace MailIngest.Vault

def keychainService : String := "mailarchive"

def keychainEntry : String := "credential_vault_key"

/-- A vault: the configured key (any value; a false one counts as none), the keychain with the
service and entry that hold the key there, the key once found, and the random stream. -/
structure Sealer where
  configured : Json := .null
  keychain : Option Secrets.Keychain := none
  service : String := keychainService
  entry : String := keychainEntry
  cache : Option (List UInt8) := none
  entropy : Entropy
deriving Inhabited

/-- A step of the vault that yields a value or fails, and keeps its changes either way. -/
abbrev SealM := ExceptT Fault (StateM Sealer)

def draw (n : Nat) : SealM (List UInt8) :=
  modifyGet fun s => let (bs, e) := s.entropy.bytes n; (bs, { s with entropy := e })

/-- The text of the key stored in the keychain, generating and storing one when it has none. -/
def storedKey (kc : Secrets.Keychain) : SealM String := do
  let s ← get
  match kc.get s.service s.entry with
  | .ok (some k) => if k.isEmpty then generate else pure k
  | .ok none => generate
  | .error f => throw (retrieval f)
where
  /-- A keychain failure as a missing key. -/
  retrieval (f : Fault) : Fault :=
    keyFault ("Failed to retrieve key: " ++ (f.message?).getD "")
  /-- Generates a key and stores it. -/
  generate : SealM String := do
    let k ← modifyGet fun s => let (k, e) := generateKey s.entropy; (k, { s with entropy := e })
    let s ← get
    match kc.set s.service s.entry k with
    | .ok kc' => modify fun s => { s with keychain := some kc' }
    | .error f => throw (retrieval f)
    pure k

def configuredText : Json → Outcome (Option String)
  | .str s => .ok (if s.isEmpty then none else some s)
  | j => if j.truthy then .error (Fault.named "TypeError") else .ok none

/-- The vault key: the kept one, else the configured one, else the keychain's. -/
def key : SealM (List UInt8) := do
  let s ← get
  match s.cache with
  | some k => pure k
  | none =>
    let text ← match ← configuredText s.configured with
      | some t => pure t
      | none => match s.keychain with
        | none => throw (keyFault "No encryption key configured and keyring unavailable")
        | some kc => storedKey kc
    let k ← decodeKey text
    modify fun s => { s with cache := some k }
    pure k

def nonceFits (nonce : List UInt8) : Bool := 8 ≤ nonce.length && nonce.length ≤ 128

/-- Seals bytes into a token, with the given nonce or a drawn one. -/
def encrypt (plaintext : List UInt8) (nonce? : Option (List UInt8)) : SealM String := do
  let k ← key
  let nonce ← match nonce? with
    | some n => pure n
    | none => draw nonceSize
  if nonceFits nonce then pure (sealToken k nonce plaintext)
  else throw (.raised .encryption "Encryption failed: Nonce must be between 8 and 128 bytes" [] none)

def tokenText : Json → Outcome String
  | .str s => .ok s
  | j => if j.truthy then .error (Fault.named "AttributeError") else .ok ""

def decryptBytes (token : Json) : SealM (List UInt8) := do
  let (nonce, sealed) ← parse (← tokenText token)
  let k ← key
  openSealed k nonce sealed

def decrypt (token : Json) : SealM String := do asText (← decryptBytes token)

theorem key_cached (s : Sealer) (k : List UInt8) (h : s.cache = some k) :
    key.run.run s = (.ok k, s) := by
  obtain ⟨c, kc, sv, en, ca, e⟩ := s
  cases h
  rfl

end MailIngest.Vault
