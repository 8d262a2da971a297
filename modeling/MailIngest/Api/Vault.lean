import MailIngest.Api.Request
import MailIngest.Api.Answer
import MailIngest.Vault.Sealer
import MailIngest.Text.Hex

/-!
# Requests to the vault

A run of sealing and opening steps on one vault, whose key is configured, kept in a keychain,
or missing. The answer lists each step's result and, where there is a keychain, its entries
after the run.
-/

namespace MailIngest.Api

open Vault

/-- The keychain a request describes: none, one whose every call fails, an empty one, or one
that holds the given key. -/
def vaultKeychain : Json → Option Secrets.Keychain
  | .str "absent" => none
  | .str "fail" => some { lock := some "keyring locked" }
  | .str "" => some {}
  | .str k => some { entries := [((keychainService, keychainEntry), k)] }
  | _ => none

def keychainEntries (kc : Secrets.Keychain) : Json :=
  .obj (kc.entries.map fun ((service, entry), v) => (service ++ ":" ++ entry, .str v))

def fixedNonce (step : Json) : Outcome (Option (List UInt8)) :=
  match step.get? "nonce_hex" with
  | none | some .null => .ok none
  | some v => do
    match Text.Hex.ofHex? (← asText v) with
    | some bs => pure (some bs)
    | none => throw (Fault.named "ValueError")

def vaultStep (step : Json) : SealM Json :=
  match step.get? "op" with
  | some (.str "encrypt") => do
    let pt ← bytesField step "plaintext"
    let nonce ← fixedNonce step
    pure (.obj [("token", .str (← encrypt pt nonce))])
  | some (.str "decrypt") => do
    pure (.obj [("plaintext", .str (← decrypt (← need step "token")))])
  | some (.str "decrypt_bytes") => do
    let bs ← decryptBytes (← need step "token")
    pure (.obj [("plaintext_b64", .str (Text.Base64.encode .standard bs))])
  | some (.str "roundtrip") => do
    let pt ← bytesField step "plaintext"
    let token ← encrypt pt none
    let bs ← decryptBytes (.str token)
    pure (.obj [("token", .str token), ("plaintext_b64", .str (Text.Base64.encode .standard bs))])
  | _ => throw (Fault.named "ValueError")

def vaultSteps : List Json → StateM Sealer (List Json)
  | [] => pure []
  | step :: rest => do
    let r ← (vaultStep step).run
    let more ← vaultSteps rest
    pure (outcomeJson r :: more)

def vault (host : Host) (req : Json) : Json :=
  let start : Sealer := { configured := fieldD req "key" .null,
                          keychain := vaultKeychain (fieldD req "keyring" (.str "absent")),
                          entropy := { seed := host.seedPrefix } }
  let (results, s) := (vaultSteps ((fieldD req "steps" (.arr [])).getArr?.getD [])).run start
  .obj ([("results", .arr results)] ++ match s.keychain with
    | some kc => [("keyring", keychainEntries kc)]
    | none => [])

end MailIngest.Api
