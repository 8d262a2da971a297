import MailIngest.Cipher.Gcm
import MailIngest.Entropy
import MailIngest.Error.Fault

/-!
# Vault tokens

Secrets at rest are sealed with AES-256-GCM under the vault key into self-describing text
tokens: `v1:` and the URL-safe base64 of the 12-byte nonce, the ciphertext and the 16-byte tag.
A key is 32 bytes, written in standard base64.

Opening a token checks, in order: the version prefix, that the body is base64 (characters
outside the alphabet are skipped, both alphabets are read), that it holds at least a nonce and
a tag, and last the tag itself.

- `open_seal` : a sealed token opens to its plaintext under the same key.
-/

namespace MailIngest.Vault

def version : String := "v1"

def nonceSize : Nat := 12

def tagSize : Nat := 16

def keySize : Nat := 32

def decryptFault (msg : String) : Fault := .raised .decryption msg [] none

def keyFault (msg : String) : Fault := .raised .keyNotFound msg [] none

def decodeKey (text : String) : Outcome (List UInt8) :=
  let bytes := if text.toList.all (·.toNat < 0x80) then Text.Base64.decode true text.toList
    else none
  match bytes with
  | none => .error (keyFault "Encryption key is not valid base64")
  | some k =>
    if k.length = keySize then .ok k
    else .error (keyFault ("Encryption key must be 32 bytes, got " ++ toString k.length))

/-- A fresh key, drawn from the stream and written in base64. -/
def generateKey (e : Entropy) : String × Entropy :=
  let (bs, e') := e.bytes keySize
  (Text.Base64.encode .standard bs, e')

def sealToken (key nonce plaintext : List UInt8) : String :=
  version ++ ":" ++ Text.Base64.encode .urlSafe
    (nonce ++ (Cipher.Key.ofBytes key).seal nonce [] plaintext)

/-- A token cut at its first colon: the text before it and the text after it; `none` when it has
no colon. -/
def cut (token : String) : Option (List Char × List Char) :=
  match token.toList.span (· != ':') with
  | (_, []) => none
  | (v, _ :: body) => some (v, body)

/-- The bytes a token's body carries: base64 of either alphabet in ASCII, characters outside the
alphabet skipped. -/
def bodyBytes (body : List Char) : Option (List UInt8) :=
  if body.all (·.toNat < 0x80) then Text.Base64.decode false (Text.Base64.fromUrlSafe body)
  else none

/-- The nonce and sealed data of a token, before any key is needed. -/
def parse (token : String) : Outcome (List UInt8 × List UInt8) :=
  match cut token with
  | none => .error (decryptFault "Unrecognized token format")
  | some (v, body) =>
    if String.ofList v ≠ version then .error (decryptFault "Unrecognized token format")
    else match bodyBytes body with
      | none => .error (decryptFault "Token is not valid base64")
      | some bs =>
        if bs.length < nonceSize + tagSize then .error (decryptFault "Token is truncated")
        else .ok (bs.take nonceSize, bs.drop nonceSize)

def openSealed (key : List UInt8) (nonce sealed : List UInt8) : Outcome (List UInt8) :=
  match (Cipher.Key.ofBytes key).open? nonce [] sealed with
  | some pt => .ok pt
  | none => .error (decryptFault "Authentication tag mismatch")

def asText (bs : List UInt8) : Outcome String :=
  match Text.Utf8.decode? bs with
  | some s => .ok s
  | none => .error (decryptFault "Plaintext is not valid UTF-8")

/-- A sealed plaintext opens to itself under the same key and nonce. -/
theorem open_seal (key nonce pt : List UInt8) :
    (Cipher.Key.ofBytes key).open? nonce [] ((Cipher.Key.ofBytes key).seal nonce [] pt) = some pt :=
  Cipher.open_seal _ _ _ _

end MailIngest.Vault
