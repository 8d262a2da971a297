import MailIngest.Entropy
import MailIngest.Error.Fault

/-!
# Proof key for code exchange

A client proves that the code it redeems is its own by a secret verifier, drawn as 32 random
bytes in URL-safe base64, whose challenge it sent first: the unpadded URL-safe base64 of the
SHA-256 hash of the verifier's ASCII bytes, with method `S256`. The `state` parameter that ties
a callback to its request is drawn the same way.

- `codeChallenge_ascii` : an ASCII verifier always has a challenge, the hash of its bytes.
-/

namespace MailIngest.OAuth

/-- A verifier with its challenge and the challenge method. -/
structure Challenge where
  verifier : String
  challenge : String
  method : String := "S256"
deriving Inhabited

/-- The bytes of an ASCII text; other text cannot be encoded. -/
def asciiBytes (s : String) : Outcome (List UInt8) :=
  if s.toList.all (·.toNat < 0x80) then .ok (Text.Utf8.encode s)
  else .error (Fault.named "UnicodeEncodeError")

def challengeOfBytes (bs : List UInt8) : String :=
  Text.Base64.encodeUnpadded .urlSafe (Digest.sha256 bs)

def codeChallenge (verifier : String) : Outcome String :=
  challengeOfBytes <$> asciiBytes verifier

def Challenge.generate (e : Entropy) : Challenge × Entropy :=
  let (v, e') := e.urlsafe 32
  ({ verifier := v, challenge := challengeOfBytes (Text.Utf8.encode v) }, e')

def generateState (e : Entropy) : String × Entropy := e.urlsafe 32

/-- An ASCII verifier always has a challenge: the hash of its bytes. -/
theorem codeChallenge_ascii (v : String) (h : v.toList.all (·.toNat < 0x80)) :
    codeChallenge v = .ok (challengeOfBytes (Text.Utf8.encode v)) := by
  simp [codeChallenge, asciiBytes, h, Functor.map, Except.map]

end MailIngest.OAuth
