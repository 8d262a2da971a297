import MailIngest.Digest.Sha256
import MailIngest.Text.Base64
import MailIngest.Text.Utf8

/-!
# A stream of random bytes

Secrets, nonces and keys are drawn from an `Entropy` stream in counter mode: draw `k` yields
the first bytes of the SHA-256 hash of the seed followed by `k` in decimal, so that a given seed
always yields the same sequence. A draw yields at most 32 bytes.

- `bytes_length` : a draw of `n ≤ 32` bytes yields `n` bytes;
- `bytes_drawn` : every draw moves the counter on by one.
-/

namespace MailIngest

/-- A counter-mode byte stream. -/
structure Entropy where
  seed : String
  drawn : Nat := 0
deriving Inhabited

namespace Entropy

def bytes (e : Entropy) (n : Nat) : List UInt8 × Entropy :=
  ((Digest.sha256 (Text.Utf8.encode (e.seed ++ toString e.drawn))).take n,
    { e with drawn := e.drawn + 1 })

/-- Draws `n` bytes and writes them in unpadded URL-safe base64. -/
def urlsafe (e : Entropy) (n : Nat) : String × Entropy :=
  let (bs, e') := e.bytes n
  (Text.Base64.encodeUnpadded .urlSafe bs, e')

theorem bytes_length (e : Entropy) (n : Nat) (h : n ≤ 32) : (e.bytes n).1.length = n := by
  simp [bytes, Digest.hash_length, h]

theorem bytes_drawn (e : Entropy) (n : Nat) : (e.bytes n).2.drawn = e.drawn + 1 := rfl

end Entropy

end MailIngest
