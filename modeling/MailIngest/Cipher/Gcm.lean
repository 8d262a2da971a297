import MailIngest.Cipher.Aes

/-!
# Galois/counter mode

Authenticated encryption of SP 800-38D over AES-256. The text is XORed with the cipher of
successive counter blocks, starting one after the initial counter block; the tag is the
cipher of the initial counter block XORed with GHASH, a polynomial hash in GF(2^128) keyed by
the cipher of the zero block, over the associated data, the ciphertext and their bit lengths.
A 12-byte nonce is the initial counter block with a counter of 1; other nonces are hashed.

- `seal_length` : sealed data is the text plus a 16-byte tag;
- `xorStream_xorStream` : counter mode applied twice gives the text back;
- `open_seal` : opening sealed data gives the text back.
-/

namespace MailIngest.Cipher

/-- A 16-byte block as a number, first byte most significant. -/
def blockNat (b : List UInt8) : Nat := b.foldl (fun n x => n * 256 + x.toNat) 0

def natBlock (n : Nat) : List UInt8 :=
  (List.range 16).reverse.map fun i => (n / Nat.pow 256 i % 256).toUInt8

def gfMul (x y : Nat) : Nat :=
  let r : Nat := 0xe1 * Nat.pow 2 120
  (List.range 128).foldl (fun (z, v) i =>
    let z' := if x / Nat.pow 2 (127 - i) % 2 = 1 then z ^^^ v else z
    let v' := if v % 2 = 1 then (v / 2) ^^^ r else v / 2
    (z', v')) (0, y) |>.1

/-- The text cut into 16-byte blocks, the last one padded with zeros. -/
def blocksOf : Nat → List UInt8 → List (List UInt8)
  | 0, _ => []
  | _, [] => []
  | n + 1, bs => (bs.take 16 ++ List.replicate (16 - (bs.take 16).length) 0) :: blocksOf n (bs.drop 16)

def padBlocks (bs : List UInt8) : List (List UInt8) := blocksOf bs.length bs

def ghash (h : Nat) (aad ct : List UInt8) : Nat :=
  let lens := natBlock (aad.length * 8 * Nat.pow 2 64 + ct.length * 8)
  (padBlocks aad ++ padBlocks ct ++ [lens]).foldl (fun y b => gfMul (y ^^^ blockNat b) h) 0

/-- The counter block after `b`: the last four bytes count up modulo 2^32. -/
def inc32 (b : Nat) : Nat := b - b % Nat.pow 2 32 + (b % Nat.pow 2 32 + 1) % Nat.pow 2 32

def incBy (b : Nat) : Nat → Nat
  | 0 => b
  | n + 1 => inc32 (incBy b n)

/-- The key stream for `n` bytes: the cipher of the counter blocks from `icb` on. -/
def keyStream (k : Key) (icb : Nat) (n : Nat) : Array UInt8 :=
  ((List.range ((n + 15) / 16)).flatMap fun i => k.encryptBlock (natBlock (incBy icb i))).toArray

def xorStream (k : Key) (icb : Nat) (bs : List UInt8) : List UInt8 :=
  let stream := keyStream k icb bs.length
  bs.mapIdx fun i b => b ^^^ stream.getD i 0

def Key.hashKey (k : Key) : Nat := blockNat (k.encryptBlock (List.replicate 16 0))

def Key.initialCounter (k : Key) (nonce : List UInt8) : Nat :=
  if nonce.length = 12 then blockNat (nonce ++ [0, 0, 0, 1])
  else ghash k.hashKey [] nonce

def Key.tag (k : Key) (nonce aad ct : List UInt8) : List UInt8 :=
  let mask := (k.encryptBlock (natBlock (k.initialCounter nonce))).toArray
  (natBlock (ghash k.hashKey aad ct)).mapIdx fun i b => b ^^^ mask.getD i 0

/-- Encrypts and authenticates: the ciphertext followed by the tag. -/
def Key.seal (k : Key) (nonce aad pt : List UInt8) : List UInt8 :=
  let ct := xorStream k (inc32 (k.initialCounter nonce)) pt
  ct ++ k.tag nonce aad ct

/-- Checks the tag and decrypts; `none` when the tag does not match. -/
def Key.open? (k : Key) (nonce aad sealed : List UInt8) : Option (List UInt8) :=
  if sealed.length < 16 then none
  else
    let ct := sealed.take (sealed.length - 16)
    let tag := sealed.drop (sealed.length - 16)
    if k.tag nonce aad ct = tag then some (xorStream k (inc32 (k.initialCounter nonce)) ct)
    else none

theorem xorStream_length (k : Key) (icb : Nat) (bs : List UInt8) :
    (xorStream k icb bs).length = bs.length := by
  simp [xorStream]

theorem xorStream_xorStream (k : Key) (icb : Nat) (bs : List UInt8) :
    xorStream k icb (xorStream k icb bs) = bs := by
  simp only [xorStream, List.length_mapIdx, List.mapIdx_mapIdx]
  apply List.ext_getElem (by simp)
  intro i h1 h2
  simp only [List.getElem_mapIdx, Function.comp_apply, UInt8.xor_assoc, UInt8.xor_self,
    UInt8.xor_zero]

theorem tag_length (k : Key) (nonce aad ct : List UInt8) : (k.tag nonce aad ct).length = 16 := by
  simp [Key.tag, natBlock]

theorem seal_length (k : Key) (nonce aad pt : List UInt8) :
    (k.seal nonce aad pt).length = pt.length + 16 := by
  simp [Key.seal, xorStream_length, tag_length]

theorem open_seal (k : Key) (nonce aad pt : List UInt8) :
    k.open? nonce aad (k.seal nonce aad pt) = some pt := by
  have hct := xorStream_length k (inc32 (k.initialCounter nonce)) pt
  have hs : k.seal nonce aad pt = xorStream k (inc32 (k.initialCounter nonce)) pt ++
      k.tag nonce aad (xorStream k (inc32 (k.initialCounter nonce)) pt) := rfl
  rw [hs]
  unfold Key.open?
  simp [hct, tag_length, xorStream_xorStream]

end MailIngest.Cipher
