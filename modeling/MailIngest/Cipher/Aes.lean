/-!
# The AES-256 block cipher

The forward cipher of FIPS 197 with a 256-bit key: the key expands into fifteen round keys,
and a 16-byte block goes through fourteen rounds of byte substitution, row shifts, column
mixing (all but the last round) and round-key addition. Bytes are elements of GF(2^8) modulo
x^8 + x^4 + x^3 + x + 1; the substitution is the field inverse followed by an affine map.

- `shiftRows_length` : shifting rows gives a 16-byte state.
-/

namespace MailIngest.Cipher

def xtime (a : UInt8) : UInt8 := if a &&& 0x80 = 0 then a <<< 1 else (a <<< 1) ^^^ 0x1b

def gmul (a b : UInt8) : UInt8 :=
  (List.range 8).foldl (fun (acc, x, y) _ =>
    (if y &&& 1 = 0 then acc else acc ^^^ x, xtime x, y >>> 1)) ((0 : UInt8), a, b) |>.1

def ginv (a : UInt8) : UInt8 := (List.range 254).foldl (fun acc _ => gmul acc a) 1

def rotl8 (x : UInt8) (n : UInt8) : UInt8 := (x <<< n) ||| (x >>> (8 - n))

def sbox : Array UInt8 :=
  ((List.range 256).map fun n =>
    let x := ginv n.toUInt8
    x ^^^ rotl8 x 1 ^^^ rotl8 x 2 ^^^ rotl8 x 3 ^^^ rotl8 x 4 ^^^ 0x63).toArray

def sub (b : UInt8) : UInt8 := sbox.getD b.toNat 0

def expandKey (key : List UInt8) : Array (List UInt8) :=
  let first := ((List.range 8).map fun i => (key.drop (4 * i)).take 4).toArray
  (List.range 52).foldl (fun (w, rcon) j =>
    let i := j + 8
    let prev := w.getD (i - 1) [0, 0, 0, 0]
    let (t, rcon') :=
      if i % 8 = 0 then
        match prev with
        | [a, b, c, d] => ([sub b ^^^ rcon, sub c, sub d, sub a], xtime rcon)
        | other => (other, rcon)
      else if i % 8 = 4 then (prev.map sub, rcon)
      else (prev, rcon)
    let back := w.getD (i - 8) [0, 0, 0, 0]
    (w.push (List.zipWith (· ^^^ ·) back t), rcon')) (first, (1 : UInt8)) |>.1

def roundKey (w : Array (List UInt8)) (r : Nat) : List UInt8 :=
  (List.range 4).flatMap fun c => w.getD (4 * r + c) [0, 0, 0, 0]

def addKey (s k : List UInt8) : List UInt8 := List.zipWith (· ^^^ ·) s k

/-- Moves row `r` of the column-major state `r` places to the left. -/
def shiftRows (s : List UInt8) : List UInt8 :=
  (List.range 16).map fun i =>
    let r := i % 4
    let c := i / 4
    s.getD (r + 4 * ((c + r) % 4)) 0

def mixColumn : List UInt8 → List UInt8
  | [a, b, c, d] =>
    [xtime a ^^^ (xtime b ^^^ b) ^^^ c ^^^ d,
     a ^^^ xtime b ^^^ (xtime c ^^^ c) ^^^ d,
     a ^^^ b ^^^ xtime c ^^^ (xtime d ^^^ d),
     (xtime a ^^^ a) ^^^ b ^^^ c ^^^ xtime d]
  | other => other

def mixColumns (s : List UInt8) : List UInt8 :=
  (List.range 4).flatMap fun c => mixColumn ((s.drop (4 * c)).take 4)

def round (s k : List UInt8) : List UInt8 := addKey (mixColumns (shiftRows (s.map sub))) k

/-- An expanded AES-256 key. -/
structure Key where
  words : Array (List UInt8)

def Key.ofBytes (key : List UInt8) : Key := ⟨expandKey key⟩

def Key.encryptBlock (k : Key) (block : List UInt8) : List UInt8 :=
  let s0 := addKey block (roundKey k.words 0)
  let s13 := (List.range 13).foldl (fun s r => round s (roundKey k.words (r + 1))) s0
  addKey (shiftRows (s13.map sub)) (roundKey k.words 14)


theorem shiftRows_length (s : List UInt8) : (shiftRows s).length = 16 := by
  simp [shiftRows]

end MailIngest.Cipher
