import MailIngest.Proofs.Renewal
import Mathlib.Data.List.TakeDrop
import Mathlib.Data.List.TakeWhile

/-!
# Sealed tokens open to what was sealed

The vault seals bytes into `v1:` and the URL-safe base64 of a nonce and the sealed data, and
opens such a token back (`Sealer.Faithful`, `sealer_faithful`):

- **Round trips.** Under a key found anew (the configured key, the keychain's key, or one
  generated into the keychain) or kept from before, a token the vault seals opens to the bytes
  sealed, and sealed text opens to the same text. The steps below it are the two codecs: base64
  reads back what it wrote (`Text.Base64.decode_urlSafe`, `Text.Base64.decode_standard`), and
  UTF-8 reads back every text (`Text.Utf8.decode?_encode`).
- **Clean failures.** Opening any text at all ends with the bytes, or with a bad token
  (`.decryption`), or with a missing key (`.keyNotFound`): the key steps turn every failure of
  the keychain or of the key's text into a missing key.
- **Malformed tokens.** A token that is not the version, a colon and a body carrying at least a
  nonce and a tag (`WellFormed`) is refused as a bad token before any key is looked for, so
  nothing changes.

The vault's own settings hold its key as text or as nothing (`Sealer.TextKey`); a configured
key of another kind fails with a type error of its own.
-/

namespace ByteArray

theorem toList_loop_eq_drop (bs : ByteArray) (i : Nat) (r : List UInt8) :
    ByteArray.toList.loop bs i r = r.reverse ++ bs.data.toList.drop i := by
  fun_induction ByteArray.toList.loop bs i r with
  | case1 i r hi ih =>
    rw [ih]
    have hi' : i < bs.data.toList.length := by simpa using hi
    rw [List.drop_eq_getElem_cons hi']
    simp only [ByteArray.get!, List.reverse_cons, List.append_assoc, List.cons_append, List.nil_append,
      Array.getElem_toList, getElem!_pos bs.data i (by simpa using hi)]
  | case2 i r hi =>
    have : bs.data.toList.length ≤ i := by simpa using hi
    simp [List.drop_eq_nil_of_le this]

/-- The bytes of a byte array, read one by one, are the bytes it holds. -/
theorem toList_eq_data (bs : ByteArray) : bs.toList = bs.data.toList := by
  rw [ByteArray.toList]
  simpa using toList_loop_eq_drop bs 0 []

end ByteArray

namespace MailIngest.Text.Utf8

/-! ## UTF-8 reads back every text -/

/-- The bytes of a text are the UTF-8 forms of its characters in turn. -/
theorem encode_eq (s : String) : encode s = s.toList.flatMap String.utf8EncodeChar := by
  have h := String.toByteArray_ofList (l := s.toList)
  rw [String.ofList_toList] at h
  simp only [encode, String.toUTF8_eq_toByteArray, h, List.utf8Encode, ByteArray.toList_eq_data,
    List.toList_data_toByteArray]

/-- A continuation byte within the bounds adds its six bits to the value. -/
theorem takeCont_cont {n : Nat} {lo hi : UInt8} {m : Nat} (r : List UInt8) (acc : Nat) (hn : 0 < n)
    (hm : m < 64) (hlo : lo.toNat ≤ m + 128) (hhi : m + 128 ≤ hi.toNat) :
    takeCont n lo hi (UInt8.ofNat (m + 128) :: r) acc =
      ((takeCont (n - 1) 0x80 0xBF r (acc * 64 + m)).1 + 1,
        (takeCont (n - 1) 0x80 0xBF r (acc * 64 + m)).2) := by
  obtain ⟨k, rfl⟩ : ∃ k, n = k + 1 := ⟨n - 1, by omega⟩
  have hb : (UInt8.ofNat (m + 128)).toNat = m + 128 := by simp; omega
  have hin : lo ≤ UInt8.ofNat (m + 128) ∧ UInt8.ofNat (m + 128) ≤ hi := by
    simp only [UInt8.le_iff_toNat_le, hb]
    exact ⟨hlo, hhi⟩
  have hbits : (UInt8.ofNat (m + 128) &&& 0x3F).toNat = m := by
    rw [UInt8.toNat_and, hb, show (0x3F : UInt8).toNat = 2 ^ 6 - 1 from rfl, Nat.and_two_pow_sub_one_eq_mod]
    omega
  simp only [takeCont, if_pos hin, hbits, Nat.add_sub_cancel]

theorem toNat_ofNat_small {n : Nat} (h : n < 256) : (UInt8.ofNat n).toNat = n := by
  simp only [UInt8.toNat_ofNat']
  omega

/-- The first byte of a character's UTF-8 form reads back the character, taking the rest of the
form and nothing after it. The cases are the four lengths of a form, and within them the lead
bytes whose second byte has narrower bounds. -/
theorem scan_utf8EncodeChar (c : Char) (rest : List UInt8) :
    ∃ b tail, String.utf8EncodeChar c = b :: tail ∧ scan b (tail ++ rest) = (some c, tail.length) := by
  have hv : Nat.isValidChar c.val.toNat := c.valid
  have hc : Char.ofNat c.val.toNat = c := Char.ofNat_toNat c
  unfold String.utf8EncodeChar
  generalize c.val.toNat = v at hv hc
  unfold Nat.isValidChar at hv
  by_cases h1 : v ≤ 0x7F
  · rw [if_pos h1]
    refine ⟨_, [], rfl, ?_⟩
    have hb := toNat_ofNat_small (n := v) (by omega)
    simp only [scan, UInt8.lt_iff_toNat_lt, hb, show (0x80 : UInt8).toNat = 128 from rfl, List.length_nil]
    rw [if_pos (by omega), hc]
  rw [if_neg h1]
  by_cases h2 : v ≤ 0x7FF
  · rw [if_pos h2]
    refine ⟨_, _, rfl, ?_⟩
    have hb := toNat_ofNat_small (n := v / 64 % 32 + 192) (by omega)
    simp only [scan, UInt8.lt_iff_toNat_lt, hb, show (0x80 : UInt8).toNat = 128 from rfl]
    rw [if_neg (by omega)]
    simp only [leadShape, hb]
    rw [if_pos (by omega)]
    simp only [List.cons_append, List.nil_append, List.length_cons, List.length_nil]
    rw [takeCont_cont _ _ (by decide) (by omega) (by simp) (by simp; omega)]
    have hval : (v / 64 % 32 + 192) % 32 * 64 + v % 64 = v := by omega
    simp only [takeCont, Nat.reduceSub, hval, hc, if_true]
  rw [if_neg h2]
  by_cases h3 : v ≤ 0xFFFF
  · rw [if_pos h3]
    refine ⟨_, _, rfl, ?_⟩
    have hb := toNat_ofNat_small (n := v / 4096 % 16 + 224) (by omega)
    simp only [scan, UInt8.lt_iff_toNat_lt, hb, show (0x80 : UInt8).toNat = 128 from rfl]
    rw [if_neg (by omega)]
    simp only [leadShape, hb, List.cons_append, List.nil_append, List.length_cons, List.length_nil]
    rw [if_neg (by omega)]
    -- after 0xE0 the second byte is at least 0xA0, after 0xED at most 0x9F
    by_cases hE0 : v / 4096 = 0
    · rw [if_pos (by omega)]
      dsimp only
      rw [takeCont_cont _ _ (by decide) (by omega) (by simp; omega) (by simp; omega),
        takeCont_cont _ _ (by decide) (by omega) (by simp) (by simp; omega)]
      have hval : (0 * 64 + v / 64 % 64) * 64 + v % 64 = v := by omega
      simp only [takeCont, Nat.reduceSub, hval, hc, if_true]
    rw [if_neg (by omega)]
    by_cases hED : v / 4096 = 13
    · rw [if_pos (by omega)]
      dsimp only
      rw [takeCont_cont _ _ (by decide) (by omega) (by simp) (by simp; omega),
        takeCont_cont _ _ (by decide) (by omega) (by simp) (by simp; omega)]
      have hval : (13 * 64 + v / 64 % 64) * 64 + v % 64 = v := by omega
      simp only [takeCont, Nat.reduceSub, hval, hc, if_true]
    rw [if_neg (by omega), if_pos (by omega)]
    dsimp only
    rw [takeCont_cont _ _ (by decide) (by omega) (by simp) (by simp; omega),
      takeCont_cont _ _ (by decide) (by omega) (by simp) (by simp; omega)]
    have hval : ((v / 4096 % 16 + 224) % 16 * 64 + v / 64 % 64) * 64 + v % 64 = v := by omega
    simp only [takeCont, Nat.reduceSub, hval, hc, if_true]
  rw [if_neg h3]
  refine ⟨_, _, rfl, ?_⟩
  have hb := toNat_ofNat_small (n := v / 262144 % 8 + 240) (by omega)
  simp only [scan, UInt8.lt_iff_toNat_lt, hb, show (0x80 : UInt8).toNat = 128 from rfl]
  rw [if_neg (by omega)]
  simp only [leadShape, hb, List.cons_append, List.nil_append, List.length_cons, List.length_nil]
  rw [if_neg (by omega), if_neg (by omega), if_neg (by omega), if_neg (by omega)]
  -- after 0xF0 the second byte is at least 0x90, after 0xF4 at most 0x8F
  by_cases hF0 : v / 262144 = 0
  · rw [if_pos (by omega)]
    dsimp only
    rw [takeCont_cont _ _ (by decide) (by omega) (by simp; omega) (by simp; omega),
      takeCont_cont _ _ (by decide) (by omega) (by simp) (by simp; omega),
      takeCont_cont _ _ (by decide) (by omega) (by simp) (by simp; omega)]
    have hval : ((0 * 64 + v / 4096 % 64) * 64 + v / 64 % 64) * 64 + v % 64 = v := by omega
    simp only [takeCont, Nat.reduceSub, hval, hc, if_true]
  rw [if_neg (by omega)]
  by_cases hF4 : v / 262144 = 4
  · rw [if_neg (by omega), if_pos (by omega)]
    dsimp only
    rw [takeCont_cont _ _ (by decide) (by omega) (by simp) (by simp; omega),
      takeCont_cont _ _ (by decide) (by omega) (by simp) (by simp; omega),
      takeCont_cont _ _ (by decide) (by omega) (by simp) (by simp; omega)]
    have hval : ((4 * 64 + v / 4096 % 64) * 64 + v / 64 % 64) * 64 + v % 64 = v := by omega
    simp only [takeCont, Nat.reduceSub, hval, hc, if_true]
  rw [if_pos (by omega)]
  dsimp only
  rw [takeCont_cont _ _ (by decide) (by omega) (by simp) (by simp; omega),
    takeCont_cont _ _ (by decide) (by omega) (by simp) (by simp; omega),
    takeCont_cont _ _ (by decide) (by omega) (by simp) (by simp; omega)]
  have hval : (((v / 262144 % 8 + 240) % 8 * 64 + v / 4096 % 64) * 64 + v / 64 % 64) * 64 + v % 64 = v := by
    omega
  simp only [takeCont, Nat.reduceSub, hval, hc, if_true]

/-- Reading the UTF-8 forms of characters gives the characters back, when the fuel covers the
bytes. -/
theorem units_flatMap (cs : List Char) (fuel : Nat)
    (h : (cs.flatMap String.utf8EncodeChar).length ≤ fuel) :
    units fuel (cs.flatMap String.utf8EncodeChar) = cs.map some := by
  induction cs generalizing fuel with
  | nil => cases fuel <;> rfl
  | cons c cs ih =>
    obtain ⟨b, tail, henc, hscan⟩ := scan_utf8EncodeChar c (cs.flatMap String.utf8EncodeChar)
    rw [List.flatMap_cons, henc] at h ⊢
    simp only [List.cons_append, List.length_cons, List.length_append] at h
    obtain ⟨f, rfl⟩ : ∃ f, fuel = f + 1 := ⟨fuel - 1, by omega⟩
    simp only [List.cons_append, units, hscan, List.drop_left, List.map_cons]
    rw [ih f (by omega)]

theorem decode?_encode (s : String) : decode? (encode s) = some s := by
  rw [decode?, encode_eq, units_flatMap _ _ (Nat.le_refl _)]
  have hsome : (s.toList.map some).mapM id = some s.toList := by
    simpa using List.mapM_pure (m := Option) (l := s.toList) (f := id)
  rw [hsome, Option.map_some, String.ofList_toList]

end MailIngest.Text.Utf8

namespace MailIngest.Text.Base64

/-! ## Base64 reads back what it wrote -/

/-- The characters of the standard alphabet read back as their values. -/
theorem sextet_char {v : Nat} (h : v < 64) : sextet (Alphabet.standard.char v) = some v := by
  have hall : ∀ i : Fin 64, sextet (Alphabet.standard.char i) = some i := by decide
  exact hall ⟨v, h⟩

/-- Below 62 the characters of every alphabet are the letters and digits. -/
theorem char_of_lt (a : Alphabet) {v : Nat} (h : v < 62) : a.char v = Alphabet.standard.char v := by
  simp only [Alphabet.char, h, if_true]

/-- No character of the standard alphabet is the padding. -/
theorem char_ne_pad (v : Nat) : Alphabet.standard.char v ≠ '=' := by
  have hlow : ∀ i : Fin 62, Alphabet.standard.char i ≠ '=' := by decide
  by_cases h : v < 62
  · exact hlow ⟨v, h⟩
  · simp only [Alphabet.char, Alphabet.standard, if_neg h, if_neg (show ¬v < 26 by omega),
      if_neg (show ¬v < 52 by omega)]
    split <;> decide

/-- The characters of an alphabet whose last two are ASCII are ASCII. -/
theorem char_ascii (a : Alphabet) (h62 : a.c62.toNat < 0x80) (h63 : a.c63.toNat < 0x80) (v : Nat) :
    (a.char v).toNat < 0x80 := by
  have hlow : ∀ i : Fin 62, (Alphabet.standard.char i).toNat < 0x80 := by decide
  by_cases h : v < 62
  · rw [char_of_lt a h]
    exact hlow ⟨v, h⟩
  · simp only [Alphabet.char, if_neg h, if_neg (show ¬v < 26 by omega), if_neg (show ¬v < 52 by omega)]
    split
    · exact h62
    · exact h63

theorem toUInt8_of_eq {m : Nat} {x : UInt8} (h : m = x.toNat) : m.toUInt8 = x := by
  subst h
  simp

/-- A character of the alphabet is taken into the group, before any padding. -/
theorem run_char {strict : Bool} {r : Reader} {v : Nat} (rest : List Char) (hv : v < 64)
    (hp : r.padded = false) :
    run strict r (Alphabet.standard.char v :: rest) = run strict (r.take v) rest := by
  rw [run, if_neg (char_ne_pad v), sextet_char hv]
  simp [hp]

/-- Padding that does not yet complete the group is counted. -/
theorem run_pad {strict : Bool} {r : Reader} (rest : List Char)
    (h : ¬(r.quad ≥ 2 ∧ r.quad + r.pads + 1 ≥ 4)) :
    run strict r ('=' :: rest) =
      run strict { r with pads := if r.quad ≥ 2 then r.pads + 1 else r.pads, padded := true } rest := by
  rw [run, if_pos rfl, if_neg h]

/-- Padding that completes the last group ends the reading. -/
theorem run_pad_last {strict : Bool} {r : Reader} (h : r.quad ≥ 2 ∧ r.quad + r.pads + 1 ≥ 4) :
    run strict r ['='] = some r.out.reverse := by
  rw [run, if_pos rfl, if_pos h]
  simp

/-- Reading an encoding from the start of a group gives its bytes after those read so far. The
induction follows the encoder's groups of three bytes; each group is four characters read one
by one. -/
theorem run_encodeChars (strict : Bool) (bs : List UInt8) (r : Reader) (hq : r.quad = 0)
    (hp : r.padded = false) :
    run strict r (encodeChars .standard bs) = some (r.out.reverse ++ bs) := by
  fun_induction encodeChars Alphabet.standard bs generalizing r with
  | case1 => simp [run, hq]
  | case2 x =>
    have hx := x.toNat_lt
    rw [run_char _ (by omega) hp, run_char _ (by omega) (by simp [Reader.take, hq, hp]),
      run_pad _ (by simp [Reader.take, hq]), run_pad_last (by simp [Reader.take, hq])]
    simp only [Reader.take, hq]
    simp only [List.reverse_cons, Option.some.injEq, List.append_cancel_left_eq, List.cons.injEq, and_true]
    exact toUInt8_of_eq (by omega)
  | case3 x y =>
    have hx := x.toNat_lt
    have hy := y.toNat_lt
    rw [run_char _ (by omega) hp, run_char _ (by omega) (by simp [Reader.take, hq, hp]),
      run_char _ (by omega) (by simp [Reader.take, hq, hp]), run_pad_last (by simp [Reader.take, hq])]
    simp only [Reader.take, hq]
    simp only [List.reverse_cons, List.append_assoc, List.cons_append, List.nil_append, Option.some.injEq,
      List.append_cancel_left_eq, List.cons.injEq, and_true]
    exact ⟨toUInt8_of_eq (by omega), toUInt8_of_eq (by omega)⟩
  | case4 x y z rest _ ih =>
    have hx := x.toNat_lt
    have hy := y.toNat_lt
    have hz := z.toNat_lt
    rw [run_char _ (by omega) hp, run_char _ (by omega) (by simp [Reader.take, hq, hp]),
      run_char _ (by omega) (by simp [Reader.take, hq, hp]), run_char _ (by omega) (by simp [Reader.take, hq, hp]),
      ih _ (by simp [Reader.take, hq]) (by simp [Reader.take, hq, hp])]
    simp only [Reader.take, hq]
    simp only [List.reverse_cons, List.append_assoc, List.cons_append, List.nil_append, Option.some.injEq,
      List.append_cancel_left_eq, List.cons.injEq]
    exact ⟨toUInt8_of_eq (by omega), toUInt8_of_eq (by omega), toUInt8_of_eq (by omega), trivial⟩

/-- The URL-safe alphabet turned into the standard one, character by character. -/
theorem fromUrlSafe_char (v : Nat) :
    fromUrlSafe [Alphabet.urlSafe.char v] = [Alphabet.standard.char v] := by
  have hlow : ∀ i : Fin 62, fromUrlSafe [Alphabet.standard.char i] = [Alphabet.standard.char i] := by decide
  by_cases h : v < 62
  · rw [char_of_lt _ h]
    exact hlow ⟨v, h⟩
  · simp only [fromUrlSafe, Alphabet.char, Alphabet.urlSafe, Alphabet.standard, if_neg (show ¬v < 26 by omega),
      if_neg (show ¬v < 52 by omega), if_neg h]
    split <;> simp

/-- A URL-safe encoding turned into the standard alphabet is the standard encoding. -/
theorem fromUrlSafe_encodeChars (bs : List UInt8) :
    fromUrlSafe (encodeChars .urlSafe bs) = encodeChars .standard bs := by
  have hc : ∀ v rest, fromUrlSafe (Alphabet.urlSafe.char v :: rest) =
      Alphabet.standard.char v :: fromUrlSafe rest := fun v rest => by
    rw [show Alphabet.urlSafe.char v :: rest = [Alphabet.urlSafe.char v] ++ rest from rfl, fromUrlSafe,
      List.map_append, ← fromUrlSafe, fromUrlSafe_char]
    rfl
  fun_induction encodeChars Alphabet.urlSafe bs with
  | case1 => rfl
  | case2 x => simp only [encodeChars, hc]; rfl
  | case3 x y => simp only [encodeChars, hc]; rfl
  | case4 x y z rest _ ih => simp only [encodeChars, hc, ih]; rfl

/-- Lax reading of a URL-safe encoding gives its bytes. -/
theorem decode_urlSafe (bs : List UInt8) :
    decode false (fromUrlSafe (encodeChars .urlSafe bs)) = some bs := by
  rw [fromUrlSafe_encodeChars, decode, if_neg (by simp)]
  simpa using run_encodeChars false bs {} rfl rfl

/-- Strict reading of a standard encoding gives its bytes. -/
theorem decode_standard (bs : List UInt8) : decode true (encodeChars .standard bs) = some bs := by
  have hhead : (encodeChars .standard bs).head? ≠ some '=' := by
    fun_cases encodeChars Alphabet.standard bs <;> simp [char_ne_pad]
  rw [decode, if_neg (by simp [hhead])]
  simpa using run_encodeChars true bs {} rfl rfl

theorem encodeChars_ascii (a : Alphabet) (ha : a.c62.toNat < 0x80 ∧ a.c63.toNat < 0x80) (bs : List UInt8) :
    (encodeChars a bs).all (·.toNat < 0x80) = true := by
  simp only [List.all_eq_true, decide_eq_true_eq]
  intro c hc
  rcases mem_encodeChars hc with rfl | ⟨v, rfl⟩
  · decide
  · exact char_ascii a ha.1 ha.2 v

end MailIngest.Text.Base64

namespace MailIngest.Vault

open Text

/-! ## The form of tokens and keys -/

/-- A token's text cuts at its first colon exactly into the text before it, which holds no
colon, and the text after it. -/
theorem cut_eq_some_iff (t : String) (v body : List Char) :
    cut t = some (v, body) ↔ t.toList = v ++ ':' :: body ∧ ':' ∉ v := by
  rw [cut, List.span_eq_takeWhile_dropWhile]
  generalize t.toList = cs
  constructor
  · intro h
    rcases hd : List.dropWhile (· != ':') cs with _ | ⟨d, ds⟩ <;> rw [hd] at h
    · cases h
    · cases h
      have hdc : d = ':' := by
        have := List.head_dropWhile_not (· != ':') (l := cs) (by simp [hd])
        simpa [hd] using this
      subst hdc
      refine ⟨by rw [← hd, List.takeWhile_append_dropWhile], fun hm => ?_⟩
      simpa using List.mem_takeWhile_imp hm
  · rintro ⟨rfl, hv⟩
    have hp : ∀ a ∈ v, (a != ':') = true := fun a ha => by
      simp only [bne_iff_ne, ne_eq]
      rintro rfl
      exact hv ha
    rw [List.takeWhile_append_of_pos hp, List.dropWhile_append_of_pos hp]
    simp

/-- A token in the form the vault writes: the version, a colon, and a body that carries at
least a nonce and a tag. -/
def WellFormed (t : String) : Prop :=
  ∃ body bs, t.toList = version.toList ++ ':' :: body ∧ bodyBytes body = some bs ∧
    nonceSize + tagSize ≤ bs.length

/-- Every token refused by its form is refused as a bad token. -/
theorem parse_fails {t : String} {f : Fault} (h : parse t = .error f) : ∃ msg, f = decryptFault msg := by
  unfold parse at h
  split at h
  · cases h
    exact ⟨_, rfl⟩
  · split at h
    · cases h
      exact ⟨_, rfl⟩
    · split at h
      · cases h
        exact ⟨_, rfl⟩
      · split at h
        · cases h
          exact ⟨_, rfl⟩
        · cases h

theorem parse_wellFormed {t : String} {p : List UInt8 × List UInt8} (h : parse t = .ok p) : WellFormed t := by
  unfold parse at h
  split at h
  · cases h
  · rename_i v body hcut
    split at h
    · cases h
    · rename_i hv
      have hv' : v = version.toList := by
        have h := congrArg String.toList (not_not.mp hv)
        rwa [String.toList_ofList] at h
      split at h
      · cases h
      · rename_i bs hbs
        split at h
        · cases h
        · rename_i hlen
          exact ⟨body, bs, hv' ▸ ((cut_eq_some_iff t v body).mp hcut).1, hbs, by omega⟩

/-- A sealed token reads back as its nonce and sealed data. -/
theorem parse_sealToken (k pt : List UInt8) {n : List UInt8} (hn : n.length = nonceSize) :
    parse (sealToken k n pt) = .ok (n, (Cipher.Key.ofBytes k).seal n [] pt) := by
  have hcut : cut (sealToken k n pt) =
      some (version.toList, Base64.encodeChars .urlSafe (n ++ (Cipher.Key.ofBytes k).seal n [] pt)) := by
    rw [cut_eq_some_iff]
    exact ⟨by simp [sealToken, version, Base64.encode], by simp [version]⟩
  have hbody : bodyBytes (Base64.encodeChars .urlSafe (n ++ (Cipher.Key.ofBytes k).seal n [] pt)) =
      some (n ++ (Cipher.Key.ofBytes k).seal n [] pt) := by
    rw [bodyBytes, if_pos (Base64.encodeChars_ascii .urlSafe (by decide) _), Base64.decode_urlSafe]
  have hlen : (n ++ (Cipher.Key.ofBytes k).seal n [] pt).length = nonceSize + (pt.length + tagSize) := by
    rw [List.length_append, Cipher.seal_length, hn]
    rfl
  simp only [parse, hcut, String.ofList_toList, ne_eq, not_true_eq_false, if_false, hbody, hlen]
  rw [if_neg (by omega), List.take_left' hn, List.drop_left' hn]

theorem decodeKey_encode {k : List UInt8} (hk : k.length = keySize) :
    decodeKey (Base64.encode .standard k) = .ok k := by
  simp only [decodeKey, Base64.encode, String.toList_ofList, Base64.encodeChars_ascii .standard (by decide),
    if_true, Base64.decode_standard, hk]

theorem decodeKey_fails {text : String} {f : Fault} (h : decodeKey text = .error f) :
    ∃ msg, f = keyFault msg := by
  dsimp only [decodeKey] at h
  split at h
  · cases h
    exact ⟨_, rfl⟩
  · split at h
    · cases h
    · cases h
      exact ⟨_, rfl⟩

theorem encode_key_isEmpty {k : List UInt8} (hk : k.length = keySize) :
    (Base64.encode .standard k).isEmpty = false := by
  have hlen := Base64.encode_length .standard k
  rw [hk] at hlen
  cases he : (Base64.encode .standard k).isEmpty
  · rfl
  · have hnil := String.ofList_eq_empty_iff.mp (String.isEmpty_iff.mp he)
    rw [hnil] at hlen
    cases hlen

/-! ## Where the key comes from -/

/-- The configured key is text or nothing, as the vault's settings hold it. -/
def Sealer.TextKey (s : Sealer) : Prop := s.configured = .null ∨ ∃ t, s.configured = .str t

def Sealer.Finds (s : Sealer) (k : List UInt8) : Prop := (key.run.run s).1 = .ok k

theorem Sealer.Finds.run {s : Sealer} {k : List UInt8} (h : s.Finds k) :
    ∃ s', key.run.run s = (.ok k, s') ∧ s'.cache = some k := by
  have hk := key_spec s.cache s rfl
  rcases hrun : key.run.run s with ⟨r, s'⟩
  rw [hrun] at hk
  have hr : r = .ok k := by
    unfold Sealer.Finds at h
    rw [hrun] at h
    exact h
  subst hr
  exact ⟨s', rfl, (hk k rfl).1⟩

/-- Where a vault finds the 32-byte key `k`: kept from before, configured in base64, or read
from the keychain, which may have to generate it first, when no key is configured. -/
inductive Sealer.KeySource (s : Sealer) : List UInt8 → Prop
  | cached {k : List UInt8} : s.cache = some k → s.KeySource k
  | configured {k : List UInt8} : s.cache = none → k.length = keySize →
      s.configured = .str (Base64.encode .standard k) → s.KeySource k
  | stored {k : List UInt8} (kc : Secrets.Keychain) : s.cache = none →
      configuredText s.configured = .ok none → s.keychain = some kc → k.length = keySize →
      kc.get s.service s.entry = .ok (some (Base64.encode .standard k)) → s.KeySource k
  | generated (kc : Secrets.Keychain) : s.cache = none → configuredText s.configured = .ok none →
      s.keychain = some kc →
      kc.get s.service s.entry = .ok none ∨ kc.get s.service s.entry = .ok (some "") →
      s.KeySource (s.entropy.bytes keySize).1

/-- A keychain that answers a read is unlocked, and takes a write. -/
theorem Secrets.Keychain.set_of_get {kc : Secrets.Keychain} {sv a : String} {x : Option String}
    (h : kc.get sv a = .ok x) (v : String) : ∃ kc', kc.set sv a v = .ok kc' := by
  unfold Secrets.Keychain.get at h
  unfold Secrets.Keychain.set
  split at h
  · cases h
  · rename_i hl
    exact ⟨_, by rw [hl]⟩

theorem Sealer.KeySource.finds {s : Sealer} {k : List UInt8} (h : s.KeySource k) : s.Finds k := by
  unfold Sealer.Finds
  cases h with
  | cached hc => rw [key_cached s k hc]
  | configured hc hk hcfg =>
    simp only [key, run_bind, run_get, hc, hcfg, configuredText, encode_key_isEmpty hk, run_liftExcept,
      Bool.false_eq_true, if_false, pure_bind, decodeKey_encode hk, run_modify, run_pure]
  | stored kc hc hnone hkc hk hget =>
    simp only [key, run_bind, run_get, hc, hnone, hkc, run_liftExcept, storedKey, hget, encode_key_isEmpty hk,
      Bool.false_eq_true, if_false, run_pure, decodeKey_encode hk, run_modify]
  | generated kc hc hnone hkc hget =>
    have hk : (s.entropy.bytes keySize).1.length = keySize := Entropy.bytes_length _ _ (by decide)
    have hdec : decodeKey (generateKey s.entropy).1 = .ok (s.entropy.bytes keySize).1 := decodeKey_encode hk
    obtain ⟨kc', hset⟩ : ∃ kc', kc.set s.service s.entry (generateKey s.entropy).1 = .ok kc' := by
      rcases hget with h | h <;> exact Secrets.Keychain.set_of_get h _
    have hgen : ∃ s', (storedKey.generate kc).run.run s = (.ok (generateKey s.entropy).1, s') := by
      simp only [storedKey.generate, run_bind, run_modifyGet, run_get, hset, run_modify, run_pure]
      exact ⟨_, rfl⟩
    obtain ⟨s', hrun⟩ := hgen
    rcases hget with h | h
    · simp only [key, run_bind, run_get, hc, hnone, hkc, run_liftExcept, storedKey, h, hrun, hdec,
        run_modify, run_pure]
    · have hempty : "".isEmpty = true := rfl
      simp only [key, run_bind, run_get, hc, hnone, hkc, run_liftExcept, storedKey, h, hempty, if_true, hrun,
        hdec, run_modify, run_pure]

/-- Every failure of the keychain steps is a missing key. -/
theorem storedKey_fails (kc : Secrets.Keychain) (s : Sealer) {f : Fault}
    (h : ((storedKey kc).run.run s).1 = .error f) : ∃ msg, f = keyFault msg := by
  have hgen : ∀ s : Sealer, ((storedKey.generate kc).run.run s).1 = .error f → ∃ msg, f = keyFault msg := by
    intro s h
    simp only [storedKey.generate, run_bind, run_modifyGet, run_get] at h
    split at h
    · simp only [run_bind, run_modify, run_pure] at h
      cases h
    · cases h
      exact ⟨_, rfl⟩
  simp only [storedKey, run_bind, run_get] at h
  split at h
  · split at h
    · exact hgen _ h
    · cases h
  · exact hgen _ h
  · cases h
    exact ⟨_, rfl⟩

/-- Every failure to find a vault's key is a missing key, or the failure to read a configured
key that is neither text nor nothing. -/
theorem key_faults (s : Sealer) {f : Fault} (h : (key.run.run s).1 = .error f) :
    (∃ msg, f = keyFault msg) ∨ configuredText s.configured = .error f := by
  have hdecode : ∀ (text : String) (s' : Sealer), ((do
      let k ← liftM (decodeKey text)
      modify fun s : Sealer => { s with cache := some k }
      pure k : SealM (List UInt8)).run.run s').1 = .error f → ∃ msg, f = keyFault msg := by
    intro text s' h
    simp only [run_bind, run_liftExcept] at h
    rcases hd : decodeKey text with e | k <;> rw [hd] at h
    · cases h
      exact decodeKey_fails hd
    · cases h
  simp only [key, run_bind, run_get] at h
  split at h
  · cases h
  · simp only [run_bind, run_liftExcept] at h
    rcases hct : configuredText s.configured with e | c <;> rw [hct] at h
    · cases h
      exact .inr rfl
    rcases c with _ | t
    · rcases hkc : s.keychain with _ | kc <;> simp only [hkc] at h
      · cases h
        exact .inl ⟨_, rfl⟩
      · rw [run_bind] at h
        rcases hst : (storedKey kc).run.run s with ⟨e | t, s'⟩ <;> rw [hst] at h
        · cases h
          exact .inl (storedKey_fails kc s (by rw [hst]))
        · exact .inl (hdecode t s' h)
    · simp only [pure_bind] at h
      exact .inl (hdecode t s h)

/-- Every failure to find the key of a vault whose key is text or nothing is a missing key. -/
theorem key_fails {s : Sealer} (hcfg : s.TextKey) {f : Fault} (h : (key.run.run s).1 = .error f) :
    ∃ msg, f = keyFault msg := by
  refine (key_faults s h).resolve_right fun hct => ?_
  rcases hcfg with hn | ⟨t, ht⟩
  · rw [hn] at hct
    cases hct
  · rw [ht] at hct
    cases hct

/-! ## Sealing and opening -/

/-- Sealing under a found key draws a fresh 12-byte nonce and keeps the key. -/
theorem encrypt_found {s : Sealer} {k : List UInt8} (h : s.Finds k) (pt : List UInt8) :
    ∃ n s', (encrypt pt none).run.run s = (.ok (sealToken k n pt), s') ∧ n.length = nonceSize ∧
      s'.cache = some k := by
  obtain ⟨s1, hk, hc⟩ := h.run
  simp only [encrypt, run_bind, hk, draw, run_modifyGet]
  have hlen : (s1.entropy.bytes nonceSize).1.length = nonceSize := Entropy.bytes_length _ _ (by decide)
  have hfits : nonceFits (s1.entropy.bytes nonceSize).1 = true := by
    rw [nonceFits, hlen]
    decide
  rw [if_pos hfits]
  exact ⟨_, _, rfl, hlen, hc⟩

/-- Opening a token: its form is read first, then the key is found, then the sealed data
opened. -/
theorem decryptBytes_run (t : String) (s : Sealer) :
    (decryptBytes (.str t)).run.run s = match parse t with
      | .error f => (.error f, s)
      | .ok (n, sealed) => match key.run.run s with
        | (.ok k, s') => (openSealed k n sealed, s')
        | (.error f, s') => (.error f, s') := by
  simp only [decryptBytes, tokenText, run_bind, run_liftExcept]
  rcases parse t with f | ⟨n, sealed⟩
  · rfl
  · dsimp only
    rcases key.run.run s with ⟨_ | k, s'⟩ <;> rfl

/-- Opening a token as text reads its opened bytes as UTF-8. -/
theorem decrypt_run (t : Json) (s : Sealer) :
    (decrypt t).run.run s = match (decryptBytes t).run.run s with
      | (.ok b, s') => (asText b, s')
      | (.error f, s') => (.error f, s') := by
  simp only [decrypt, run_bind]
  rcases (decryptBytes t).run.run s with ⟨_ | b, s'⟩
  · rfl
  · exact run_liftExcept _ _

/-- A token sealed under the kept key opens to its plaintext, and nothing changes. -/
theorem decryptBytes_sealToken {s : Sealer} {k : List UInt8} (hc : s.cache = some k) (pt : List UInt8)
    {n : List UInt8} (hn : n.length = nonceSize) :
    (decryptBytes (.str (sealToken k n pt))).run.run s = (.ok pt, s) := by
  rw [decryptBytes_run, parse_sealToken k pt hn]
  dsimp only
  rw [key_cached s k hc]
  simp only [openSealed, open_seal]

/-- Every failure to open a token of a vault whose key is text or nothing is a bad token or a
missing key. -/
theorem decryptBytes_fails {s : Sealer} (hcfg : s.TextKey) {t : String} {f : Fault}
    (h : ((decryptBytes (.str t)).run.run s).1 = .error f) : f.isA .decryption ∨ f.isA .keyNotFound := by
  rw [decryptBytes_run] at h
  rcases hp : parse t with e | ⟨n, sealed⟩ <;> rw [hp] at h
  · cases h
    obtain ⟨msg, rfl⟩ := parse_fails hp
    exact .inl rfl
  · dsimp only at h
    rcases hk : key.run.run s with ⟨e | k, s'⟩ <;> rw [hk] at h
    · cases h
      obtain ⟨msg, rfl⟩ := key_fails hcfg (by rw [hk])
      exact .inr rfl
    · dsimp only at h
      unfold openSealed at h
      split at h
      · cases h
      · cases h
        exact .inl rfl

/-- A malformed token is refused as a bad token before any key is looked for. -/
theorem decryptBytes_malformed {t : String} (ht : ¬WellFormed t) (s : Sealer) :
    ∃ msg, (decryptBytes (.str t)).run.run s = (.error (decryptFault msg), s) := by
  rcases hp : parse t with e | p
  · obtain ⟨msg, rfl⟩ := parse_fails hp
    refine ⟨msg, ?_⟩
    rw [decryptBytes_run, hp]
  · exact absurd (parse_wellFormed hp) ht

/-- Every token the vault seals is the plaintext sealed under a 12-byte nonce and the key the
vault then keeps. -/
theorem encrypt_sealed (pt : List UInt8) (s : Sealer) {tok : String}
    (h : ((encrypt pt none).run.run s).1 = .ok tok) :
    ∃ k n, n.length = nonceSize ∧ ((encrypt pt none).run.run s).2.cache = some k ∧ tok = sealToken k n pt := by
  rcases hk : key.run.run s with ⟨_ | k, s'⟩
  · -- a vault without its key seals nothing
    simp only [encrypt, run_bind, hk] at h
    cases h
  · have hfinds : s.Finds k := by
      unfold Sealer.Finds
      rw [hk]
    obtain ⟨n, s'', henc, hn, hc⟩ := encrypt_found hfinds pt
    rw [henc] at h ⊢
    cases h
    exact ⟨k, n, hn, hc, rfl⟩

/-- A token sealed under the kept key opens to its text, and nothing changes. -/
theorem decrypt_sealToken {s : Sealer} {k : List UInt8} (hc : s.cache = some k) (x : String)
    {n : List UInt8} (hn : n.length = nonceSize) :
    (decrypt (.str (sealToken k n (Text.Utf8.encode x)))).run.run s = (.ok x, s) := by
  rw [decrypt_run, decryptBytes_sealToken hc _ hn]
  simp only [asText, Text.Utf8.decode?_encode]

/-- Opening a token a second time gives the same text and changes nothing: the first opening
kept the key. -/
theorem decrypt_again {t : String} {s s' : Sealer} {x : String}
    (h : (decrypt (.str t)).run.run s = (.ok x, s')) : (decrypt (.str t)).run.run s' = (.ok x, s') := by
  rw [decrypt_run, decryptBytes_run] at h ⊢
  rcases hp : parse t with f | ⟨n, sealed⟩ <;> rw [hp] at h
  · cases h
  · have hk := key_spec s.cache s rfl
    dsimp only at h ⊢
    rcases hrun : key.run.run s with ⟨_ | k, s1⟩ <;> rw [hrun] at h hk
    · cases h
    · dsimp only at h hk
      rcases ho : openSealed k n sealed with f | b <;> rw [ho] at h
      · cases h
      · obtain ⟨hx, rfl⟩ := Prod.mk.inj h
        rw [key_cached s1 k (hk k rfl).1]
        dsimp only
        rw [ho]
        exact congrArg (·, s1) hx

/-! ## The vault's promise -/

/-- What a vault does with tokens, from the state `s`. -/
structure Sealer.Faithful (s : Sealer) : Prop where
  /-- Under a key from any source, a token the vault seals opens to the bytes sealed. -/
  bytes : ∀ k, s.KeySource k → ∀ b, ∃ t s', (encrypt b none).run.run s = (.ok t, s') ∧
    (decryptBytes (.str t)).run.run s' = (.ok b, s')
  /-- Under a key from any source, sealed text opens to the same text. -/
  text : ∀ k, s.KeySource k → ∀ x : String, ∃ t s',
    (encrypt (Text.Utf8.encode x) none).run.run s = (.ok t, s') ∧ (decrypt (.str t)).run.run s' = (.ok x, s')
  /-- Opening any text as bytes fails only as a bad token or a missing key. -/
  bytesClean : ∀ t f, ((decryptBytes (.str t)).run.run s).1 = .error f →
    f.isA .decryption ∨ f.isA .keyNotFound
  /-- Opening any text as text fails only as a bad token or a missing key. -/
  textClean : ∀ t f, ((decrypt (.str t)).run.run s).1 = .error f → f.isA .decryption ∨ f.isA .keyNotFound
  /-- A malformed token is refused as a bad token, as bytes and as text, and nothing changes. -/
  malformed : ∀ t, ¬WellFormed t → ∃ f, f.isA .decryption ∧
    (decryptBytes (.str t)).run.run s = (.error f, s) ∧ (decrypt (.str t)).run.run s = (.error f, s)

/-- A vault whose key is text or nothing opens every token it seals to what was sealed, bytes
or text, wherever its key comes from; opening any text fails only as a bad token or a missing
key, and a malformed token is refused as a bad token with nothing changed. -/
theorem sealer_faithful (s : Sealer) (hcfg : s.TextKey) : s.Faithful := by
  refine ⟨fun k hk b => ?_, fun k hk x => ?_, fun t f h => decryptBytes_fails hcfg h, fun t f h => ?_,
    fun t ht => ?_⟩
  · obtain ⟨n, s', henc, hn, hc⟩ := encrypt_found hk.finds b
    exact ⟨_, s', henc, decryptBytes_sealToken hc b hn⟩
  · obtain ⟨n, s', henc, hn, hc⟩ := encrypt_found hk.finds (Text.Utf8.encode x)
    refine ⟨_, s', henc, ?_⟩
    rw [decrypt_run, decryptBytes_sealToken hc _ hn]
    simp only [asText, Text.Utf8.decode?_encode]
  · rw [decrypt_run] at h
    rcases hb : (decryptBytes (.str t)).run.run s with ⟨e | b, s'⟩ <;> rw [hb] at h
    · dsimp only at h
      cases h
      exact decryptBytes_fails hcfg (by rw [hb])
    · dsimp only at h
      unfold asText at h
      split at h
      · cases h
      · cases h
        exact .inl rfl
  · obtain ⟨msg, hrun⟩ := decryptBytes_malformed ht s
    exact ⟨_, rfl, hrun, by rw [decrypt_run, hrun]⟩

/-- The configured vault meets the hypothesis, finds its key, and is faithful under it. -/
theorem keyedSealer_faithful :
    Service.configuredVault.TextKey ∧ Service.configuredVault.KeySource (List.replicate keySize 7) ∧
      Service.configuredVault.Faithful :=
  ⟨.inr ⟨_, rfl⟩, .configured rfl List.length_replicate rfl, sealer_faithful _ (.inr ⟨_, rfl⟩)⟩

end MailIngest.Vault
