import MailIngest.Proofs.JsonText
import MailIngest.Proofs.Steps
import MailIngest.Service.Accounts

/-!
# Pending entries

Between a start and its callback a verifier waits in the pending store under its state. This
module says what the store holds and what taking an entry finds, for both kinds of store.

A drawn verifier is URL-safe base64, so it is written verbatim in a shared entry's JSON text,
and the text reads back with that verifier whatever time stands beside it
(`readShared_sharedEntry`). Its challenge is the hash of its bytes (`Challenge.Drawn.codeChallenge`).

Keeping and taking an entry are `PendingStore.put` and `PendingStore.drop` on the store
(`pendingPut_live`, `pendingTake_live`). A property `G` of every entry (`PendingStore.All`)
survives both, and an entry that a take finds satisfies it and was fresh when taken
(`PendingStore.found_entry`).
-/

namespace MailIngest

/-! ## Drawn verifiers -/

theorem Text.Base64.urlSafe_char_verbatim (v : Nat) : Json.Verbatim (Alphabet.urlSafe.char v) := by
  have hlow : ∀ i : Fin 62, Json.Verbatim (Alphabet.urlSafe.char i) := by decide
  by_cases h : v < 62
  · exact hlow ⟨v, h⟩
  · unfold Alphabet.char
    rw [if_neg (by omega), if_neg (by omega), if_neg (by omega)]
    split <;> decide

/-- Every character of an encoding is the padding or a character of the alphabet. -/
theorem Text.Base64.mem_encodeChars {a : Alphabet} {bs : List UInt8} {c : Char}
    (h : c ∈ encodeChars a bs) : c = '=' ∨ ∃ v, c = a.char v := by
  fun_induction encodeChars a bs with
  | case1 => simp at h
  | case2 x =>
    simp only [List.mem_cons, List.not_mem_nil, or_false] at h
    rcases h with rfl | rfl | rfl | rfl
    · exact .inr ⟨_, rfl⟩
    · exact .inr ⟨_, rfl⟩
    · exact .inl rfl
    · exact .inl rfl
  | case3 x y =>
    simp only [List.mem_cons, List.not_mem_nil, or_false] at h
    rcases h with rfl | rfl | rfl | rfl
    · exact .inr ⟨_, rfl⟩
    · exact .inr ⟨_, rfl⟩
    · exact .inr ⟨_, rfl⟩
    · exact .inl rfl
  | case4 x y z rest _ ih =>
    simp only [List.mem_cons] at h
    rcases h with rfl | rfl | rfl | rfl | h
    · exact .inr ⟨_, rfl⟩
    · exact .inr ⟨_, rfl⟩
    · exact .inr ⟨_, rfl⟩
    · exact .inr ⟨_, rfl⟩
    · exact ih h

/-- A URL-safe draw is written verbatim in a JSON string. -/
theorem Entropy.urlsafe_verbatim (e : Entropy) (n : Nat) :
    ∀ c ∈ (e.urlsafe n).1.toList, Json.Verbatim c := by
  intro c hc
  simp only [Entropy.urlsafe, Text.Base64.encodeUnpadded, String.toList_ofList, List.mem_filter,
    decide_eq_true_eq] at hc
  rcases Text.Base64.mem_encodeChars hc.1 with h | ⟨v, rfl⟩
  · exact absurd h hc.2
  · exact Text.Base64.urlSafe_char_verbatim v

namespace OAuth

def Challenge.Drawn (ch : Challenge) : Prop := ∃ e, ch = (Challenge.generate e).1

theorem Challenge.Drawn.verbatim {ch : Challenge} (h : ch.Drawn) :
    ∀ c ∈ ch.verifier.toList, Json.Verbatim c := by
  obtain ⟨e, rfl⟩ := h
  exact Entropy.urlsafe_verbatim e 32

/-- The challenge sent with a drawn verifier is the one the verifier has. -/
theorem Challenge.Drawn.codeChallenge {ch : Challenge} (h : ch.Drawn) :
    codeChallenge ch.verifier = .ok ch.challenge := by
  obtain ⟨e, rfl⟩ := h
  have hascii : (e.urlsafe 32).1.toList.all (·.toNat < 0x80) := by
    simp only [List.all_eq_true, decide_eq_true_eq]
    intro c hc
    have := (Entropy.urlsafe_verbatim e 32 c hc).2.1
    omega
  exact codeChallenge_ascii _ hascii

/-! ## Shared entries read back -/

open Json in
/-- The text of a shared entry with a verbatim verifier. -/
theorem sharedEntry_toList (v : String) (t : Float) (hv : ∀ c ∈ v.toList, Verbatim c) :
    (sharedEntry v t).toList =
      "\x7b\"code_verifier\": \"".toList ++ v.toList ++ "\", \"created_at\": ".toList ++
        (Decimal.render .json t).toList ++ ['}'] := by
  have hk1 := toList_quote "code_verifier" (verbatim_of_all (by decide))
  have hk2 := toList_quote "created_at" (verbatim_of_all (by decide))
  simp [sharedEntry, render, renderMembers, hk1, hk2, toList_quote v hv]

open Json in
/-- Reading a shared entry's text gives an object whose first member is the verifier: the
time after it holds no quote, bracket or comma, so its reading stops before the closing
brace. -/
theorem readValue_sharedEntryText (f n : Nat) (v X : List Char) (hv : ∀ c ∈ v, Verbatim c)
    (hX : ∀ c ∈ X, c ≠ '{' ∧ c ≠ '[' ∧ c ≠ '"' ∧ c ≠ ',') {j : Json} {rest : List Char}
    (h : readValue (f + 3) (n + 1) ("\x7b\"code_verifier\": \"".toList ++ v ++ "\", \"created_at\": ".toList ++
      X ++ ['}']) = .ok (j, rest)) :
    ∃ x, j = .obj [("code_verifier", .str (String.ofList v)), ("created_at", x)] := by
  simp only [List.append_assoc, String.reduceToList, List.cons_append] at h
  rw [readValue_brace_quote, readMembers] at h
  simp (disch := decide) [skipBlanks, isBlank, readString_cons, readString_quote] at h
  rw [readValue] at h
  simp (disch := decide) [skipBlanks, isBlank, readString_verbatim _ _ _ hv] at h
  rw [readMembers] at h
  simp (disch := decide) [skipBlanks, isBlank, readString_cons, readString_quote, setMember] at h
  have hflat : ∀ c ∈ ' ' :: (X ++ ['}']), c ≠ '{' ∧ c ≠ '[' ∧ c ≠ '"' ∧ c ≠ ',' := by
    intro c hc
    simp only [List.mem_cons, List.mem_append, List.not_mem_nil, or_false] at hc
    rcases hc with rfl | hc | rfl
    · decide
    · exact hX c hc
    · decide
  cases hx : readValue f n (' ' :: (X ++ ['}'])) with
  | error e => simp [hx] at h
  | ok p =>
    obtain ⟨x, r⟩ := p
    have hr := (skipBlanks_suffix r).trans
      (readValue_flat_suffix (fun c hc => ⟨(hflat c hc).1, (hflat c hc).2.1, (hflat c hc).2.2.1⟩) hx)
    simp only [hx] at h
    split at h
    · rename_i more heq
      exact absurd rfl (hflat ',' (hr.subset (by rw [heq]; exact List.mem_cons_self))).2.2.2
    · cases h
      exact ⟨x, rfl⟩
    · cases h

open Json in
theorem readValue_of_parse {s : String} {j : Json} (h : parse s = .ok j) :
    ∃ r, readValue (2 * s.toList.length + 1) (s.toList.length + 1) s.toList = .ok (j, r) := by
  unfold parse parseWithin at h
  dsimp only at h
  split at h
  · cases h
  · rename_i v r heq
    split at h
    · cases h
      exact ⟨r, heq⟩
    · cases h

/-- A shared entry with a verbatim verifier reads back with its verifier, whenever it reads as
fresh. -/
theorem readShared_sharedEntry {v : String} {t now ttl : Float} {j : Json}
    (hv : ∀ c ∈ v.toList, Json.Verbatim c)
    (h : readShared (.str (sharedEntry v t)) now ttl = .ok (some j)) : j = .str v := by
  unfold readShared at h
  cases hp : Json.parse (sharedEntry v t) with
  | error e => simp [hp] at h
  | ok val =>
    obtain ⟨r, hr⟩ := readValue_of_parse hp
    -- the text is long enough for the three levels the reading goes through
    obtain ⟨f, hf⟩ : ∃ f, 2 * (sharedEntry v t).toList.length + 1 = f + 3 :=
      ⟨2 * (sharedEntry v t).toList.length - 2, by rw [sharedEntry_toList v t hv]; simp only [List.length_append, List.length_cons]; omega⟩
    rw [hf, sharedEntry_toList v t hv] at hr
    obtain ⟨x, rfl⟩ := readValue_sharedEntryText f _ v.toList _ hv
      (fun c hc => (Decimal.numeral_render t c hc).not_delimiter) hr
    have hne : ("created_at" = "code_verifier") = False := by decide
    have hne' : ("code_verifier" = "created_at") = False := by decide
    simp only [hp, Json.lookup, String.ofList_toList, if_true, hne, hne', if_false] at h
    cases htime : timeOf x with
    | error e => simp [htime, bind, Except.bind] at h
    | ok created =>
      rw [htime] at h
      cases created with
      | none => cases h
      | some c =>
        simp only [bind, Except.bind, pure, Except.pure] at h
        split at h
        · cases h
        · cases h; rfl

/-! ## Keeping and taking -/

theorem Redis.getdel_snd (r : Redis) (key : String) (now : Float) :
    (r.getdel key now).2 = ⟨r.keys.filter (·.1 ≠ key)⟩ := by
  unfold Redis.getdel
  split <;> rfl

theorem LocalPending.mem_putEntry {s : String} {e : String × Float} {x : String × String × Float} :
    ∀ {xs : List (String × String × Float)}, x ∈ LocalPending.putEntry s e xs → x = (s, e) ∨ x ∈ xs
  | [], h => by simpa [LocalPending.putEntry] using h
  | (k, v) :: rest, h => by
    unfold LocalPending.putEntry at h
    split at h
    · rename_i hk
      subst hk
      rcases List.mem_cons.mp h with rfl | h
      · exact .inl rfl
      · exact .inr (List.mem_cons_of_mem _ h)
    · rcases List.mem_cons.mp h with rfl | h
      · exact .inr List.mem_cons_self
      · exact (mem_putEntry h).imp_right (List.mem_cons_of_mem _)

theorem Redis.mem_putKey {key : String} {e : Json × Float} {x : String × Json × Float} :
    ∀ {xs : List (String × Json × Float)}, x ∈ Redis.putKey key e xs → x = (key, e) ∨ x ∈ xs
  | [], h => by simpa [Redis.putKey] using h
  | (k, v) :: rest, h => by
    unfold Redis.putKey at h
    split at h
    · rename_i hk
      subst hk
      rcases List.mem_cons.mp h with rfl | h
      · exact .inl rfl
      · exact .inr (List.mem_cons_of_mem _ h)
    · rcases List.mem_cons.mp h with rfl | h
      · exact .inr List.mem_cons_self
      · exact (mem_putKey h).imp_right (List.mem_cons_of_mem _)

end OAuth

namespace Service.PendingStore

open OAuth

/-- Whether the store can be used: a shared store's client is gone once it is closed. -/
def live : PendingStore → Bool
  | .inProcess _ => true
  | .shared _ _ live => live

/-- Whether an entry made at `made` is still kept at `now`: until its time to live in the
process, until its key's expiry in a shared store. -/
def Fresh : PendingStore → Float → Float → Prop
  | .inProcess p, made, now => expired made now p.ttl = false
  | .shared _ ttl _, made, now => now < made + wholeSeconds ttl

/-- The store after a verifier is kept under a state at a time. -/
def put : PendingStore → String → String → Float → PendingStore
  | .inProcess p, s, v, now => .inProcess (p.put s v now)
  | .shared r ttl live, s, v, now =>
    .shared (r.setex (sharedPrefix ++ s) (wholeSeconds ttl) (.str (sharedEntry v now)) now) ttl live

/-- The store after the entry of a state is taken at a time. -/
def drop : PendingStore → String → Float → PendingStore
  | .inProcess p, s, now => .inProcess (p.take s now).2
  | .shared r ttl live, s, now => .shared (r.getdel (sharedPrefix ++ s) now).2 ttl live

/-- Every entry of the store, as its state, its verifier and the time it was made, satisfies
`G`; in a shared store every key is such an entry. -/
def All (G : String → String → Float → Prop) : PendingStore → Prop
  | .inProcess p => ∀ e ∈ p.entries, G e.1 e.2.1 e.2.2
  | .shared r ttl _ => ∀ k ∈ r.keys, ∃ s v t,
      k = (sharedPrefix ++ s, .str (sharedEntry v t), t + wholeSeconds ttl) ∧ G s v t

/-- Taking the entry of a state at `now` found the verifier `j`. -/
def Found : PendingStore → String → Float → Json → Prop
  | .inProcess p, s, now, j => ∃ v, p.fresh? s now = some v ∧ j = .str v
  | .shared r ttl _, s, now, j => ∃ raw, (r.getdel (sharedPrefix ++ s) now).1 = some raw ∧
      readShared raw now ttl = .ok (some j)

def Vacant : PendingStore → Prop
  | .inProcess p => p.entries = []
  | .shared r _ _ => r.keys = []

@[simp] theorem fresh_put (p : PendingStore) (s v : String) (now : Float) :
    (p.put s v now).Fresh = p.Fresh := by
  cases p <;> rfl

@[simp] theorem fresh_drop (p : PendingStore) (s : String) (now : Float) :
    (p.drop s now).Fresh = p.Fresh := by
  cases p <;> rfl

@[simp] theorem live_put (p : PendingStore) (s v : String) (now : Float) :
    (p.put s v now).live = p.live := by
  cases p <;> rfl

@[simp] theorem live_drop (p : PendingStore) (s : String) (now : Float) :
    (p.drop s now).live = p.live := by
  cases p <;> rfl

theorem all_vacant {G : String → String → Float → Prop} {p : PendingStore} (h : p.Vacant) :
    p.All G := by
  cases p with
  | inProcess l => simp only [Vacant] at h; simp [All, h]
  | shared r ttl live => simp only [Vacant] at h; simp [All, h]

theorem All.mono {G G' : String → String → Float → Prop} {p : PendingStore} (h : p.All G)
    (hG : ∀ s v t, G s v t → G' s v t) : p.All G' := by
  cases p with
  | inProcess l => exact fun e he => hG _ _ _ (h e he)
  | shared r ttl live =>
    intro k hk
    obtain ⟨s, v, t, hk, hg⟩ := h k hk
    exact ⟨s, v, t, hk, hG _ _ _ hg⟩

/-- A kept entry joins entries that all satisfy `G`, and satisfies it too. -/
theorem All.put {G : String → String → Float → Prop} {p : PendingStore} {s v : String}
    {now : Float} (h : p.All G) (hnew : G s v now) : (p.put s v now).All G := by
  cases p with
  | inProcess l =>
    intro e he
    rcases LocalPending.mem_putEntry he with rfl | he
    · exact hnew
    · exact h e he
  | shared r ttl live =>
    intro k hk
    rcases Redis.mem_putKey hk with rfl | hk
    · exact ⟨s, v, now, rfl, hnew⟩
    · exact h k hk

theorem All.drop {G : String → String → Float → Prop} {p : PendingStore} {s : String}
    {now : Float} (h : p.All G) : (p.drop s now).All fun s' v t => G s' v t ∧ s' ≠ s := by
  cases p with
  | inProcess l =>
    intro e he
    simp only [LocalPending.take, LocalPending.erase, List.mem_filter, decide_eq_true_eq] at he
    exact ⟨h e he.1, he.2⟩
  | shared r ttl live =>
    intro k hk
    simp only [Redis.getdel_snd, List.mem_filter, decide_eq_true_eq] at hk
    obtain ⟨s', v, t, rfl, hg⟩ := h k hk.1
    refine ⟨s', v, t, rfl, hg, fun hs => hk.2 (by rw [hs])⟩

/-- What a take finds is the verifier of an entry of the state, fresh at the time of the take. -/
theorem found_entry {G : String → String → Float → Prop} {p : PendingStore} {s : String}
    {now : Float} {j : Json} (h : p.All G) (hv : ∀ s v t, G s v t → ∀ c ∈ v.toList, Json.Verbatim c)
    (hf : p.Found s now j) : ∃ v t, j = .str v ∧ G s v t ∧ p.Fresh t now := by
  cases p with
  | inProcess l =>
    obtain ⟨v, hfresh, rfl⟩ := hf
    simp only [LocalPending.fresh?] at hfresh
    cases hfind : l.entries.find? (·.1 = s) with
    | none => simp [hfind] at hfresh
    | some e =>
      obtain ⟨s', v', t⟩ := e
      have hs : s' = s := by simpa using List.find?_some hfind
      subst hs
      simp only [hfind] at hfresh
      split at hfresh
      · cases hfresh
      · rename_i hexp
        cases hfresh
        exact ⟨_, t, rfl, h _ (List.mem_of_find?_eq_some hfind), by simpa [Fresh] using hexp⟩
  | shared r ttl live =>
    obtain ⟨raw, hraw, hread⟩ := hf
    unfold Redis.getdel at hraw
    split at hraw
    · rename_i k raw' exp hfind
      have hk : k = sharedPrefix ++ s := by simpa using List.find?_some hfind
      obtain ⟨s', v, t, hkey, hg⟩ := h _ (List.mem_of_find?_eq_some hfind)
      simp only [Prod.mk.injEq] at hkey
      obtain ⟨hks, rfl, rfl⟩ := hkey
      have hs : s' = s := String.append_right_inj sharedPrefix |>.mp (hks.symm.trans hk)
      subst hs
      split at hraw
      · rename_i hlt
        cases hraw
        exact ⟨v, t, readShared_sharedEntry (hv _ _ _ hg) hread, hg, hlt⟩
      · cases hraw
    · cases hraw

end Service.PendingStore

namespace Service

open OAuth PendingStore

/-- Keeping a verifier in a live store puts its entry, at the pending clock. -/
theorem pendingPut_live (s v : String) (w : World) (h : w.pending.live = true) :
    (pendingPut s v).run.run w = (.ok (), { w with pending := w.pending.put s v w.pendingNow }) := by
  rcases hp : w.pending with p | ⟨r, ttl, live⟩
  · simp only [pendingPut, run_bind, run_get, hp, run_set, PendingStore.put]
  · rw [hp] at h
    simp only [PendingStore.live] at h
    simp only [pendingPut, run_bind, run_get, hp, h, Bool.not_true, Bool.false_eq_true, if_false,
      run_set, PendingStore.put]

theorem pendingPut_closed (s v : String) (w : World) (h : w.pending.live = false) :
    (pendingPut s v).run.run w = (.error closedStore, w) := by
  rcases hp : w.pending with p | ⟨r, ttl, live⟩
  · rw [hp] at h; cases h
  · rw [hp] at h
    simp only [PendingStore.live] at h
    simp only [pendingPut, run_bind, run_get, hp, h, Bool.not_false, if_true, fail, run_throw]

/-- Taking from a live store drops the state's entry, whatever the take then reads; what it
yields was found under the state. -/
theorem pendingTake_live (s : String) (w : World) (h : w.pending.live = true) :
    ∃ r, (pendingTake s).run.run w = (r, { w with pending := w.pending.drop s w.pendingNow }) ∧
      ∀ j, r = .ok (some j) → w.pending.Found s w.pendingNow j := by
  rcases hp : w.pending with p | ⟨r, ttl, live⟩
  · refine ⟨.ok ((p.take s w.pendingNow).1.map Json.str), ?_, fun j hj => ?_⟩
    · simp only [pendingTake, run_bind, run_get, hp, run_set, PendingStore.drop]
      rfl
    · simp only [Except.ok.injEq, Option.map_eq_some_iff] at hj
      obtain ⟨v, hv, rfl⟩ := hj
      exact ⟨v, hv, rfl⟩
  · rw [hp] at h
    simp only [PendingStore.live] at h
    subst h
    rcases hg : r.getdel (sharedPrefix ++ s) w.pendingNow with ⟨raw, r'⟩
    simp only [pendingTake, run_bind, run_get, hp, PendingStore.drop, hg, Bool.not_true,
      Bool.false_eq_true, if_false, run_set]
    cases raw with
    | none => exact ⟨_, rfl, fun j hj => by cases hj⟩
    | some raw =>
      simp only [run_bind, run_liftExcept]
      cases hr : readShared raw w.pendingNow ttl with
      | error e => exact ⟨_, rfl, fun j hj => by cases hj⟩
      | ok found =>
        simp only
        split
        · exact ⟨_, rfl, fun j hj => by cases hj⟩
        · rename_i found _
          refine ⟨_, rfl, fun j hj => ?_⟩
          cases hj
          exact ⟨raw, by rw [hg], hr⟩

theorem pendingTake_closed (s : String) (w : World) (h : w.pending.live = false) :
    (pendingTake s).run.run w = (.error closedStore, w) := by
  rcases hp : w.pending with p | ⟨r, ttl, live⟩
  · rw [hp] at h; cases h
  · rw [hp] at h
    simp only [PendingStore.live] at h
    simp only [pendingTake, run_bind, run_get, hp, h, Bool.not_false, if_true, fail, run_throw]

end Service

end MailIngest
