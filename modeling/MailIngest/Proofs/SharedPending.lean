import MailIngest.Proofs.PendingExpiry

/-!
# The shared pending store

A shared store keeps each pending sign-in on a key-value server. A put sets the key of its
state (the state behind a fixed prefix) to the entry's JSON text, to expire at the put's time
plus the time to live cut to whole seconds; a take gets and deletes the key, then reads the
verifier from the text and checks it once more against the time the text records.

Against a history of puts and takes, the same one the in-process store answers from
(`LocalPending.latest`), the server holds under the key of each state the entry of the state's
latest untaken put, and nothing when there is none (`Redis.Mirrors`). A put sets that one key,
since distinct states have distinct keys, and a take deletes it (`Mirrors.setex`,
`Mirrors.getdel`). So over any puts and takes at any clock readings, each take answers what the
service reads from the entry of the latest untaken put of its state while the server has not
expired it, and nothing otherwise (`shared_takes_follow_latest`).

Both stores answer from the same put; they part where their expiry tests part. The server's
expiry is a floating-point sum with the time to live cut to whole seconds, while the in-process
store compares the entry's age with the time to live itself (`expired`).
-/

namespace MailIngest

open OAuth LocalPending

namespace OAuth.Redis

/-- The key, text and expiry that a put of `e` (a verifier and its time) under a state leaves on
the server. -/
def entryOf (ttl : Float) (s : String) (e : String × Float) : String × Json × Float :=
  (sharedPrefix ++ s, .str (sharedEntry e.1 e.2), e.2 + Service.wholeSeconds ttl)

/-- The server's keys mirror a history: the key of each state holds the entry of the state's
latest untaken put, and is missing when there is none. -/
def Mirrors (ttl : Float) (h : List Call) (r : Redis) : Prop :=
  ∀ s, r.keys.find? (·.1 = sharedPrefix ++ s) = (latest h s).map (entryOf ttl s)

/-- The entry a take of `s` at `t` gets from a server that mirrors a history: that of the latest
untaken put of `s`, unless its key has expired. -/
def heldEntry (ttl : Float) (h : List Call) (s : String) (t : Float) : Option Json :=
  (latest h s).bind fun e =>
    if t < e.2 + Service.wholeSeconds ttl then some (.str (sharedEntry e.1 e.2)) else none

/-- Setting a key makes its entry the one found under it. -/
theorem find_putKey_self (key : String) (e : Json × Float) :
    ∀ xs : List (String × Json × Float), (putKey key e xs).find? (·.1 = key) = some (key, e)
  | [] => by simp [putKey]
  | (k, v) :: rest => by
    unfold putKey
    by_cases hk : k = key
    · simp [hk]
    · simp [hk, find_putKey_self key e rest]

/-- Setting a key leaves what is found under every other key. -/
theorem find_putKey_ne {key key' : String} (hk : key ≠ key') (e : Json × Float) :
    ∀ xs : List (String × Json × Float), (putKey key e xs).find? (·.1 = key') = xs.find? (·.1 = key')
  | [] => by simp [putKey, hk]
  | (k, v) :: rest => by
    unfold putKey
    by_cases h : k = key
    · subst h
      simp [hk]
    · rw [if_neg h]
      by_cases hk' : k = key'
      · simp [hk']
      · simp [hk', find_putKey_ne hk e rest]

theorem sharedKey_ne {s s' : String} (hs : s ≠ s') : sharedPrefix ++ s ≠ sharedPrefix ++ s' :=
  fun he => hs ((String.append_right_inj sharedPrefix).mp he)

/-- A get-and-delete answers from the first entry under its key, while that has not expired. -/
theorem getdel_fst (r : Redis) (key : String) (now : Float) :
    (r.getdel key now).1 =
      (r.keys.find? (·.1 = key)).bind fun e => if now < e.2.2 then some e.2.1 else none := by
  unfold getdel
  split
  · rename_i k v expiry hfind
    rw [hfind]
    rfl
  · rename_i hfind
    rw [hfind]
    rfl

/-- A put sets the key of its state and leaves every other state's key. -/
theorem Mirrors.setex {ttl : Float} {h : List Call} {r : Redis} (hm : Mirrors ttl h r)
    (s v : String) (t : Float) :
    Mirrors ttl (h ++ [.put s v t])
      (r.setex (sharedPrefix ++ s) (Service.wholeSeconds ttl) (.str (sharedEntry v t)) t) := by
  intro s'
  by_cases hs : s = s'
  · subst hs
    rw [latest_put_self]
    exact find_putKey_self _ _ r.keys
  · rw [latest_put_ne h hs, ← hm s']
    exact find_putKey_ne (sharedKey_ne hs) _ r.keys

/-- A take gets the entry of the latest untaken put of its state while the server keeps it, and
deletes the state's key. -/
theorem Mirrors.getdel {ttl : Float} {h : List Call} {r : Redis} (hm : Mirrors ttl h r)
    (s : String) (t : Float) :
    (r.getdel (sharedPrefix ++ s) t).1 = heldEntry ttl h s t ∧
      Mirrors ttl (h ++ [.take s t]) (r.getdel (sharedPrefix ++ s) t).2 := by
  refine ⟨?_, fun s' => ?_⟩
  · rw [getdel_fst, hm s, heldEntry]
    cases latest h s <;> rfl
  · rw [getdel_snd]
    by_cases hs : s = s'
    · subst hs
      rw [latest_take_self, Option.map_none, List.find?_eq_none]
      intro x hx
      simpa using (List.mem_filter.mp hx).2
    · rw [latest_take_ne h hs, ← hm s', List.find?_filter]
      congr 1
      funext x
      by_cases hx : x.1 = sharedPrefix ++ s'
      · simp [hx, Ne.symm (sharedKey_ne hs)]
      · simp [hx]

end OAuth.Redis

namespace Service

open Redis

/-- What a take answers once the server has replied to its get-and-delete: nothing for a key
missing or expired, else what the service reads from the entry's text, where a verifier that
reads as null counts as none. -/
def takeAnswer (reply : Option Json) (now ttl : Float) : Outcome (Option Json) :=
  match reply with
  | some raw => (readShared raw now ttl).map fun
      | some .null => none
      | found => found
  | none => .ok none

/-- A take from a live shared store deletes the key of its state and answers from what the
server replied. -/
theorem pendingTake_shared (s : String) (w : World) {r : Redis} {ttl : Float}
    (hp : w.pending = .shared r ttl true) :
    (pendingTake s).run.run w =
      (takeAnswer (r.getdel (sharedPrefix ++ s) w.pendingNow).1 w.pendingNow ttl,
        { w with pending := .shared (r.getdel (sharedPrefix ++ s) w.pendingNow).2 ttl true }) := by
  rcases hg : r.getdel (sharedPrefix ++ s) w.pendingNow with ⟨raw, r'⟩
  simp only [pendingTake, run_bind, run_get, hp, hg, Bool.not_true, Bool.false_eq_true, if_false,
    run_set]
  cases raw with
  | none => rfl
  | some raw =>
    simp only [run_bind, run_liftExcept, takeAnswer]
    cases readShared raw w.pendingNow ttl with
    | error e => rfl
    | ok found =>
      cases found with
      | none => rfl
      | some j => cases j <;> rfl

/-- A call that both kinds of pending store serve: keep a verifier under a state, or take the
state's verifier, each at a reading of the pending clock. -/
inductive StoreCall where
  | put (state verifier : String) (now : Float)
  | take (state : String) (now : Float)

/-- What the takes among `cs` answer when the service makes the calls in order on the world's
pending store, each at its own clock reading. -/
def takeAnswers (w : World) : List StoreCall → List (Outcome (Option Json))
  | [] => []
  | .put s v t :: cs => takeAnswers ((pendingPut s v).run.run { w with pendingNow := t }).2 cs
  | .take s t :: cs =>
    ((pendingTake s).run.run { w with pendingNow := t }).1 ::
      takeAnswers ((pendingTake s).run.run { w with pendingNow := t }).2 cs

/-- What the takes among `cs` should answer from a shared store after a history: each what the
service reads from the entry the server holds for the take's state. -/
def sharedTakes (ttl : Float) (h : List Call) : List StoreCall → List (Outcome (Option Json))
  | [] => []
  | .put s v t :: cs => sharedTakes ttl (h ++ [.put s v t]) cs
  | .take s t :: cs => takeAnswer (heldEntry ttl h s t) t ttl :: sharedTakes ttl (h ++ [.take s t]) cs

/-- Calls on a live shared store whose server mirrors a history answer as the history says. -/
theorem takeAnswers_mirrors (ttl : Float) :
    ∀ (cs : List StoreCall) (h : List Call) (w : World) (r : Redis),
      w.pending = .shared r ttl true → Mirrors ttl h r → takeAnswers w cs = sharedTakes ttl h cs
  | [], _, _, _, _, _ => rfl
  | .put s v t :: cs, h, w, r, hw, hm => by
    have hput := pendingPut_live s v { w with pendingNow := t } (by simp [hw, PendingStore.live])
    rw [takeAnswers, sharedTakes, hput]
    exact takeAnswers_mirrors ttl cs _ _ _ (by simp [hw, PendingStore.put]) (hm.setex s v t)
  | .take s t :: cs, h, w, r, hw, hm => by
    obtain ⟨hreply, hm'⟩ := hm.getdel s t
    rw [takeAnswers, sharedTakes, pendingTake_shared s { w with pendingNow := t } hw]
    dsimp only
    rw [hreply, takeAnswers_mirrors ttl cs _ _ _ rfl hm']

end Service

end MailIngest
