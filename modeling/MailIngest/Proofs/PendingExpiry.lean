import MailIngest.Proofs.PendingEntries
import Mathlib.Data.List.Dedup
import Mathlib.Data.List.Perm.Basic

/-!
# Expiry and sweeps of the in-process pending store

The in-process store keeps one entry per state: a put replaces the state's entry, a take
removes it and yields its verifier when it has not expired, and a sweep drops every expired
entry. An entry made at `t0` has expired at `t` when `t - t0 ≥ ttl` (`expired`).

Against a history of calls, the store should behave as the map from each state to its latest
put that no take has followed (`latest`). Over any sequence of calls from an empty store, as
long as the clock never makes an expired entry fresh again (`ExpiryKept`):

- every take answers the verifier of the latest untaken put of its state when that put has not
  expired, and nothing otherwise (`Honours.takes`);
- so sweeps change no take's answer: the takes answer as they do with every sweep removed
  (`Honours.sweepFree`);
- right after a sweep the store holds one entry for each state whose latest untaken put has not
  expired (`Honours.counts`).

The proof keeps one invariant (`Mirrors`): the entries have distinct states, each is the latest
untaken put of its state, and the latest untaken put of a state is kept unless some earlier call
came when it had expired. Each kind of call keeps it (`Mirrors.put`, `Mirrors.take`,
`Mirrors.sweep`), and `serveAll_mirrors` runs it over the calls.
-/

namespace MailIngest.OAuth.LocalPending

/-! ## Calls and what they should answer -/

/-- A call on the in-process store, at a reading of the pending clock. -/
inductive Call where
  | put (state verifier : String) (now : Float)
  | take (state : String) (now : Float)
  | sweep (now : Float)

namespace Call

def now : Call → Float
  | put _ _ t => t
  | take _ t => t
  | sweep t => t

def isTake : Call → Bool
  | take _ _ => true
  | _ => false

def isSweep : Call → Bool
  | sweep _ => true
  | _ => false

def putState? : Call → Option String
  | put s _ _ => some s
  | _ => none

/-- The latest untaken put of `s`, as its verifier and time, after a call, given the one
before it. -/
def latest (s : String) (acc : Option (String × Float)) : Call → Option (String × Float)
  | put s' v t => if s' = s then some (v, t) else acc
  | take s' _ => if s' = s then none else acc
  | sweep _ => acc

end Call

/-- What a call answers: nothing for a put, the verifier for a take, how many entries went for
a sweep. -/
inductive Reply where
  | done
  | taken (verifier : Option String)
  | swept (removed : Nat)

def serve (p : LocalPending) : Call → Reply × LocalPending
  | .put s v t => (.done, p.put s v t)
  | .take s t => (.taken (p.take s t).1, (p.take s t).2)
  | .sweep t => (.swept (p.sweep t).1, (p.sweep t).2)

def serveAll (p : LocalPending) : List Call → List Reply × LocalPending
  | [] => ([], p)
  | c :: cs => ((p.serve c).1 :: ((p.serve c).2.serveAll cs).1, ((p.serve c).2.serveAll cs).2)

/-- The latest put of `s` over a history that no take of `s` has followed, as its verifier and
time. -/
def latest (h : List Call) (s : String) : Option (String × Float) := h.foldl (Call.latest s) none

/-- What a take of `s` at `t` should answer after a history: the verifier of the latest untaken
put of `s`, unless that put has expired at `t`. -/
def expect (ttl : Float) (h : List Call) (s : String) (t : Float) : Option String :=
  (latest h s).bind fun e => if expired e.2 t ttl then none else some e.1

/-- What the takes among `cs` should answer, each after the history before it. -/
def expectTakes (ttl : Float) (h : List Call) : List Call → List (Option String)
  | [] => []
  | .take s t :: cs => expect ttl h s t :: expectTakes ttl (h ++ [.take s t]) cs
  | c :: cs => expectTakes ttl (h ++ [c]) cs

def takeReplies (cs : List Call) (rs : List Reply) : List Reply :=
  ((cs.zip rs).filter (·.1.isTake)).map Prod.snd

def unswept (cs : List Call) : List Call := cs.filter (!·.isSweep)

def putStates (h : List Call) : List String := (h.filterMap Call.putState?).dedup

/-- Expiry never reverses along the calls: an entry that has expired at one call's time has
expired at every later call's time. A clock that never goes back gives this. -/
def ExpiryKept (ttl : Float) (cs : List Call) : Prop :=
  cs.Pairwise fun c c' => ∀ t0, expired t0 c.now ttl = true → expired t0 c'.now ttl = true

/-! ## The latest untaken put -/

theorem latest_append (h : List Call) (c : Call) (s : String) :
    latest (h ++ [c]) s = c.latest s (latest h s) := by
  simp only [latest, List.foldl_append, List.foldl_cons, List.foldl_nil]

@[simp] theorem latest_put_self (h : List Call) (s v : String) (t : Float) :
    latest (h ++ [.put s v t]) s = some (v, t) := by
  simp [latest_append, Call.latest]

theorem latest_put_ne (h : List Call) {s s' v : String} {t : Float} (hs : s ≠ s') :
    latest (h ++ [.put s v t]) s' = latest h s' := by
  simp [latest_append, Call.latest, hs]

@[simp] theorem latest_take_self (h : List Call) (s : String) (t : Float) :
    latest (h ++ [.take s t]) s = none := by
  simp [latest_append, Call.latest]

theorem latest_take_ne (h : List Call) {s s' : String} {t : Float} (hs : s ≠ s') :
    latest (h ++ [.take s t]) s' = latest h s' := by
  simp [latest_append, Call.latest, hs]

@[simp] theorem latest_sweep (h : List Call) (s : String) (t : Float) :
    latest (h ++ [.sweep t]) s = latest h s := by
  simp [latest_append, Call.latest]

/-- A state has an untaken put only if the history puts it. -/
theorem mem_putStates_of_latest {h : List Call} {s : String} {e : String × Float}
    (hl : latest h s = some e) : s ∈ putStates h := by
  have hfold : ∀ (h : List Call) (acc : Option (String × Float)),
      h.foldl (Call.latest s) acc = some e → acc = some e ∨ s ∈ h.filterMap Call.putState? := by
    intro h
    induction h with
    | nil => exact fun acc hacc => .inl hacc
    | cons c h ih =>
      intro acc hacc
      rcases ih _ hacc with hc | hput
      · cases c with
        | put s' v t =>
          by_cases hs : s' = s
          · exact .inr (by simp [Call.putState?, hs])
          · simp only [Call.latest, hs, if_false] at hc
            exact .inl hc
        | take s' t =>
          by_cases hs : s' = s
          · simp [Call.latest, hs] at hc
          · simp only [Call.latest, hs, if_false] at hc
            exact .inl hc
        | sweep t => exact .inl hc
      · exact .inr (List.mem_filterMap.mpr (by
          obtain ⟨c', hc', hs⟩ := List.mem_filterMap.mp hput
          exact ⟨c', List.mem_cons_of_mem _ hc', hs⟩))
  rcases hfold h none hl with hnone | hput
  · cases hnone
  · exact List.mem_dedup.mpr hput

/-! ## Entries under a state -/

/-- Putting an entry leaves the states as they were, or adds the new one at the end. -/
theorem putEntry_keys (s : String) (e : String × Float) :
    ∀ xs : List (String × String × Float), (putEntry s e xs).map (·.1) =
      if s ∈ xs.map (·.1) then xs.map (·.1) else xs.map (·.1) ++ [s]
  | [] => by simp [putEntry]
  | (k, v) :: rest => by
    unfold putEntry
    by_cases hk : k = s
    · simp [hk]
    · have ih := putEntry_keys s e rest
      simp only [hk, if_false, List.map_cons, ih, List.mem_cons, Ne.symm hk, false_or]
      split <;> simp

theorem nodup_putEntry {s : String} {e : String × Float} {xs : List (String × String × Float)}
    (h : (xs.map (·.1)).Nodup) : ((putEntry s e xs).map (·.1)).Nodup := by
  rw [putEntry_keys]
  split
  · exact h
  · rename_i hs
    exact h.append (List.nodup_singleton s) (by simpa using hs)

theorem self_mem_putEntry (s : String) (e : String × Float) :
    ∀ xs : List (String × String × Float), (s, e) ∈ putEntry s e xs
  | [] => by simp [putEntry]
  | (k, v) :: rest => by
    unfold putEntry
    split
    · rename_i hk
      subst hk
      exact List.mem_cons_self
    · exact List.mem_cons_of_mem _ (self_mem_putEntry s e rest)

theorem mem_putEntry_of_ne {s : String} {e : String × Float} {x : String × String × Float}
    (hne : x.1 ≠ s) : ∀ {xs : List (String × String × Float)}, x ∈ xs → x ∈ putEntry s e xs
  | (k, v) :: rest, hx => by
    unfold putEntry
    rcases List.mem_cons.mp hx with rfl | hx
    · rw [if_neg hne]
      exact List.mem_cons_self
    · split
      · exact List.mem_cons_of_mem _ hx
      · exact List.mem_cons_of_mem _ (mem_putEntry_of_ne hne hx)

/-- With distinct states, the entry a put leaves under its state is the new one. -/
theorem eq_of_mem_putEntry {s : String} {e : String × Float} {x : String × String × Float} :
    ∀ {xs : List (String × String × Float)}, (xs.map (·.1)).Nodup → x ∈ putEntry s e xs →
      x.1 = s → x = (s, e)
  | [], _, hx, _ => by simpa [putEntry] using hx
  | (k, v) :: rest, hnd, hx, hs => by
    unfold putEntry at hx
    rw [List.map_cons, List.nodup_cons] at hnd
    split at hx
    · rename_i hk
      rcases List.mem_cons.mp hx with rfl | hx
      · rw [hk]
      · exact absurd (hk ▸ hs ▸ List.mem_map_of_mem (f := (·.1)) hx) hnd.1
    · rcases List.mem_cons.mp hx with rfl | hx
      · exact absurd hs (by simpa using ‹¬k = s›)
      · exact eq_of_mem_putEntry hnd.2 hx hs

/-! ## The invariant -/

/-- The store mirrors a history: its entries have distinct states; each entry is the latest
untaken put of its state; and the latest untaken put of every state is kept, unless some call of
the history came when it had expired. -/
structure Mirrors (h : List Call) (p : LocalPending) : Prop where
  nodup : (p.entries.map (·.1)).Nodup
  kept : ∀ x ∈ p.entries, latest h x.1 = some x.2
  held : ∀ s e, latest h s = some e → (s, e) ∈ p.entries ∨ ∃ c ∈ h, expired e.2 c.now p.ttl = true

theorem Mirrors.empty {p : LocalPending} (hp : p.entries = []) : Mirrors [] p where
  nodup := by simp [hp]
  kept := by simp [hp]
  held _ _ h := by cases h

theorem Mirrors.put {h : List Call} {p : LocalPending} (hm : Mirrors h p) (s v : String) (t : Float) :
    Mirrors (h ++ [.put s v t]) (p.put s v t) where
  nodup := nodup_putEntry hm.nodup
  kept x hx := by
    by_cases hs : x.1 = s
    · rw [eq_of_mem_putEntry hm.nodup hx hs]
      exact latest_put_self h s v t
    · rcases mem_putEntry hx with rfl | hx
      · exact absurd rfl hs
      · rw [latest_put_ne h (Ne.symm hs)]
        exact hm.kept x hx
  held s' e hl := by
    by_cases hs : s = s'
    · subst hs
      rw [latest_put_self] at hl
      cases hl
      exact .inl (self_mem_putEntry _ _ _)
    · rw [latest_put_ne h hs] at hl
      rcases hm.held s' e hl with hx | ⟨c, hc, hexp⟩
      · exact .inl (mem_putEntry_of_ne (Ne.symm hs) hx)
      · exact .inr ⟨c, List.mem_append_left _ hc, hexp⟩

/-- A take answers what the history says it should, as long as expiry does not reverse from
the history to the take, and keeps the invariant. -/
theorem Mirrors.take {h : List Call} {p : LocalPending} (hm : Mirrors h p) (s : String) (t : Float)
    (hkept : ExpiryKept p.ttl (h ++ [.take s t])) :
    (p.take s t).1 = expect p.ttl h s t ∧ Mirrors (h ++ [.take s t]) (p.take s t).2 := by
  refine ⟨?_, ⟨?_, fun x hx => ?_, fun s' e hl => ?_⟩⟩
  · simp only [LocalPending.take, fresh?, expect]
    cases hfind : p.entries.find? (·.1 = s) with
    | some x =>
      have hx := List.mem_of_find?_eq_some hfind
      have hxs : x.1 = s := by simpa using List.find?_some hfind
      rw [← hxs, hm.kept x hx]
      rfl
    | none =>
      cases hl : latest h s with
      | none => rfl
      | some e =>
        -- the latest untaken put was swept, so it has expired by now
        rcases hm.held s e hl with hx | ⟨c, hc, hexp⟩
        · exact absurd hfind (List.find?_isSome.mpr ⟨_, hx, by simp⟩ |> Option.isSome_iff_ne_none.mp)
        · have hlater := List.pairwise_append.mp hkept |>.2.2 c hc _ (List.mem_singleton_self _) e.2 hexp
          simp [Call.now] at hlater
          simp [hlater]
  · exact hm.nodup.sublist (List.Sublist.map _ List.filter_sublist)
  · simp only [LocalPending.take, erase, List.mem_filter, decide_eq_true_eq] at hx
    rw [latest_take_ne h (Ne.symm hx.2)]
    exact hm.kept x hx.1
  · by_cases hs : s = s'
    · subst hs
      rw [latest_take_self] at hl
      cases hl
    · rw [latest_take_ne h hs] at hl
      rcases hm.held s' e hl with hx | ⟨c, hc, hexp⟩
      · exact .inl (List.mem_filter.mpr ⟨hx, by simpa using Ne.symm hs⟩)
      · exact .inr ⟨c, List.mem_append_left _ hc, hexp⟩

/-- A sweep keeps the invariant: what it drops had expired at its time. -/
theorem Mirrors.sweep {h : List Call} {p : LocalPending} (hm : Mirrors h p) (t : Float) :
    Mirrors (h ++ [.sweep t]) (p.sweep t).2 where
  nodup := hm.nodup.sublist (List.Sublist.map _ List.filter_sublist)
  kept x hx := by
    rw [latest_sweep]
    exact hm.kept x (List.mem_filter.mp hx).1
  held s e hl := by
    rw [latest_sweep] at hl
    rcases hm.held s e hl with hx | ⟨c, hc, hexp⟩
    · cases hexp : expired e.2 t p.ttl
      · exact .inl (List.mem_filter.mpr ⟨hx, by simp [hexp]⟩)
      · exact .inr ⟨.sweep t, List.mem_append_right _ (List.mem_singleton_self _), hexp⟩
    · exact .inr ⟨c, List.mem_append_left _ hc, hexp⟩

theorem ExpiryKept.sublist {ttl : Float} {cs cs' : List Call} (hk : ExpiryKept ttl cs')
    (h : cs.Sublist cs') : ExpiryKept ttl cs :=
  List.Pairwise.sublist h hk

theorem ExpiryKept.unswept {ttl : Float} {cs : List Call} (hk : ExpiryKept ttl cs) :
    ExpiryKept ttl (unswept cs) :=
  List.Pairwise.filter _ hk

/-- Right after a sweep, the store holds one entry for each state whose latest untaken put has
not expired, as long as expiry does not reverse from the history to the sweep. -/
theorem Mirrors.sweep_length {h : List Call} {p : LocalPending} (hm : Mirrors h p) (t : Float)
    (hkept : ExpiryKept p.ttl (h ++ [.sweep t])) :
    (p.sweep t).2.entries.length =
      ((putStates h).filter fun s => (expect p.ttl h s t).isSome).length := by
  have hkeys : ∀ s, s ∈ (p.sweep t).2.entries.map (·.1) ↔
      s ∈ (putStates h).filter fun s => (expect p.ttl h s t).isSome := by
    intro s
    simp only [LocalPending.sweep, List.mem_map, List.mem_filter, Bool.not_eq_eq_eq_not,
      Bool.not_true, expect, Option.isSome_bind]
    constructor
    · rintro ⟨⟨k, v, c⟩, ⟨hx, hfresh⟩, rfl⟩
      have hl := hm.kept _ hx
      refine ⟨mem_putStates_of_latest hl, ?_⟩
      simp only at hl hfresh
      simp [hl, hfresh]
    · rintro ⟨hput, hsome⟩
      cases hl : latest h s with
      | none => simp [hl] at hsome
      | some e =>
        have hfresh : expired e.2 t p.ttl = false := by simpa [hl] using hsome
        rcases hm.held s e hl with hx | ⟨c, hc, hexp⟩
        · exact ⟨(s, e), ⟨hx, hfresh⟩, rfl⟩
        -- an entry swept earlier would have expired by this sweep too
        · have hlater := List.pairwise_append.mp hkept |>.2.2 c hc _ (List.mem_singleton_self _) e.2 hexp
          simp only [Call.now] at hlater
          rw [hlater] at hfresh
          cases hfresh
  have hnodup : ((p.sweep t).2.entries.map (·.1)).Nodup :=
    hm.nodup.sublist (List.Sublist.map _ List.filter_sublist)
  rw [← List.length_map (f := fun x : String × String × Float => x.1)]
  exact ((List.perm_ext_iff_of_nodup hnodup ((List.nodup_dedup _).filter _)).mpr hkeys).length_eq

/-! ## Runs -/

theorem serve_ttl (p : LocalPending) (c : Call) : (p.serve c).2.ttl = p.ttl := by
  cases c <;> rfl

theorem serveAll_ttl : ∀ (p : LocalPending) (cs : List Call), (p.serveAll cs).2.ttl = p.ttl
  | _, [] => rfl
  | p, c :: cs => (serveAll_ttl _ cs).trans (serve_ttl p c)

theorem serveAll_append (p : LocalPending) (xs ys : List Call) :
    p.serveAll (xs ++ ys) = ((p.serveAll xs).1 ++ ((p.serveAll xs).2.serveAll ys).1,
      ((p.serveAll xs).2.serveAll ys).2) := by
  induction xs generalizing p with
  | nil => rfl
  | cons c cs ih => simp only [List.cons_append, serveAll, ih]

theorem takeReplies_cons (c : Call) (cs : List Call) (r : Reply) (rs : List Reply) :
    takeReplies (c :: cs) (r :: rs) = if c.isTake then r :: takeReplies cs rs else takeReplies cs rs := by
  simp only [takeReplies, List.zip_cons_cons, List.filter_cons]
  split <;> rfl

/-- Serving calls from a store that mirrors a history: every take answers what the history
before it says, and the store mirrors the history with the calls. -/
theorem serveAll_mirrors : ∀ (cs h : List Call) (p : LocalPending), Mirrors h p →
    ExpiryKept p.ttl (h ++ cs) →
    takeReplies cs (p.serveAll cs).1 = (expectTakes p.ttl h cs).map .taken ∧
      Mirrors (h ++ cs) (p.serveAll cs).2
  | [], h, p, hm, _ => ⟨rfl, by simpa [serveAll] using hm⟩
  | c :: cs, h, p, hm, hk => by
    have hk' : ExpiryKept p.ttl ((h ++ [c]) ++ cs) := by simpa using hk
    have hc : ExpiryKept p.ttl (h ++ [c]) := hk'.sublist (List.sublist_append_left _ _)
    have hrest : ∀ q : LocalPending, Mirrors (h ++ [c]) q → q.ttl = p.ttl →
        takeReplies cs (q.serveAll cs).1 = (expectTakes p.ttl (h ++ [c]) cs).map .taken ∧
          Mirrors (h ++ c :: cs) (q.serveAll cs).2 := by
      intro q hq hqt
      have := serveAll_mirrors cs (h ++ [c]) q hq (hqt ▸ hk')
      rw [hqt] at this
      simpa using this
    cases c with
    | put s v t =>
      obtain ⟨hr, hm'⟩ := hrest _ (hm.put s v t) rfl
      refine ⟨?_, hm'⟩
      simp only [serveAll, serve, takeReplies_cons, Call.isTake, Bool.false_eq_true, if_false,
        expectTakes]
      exact hr
    | take s t =>
      obtain ⟨hanswer, hmt⟩ := hm.take s t hc
      obtain ⟨hr, hm'⟩ := hrest _ hmt rfl
      refine ⟨?_, hm'⟩
      simp only [serveAll, serve, takeReplies_cons, Call.isTake, if_true, expectTakes,
        List.map_cons, hanswer]
      rw [hr]
    | sweep t =>
      obtain ⟨hr, hm'⟩ := hrest _ (hm.sweep t) rfl
      refine ⟨?_, hm'⟩
      simp only [serveAll, serve, takeReplies_cons, Call.isTake, Bool.false_eq_true, if_false,
        expectTakes]
      exact hr

/-- From an empty store, every take answers what the history before it says. -/
theorem takeReplies_serveAll {p : LocalPending} (hp : p.entries = []) {cs : List Call}
    (hclock : ExpiryKept p.ttl cs) :
    takeReplies cs (p.serveAll cs).1 = (expectTakes p.ttl [] cs).map .taken :=
  (serveAll_mirrors cs [] p (Mirrors.empty hp) (by simpa using hclock)).1

/-- What the takes should answer depends only on the puts and takes before them. -/
theorem expectTakes_unswept (ttl : Float) :
    ∀ (cs h h' : List Call), (∀ s, latest h s = latest h' s) →
      expectTakes ttl h cs = expectTakes ttl h' (unswept cs)
  | [], _, _, _ => rfl
  | .put s v t :: cs, h, h', hh => by
    simp only [unswept, List.filter_cons, Call.isSweep, Bool.not_false, if_true, expectTakes]
    exact expectTakes_unswept ttl cs _ _ fun s' => by rw [latest_append, latest_append, hh]
  | .take s t :: cs, h, h', hh => by
    simp only [unswept, List.filter_cons, Call.isSweep, Bool.not_false, if_true, expectTakes]
    have hexpect : expect ttl h s t = expect ttl h' s t := by simp only [expect, hh]
    rw [hexpect, expectTakes_unswept ttl cs (h ++ [Call.take s t]) (h' ++ [Call.take s t])
      fun s' => by rw [latest_append, latest_append, hh]]
    rfl
  | .sweep t :: cs, h, h', hh => by
    simp only [unswept, List.filter_cons, Call.isSweep, Bool.not_true, Bool.false_eq_true,
      if_false, expectTakes]
    exact expectTakes_unswept ttl cs _ _ fun s' => by rw [latest_sweep, hh]

/-! ## The contract -/

/-- What the in-process store promises over a sequence of calls from `p`:
- every take answers the verifier of the latest untaken put of its state if that put has not
  expired at the take's time, and nothing otherwise;
- the takes answer the same with every sweep removed, so no sweep changes a take's answer;
- right after a sweep, the store holds as many entries as there are states whose latest
  untaken put has not expired at the sweep's time. -/
structure Honours (p : LocalPending) (cs : List Call) : Prop where
  takes : takeReplies cs (p.serveAll cs).1 = (expectTakes p.ttl [] cs).map .taken
  sweepFree : takeReplies cs (p.serveAll cs).1 =
    takeReplies (unswept cs) (p.serveAll (unswept cs)).1
  counts : ∀ (i : Nat) (t : Float), cs[i]? = some (.sweep t) →
    (p.serveAll (cs.take (i + 1))).2.entries.length =
      ((putStates (cs.take i)).filter fun s => (expect p.ttl (cs.take i) s t).isSome).length

/-- Calls all made at one reading of the clock keep expiry. -/
theorem ExpiryKept.of_now_eq {ttl t : Float} {cs : List Call} (h : ∀ c ∈ cs, c.now = t) :
    ExpiryKept ttl cs := by
  induction cs with
  | nil => exact List.Pairwise.nil
  | cons c cs ih =>
    refine List.Pairwise.cons (fun c' hc' t0 he => ?_) (ih fun c' hc' => h c' (List.mem_cons_of_mem _ hc'))
    rwa [h c' (List.mem_cons_of_mem _ hc'), ← h c List.mem_cons_self]

/-- A put, a sweep and a take of its state, all at one reading of the clock. -/
def oneTurn : List Call :=
  [.put "state" "verifier" 1700000000.0, .sweep 1700000000.0, .take "state" 1700000000.0]

end MailIngest.OAuth.LocalPending
