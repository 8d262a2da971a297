import MailIngest.Proofs.Steps
import MailIngest.Sync.Cycle
import Mathlib.Algebra.Order.Floor.Div
import Mathlib.Data.List.Chain

/-!
# The ranges a mailbox's batches ask for

The sync of a mailbox fetches the UIDs above its mark `last` up to its highest UID `top` in
batches of `size`: a batch from `start` asks for `start` to `min (start + size - 1) top`, and
the next starts one past it. `batchRanges` lists these ranges as the loop computes them, under
the loop's own bound on their number; `mailboxRanges` is the list for a whole mailbox.

- `batches_run`: the loop of batches runs, from any state whose batch size is a positive `size`, as one
  `batch` per range of `batchRanges`, in order, whatever the world answers and whatever the
  consumer does: nothing in a batch changes the options (`batch_keepsOptions`).
- For a batch size of at least one, the ranges start at the first UID above the mark
  (`head?_batchRanges`), each ends `size - 1` past its start or at `top`
  (`mem_batchRanges`), the next begins one past the end of the one before
  (`batchRanges_chain`), they rise and do not overlap (`batchRanges_pairwise`), together they
  hold each UID from `start` to `top` (`covers_batchRanges`), and there are as many as `size`
  goes into the UIDs, rounded up (`length_batchRanges`).
- `mailbox_batches_partition`: so the batches of a mailbox are `⌈(top - last) / size⌉` range
  fetches that tile the UIDs above the mark.
-/

namespace MailIngest.Sync

open Service

/-- The ranges the batches from `start` to `top` ask for, `size` UIDs at a time, at most
`fuel` of them. -/
def batchRanges (top size : Int) : Nat → Int → List (Int × Int)
  | 0, _ => []
  | fuel + 1, start =>
    if start > top then []
    else (start, min (start + size - 1) top) :: batchRanges top size fuel (min (start + size - 1) top + 1)

/-- The ranges the sync of a mailbox asks for, above its mark `last` up to its highest UID
`top`, with the bound `syncMailbox` gives the loop. -/
def mailboxRanges (last top size : Int) : List (Int × Int) :=
  batchRanges top size ((top - last).toNat + 1) (last + 1)

/-- One batch of a mailbox: its range fetched with retries, the connection fetching while its
messages are handed over. -/
def batch (c : Consumer) (path : String) (last : Int) (r : Int × Int) : CycleM Unit := do
  let ms ← act (withRetry (fetchBatch path r.1 r.2)
    ("fetch " ++ path ++ " " ++ toString r.1 ++ ":" ++ toString r.2))
  act (modifyLink fun l => { l with state := .fetching })
  batchMessages c path last ms
  act (modifyLink fun l => { l with state := .connected })

/-! ## Steps that leave the options alone -/

section Options

variable {α : Type} (c : Consumer) (o : Options)

abbrev WithOptions (o : Options) (s : World × Engine) : Prop := s.2.options = o

theorem act_keepsOptions (a : Act α) : Keeps (WithOptions o) (act a) := by
  unfold act
  refine Keeps.bind (Keeps.modifyGet fun s h => h) fun r => ?_
  cases r with
  | ok v => exact Keeps.pure v
  | error f => exact Keeps.throw _

theorem engine_keepsOptions : Keeps (WithOptions o) engine :=
  Keeps.bind Keeps.get fun _ => Keeps.pure _

/-- Handing over a record changes the marks and the records handed over; the consumer's
reaction changes the world only. -/
theorem handOver_keepsOptions (path : String) (m : Archive.Message) :
    Keeps (WithOptions o) (handOver c path m) := by
  unfold handOver
  refine Keeps.bind (Keeps.modify fun _ h => h) fun _ => Keeps.bind (engine_keepsOptions o) fun _ => ?_
  refine Keeps.bind (Keeps.modifyGet fun _ h => h) fun r => ?_
  cases r with
  | error f => exact Keeps.throw _
  | ok u =>
    cases u
    have hstop : ∀ b : Bool, Keeps (WithOptions o) (if b = true then throw Halt.stop else pure ()) :=
      fun _ => Keeps.ite (fun _ => Keeps.throw _) fun _ => Keeps.pure _
    exact Keeps.ite (fun _ => Keeps.bind (Keeps.throw _) fun _ => hstop _) fun _ => hstop _

theorem readMessage_keepsOptions (raw : List UInt8) (path : String) (uid : Nat) :
    Keeps (WithOptions o) (readMessage raw path uid) :=
  Keeps.bind (engine_keepsOptions o) fun _ =>
    Keeps.bind (Keeps.modify fun _ h => h) fun _ => Keeps.pure _

theorem batchMessages_keepsOptions (path : String) (last : Int) :
    ∀ ms, Keeps (WithOptions o) (batchMessages c path last ms)
  | [] => Keeps.pure ()
  | m :: rest => by
    unfold batchMessages
    refine Keeps.ite (fun _ => batchMessages_keepsOptions path last rest) fun _ => ?_
    cases sourceOf m with
    | none => exact batchMessages_keepsOptions path last rest
    | some raw =>
      refine Keeps.bind (readMessage_keepsOptions o raw path m.uid) fun r => ?_
      cases r with
      | error f =>
        exact Keeps.bind (engine_keepsOptions o) fun _ =>
          Keeps.ite (fun _ => Keeps.throw _) fun _ => batchMessages_keepsOptions path last rest
      | ok msg =>
        exact Keeps.bind (handOver_keepsOptions c o path msg) fun _ => batchMessages_keepsOptions path last rest

theorem batch_keepsOptions (path : String) (last : Int) (r : Int × Int) :
    Keeps (WithOptions o) (batch c path last r) :=
  Keeps.bind (act_keepsOptions o _) fun ms => Keeps.bind (act_keepsOptions o _) fun _ =>
    Keeps.bind (batchMessages_keepsOptions c o path last ms) fun _ => act_keepsOptions o _

end Options

/-! ## The loop, range by range -/

/-- Two continuations that run alike from every state where `I` holds run alike after a step
that keeps `I`. -/
theorem run_bind_congr {ε σ α β : Type} {I : σ → Prop} {x : ExceptT ε (StateM σ) α}
    {f g : α → ExceptT ε (StateM σ) β} (hx : Keeps I x) (hfg : ∀ a s, I s → (f a).run.run s = (g a).run.run s)
    {s : σ} (hs : I s) : (x >>= f).run.run s = (x >>= g).run.run s := by
  rw [run_bind, run_bind]
  rcases hr : x.run.run s with ⟨_ | a, s'⟩
  · rfl
  · exact hfg a s' (hx.of_run hs hr)

/-- Reading the engine hands the step after it the engine of the state. -/
theorem run_engine_bind {α : Type} (g : Engine → CycleM α) (s : World × Engine) :
    (engine >>= g).run.run s = (g s.2).run.run s := rfl

/-- One more round of the loop: past `top` nothing, else a batch from `start` with the size the
engine holds, then the rest from one past its end. -/
theorem batches_succ (c : Consumer) (path : String) (last top : Int) (fuel : Nat) (start : Int) :
    batches c path last top (fuel + 1) start =
      if start > top then pure () else (do
        let e ← engine
        batch c path last (start, min (start + e.options.batchSize - 1) top)
        batches c path last top fuel (min (start + e.options.batchSize - 1) top + 1)) := by
  rw [batches]
  simp only [batch, bind_assoc]

/-- The loop of batches runs as one batch per range, in order: the batch size it reads before
each batch is the one it started with. -/
theorem batches_run (c : Consumer) (path : String) (last top : Int) (o : Options) (hsize : 1 ≤ o.batchSize) :
    ∀ (fuel : Nat) (start : Int) (s : World × Engine), top < start + fuel → s.2.options = o →
      (batches c path last top fuel start).run.run s =
        ((batchRanges top o.batchSize fuel start).forM (batch c path last)).run.run s := by
  intro fuel
  induction fuel with
  | zero =>
    intro start s htop _
    rw [batches, if_pos (show start > top by omega), batchRanges]
    rfl
  | succ fuel ih =>
    intro start s htop hs
    rw [batches_succ, batchRanges]
    by_cases hgt : start > top
    · rw [if_pos hgt, if_pos hgt]
      rfl
    rw [if_neg hgt, if_neg hgt, List.forM, run_engine_bind, hs]
    -- the batch keeps the options and the next start passes this one, so the rest runs as the
    -- ranges after it, by induction
    exact run_bind_congr (batch_keepsOptions c o path last _) (fun _ s' h' => ih _ s' (by omega) h') hs

/-! ## The ranges -/

section Ranges

variable {top size : Int}

@[simp] theorem batchRanges_zero (start : Int) : batchRanges top size 0 start = [] := rfl

theorem batchRanges_of_gt {fuel : Nat} {start : Int} (h : top < start) :
    batchRanges top size fuel start = [] := by
  cases fuel with
  | zero => rfl
  | succ fuel => rw [batchRanges, if_pos h]

theorem batchRanges_of_le {fuel : Nat} {start : Int} (h : start ≤ top) :
    batchRanges top size (fuel + 1) start =
      (start, min (start + size - 1) top) :: batchRanges top size fuel (min (start + size - 1) top + 1) := by
  rw [batchRanges, if_neg (Int.not_lt.mpr h)]

/-- Every range starts at or after `start`, ends `size - 1` past its start or at `top`, and
holds at least its start. -/
theorem mem_batchRanges (hsize : 1 ≤ size) :
    ∀ {fuel : Nat} {start : Int} {r : Int × Int}, r ∈ batchRanges top size fuel start →
      start ≤ r.1 ∧ r.1 ≤ r.2 ∧ r.2 = min (r.1 + size - 1) top := by
  intro fuel
  induction fuel with
  | zero => intro start r h; exact absurd h List.not_mem_nil
  | succ fuel ih =>
    intro start r h
    by_cases hgt : top < start
    · rw [batchRanges_of_gt hgt] at h; exact absurd h List.not_mem_nil
    rw [batchRanges_of_le (Int.not_lt.mp hgt), List.mem_cons] at h
    rcases h with rfl | h
    · exact ⟨Int.le_refl _, by omega, rfl⟩
    · obtain ⟨h1, h2, h3⟩ := ih h
      exact ⟨by omega, h2, h3⟩

theorem head?_batchRanges {fuel : Nat} {start : Int} (h : start ≤ top) :
    (batchRanges top size (fuel + 1) start).head? = some (start, min (start + size - 1) top) := by
  rw [batchRanges_of_le h]; rfl

/-- The next range begins one past the end of the one before. -/
theorem batchRanges_chain : ∀ (fuel : Nat) (start : Int),
    (batchRanges top size fuel start).IsChain fun a b => b.1 = a.2 + 1
  | 0, _ => List.IsChain.nil
  | fuel + 1, start => by
    by_cases hgt : top < start
    · rw [batchRanges_of_gt hgt]; exact List.IsChain.nil
    rw [batchRanges_of_le (Int.not_lt.mp hgt)]
    refine List.isChain_cons.mpr ⟨fun b hb => ?_, batchRanges_chain fuel _⟩
    cases fuel with
    | zero => cases hb
    | succ fuel =>
      by_cases hgt' : top < min (start + size - 1) top + 1
      · rw [batchRanges_of_gt hgt'] at hb; cases hb
      rw [head?_batchRanges (Int.not_lt.mp hgt')] at hb
      cases hb
      rfl

theorem batchRanges_pairwise (hsize : 1 ≤ size) :
    ∀ (fuel : Nat) (start : Int), (batchRanges top size fuel start).Pairwise fun a b => a.2 < b.1
  | 0, _ => List.Pairwise.nil
  | fuel + 1, start => by
    by_cases hgt : top < start
    · rw [batchRanges_of_gt hgt]; exact List.Pairwise.nil
    rw [batchRanges_of_le (Int.not_lt.mp hgt)]
    refine List.pairwise_cons.mpr ⟨fun b hb => ?_, batchRanges_pairwise hsize fuel _⟩
    have := (mem_batchRanges hsize hb).1
    omega

/-- Given enough bounds, the ranges hold each UID from `start` to `top`, and no other. -/
theorem covers_batchRanges (hsize : 1 ≤ size) :
    ∀ (fuel : Nat) (start : Int), top < start + fuel →
      ∀ u, (start ≤ u ∧ u ≤ top ↔ ∃ r ∈ batchRanges top size fuel start, r.1 ≤ u ∧ u ≤ r.2)
  | 0, start, hfuel, u => by
    simp only [batchRanges_zero, List.not_mem_nil, false_and, exists_false, iff_false]
    omega
  | fuel + 1, start, hfuel, u => by
    by_cases hgt : top < start
    · simp only [batchRanges_of_gt hgt, List.not_mem_nil, false_and, exists_false, iff_false]
      omega
    rw [batchRanges_of_le (Int.not_lt.mp hgt)]
    have ih := covers_batchRanges hsize fuel (min (start + size - 1) top + 1) (by omega) u
    simp only [List.mem_cons, exists_eq_or_imp]
    constructor
    · intro hu
      by_cases hin : u ≤ min (start + size - 1) top
      · exact Or.inl ⟨hu.1, hin⟩
      · exact Or.inr (ih.mp ⟨by omega, hu.2⟩)
    · rintro (hu | hu)
      · exact ⟨hu.1, by omega⟩
      · have := ih.mpr hu
        omega

/-- A positive number of UIDs fits in one range of `b` exactly when it is at most `b`. -/
theorem ceilDiv_eq_one {a b : Nat} (ha : 0 < a) (hab : a ≤ b) : a ⌈/⌉ b = 1 := by
  rw [Nat.ceilDiv_eq_add_pred_div]
  exact Nat.div_eq_of_lt_le (by omega) (by omega)

theorem add_ceilDiv_self (a : Nat) {b : Nat} (hb : 0 < b) : (a + b) ⌈/⌉ b = a ⌈/⌉ b + 1 := by
  rw [Nat.ceilDiv_eq_add_pred_div, Nat.ceilDiv_eq_add_pred_div, ← Nat.add_div_right _ hb]
  congr 1
  omega

/-- Given enough bounds, there are as many ranges as `size` goes into the UIDs from `start` to
`top`, rounded up. -/
theorem length_batchRanges (hsize : 1 ≤ size) :
    ∀ (fuel : Nat) (start : Int), top < start + fuel →
      (batchRanges top size fuel start).length = (top + 1 - start).toNat ⌈/⌉ size.toNat
  | 0, start, hfuel => by
    rw [batchRanges_zero, List.length_nil, show (top + 1 - start).toNat = 0 by omega, zero_ceilDiv]
  | fuel + 1, start, hfuel => by
    by_cases hgt : top < start
    · rw [batchRanges_of_gt hgt, List.length_nil, show (top + 1 - start).toNat = 0 by omega, zero_ceilDiv]
    rw [batchRanges_of_le (Int.not_lt.mp hgt), List.length_cons,
      length_batchRanges hsize fuel _ (by omega)]
    by_cases hlast : top ≤ start + size - 1
    · -- the last range: what is left fits in one
      rw [show (top + 1 - (min (start + size - 1) top + 1)).toNat = 0 by omega, zero_ceilDiv,
        ceilDiv_eq_one (by omega) (by omega)]
    · rw [show (top + 1 - start).toNat = (top + 1 - (min (start + size - 1) top + 1)).toNat + size.toNat by omega,
        add_ceilDiv_self _ (by omega)]

end Ranges

/-- The batches of a mailbox whose highest UID `top` lies above its mark `last`, with a batch
size of at least one: the loop runs one batch per range of `mailboxRanges`, in order, so it ends
after `⌈(top - last) / size⌉` range fetches when none fails; the first range starts one past the
mark, each ends `size - 1` past its start or at `top`, the next starts one past the end of the
one before, and the ranges rise, do not overlap and hold exactly the UIDs above the mark up to
`top`. -/
theorem mailbox_batches_partition (c : Consumer) (path : String) {last top : Int} (o : Options)
    (htop : last < top) (hsize : 1 ≤ o.batchSize) :
    (∀ s : World × Engine, s.2.options = o →
      (batches c path last top ((top - last).toNat + 1) (last + 1)).run.run s =
        ((mailboxRanges last top o.batchSize).forM (batch c path last)).run.run s) ∧
    (mailboxRanges last top o.batchSize).length = (top - last).toNat ⌈/⌉ o.batchSize.toNat ∧
    (mailboxRanges last top o.batchSize).head? =
      some (last + 1, min (last + o.batchSize) top) ∧
    (∀ r ∈ mailboxRanges last top o.batchSize, r.1 ≤ r.2 ∧ r.2 = min (r.1 + o.batchSize - 1) top) ∧
    (mailboxRanges last top o.batchSize).IsChain (fun a b => b.1 = a.2 + 1) ∧
    (mailboxRanges last top o.batchSize).Pairwise (fun a b => a.2 < b.1) ∧
    ∀ u, (last < u ∧ u ≤ top ↔ ∃ r ∈ mailboxRanges last top o.batchSize, r.1 ≤ u ∧ u ≤ r.2) := by
  have hfuel : top < last + 1 + ((top - last).toNat + 1 : Nat) := by omega
  refine ⟨fun s hs => batches_run c path last top o hsize _ _ s hfuel hs, ?_, ?_, fun r hr => (mem_batchRanges hsize hr).2,
    batchRanges_chain _ _, batchRanges_pairwise hsize _ _, fun u => ?_⟩
  · rw [mailboxRanges, length_batchRanges hsize _ _ hfuel]
    congr 2
    omega
  · rw [mailboxRanges, head?_batchRanges (by omega)]
    congr 3
    omega
  · rw [mailboxRanges, ← covers_batchRanges hsize _ _ hfuel u]
    omega

/-- Six hundred messages above the mark `0` in batches of 250 are fetched as three ranges:
`1:250`, `251:500` and `501:600`. -/
theorem sixHundred_batches_partition :
    let o : Options := { batchSize := 250 }
    (0 : Int) < 600 ∧ 1 ≤ o.batchSize ∧
      mailboxRanges 0 600 o.batchSize = [(1, 250), (251, 500), (501, 600)] ∧
      (mailboxRanges 0 600 o.batchSize).length = (600 - 0 : Int).toNat ⌈/⌉ o.batchSize.toNat := by
  intro o
  have h := @mailbox_batches_partition { react := fun _ => pure (), take := none, raiseAfter := none }
    "INBOX" 0 600 o (by decide) (by decide)
  exact ⟨by decide, by decide, by decide, h.2.1⟩

end MailIngest.Sync
