import MailIngest.Proofs.Sweep

/-!
# What a cycle hands over

A cycle read to the end by a consumer that takes every message hands over, for each mailbox
it visits, in the order the server lists the selected mailboxes, a start of the records of the
mailbox's messages above the mark read in UID order (`Visit.piece`). That start is all of them
unless the sync of the mailbox failed, and failed otherwise than at a message it could not read.
Every failure a visit ended with is reported, under the mailbox's path or as the failure of the
cycle, and the visits stop short of the selected mailboxes only after a credential failure or a
failure the cycle does not handle, or when the listing failed (`HandsOver`).

- `Swept.handed`: a sweep hands over the pieces of its visits, one after the other.
- `Visit.Fits.piece_starts_full`: what a visit reads starts what the mailbox holds for it.
- `Swept.reported`, `Swept.stops`: the endings of the visits are reported, and only a stopping
  one ends the sweep early.
- `cycle_hands_over_pieces`: a whole cycle, for mailboxes whose range fetches honour the range.
-/

namespace MailIngest.Sync

open Service Imap

/-- What a visit handed over, beside what the mailbox held for it. -/
structure Piece where
  path : String
  /-- The records handed over. -/
  read : List Archive.Message
  /-- The records of all the mailbox's messages above the mark, read in UID order. -/
  full : List Archive.Message
  /-- Whether the sync failed, and not at a message it could not read. -/
  cut : Bool
  /-- The failure the sync ended with, if one did. -/
  ending : Option Fault

/-- The piece of a visit from the engine `e`. -/
def Visit.piece (v : Visit) (M : Mail) (P : Position) (e : Engine) : Piece :=
  let last := P.lastUid v.path
  let rd := e.reading v.path last (v.fetched M P)
  { path := v.path
    read := rd.read
    full := (e.reading v.path last (M.above v.path last)).read
    cut := v.ending.isSome && rd.failure.isNone
    ending := v.ending }

/-- The pieces of visits in turn from the engine `e`, each read with the converter the visits
before it left. -/
def pieces (M : Mail) (P : Position) : Engine → List Visit → List Piece
  | _, [] => []
  | e, v :: vs => v.piece M P e :: pieces M P (e.visit M P v) vs

variable {M : Mail} {P : Position}

theorem visit_handed (e : Engine) (v : Visit) : (e.visit M P v).handed = e.handed ++ (v.piece M P e).read := by
  rw [(visit_reading e P v).2.2.2.1]
  simp [Engine.markDefault, Visit.piece]

/-- A visit's records start the records of all the mailbox's messages above the mark; they
are all of them unless the visit's sync failed, and not at a message it could not read. -/
theorem Visit.Fits.piece_starts_full {v : Visit} {e : Engine} (hM : M.Orderly v.path) (h : v.Fits M P e) :
    (v.piece M P e).read <+: (v.piece M P e).full ∧
      ((v.piece M P e).read = (v.piece M P e).full ∨ (v.piece M P e).cut = true) := by
  obtain ⟨-, hend⟩ := h
  have hpre := Mail.upTo_starts_above hM (P.lastUid v.path) v.through
  refine ⟨readEach_mono _ hpre, ?_⟩
  unfold Visit.result at hend
  cases hv : v.ending with
  | none =>
    rw [hv] at hend
    left
    simp only [Visit.piece, Visit.fetched]
    rw [Mail.upTo_top hend.1]
  | some f =>
    cases hf : (e.reading v.path (P.lastUid v.path) (v.fetched M P)).failure with
    | none => exact Or.inr (by simp [Visit.piece, hv, hf])
    | some φ =>
      -- a message that could not be read ends the reading of the whole mailbox there too
      left
      obtain ⟨t, ht⟩ := hpre
      simp only [Visit.piece]
      rw [← ht]
      exact (congrArg Reading.read (readEach_append_of_failure (by simp only [Engine.reading] at hf; simp [hf]) t)).symm

/-- A mailbox with a failure noted keeps one after a visit. -/
theorem visit_noted (e : Engine) (v : Visit) {k : String} (h : (e.errors.lookup k).isSome) :
    ((e.visit M P v).errors.lookup k).isSome := by
  unfold Engine.visit
  cases v.ending with
  | none => exact h
  | some f =>
    simp only [Engine.settle_eq]
    split
    · rw [lookup_setKey]
      split
      · rfl
      · exact h
    · exact h

/-- A visit that ended with a failure the cycle handles notes it under the visited path. -/
theorem visit_noted_self (e : Engine) {v : Visit} {f : Fault} (hend : v.ending = some f)
    (hf : (goesOn f).isSome) : ((e.visit M P v).errors.lookup v.path).isSome := by
  simp only [Engine.visit, hend, Engine.settle_eq, hf, if_true, lookup_setKey, Option.isSome_some]

namespace Swept

variable {ms : List Mailbox.Entry} {e e' : Engine} {vs : List Visit} {r : Except Halt Unit}

/-- The mailboxes a sweep visits start the mailboxes it was given. -/
theorem paths (h : Swept M P ms e vs r e') : (pieces M P e vs).map (·.path) <+: ms.map (·.path) := by
  induction h with
  | done => exact List.nil_prefix
  | next hv _ _ _ ih => exact List.cons_prefix_cons.mpr ⟨hv, ih⟩
  | last hv _ _ => exact List.cons_prefix_cons.mpr ⟨hv, List.nil_prefix⟩

/-- A sweep hands over the pieces of its visits, one after the other. -/
theorem handed (h : Swept M P ms e vs r e') : e'.handed = e.handed ++ (pieces M P e vs).flatMap (·.read) := by
  induction h with
  | done => simp [pieces]
  | next _ _ _ _ ih => simp [ih, pieces, visit_handed]
  | last _ _ _ => simp [pieces, visit_handed]

theorem pieces_start_full (hM : ∀ path, M.Orderly path) (h : Swept M P ms e vs r e') :
    ∀ p ∈ pieces M P e vs, p.read <+: p.full ∧ (p.read = p.full ∨ p.cut = true) := by
  induction h with
  | done => simp [pieces]
  | next _ hfits _ _ ih =>
    intro p hp
    rcases List.mem_cons.mp hp with rfl | hp
    · exact hfits.piece_starts_full (hM _)
    · exact ih p hp
  | last _ hfits _ =>
    intro p hp
    rw [pieces, pieces, List.mem_singleton] at hp
    exact hp ▸ hfits.piece_starts_full (hM _)

theorem noted_mono {k : String} (h : Swept M P ms e vs r e') (hk : (e.errors.lookup k).isSome) :
    (e'.errors.lookup k).isSome := by
  induction h with
  | done => exact hk
  | next _ _ _ _ ih => exact ih (visit_noted _ _ hk)
  | last _ _ _ => exact visit_noted _ _ hk

/-- Every failure a visit of the sweep ended with is noted under its path, or ends the sweep. -/
theorem reported (h : Swept M P ms e vs r e') :
    ∀ p ∈ pieces M P e vs, ∀ f, p.ending = some f → (e'.errors.lookup p.path).isSome ∨ r = .error (.fault f) := by
  induction h with
  | done => simp [pieces]
  | @next m rest e v vs r e' _ _ hnext hrest ih =>
    intro p hp f hf
    rcases List.mem_cons.mp hp with rfl | hp
    · have hgo : goesOn f = some true := by
        simp only [Visit.piece] at hf
        simp only [Visit.next, hf] at hnext
        split at hnext <;> simp_all
      exact Or.inl (hrest.noted_mono (visit_noted_self e hf (by rw [hgo]; rfl)))
    · exact ih p hp f hf
  | @last m rest e v _ _ _ =>
    intro p hp f hf
    rw [pieces, pieces, List.mem_singleton] at hp
    subst hp
    cases hg : goesOn f with
    | some b => exact Or.inl (visit_noted_self e hf (by rw [hg]; rfl))
    | none =>
      right
      simp only [Visit.piece] at hf
      simp only [Visit.next, hf, hg]
      rfl

/-- A sweep visits all the mailboxes it was given, unless its last visit failed on a credential
or with a failure the cycle does not handle. -/
theorem stops (h : Swept M P ms e vs r e') :
    (pieces M P e vs).map (·.path) = ms.map (·.path) ∨
      ∃ p f, (pieces M P e vs).getLast? = some p ∧ p.ending = some f ∧
        (credentialFailure f = true ∨ goesOn f = none) := by
  induction h with
  | done => exact Or.inl rfl
  | @next m rest e v vs r e' hv _ _ _ ih =>
    rcases ih with hall | ⟨p, f, hlast, hend, hf⟩
    · exact Or.inl (by simp only [pieces, List.map_cons, hall, Visit.piece, hv])
    · refine Or.inr ⟨p, f, ?_, hend, hf⟩
      rw [pieces, List.getLast?_cons, hlast]
      rfl
  | last _ _ hnext =>
    obtain ⟨f, hend, hf⟩ := Visit.next_ne_true hnext
    exact Or.inr ⟨_, f, rfl, hend, hf⟩

end Swept

/-- What a cycle from the engine `e₀` over the selected mailboxes `selected` hands over, as the
pieces `ps`, when it ends with the engine `e'` and the outcome `out`. -/
structure HandsOver (e₀ : Engine) (selected : List Mailbox.Entry) (ps : List Piece) (e' : Engine)
    (out : Except Halt (Option Fault)) : Prop where
  /-- The mailboxes visited start the selected ones, in order. -/
  paths : ps.map (·.path) <+: selected.map (·.path)
  /-- The records handed over are the pieces' records, one piece after the other. -/
  handed : e'.handed = e₀.handed ++ ps.flatMap (·.read)
  /-- Each piece starts the mailbox's records, and is all of them unless the sync failed
  otherwise than at a message it could not read. -/
  starts : ∀ p ∈ ps, p.read <+: p.full ∧ (p.read = p.full ∨ p.cut = true)
  /-- The failure a visit ended with is noted under its path, or is the cycle's. -/
  reported : ∀ p ∈ ps, ∀ f, p.ending = some f → (e'.errors.lookup p.path).isSome ∨ out = .ok (some f)
  /-- The visits stop short of the selected mailboxes only after a credential failure or a
  failure the cycle does not handle, or when the listing failed. -/
  complete : ps.map (·.path) = selected.map (·.path) ∨
    (∃ p f, ps.getLast? = some p ∧ p.ending = some f ∧ (credentialFailure f = true ∨ goesOn f = none)) ∨
    (ps = [] ∧ (e'.status = some credentialsNote ∨ out ≠ .ok none))

theorem Cycled.hands_over {e₀ e' : Engine} {r : Except Halt Unit} (hM : ∀ path, M.Orderly path)
    (h : Cycled M P e₀ r e') :
    ∃ vs : List Visit, HandsOver e₀ (archived e₀.options.allInclusive M.entries) (pieces M P e₀ vs) e'
      (.ok (outcomeOf r)) := by
  cases h with
  | refused _ =>
    refine ⟨[], ⟨List.nil_prefix, by simp [pieces], by simp [pieces], by simp [pieces], ?_⟩⟩
    exact Or.inr (Or.inr ⟨rfl, Or.inl rfl⟩)
  | @unlisted f _ =>
    refine ⟨[], ⟨List.nil_prefix, by simp [pieces], by simp [pieces], by simp [pieces], ?_⟩⟩
    exact Or.inr (Or.inr ⟨rfl, Or.inr (by simp [outcomeOf])⟩)
  | swept hs =>
    refine ⟨_, ⟨hs.paths, hs.handed, hs.pieces_start_full hM, fun p hp f hf => ?_, hs.stops.imp_right Or.inl⟩⟩
    rcases hs.reported p hp f hf with hnoted | hr
    · exact Or.inl hnoted
    · rw [hr]
      exact Or.inr rfl

/-- A cycle from a valid position, read to the end by a consumer that takes every message, over
mailboxes whose range fetches honour the range, hands over, mailbox after mailbox in the order
of the selected ones, a start of the records of each mailbox's messages above its mark in UID
order: all of them unless the mailbox's sync failed, and not at a message it could not read.
Each failure is reported, and the cycle stops short of the selected mailboxes only after a
credential failure or a failure it does not handle, or when the listing failed. -/
theorem cycle_hands_over_pieces {c : Consumer} (hc : c.Patient) (hP : P.Valid) (hM : ∀ path, M.Orderly path)
    {w : World} (hw : Framed M true w) (e : Engine) (hsize : 1 ≤ e.options.batchSize) :
    let out := (run c (some P)).run.run (w, e)
    ∃ vs : List Visit,
      HandsOver (e.restart P) (archived e.options.allInclusive M.entries) (pieces M P (e.restart P) vs) out.2.2 out.1 := by
  obtain ⟨-, r', hcyc, hr⟩ := run_runs hc hP hM e hsize (w, e) ⟨hw, rfl⟩
  intro out
  rw [show out.1 = _ from hr]
  exact hcyc.hands_over hM

/-- One mailbox holding one message. -/
def oneMessage : Mail :=
  ⟨[{ path := "INBOX", flags := [], delimiter := none }], [("INBOX", [⟨1, none, [104, 105]⟩])]⟩

theorem oneMessage_orderly (path : String) : oneMessage.Orderly path := by
  constructor
  · simp only [oneMessage, Mail.sloppy, List.find?]
    split <;> rfl
  · simp only [oneMessage, Mail.messages, List.find?]
    split <;> simp

/-- The consumer that takes every message and does nothing between them. -/
def takeAll : Consumer := ⟨fun _ => pure (), none, none⟩

theorem takeAll_patient : takeAll.Patient :=
  ⟨rfl, rfl, fun _ _ => Triple.pure fun _ hs => ⟨hs, rfl⟩⟩

/-- A world whose server holds `oneMessage`, with a connection. -/
def oneMessageWorld : World :=
  { (default : World) with server := { listing := oneMessage.listing, boxes := oneMessage.boxes }, link := some default }

def freshEngine : Engine := { options := {}, now := default }

theorem oneMessage_hands_over_pieces :
    let out := (run takeAll (some {})).run.run (oneMessageWorld, freshEngine)
    ∃ vs : List Visit,
      HandsOver (freshEngine.restart {}) (archived freshEngine.options.allInclusive oneMessage.entries)
        (pieces oneMessage {} (freshEngine.restart {}) vs) out.2.2 out.1 :=
  cycle_hands_over_pieces takeAll_patient (by simp [Position.Valid]) oneMessage_orderly ⟨rfl, rfl⟩ freshEngine (by decide)

end MailIngest.Sync
