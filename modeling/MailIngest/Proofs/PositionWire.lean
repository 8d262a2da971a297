import MailIngest.Proofs.Sweep

/-!
# Positions on the wire and in the store

A position goes to the wire as its marks, each `{"maxUid": n}`, and its note when it has a
non-empty one. Read back, the marks are what they were, zero included, and an empty note comes
back as no note: a valid position reads back from its wire form as `Position.onWire` of it
(`ofWire_toWire_eq`).

The store of positions keeps each source's position in its wire form, and refuses a position
with a UID too long to write as JSON text (`upsert_eq`). What is stored for a
source is fetched back in that shape, whatever is stored for other sources or forgotten of
them in between (`position_reads_back`): a change to one source leaves what every other source
fetches (`fetch_apply_other`), and so does a run of such changes (`fetch_applyAll_other`).
An empty note is the one thing lost on the way (`emptyNote_lost`).
-/

namespace MailIngest

namespace Json

/-- Dropping the members of one key leaves what every other key reads. -/
theorem lookup_filter_ne {key other : String} (hne : other ≠ key) :
    ∀ ms : List (String × Json), lookup other (ms.filter (·.1 ≠ key)) = lookup other ms
  | [] => rfl
  | (k, w) :: rest => by
    by_cases hk : k = key
    · have hdrop : ((k, w) :: rest).filter (·.1 ≠ key) = rest.filter (·.1 ≠ key) := by simp [hk]
      have hko : k ≠ other := fun h => hne (h ▸ hk)
      rw [hdrop, lookup_filter_ne hne rest, lookup, if_neg hko]
    · have hkeep : ((k, w) :: rest).filter (·.1 ≠ key) = (k, w) :: rest.filter (·.1 ≠ key) := by
        simp [hk]
      rw [hkeep, lookup, lookup, lookup_filter_ne hne rest]

end Json

namespace Sync

/-! ## Reading the wire form -/

theorem entryUid_wire (n : Int) : entryUid (.obj [("maxUid", .int n)]) = pure n := by
  by_cases hn : n = 0
  · subst hn
    rfl
  · simp only [entryUid, Json.truthy, List.isEmpty_cons, Bool.not_false, Bool.not_true, Json.lookup, if_pos,
      bne_iff_ne, ne_eq, hn, not_false_eq_true, wireUid]
    rfl

theorem wire_entries_mapM : ∀ ms : List (String × Int),
    (ms.map fun (k, n) => (k, Json.obj [("maxUid", .int n)])).mapM
      (fun (path, e) => do pure (path, ← entryUid e)) = .ok ms
  | [] => rfl
  | (k, n) :: rest => by
    rw [List.map_cons, List.mapM_cons, wire_entries_mapM rest]
    simp only [entryUid_wire]
    rfl

theorem checkUids_valid {ms : List (String × Int)} (hms : ∀ e ∈ ms, 0 ≤ e.2) : checkUids ms = .ok ms := by
  have hnone : ms.find? (·.2 < 0) = none :=
    List.find?_eq_none.mpr fun e he => by simpa using hms e he
  simp only [checkUids, hnone]

/-- A wire form whose UIDs are not negative, followed by members whose note reads, reads back
as those UIDs and that note. -/
theorem ofWire_wire {ms : List (String × Int)} (hms : ∀ e ∈ ms, 0 ≤ e.2) (rest : List (String × Json))
    {st : Option String} (hst : Schema.optional Schema.text ((Json.lookup "statusMessage" rest).getD .null) = .ok st) :
    Position.ofWire (.obj (("imap", .obj (ms.map fun (k, n) => (k, .obj [("maxUid", .int n)]))) :: rest)) =
      .ok ⟨ms, st⟩ := by
  have hmake : (Position.make ms ((Json.lookup "statusMessage" rest).getD .null)).toOutcome = .ok ⟨ms, st⟩ := by
    simp only [Position.make, checkUids_valid hms, hst]
    rfl
  have himap : ("imap" = "statusMessage") = False := by decide
  simp only [Position.ofWire, Json.truthy, List.isEmpty_cons, Bool.not_false, Json.lookup, if_pos, himap, if_false,
    Bool.not_true, Bool.false_eq_true, Option.getD_some, Bool.not_not]
  cases ms with
  | nil => exact hmake
  | cons e rest' =>
    rw [wire_entries_mapM]
    simp only [List.map_cons, List.isEmpty_cons, Bool.false_eq_true, if_false]
    exact hmake

/-- A position as its wire form keeps it: the marks, and the note unless it is empty. -/
def Position.onWire (P : Position) : Position :=
  { P with statusMessage := P.statusMessage.filter (!·.isEmpty) }

/-- A valid position reads back from its wire form, an empty note as no note. -/
theorem ofWire_toWire_eq {P : Position} (hP : P.Valid) : Position.ofWire P.toWire = .ok P.onWire := by
  obtain ⟨ms, note⟩ := P
  rcases note with _ | m
  · exact ofWire_wire hP [] rfl
  · by_cases hm : m.isEmpty
    · simp only [Position.toWire, Position.onWire, hm, if_true, List.append_nil, Option.filter_some,
        Bool.not_true, Bool.false_eq_true, if_false]
      exact ofWire_wire hP [] rfl
    · simp only [Position.toWire, Position.onWire, hm, Bool.false_eq_true, if_false, List.singleton_append,
        Option.filter_some, Bool.not_false, if_true]
      exact ofWire_wire hP [("statusMessage", .str m)] rfl

/-! ## The store -/

/-- A position is stored in its wire form exactly when its UIDs can be written; otherwise the
store refuses it with a `ValueError`. -/
theorem upsert_eq (s : PositionStore) (source : String) (P : Position) :
    s.upsert source P = if P.writable then .ok ⟨Json.setMember source P.toWire s.rows⟩
      else .error (Fault.named "ValueError") := rfl

/-- A valid position stored for a source is fetched back as its wire form keeps it. -/
theorem fetch_upsert_self {s s' : PositionStore} {source : String} {P : Position} (hP : P.Valid)
    (h : s.upsert source P = .ok s') : s'.fetch source = .ok (some P.onWire) := by
  rw [upsert_eq] at h
  split at h
  · cases h
    simp only [PositionStore.fetch, Json.lookup_setMember_self, ofWire_toWire_eq hP]
    rfl
  · cases h

/-- A change to a store of positions. -/
inductive Change where
  /-- A position stored for a source. -/
  | upsert (source : String) (p : Position)
  /-- A source's position forgotten. -/
  | remove (source : String)

def Change.source : Change → String
  | .upsert s _ => s
  | .remove s => s

namespace PositionStore

/-- A change applied to the store; a position that cannot be written leaves it as it was. -/
def apply (s : PositionStore) : Change → PositionStore
  | .upsert source p => (s.upsert source p).toOption.getD s
  | .remove source => s.remove source

def applyAll (s : PositionStore) (cs : List Change) : PositionStore := cs.foldl apply s

/-- A change to one source leaves what any other source fetches. -/
theorem fetch_apply_other (s : PositionStore) {c : Change} {source : String} (h : c.source ≠ source) :
    (s.apply c).fetch source = s.fetch source := by
  cases c with
  | upsert k p =>
    change k ≠ source at h
    rw [apply, upsert_eq]
    split
    · simp only [Except.toOption, Option.getD_some, fetch, Json.lookup_setMember_ne _ (Ne.symm h)]
    · rfl
  | remove k =>
    change k ≠ source at h
    simp only [apply, fetch, remove, Json.lookup_filter_ne (Ne.symm h)]

/-- Changes to other sources leave what a source fetches. -/
theorem fetch_applyAll_other (source : String) :
    ∀ (s : PositionStore) (cs : List Change), (∀ c ∈ cs, c.source ≠ source) →
      (s.applyAll cs).fetch source = s.fetch source
  | _, [], _ => rfl
  | s, c :: rest, h => by
    rw [applyAll, List.foldl_cons, ← applyAll,
      fetch_applyAll_other source _ rest fun c' hc' => h c' (List.mem_cons_of_mem _ hc')]
    exact fetch_apply_other s (h c List.mem_cons_self)

end PositionStore

/-- A valid position reads back from its wire form. A source's position is stored when its UIDs
can be written, and then fetched back, whatever is stored for other sources or forgotten of them
in between; in both, an empty note comes back as no note. A UID too long to write makes the
store refuse the position with a `ValueError`. -/
theorem position_reads_back {P : Position} (hP : P.Valid) (s : PositionStore) (source : String)
    (cs : List Change) (hcs : ∀ c ∈ cs, c.source ≠ source) :
    Position.ofWire P.toWire = .ok P.onWire ∧
      (P.writable = true → ∃ s', s.upsert source P = .ok s' ∧
        (s'.applyAll cs).fetch source = .ok (some P.onWire)) ∧
      (P.writable = false → s.upsert source P = .error (Fault.named "ValueError")) := by
  refine ⟨ofWire_toWire_eq hP, fun hw => ?_, fun hw => by rw [upsert_eq, hw, if_neg Bool.false_ne_true]⟩
  rw [upsert_eq, if_pos hw]
  refine ⟨_, rfl, ?_⟩
  rw [PositionStore.fetch_applyAll_other source _ cs hcs]
  exact fetch_upsert_self hP (by rw [upsert_eq, if_pos hw])

/-- A position with marks and a note, stored for a source, read back past a position stored
for another source and that source forgotten. -/
theorem paused_reads_back :
    let P : Position := ⟨[("INBOX", 103), ("Sent", 0)], some "paused"⟩
    let cs := [Change.upsert "source-2" {}, .remove "source-2"]
    P.Valid ∧ (∀ c ∈ cs, c.source ≠ "source-1") ∧ P.writable = true ∧
      (Position.ofWire P.toWire = .ok P.onWire ∧
        (P.writable = true → ∃ s', ({} : PositionStore).upsert "source-1" P = .ok s' ∧
          (s'.applyAll cs).fetch "source-1" = .ok (some P.onWire)) ∧
        (P.writable = false → ({} : PositionStore).upsert "source-1" P = .error (Fault.named "ValueError"))) := by
  intro P cs
  have hP : P.Valid := by simp [P, Position.Valid]
  have hcs : ∀ c ∈ cs, c.source ≠ "source-1" := by simp [cs, Change.source]
  exact ⟨hP, hcs, by decide, position_reads_back hP {} "source-1" cs hcs⟩

/-- An empty note does not come back: the position read from the wire form, and the one
fetched from the store, have no note. -/
theorem emptyNote_lost :
    (Position.ofWire ({ statusMessage := some "" } : Position).toWire).map (·.statusMessage) = .ok none ∧
      ((({} : PositionStore).upsert "s" { statusMessage := some "" }).bind (·.fetch "s")).map
        (·.map (·.statusMessage)) = .ok (some none) :=
  ⟨rfl, rfl⟩

end Sync

end MailIngest
