import MailIngest.Settings.Load
import MailIngest.Proofs.JsonText

/-!
# How loading and assembling settings can fail

Loading the settings file fails with the library's configuration error, except for the
interpreter's own errors its bytes can bring (`BadFile`): bytes that are no UTF-8, an integer
of more than `Json.maxIntDigits` digits, or arrays and objects nested past the room the
recursion limit leaves; only a missing file is not found. Assembling settings with a working
keychain gives a record the validator produced, with its two secrets reconciled, or fails in
one of four ways: a configuration error, an error of the file's bytes, a type error where an
override replaced a section by something other than an object and the environment sets one of
its fields, or what making a folder the settings need raised.

- `reads_within`: every reading leaves a suffix of its text, refuses a long integer only where
  the text holds that many digits in a row, and runs out of room only where the text opens more
  arrays and objects than the room (`parseWithin_error`);
- `mergeMembers_lookup`: a member that merging leaves as something other than an object was
  there before or is an override;
- `applyEnvOne_applied`, `foldlM_applyEnvOne_applied`: each environment override keeps the
  invariant `Traced` and fails only as `EnvApplied` says, so all of them do;
- `hydrate_unlocked`: a working keychain reconciles a secret and keeps working;
- `load_error`, `bootstrap_ok`, `bootstrap_error`: the outcomes of loading and assembling.
-/

namespace MailIngest.Json

/-- Everything a string literal's reading leaves is a suffix of the text. -/
theorem readString_suffix {cs acc : List Char} {s : String} {r : List Char}
    (h : readString cs acc = some (s, r)) : r <:+ cs := by
  fun_induction readString cs acc generalizing s r
  case case2 => cases h; exact List.suffix_cons _ _
  case case1 | case3 | case6 | case17 | case18 | case19 => cases h
  all_goals rename_i ih; exact (ih h).trans (by simp [List.suffix_cons_iff])

theorem lookup_mem {k : String} {w : Json} :
    ∀ {ms : List (String × Json)}, lookup k ms = some w → (k, w) ∈ ms := by
  intro ms h
  induction ms with
  | nil => cases h
  | cons m ms ih =>
    obtain ⟨k', w'⟩ := m
    rw [lookup] at h
    split at h
    · rename_i hk
      cases h
      rw [hk]
      exact List.mem_cons_self
    · exact List.mem_cons_of_mem _ (ih h)

/-- The text holds more than `maxIntDigits` decimal digits in a row. -/
def LongDigits (cs : List Char) : Prop :=
  ∃ ds, ds <:+: cs ∧ maxIntDigits < ds.length ∧ ∀ c ∈ ds, c.isDigit

theorem LongDigits.of_suffix {r cs : List Char} (h : LongDigits r) (hr : r <:+ cs) :
    LongDigits cs := by
  obtain ⟨ds, hds, hlen, hdig⟩ := h
  exact ⟨ds, hds.trans hr.isInfix, hlen, hdig⟩

/-- The characters of a text that open an array or an object, strings included. -/
def openers (cs : List Char) : Nat := cs.countP fun c => c = '{' || c = '['

theorem openers_le {r cs : List Char} (h : r <:+ cs) : openers r ≤ openers cs :=
  h.sublist.countP_le

/-- What a reading of `cs` with room for `room` more arrays and objects can end with: a value
leaves a suffix of the text, an integer is refused as too long only where the text holds that
many digits in a row, and the reading runs out of room only where the text opens more than
`room` arrays and objects. -/
def ReadsWithin (room : Nat) (cs : List Char) (x : Except ParseError (Json × List Char)) : Prop :=
  (∀ v r, x = .ok (v, r) → r <:+ cs) ∧ (x = .error .longInteger → LongDigits cs) ∧
    (x = .error .tooDeep → room < openers cs)

namespace ReadsWithin

variable {room : Nat} {cs : List Char} {x : Except ParseError (Json × List Char)}

theorem of_suffix {t : List Char} (h : ReadsWithin room t x) (ht : t <:+ cs) : ReadsWithin room cs x :=
  ⟨fun v r hx => (h.1 v r hx).trans ht, fun hx => (h.2.1 hx).of_suffix ht,
    fun hx => Nat.lt_of_lt_of_le (h.2.2 hx) (openers_le ht)⟩

/-- A reading inside an array or object just opened, with one room less. -/
theorem opened {t rest : List Char} {c : Char} (h : ReadsWithin room t x) (ht : t <:+ rest)
    (hc : c = '{' ∨ c = '[') : ReadsWithin (room + 1) (c :: rest) x := by
  have hcount : openers (c :: rest) = openers rest + 1 := by
    rcases hc with rfl | rfl <;> simp [openers]
  refine (h.of_suffix ht).of_suffix (List.suffix_cons c rest) |>.imp_right fun hw => ⟨hw.1, fun hx => ?_⟩
  have := (h.of_suffix ht).2.2 hx
  omega

theorem ok {v : Json} {r : List Char} (hr : r <:+ cs) : ReadsWithin room cs (.ok (v, r)) :=
  ⟨fun _ _ hx => (by cases hx; exact hr), fun hx => (by cases hx), fun hx => (by cases hx)⟩

theorem malformed : ReadsWithin room cs (.error .malformed) :=
  ⟨fun _ _ hx => (by cases hx), fun hx => (by cases hx), fun hx => (by cases hx)⟩

/-- An array or object opened with no room left. -/
theorem tooDeep {c : Char} {rest : List Char} (hc : c = '{' ∨ c = '[') :
    ReadsWithin 0 (c :: rest) (.error .tooDeep) := by
  refine ⟨fun _ _ hx => (by cases hx), fun hx => (by cases hx), fun _ => ?_⟩
  rcases hc with rfl | rfl <;> simp [openers]

theorem error {e : ParseError} (h : ReadsWithin room cs x) (hx : x = .error e) :
    ReadsWithin room cs (.error e) :=
  hx ▸ h

end ReadsWithin

/-- The integer part of a number is a run of digits that starts the text. -/
theorem readIntPart_digits {cs ip rest : List Char} (h : readIntPart cs = some (ip, rest)) :
    ip <+: cs ∧ ∀ c ∈ ip, c.isDigit := by
  unfold readIntPart at h
  split at h
  · cases h
    refine ⟨List.prefix_append _ _, fun c hc => ?_⟩
    obtain rfl := List.mem_singleton.1 hc
    rfl
  · rename_i c rest' _
    split at h
    · rename_i hc
      cases h
      refine ⟨(List.prefix_cons_inj c).2 (List.takeWhile_prefix _), ?_⟩
      intro d hd
      rcases List.mem_cons.1 hd with rfl | hd
      · simp only [Char.isDigit, Bool.and_eq_true, decide_eq_true_eq]
        exact ⟨Char.le_trans (by decide) hc.1, hc.2⟩
      · exact List.all_eq_true.1 List.all_takeWhile d hd
    · cases h
  · cases h

/-- A number is refused as too long only where the text starts with that many digits. -/
theorem readNumber_longInteger {cs : List Char} (h : readNumber cs = .error .longInteger) :
    LongDigits cs := by
  unfold readNumber at h
  cases hi : readIntPart (readSign cs).2 with
  | none => simp [hi] at h
  | some p =>
    obtain ⟨hpre, hdig⟩ := readIntPart_digits hi
    simp only [hi] at h
    split at h
    · split at h
      · exact ⟨p.1, hpre.isInfix.trans (readSign_suffix cs).isInfix, ‹_›, hdig⟩
      · cases h
    · cases h

theorem readNumber_reads (room : Nat) (cs : List Char) : ReadsWithin room cs (readNumber cs) := by
  refine ⟨fun _ _ h => readNumber_suffix h, readNumber_longInteger, fun h => ?_⟩
  unfold readNumber at h
  cases hi : readIntPart (readSign cs).2 with
  | none => simp [hi] at h
  | some p =>
    simp only [hi] at h
    split at h
    · split at h <;> cases h
    · cases h

section Step

variable {fuel : Nat}

theorem readValue_succ_reads (hi : ∀ room cs acc, ReadsWithin room cs (readItems fuel room cs acc))
    (hm : ∀ room cs acc, ReadsWithin room cs (readMembers fuel room cs acc)) (room : Nat) (cs : List Char) :
    ReadsWithin room cs (readValue (fuel + 1) room cs) := by
  rw [readValue]
  refine ReadsWithin.of_suffix ?_ (skipBlanks_suffix cs)
  generalize skipBlanks cs = t
  split
  · -- an object: no room, empty, or its members after the blanks
    split
    · exact .tooDeep (.inl rfl)
    · rename_i room
      generalize hr : skipBlanks _ = r
      have hsuf : r <:+ _ := hr ▸ skipBlanks_suffix _
      split
      · exact .ok (((List.suffix_cons _ _).trans hsuf).trans (List.suffix_cons _ _))
      · exact (hm room _ _).opened hsuf (.inl rfl)
  · -- an array: no room, empty, or its items after the blanks
    split
    · exact .tooDeep (.inr rfl)
    · rename_i room
      generalize hr : skipBlanks _ = r
      have hsuf : r <:+ _ := hr ▸ skipBlanks_suffix _
      split
      · exact .ok (((List.suffix_cons _ _).trans hsuf).trans (List.suffix_cons _ _))
      · exact (hi room _ _).opened hsuf (.inr rfl)
  · -- a string
    split
    · exact .ok ((readString_suffix ‹_›).trans (List.suffix_cons _ _))
    · exact .malformed
  · exact .ok (List.suffix_append ['n', 'u', 'l', 'l'] _)
  · exact .ok (List.suffix_append ['t', 'r', 'u', 'e'] _)
  · exact .ok (List.suffix_append ['f', 'a', 'l', 's', 'e'] _)
  · exact .ok (List.suffix_append ['N', 'a', 'N'] _)
  · exact .ok (List.suffix_append "Infinity".toList _)
  · exact .ok (List.suffix_append "-Infinity".toList _)
  · exact readNumber_reads _ _

theorem readItems_succ_reads (hv : ∀ room cs, ReadsWithin room cs (readValue fuel room cs))
    (hi : ∀ room cs acc, ReadsWithin room cs (readItems fuel room cs acc)) (room : Nat) (cs : List Char)
    (acc : List Json) : ReadsWithin room cs (readItems (fuel + 1) room cs acc) := by
  rw [readItems]
  split
  · exact (hv room cs).error ‹_›
  · rename_i v r hr
    refine ReadsWithin.of_suffix ?_ ((skipBlanks_suffix r).trans ((hv room cs).1 v r hr))
    generalize skipBlanks r = t
    split
    · exact (hi room _ _).of_suffix (List.suffix_cons _ _)
    · exact .ok (List.suffix_cons _ _)
    · exact .malformed

theorem readMembers_succ_reads (hv : ∀ room cs, ReadsWithin room cs (readValue fuel room cs))
    (hm : ∀ room cs acc, ReadsWithin room cs (readMembers fuel room cs acc)) (room : Nat) (cs : List Char)
    (acc : List (String × Json)) : ReadsWithin room cs (readMembers (fuel + 1) room cs acc) := by
  rw [readMembers]
  refine ReadsWithin.of_suffix ?_ (skipBlanks_suffix cs)
  generalize skipBlanks cs = t
  split
  · refine ReadsWithin.of_suffix ?_ (List.suffix_cons _ _)
    split
    · exact .malformed
    · rename_i k r hk
      refine ReadsWithin.of_suffix ?_ ((skipBlanks_suffix r).trans (readString_suffix hk))
      generalize skipBlanks r = t
      split
      · refine ReadsWithin.of_suffix ?_ (List.suffix_cons _ _)
        split
        · exact (hv room _).error ‹_›
        · rename_i v r' hr
          refine ReadsWithin.of_suffix ?_ ((skipBlanks_suffix r').trans ((hv room _).1 v r' hr))
          generalize skipBlanks r' = t
          split
          · exact (hm room _ _).of_suffix (List.suffix_cons _ _)
          · exact .ok (List.suffix_cons _ _)
          · exact .malformed
      · exact .malformed
  · exact .malformed

end Step

/-- Every reading stays within its text: of a value, of the rest of an array or of the rest of
an object, whatever room it has. The induction is on the fuel, of which each nested reading
spends one. -/
theorem reads_within (fuel : Nat) :
    (∀ room cs, ReadsWithin room cs (readValue fuel room cs)) ∧
      (∀ room cs acc, ReadsWithin room cs (readItems fuel room cs acc)) ∧
      (∀ room cs acc, ReadsWithin room cs (readMembers fuel room cs acc)) := by
  induction fuel with
  | zero => exact ⟨fun _ _ => .malformed, fun _ _ _ => .malformed, fun _ _ _ => .malformed⟩
  | succ fuel ih =>
    obtain ⟨hv, hi, hm⟩ := ih
    exact ⟨readValue_succ_reads hi hm, readItems_succ_reads hv hi, readMembers_succ_reads hv hm⟩

/-- A text is refused for a long integer only where it holds that many digits in a row, and
for want of room only where it opens more arrays and objects than the room. -/
theorem parseWithin_error {room : Nat} {s : String} {e : ParseError} (h : parseWithin room s = .error e) :
    (e = .longInteger → LongDigits s.toList) ∧ (e = .tooDeep → room < openers s.toList) := by
  dsimp only [parseWithin] at h
  split at h
  · rename_i e' he
    cases h
    exact ⟨fun hl => ((reads_within _).1 _ _).2.1 (hl ▸ he), fun hd => ((reads_within _).1 _ _).2.2 (hd ▸ he)⟩
  · split at h
    · cases h
    · cases h
      exact ⟨fun he => (by cases he), fun he => (by cases he)⟩

end MailIngest.Json

namespace MailIngest.Settings

open Secrets

/-- The member `sec` that merging overrides leaves as a non-object was there before, or is one
of the overrides: an object override merged into an object stays an object. -/
theorem mergeMembers_lookup {sec : String} {w : Json} (hw : ∀ ms, w ≠ .obj ms)
    (ovs : List (String × Json)) :
    ∀ bs, Json.lookup sec (mergeMembers bs ovs) = some w →
      Json.lookup sec bs = some w ∨ (sec, w) ∈ ovs := by
  induction ovs with
  | nil => intro bs h; exact .inl (by rwa [mergeMembers_nil] at h)
  | cons o rest ih =>
    obtain ⟨k, v⟩ := o
    intro bs h
    rw [mergeMembers.eq_def] at h
    dsimp only at h
    rcases ih _ h with h | h
    · by_cases hk : k = sec
      · subst hk
        rw [Json.lookup_setMember_self] at h
        split at h
        · rename_i b ms _ _
          cases h
          exact absurd (by rw [mergeValue]) (hw _)
        · cases h
          exact .inr List.mem_cons_self
      · rw [Json.lookup_setMember_ne _ (Ne.symm hk)] at h
        exact .inl h
    · exact .inr (List.mem_cons_of_mem _ h)


/-- A section that an override replaced by something other than an object, and one of whose
fields the environment sets. -/
def SectionReplaced (env : List (String × String)) (overrides : List (String × Json)) : Prop :=
  ∃ sec key var cast raw w, (some sec, key, var, cast) ∈ envOverrides ∧ (var, raw) ∈ env ∧
    (sec, w) ∈ overrides ∧ ∀ ms, w ≠ .obj ms

/-- The invariant of applying the environment: the data is an object, and each of its members
that is not an object is the root's log level or one of the overrides. -/
def Traced (overrides : List (String × Json)) (data : Json) : Prop :=
  (∃ ms, data = .obj ms) ∧
    ∀ sec w, data.get? sec = some w → (∀ ms, w ≠ .obj ms) →
      sec = "log_level" ∨ (sec, w) ∈ overrides

/-- What applying environment overrides can end with: data that keeps the invariant, a
configuration error, or a type error at a section an override replaced. -/
def EnvApplied (env : List (String × String)) (overrides : List (String × Json))
    (x : Outcome Json) : Prop :=
  (∀ d, x = .ok d → Traced overrides d) ∧
    ∀ f, x = .error f →
      f.kind? = some .configuration ∨ (f = Fault.named "TypeError" ∧ SectionReplaced env overrides)

theorem envOverrides_fields :
    ∀ o ∈ envOverrides, o.1 ≠ some "log_level" ∧ (o.1 = none → o.2.1 = "log_level") := by
  decide

variable {ovs : List (String × Json)} {env : List (String × String)}

theorem Traced.setMember {ms : List (String × Json)} (hd : Traced ovs (.obj ms)) {key : String}
    {v : Json} (hv : key = "log_level" ∨ ∃ vs, v = .obj vs) :
    Traced ovs (.obj (Json.setMember key v ms)) := by
  refine ⟨⟨_, rfl⟩, fun sec w h hw => ?_⟩
  by_cases hk : sec = key
  · subst hk
    have hvw : v = w := Option.some.inj ((Json.lookup_setMember_self _ _ _).symm.trans h)
    subst hvw
    rcases hv with rfl | ⟨vs, rfl⟩
    · exact .inl rfl
    · exact (hw vs rfl).elim
  · exact hd.2 sec w ((Json.lookup_setMember_ne _ hk _).symm.trans h) hw

/-- Merging overrides into settings gives data with the invariant: every section of settings is
an object, so a non-object member is the log level or an override. -/
theorem traced_merged (r : Root) : Traced ovs (mergeValue (r.toJson false) (.obj ovs)) := by
  refine ⟨⟨_, rfl⟩, fun sec w h hw => ?_⟩
  rcases mergeMembers_lookup hw ovs _ h with h | h
  · have hm := Json.lookup_mem h
    simp only [List.mem_cons, Prod.mk.injEq, List.not_mem_nil, or_false] at hm
    rcases hm with ⟨-, rfl⟩ | ⟨-, rfl⟩ | ⟨-, rfl⟩ | ⟨-, rfl⟩ | ⟨-, rfl⟩ | ⟨rfl, -⟩
    iterate 5 exact (hw _ rfl).elim
    exact .inl rfl
  · exact .inr h

theorem setField_ok {target v d : Json} {key : String} (h : setField target key v = .ok d) :
    ∃ ms, target = .obj ms ∧ d = .obj (Json.setMember key v ms) := by
  unfold setField at h
  split at h
  · cases h
    exact ⟨_, rfl, rfl⟩
  · cases h

theorem setField_error {target v : Json} {key : String} {f : Fault}
    (h : setField target key v = .error f) : f = Fault.named "TypeError" ∧ ∀ ms, target ≠ .obj ms := by
  unfold setField at h
  split at h
  · cases h
  · cases h
    exact ⟨rfl, ‹_›⟩

theorem castValue_error {var raw : String} {cast : Cast} {f : Fault}
    (h : castValue var raw cast = .error f) : f.kind? = some .configuration := by
  unfold castValue at h
  split at h
  · cases h
  · cases h
  · split at h
    · cases h
    · cases h
      rfl

theorem EnvApplied.ok {d : Json} (hd : Traced ovs d) : EnvApplied env ovs (.ok d) :=
  ⟨fun _ h => (by cases h; exact hd), fun _ h => (by cases h)⟩

theorem EnvApplied.error {f : Fault}
    (hf : f.kind? = some .configuration ∨ (f = Fault.named "TypeError" ∧ SectionReplaced env ovs)) :
    EnvApplied env ovs (.error f) :=
  ⟨fun _ h => (by cases h), fun _ h => (by cases h; exact hf)⟩

/-- One environment override keeps the invariant, and fails only with a configuration error or
with a type error at a section an override replaced. -/
theorem applyEnvOne_applied {data : Json} {o : Option String × String × String × Cast}
    (hd : Traced ovs data) (ho : o ∈ envOverrides) :
    EnvApplied env ovs (applyEnvOne env data o) := by
  obtain ⟨part, key, var, cast⟩ := o
  obtain ⟨hsec, hroot⟩ := envOverrides_fields _ ho
  obtain ⟨ms, rfl⟩ := hd.1
  simp only [applyEnvOne, bind, Except.bind, pure, Except.pure]
  cases part with
  | none =>
    dsimp only
    split
    · exact .ok hd
    · split
      · exact .error (.inl (castValue_error ‹_›))
      · exact .ok (hd.setMember (.inl (hroot rfl)))
  | some sec =>
    have hW : ∃ W, (if ((Json.obj ms).get? sec).isSome = true then Json.obj ms
        else (Json.obj ms).set sec (Json.obj [])) = W ∧ Traced ovs W ∧
        ∃ w, W.get? sec = some w ∧ ((∃ vs, w = .obj vs) ∨ (Json.obj ms).get? sec = some w) := by
      split
      · rename_i hs
        obtain ⟨w, hw⟩ := Option.isSome_iff_exists.1 hs
        exact ⟨_, rfl, hd, w, hw, .inr hw⟩
      · exact ⟨_, rfl, hd.setMember (.inr ⟨[], rfl⟩), _, Json.lookup_setMember_self _ _ _,
          .inl ⟨[], rfl⟩⟩
    obtain ⟨W, hWeq, hWt, w, hw, hwc⟩ := hW
    dsimp only
    rw [hWeq]
    split
    · exact .ok hWt
    · rename_i x raw hx
      split
      · exact .error (.inl (castValue_error ‹_›))
      · rename_i v _
        rw [hw, Option.getD_some]
        split
        · -- the section holds no object: an override put it there
          rename_i f hf
          obtain ⟨rfl, hnon⟩ := setField_error hf
          have hmem : (sec, w) ∈ ovs := by
            rcases hwc with ⟨vs, rfl⟩ | hwc
            · exact (hnon vs rfl).elim
            · exact (hd.2 sec w hwc hnon).resolve_left (fun h => hsec (congrArg some h))
          have hvar : (var, raw) ∈ env := by
            have hxv : x = var := by simpa using List.find?_some hx
            exact hxv ▸ List.mem_of_find?_eq_some hx
          exact .error (.inr ⟨rfl, sec, key, var, cast, raw, w, ho, hvar, hmem, hnon⟩)
        · rename_i inner hf
          obtain ⟨ws, -, rfl⟩ := setField_ok hf
          obtain ⟨ms', rfl⟩ := hWt.1
          exact .ok (hWt.setMember (.inr ⟨_, rfl⟩))

/-- Applying environment overrides one after another keeps the invariant, and fails only as
one of them can. The induction is on the overrides still to apply. -/
theorem foldlM_applyEnvOne_applied (os : List (Option String × String × String × Cast))
    (hos : ∀ o ∈ os, o ∈ envOverrides) :
    ∀ data, Traced ovs data → EnvApplied env ovs (os.foldlM (applyEnvOne env) data) := by
  induction os with
  | nil => intro data hd; exact .ok hd
  | cons o os ih =>
    intro data hd
    rw [List.foldlM_cons]
    have hstep : EnvApplied env ovs (applyEnvOne env data o) :=
      applyEnvOne_applied hd (hos o List.mem_cons_self)
    cases hx : applyEnvOne env data o with
    | error f => exact .error (hstep.2 f hx)
    | ok d => exact ih (fun o h => hos o (List.mem_cons_of_mem _ h)) d (hstep.1 d hx)

/-- The environment's overrides applied to settings with overrides merged in. -/
theorem applyEnv_applied (r : Root) :
    EnvApplied env ovs (applyEnv env (mergeValue (r.toJson false) (.obj ovs))) :=
  foldlM_applyEnvOne_applied envOverrides (fun _ h => h) _ (traced_merged r)

/-- The interpreter's own errors that a settings file's bytes can bring: bytes that are no UTF-8,
an integer too long to convert, or arrays and objects nested past the room the recursion limit
leaves. -/
def BadFile (bytes : List UInt8) (f : Fault) : Prop :=
  (f = Fault.named "UnicodeDecodeError" ∧ Text.Utf8.decode? bytes = none) ∨
    ∃ text, Text.Utf8.decode? bytes = some text ∧
      ((f = Fault.named "ValueError" ∧ Json.LongDigits text.toList) ∨
        (f = Fault.named "RecursionError" ∧ nestingRoom < Json.openers text.toList))

/-- A settings file fails to load with a configuration error, or with one of the interpreter's
errors its bytes bring. -/
theorem load_error {home : String} {bytes : List UInt8} {f : Fault} (h : load home (some bytes) = .error f) :
    f.kind? = some .configuration ∨ BadFile bytes f := by
  rw [load] at h
  split at h
  · cases h
    exact .inr (.inl ⟨rfl, ‹_›⟩)
  · rename_i text htext
    split at h
    · cases h
      exact .inr (.inr ⟨text, htext, .inl ⟨rfl, (Json.parseWithin_error ‹_›).1 rfl⟩⟩)
    · cases h
      exact .inr (.inr ⟨text, htext, .inr ⟨rfl, (Json.parseWithin_error ‹_›).2 rfl⟩⟩)
    · cases h
      exact .inl rfl
    · split at h
      · cases h
      · cases h
        exact .inl rfl

/-- With a working keychain a secret is reconciled without failure, and the keychain keeps
working. -/
theorem hydrate_unlocked (store : SecretStore) {k : Keychain} (hk : k.lock = none) (key : String)
    (v : Option String) : ∃ s k', hydrate store (some k) key v = .ok (s, some k') ∧ k'.lock = none := by
  have hfrom : ∃ s, hydrate.fromStore store (some k) key = .ok (s, some k) := by
    simp only [hydrate.fromStore, SecretStore.get, Keychain.get, hk, bind, Except.bind, pure,
      Except.pure]
    exact ⟨_, rfl⟩
  obtain ⟨s, hs⟩ := hfrom
  cases v with
  | none => exact ⟨s, k, by rw [hydrate, hs], hk⟩
  | some v =>
    rw [hydrate]
    split
    · simp only [SecretStore.set, Keychain.set, hk, bind, Except.bind, pure, Except.pure]
      exact ⟨_, _, rfl, rfl⟩
    · exact ⟨s, k, hs, hk⟩

section Bootstrap

variable {home : String} {file : Option (List UInt8)} {store : SecretStore} {k : Keychain} {folders : Folders}

/-- Assembled settings, when they come out, are a record the validator produced with the two
secrets reconciled. -/
theorem bootstrap_ok {kc : Option Keychain} {r : Root}
    (h : (bootstrap home file env ovs store kc folders).result = .ok r) :
    ∃ j r₀ secret key, (Root.check home j).toOutcome = .ok r₀ ∧
      r = { r₀ with oauth := { r₀.oauth with clientSecret := secret },
                    security := { r₀.security with encryptionKey := key } } := by
  unfold bootstrap at h
  dsimp only at h
  split at h
  · cases h
  · split at h
    · cases h
    · rename_i r₀ hres
      simp only [bind, Except.bind] at hres
      split at hres
      · cases hres
      · rename_i j _
        split at hres
        · rename_i hc
          cases hres
          split at h
          · cases h
          · split at h
            · cases h
            · split at h
              · cases h
              · cases h
                exact ⟨j, _, _, _, hc, rfl⟩
        · cases hres

/-- Assembling settings with a working keychain fails with a configuration error, with an
error the file's bytes bring, with a type error at a section an override replaced, or with what
making a folder raised: the settings file's, when there was no file, or a database path's. -/
theorem bootstrap_error (hk : k.lock = none) {f : Fault}
    (h : (bootstrap home file env ovs store (some k) folders).result = .error f) :
    f.kind? = some .configuration ∨ (∃ bytes, file = some bytes ∧ BadFile bytes f) ∨
      (f = Fault.named "TypeError" ∧ SectionReplaced env ovs) ∨
      (file = none ∧ folders.settings = some f) ∨ ∃ path, folders.database path = some f := by
  unfold bootstrap at h
  dsimp only at h
  split at h
  · -- the file did not load, or its folder could not be made
    rename_i g hbase
    cases h
    cases file with
    | none =>
      dsimp only at hbase
      split at hbase
      · cases hbase
        exact .inr (.inr (.inr (.inl ⟨rfl, ‹_›⟩)))
      · cases hbase
    | some bytes =>
      cases hl : load home (some bytes) with
      | ok r => rw [hl] at hbase; cases hbase
      | error g' =>
        rw [hl] at hbase
        cases hbase
        rcases load_error hl with h | h
        · exact .inl h
        · exact .inr (.inl ⟨bytes, rfl, h⟩)
  · rename_i settings written _
    split at h
    · -- the environment or the validation refused the merged settings
      rename_i g hres
      cases h
      simp only [bind, Except.bind] at hres
      split at hres
      · cases hres
        rcases (applyEnv_applied settings).2 _ ‹_› with h | h
        · exact .inl h
        · exact .inr (.inr (.inl h))
      · split at hres
        · cases hres
        · cases hres
          exact .inl rfl
    · split at h
      · -- the database's folder could not be made
        cases h
        exact .inr (.inr (.inr (.inr ⟨_, ‹_›⟩)))
      · -- reconciling the secrets cannot fail with a working keychain
        obtain ⟨s, k', h1, hk'⟩ := hydrate_unlocked store hk clientSecretKey _
        rw [h1] at h
        dsimp only at h
        obtain ⟨s', k'', h2, -⟩ := hydrate_unlocked store hk' encryptionKeyKey _
        rw [h2] at h
        cases h

end Bootstrap

/-- Loading settings fails only with a configuration error or with an error the file's bytes
bring, and a missing file is the only one not found. Assembling them with a working keychain
gives a record the validator produced with its secrets reconciled, or fails with a
configuration error, an error the file's bytes bring, a type error where an override replaced
a section by something other than an object and the environment sets one of its fields, or
what making a folder raised. -/
theorem settings_outcomes (home : String) (file : Option (List UInt8)) (env : List (String × String))
    (overrides : List (String × Json)) (store : SecretStore) {k : Keychain} (hk : k.lock = none)
    (folders : Folders) :
    load home none = .error (.runtime "FileNotFoundError" (some "Settings file not found")) ∧
    (∀ bytes f, load home (some bytes) = .error f → f.kind? = some .configuration ∨ BadFile bytes f) ∧
    (∀ r, (bootstrap home file env overrides store (some k) folders).result = .ok r →
      ∃ j r₀ secret key, (Root.check home j).toOutcome = .ok r₀ ∧
        r = { r₀ with oauth := { r₀.oauth with clientSecret := secret },
                      security := { r₀.security with encryptionKey := key } }) ∧
    ∀ f, (bootstrap home file env overrides store (some k) folders).result = .error f →
      f.kind? = some .configuration ∨ (∃ bytes, file = some bytes ∧ BadFile bytes f) ∨
        (f = Fault.named "TypeError" ∧ SectionReplaced env overrides) ∨
        (file = none ∧ folders.settings = some f) ∨ ∃ path, folders.database path = some f :=
  ⟨rfl, fun _ _ h => load_error h, fun _ h => bootstrap_ok h, fun _ h => bootstrap_error hk h⟩

/-- An integer override of the OAuth section, with the client id set in the environment, fails
as a type error, which the classification above traces back to the replaced section. -/
theorem replaced_oauth_typeError :
    ({} : Keychain).lock = none ∧
      (bootstrap "/home/u" none [("MAILARCHIVE_MS_CLIENT_ID", "app")] [("oauth", .int 5)] {}
        (some {}) {}).result = .error (Fault.named "TypeError") ∧
      SectionReplaced [("MAILARCHIVE_MS_CLIENT_ID", "app")] [("oauth", .int 5)] := by
  have hres : (bootstrap "/home/u" none [("MAILARCHIVE_MS_CLIENT_ID", "app")] [("oauth", .int 5)]
      {} (some {}) {}).result = .error (Fault.named "TypeError") := rfl
  refine ⟨rfl, hres, ?_⟩
  rcases (settings_outcomes "/home/u" none _ _ {} (k := {}) rfl {}).2.2.2 _ hres with h | h | h | h | h
  · cases h
  · obtain ⟨_, h, -⟩ := h
    cases h
  · exact h.2
  · cases h.2
  · obtain ⟨_, h⟩ := h
    cases h

end MailIngest.Settings
