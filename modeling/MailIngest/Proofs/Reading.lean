import MailIngest.Proofs.Steps
import MailIngest.Sync.Cycle

/-!
# Reading the fetched messages of a mailbox

A sync reads the messages of a batch one after the other, through one markup converter whose
state carries over from message to message, and hands over each record it reads. This module
states what that comes to as a plain function, `readEach`: the records read, the converter
after, and the failure that ended the mailbox under the abort policy, if one did. A message at
or below the mark, or without source, is passed over, and so is one that cannot be read under
the skip policy.

- `read_yields`: a record read from a mailbox at a UID carries that mailbox and that UID.
- `readEach_append`: reading two lists in turn is reading the first, then, unless a failure
  ended the mailbox, the second from the converter the first left.
- `readEach_mono`: reading the start of a list gives the start of what reading it all gives.

What handing over the records does to the engine is `Engine.absorb`: it raises the mailbox's
mark to each UID handed over when that is higher (`raiseMark`), and adds the records to those
handed over.
-/

namespace MailIngest

open Sync

/-- A record read from a mailbox at a UID carries that mailbox and that UID: every step of the
reading but the last only decides whether it goes on. -/
theorem read_yields (now : Time.DateTime) (raw : List UInt8) (path : String) (u : Int) :
    Yields (fun _ => True) (Archive.read now raw path (.ofInt u)) fun m => m.path = path ∧ m.uid = u := by
  unfold Archive.read
  refine Yields.ite (fun _ => Yields.throw_bind _ _) fun _ => ?_
  repeat' refine Yields.bind (Yields.any _) fun _ _ => ?_
  refine Yields.ite (fun _ => Yields.throw_bind _ _) fun _ => ?_
  repeat' refine Yields.bind (Yields.any _) fun _ _ => ?_
  refine Yields.ite (fun _ => ?_) fun _ => ?_
  all_goals
    repeat' refine Yields.bind (Yields.any _) fun _ _ => ?_
    dsimp only [Archive.GivenUid.ofInt]
    refine Yields.ite (fun _ => Yields.throw_bind _ _) fun _ => ?_
    exact Yields.bind (Yields.pure rfl) fun n hn => by subst hn; exact Yields.pure ⟨rfl, rfl⟩

theorem read_ok {now : Time.DateTime} {raw : List UInt8} {path : String} {u : Int} {c c' : Html.Converter}
    {m : Archive.Message} (h : (Archive.read now raw path (.ofInt u)).run.run c = (.ok m, c')) :
    m.path = path ∧ m.uid = u := by
  have := (read_yields now raw path u c trivial).2 m
  rw [h] at this
  exact this rfl

/-! ## Reading in order -/

namespace Sync

/-- What reading fetched messages in order came to. -/
structure Reading where
  /-- The records read, in order. -/
  read : List Archive.Message
  /-- The converter after the reading. -/
  converter : Html.Converter
  /-- The failure of the message that ended the mailbox, if one did. -/
  failure : Option Archive.Failure

/-- A reading, then, unless a failure ended it, another one from the converter it left. -/
def Reading.andThen (r : Reading) (k : Html.Converter → Reading) : Reading :=
  match r.failure with
  | some _ => r
  | none => let r' := k r.converter; ⟨r.read ++ r'.read, r'.converter, r'.failure⟩

/-- Reading fetched messages in order, from a converter, as a cycle does for a mailbox with
the mark `last`. -/
def readEach (policy : Settings.ParsePolicy) (now : Time.DateTime) (path : String) (last : Int) :
    Html.Converter → List Imap.Stored → Reading
  | conv, [] => ⟨[], conv, none⟩
  | conv, m :: rest =>
    if m.uid ≤ last then readEach policy now path last conv rest else
    match sourceOf m with
    | none => readEach policy now path last conv rest
    | some raw =>
      match (Archive.read now raw path (.ofInt m.uid)).run.run conv with
      | (.error f, conv') =>
        if policy = .abortMailbox then ⟨[], conv', some f⟩ else readEach policy now path last conv' rest
      | (.ok msg, conv') =>
        let r := readEach policy now path last conv' rest
        ⟨msg :: r.read, r.converter, r.failure⟩

section ReadEach

variable {policy : Settings.ParsePolicy} {now : Time.DateTime} {path : String} {last : Int}

@[simp] theorem andThen_nil (c : Html.Converter) (k : Html.Converter → Reading) :
    (Reading.mk [] c none).andThen k = k c := rfl

theorem readEach_append (conv : Html.Converter) (xs ys : List Imap.Stored) :
    readEach policy now path last conv (xs ++ ys) =
      (readEach policy now path last conv xs).andThen fun c => readEach policy now path last c ys := by
  induction xs generalizing conv with
  | nil => rfl
  | cons m rest ih =>
    simp only [List.cons_append, readEach]
    split
    · exact ih conv
    · split
      · exact ih conv
      · split
        · split
          · rfl
          · exact ih _
        · rw [ih]
          unfold Reading.andThen
          cases h : (readEach policy now path last _ rest).failure <;> simp [h]

/-- Once a failure ends the mailbox, whatever follows is not read. -/
theorem readEach_append_of_failure {conv : Html.Converter} {xs : List Imap.Stored}
    (h : (readEach policy now path last conv xs).failure.isSome) (ys : List Imap.Stored) :
    readEach policy now path last conv (xs ++ ys) = readEach policy now path last conv xs := by
  rw [readEach_append]
  unfold Reading.andThen
  obtain ⟨f, hf⟩ := Option.isSome_iff_exists.mp h
  simp [hf]

theorem readEach_mono (conv : Html.Converter) {xs ys : List Imap.Stored} (h : xs <+: ys) :
    (readEach policy now path last conv xs).read <+: (readEach policy now path last conv ys).read := by
  obtain ⟨t, rfl⟩ := h
  rw [readEach_append]
  unfold Reading.andThen
  split
  · exact List.prefix_refl _
  · exact List.prefix_append _ _

/-- Every record read comes from the mailbox read, at a UID above the mark. -/
theorem readEach_read (conv : Html.Converter) (ms : List Imap.Stored) :
    ∀ m ∈ (readEach policy now path last conv ms).read, m.path = path ∧ last < m.uid := by
  induction ms generalizing conv with
  | nil => simp [readEach]
  | cons s rest ih =>
    simp only [readEach]
    split
    · exact ih conv
    · split
      · exact ih conv
      · split
        · split
          · simp
          · exact ih _
        · next hs _ msg conv' hread =>
          obtain ⟨hpath, huid⟩ := read_ok hread
          intro m hm
          rcases List.mem_cons.mp hm with rfl | hm
          · exact ⟨hpath, by omega⟩
          · exact ih conv' m hm

end ReadEach

/-! ## Handing over what was read -/

/-- A mailbox's mark raised to a UID handed over from it, when the UID is higher. -/
def raiseMark (marks : List (String × Int)) (path : String) (uid : Int) : List (String × Int) :=
  if uid > (markOf marks path).getD 0 then setKey marks path uid else marks

/-- Reading fetched messages with the engine's policy, clock and converter. -/
def Engine.reading (e : Engine) (path : String) (last : Int) (ms : List Imap.Stored) : Reading :=
  readEach e.options.policy e.now path last e.converter ms

def Engine.handOne (e : Engine) (path : String) (m : Archive.Message) : Engine :=
  { e with marks := raiseMark e.marks path m.uid, handed := e.handed ++ [m] }

/-- The engine after the records read from a mailbox are handed over, with the converter the
reading left. -/
def Engine.absorb (e : Engine) (path : String) (r : Reading) : Engine :=
  { e with converter := r.converter, marks := r.read.foldl (fun ms m => raiseMark ms path m.uid) e.marks,
           handed := e.handed ++ r.read }

section Absorb

variable (e : Engine) (path : String)

@[simp] theorem absorb_options (r : Reading) : (e.absorb path r).options = e.options := rfl

@[simp] theorem absorb_now (r : Reading) : (e.absorb path r).now = e.now := rfl

@[simp] theorem absorb_errors (r : Reading) : (e.absorb path r).errors = e.errors := rfl

@[simp] theorem absorb_status (r : Reading) : (e.absorb path r).status = e.status := rfl

@[simp] theorem absorb_handed (r : Reading) : (e.absorb path r).handed = e.handed ++ r.read := rfl

@[simp] theorem absorb_converter (r : Reading) : (e.absorb path r).converter = r.converter := rfl

theorem absorb_nothing (c : Html.Converter) (f : Option Archive.Failure) :
    e.absorb path ⟨[], c, f⟩ = { e with converter := c } := by
  simp [Engine.absorb]

theorem absorb_reading_nil (last : Int) : e.absorb path (e.reading path last []) = e := by
  simp [Engine.reading, readEach, Engine.absorb]

/-- A record handed over after a reading step is the first of what the rest hands over. -/
theorem handOne_absorb (c : Html.Converter) (m : Archive.Message) (r : Reading) :
    ({ e with converter := c }.handOne path m).absorb path r = e.absorb path ⟨m :: r.read, r.converter, r.failure⟩ := by
  simp [Engine.absorb, Engine.handOne]

theorem absorb_andThen (r : Reading) (k : Html.Converter → Reading) :
    e.absorb path (r.andThen k) = match r.failure with
      | some _ => e.absorb path r
      | none => (e.absorb path r).absorb path (k r.converter) := by
  unfold Reading.andThen
  split <;> simp [Engine.absorb, List.foldl_append]

end Absorb

end Sync

end MailIngest
