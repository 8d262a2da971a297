import MailIngest.Service.World

/-!
# Steps that change a state and may fail

The service, the mail server and the sync cycle are all written as steps of one shape,
`ExceptT ε (StateM σ) α`: run from a state, a step ends in a new state with a result or a
failure, and the changes made before a failure stay. This module gives such steps a small
program logic, so that what a step does can be stated once and used by name:

- `Triple P x Q`: run from a state where `P` holds, `x` ends with a result and a state where
  `Q` holds. Rules follow the shape of the step: `Triple.bind`, `Triple.tryCatch`,
  `Triple.pure`, `Triple.throw`, and one rule for each way of reading and changing the state.
- `Keeps I x`: `x` keeps the invariant `I`, with the rules `Keeps.bind`, `Keeps.tryCatch` and
  so on, for steps whose results do not matter.
- `Yields I x Q`: `x` keeps `I` and every value it returns satisfies `Q`; such facts chain
  with `Yields.bind`.
- `Fails I x F`: `x` keeps `I` and fails only as `F` allows, in the state it fails in.
-/

namespace MailIngest

section Runs

variable {ε σ α β : Type}

/-- A sequence of steps runs the first, then the rest on its result, or stops at its
failure. -/
theorem run_bind (x : ExceptT ε (StateM σ) α) (f : α → ExceptT ε (StateM σ) β) (s : σ) :
    (x >>= f).run.run s = match x.run.run s with
      | (.ok a, s') => (f a).run.run s'
      | (.error e, s') => (.error e, s') := by
  simp only [ExceptT.run_bind, StateT.run_bind]
  rcases x.run.run s with ⟨_ | _, _⟩ <;> rfl

/-- A step run under a handler hands its failure, and the state it failed in, to the
handler. -/
theorem run_tryCatch (x : ExceptT ε (StateM σ) α) (h : ε → ExceptT ε (StateM σ) α) (s : σ) :
    (tryCatch x h).run.run s = match x.run.run s with
      | (.ok a, s') => (.ok a, s')
      | (.error e, s') => (h e).run.run s' := by
  show (ExceptT.tryCatch x h).run.run s = _
  simp only [ExceptT.tryCatch, ExceptT.run_mk, StateT.run_bind]
  simp only [ExceptT.run]
  rcases StateT.run x s with ⟨_ | _, _⟩ <;> rfl

@[simp] theorem run_pure (a : α) (s : σ) : (pure a : ExceptT ε (StateM σ) α).run.run s = (.ok a, s) :=
  rfl

@[simp] theorem run_throw (e : ε) (s : σ) : (throw e : ExceptT ε (StateM σ) α).run.run s = (.error e, s) :=
  rfl

@[simp] theorem run_get (s : σ) : (get : ExceptT ε (StateM σ) σ).run.run s = (.ok s, s) := rfl

@[simp] theorem run_set (s s' : σ) : (set s' : ExceptT ε (StateM σ) PUnit).run.run s = (.ok ⟨⟩, s') :=
  rfl

@[simp] theorem run_modify (f : σ → σ) (s : σ) :
    (modify f : ExceptT ε (StateM σ) PUnit).run.run s = (.ok ⟨⟩, f s) := rfl

@[simp] theorem run_modifyGet (f : σ → α × σ) (s : σ) :
    (modifyGet f : ExceptT ε (StateM σ) α).run.run s = (.ok (f s).1, (f s).2) := rfl

/-- A plain outcome lifted into a step leaves the state as it is. -/
@[simp] theorem run_liftExcept (r : Except ε α) (s : σ) :
    (liftM r : ExceptT ε (StateM σ) α).run.run s = (r, s) := by
  cases r <;> rfl

end Runs

/-! ## Triples -/

/-- Run from a state where `P` holds, `x` ends with a result and a state where `Q` holds. -/
def Triple {ε σ α : Type} (P : σ → Prop) (x : ExceptT ε (StateM σ) α) (Q : Except ε α → σ → Prop) : Prop :=
  ∀ s, P s → Q (x.run.run s).1 (x.run.run s).2

namespace Triple

variable {ε σ α β : Type} {P P' : σ → Prop} {Q Q' : Except ε α → σ → Prop}

theorem conseq {x : ExceptT ε (StateM σ) α} (h : Triple P x Q) (hP : ∀ s, P' s → P s)
    (hQ : ∀ r s, Q r s → Q' r s) : Triple P' x Q' :=
  fun s hs => hQ _ _ (h s (hP s hs))

theorem pure {a : α} (h : ∀ s, P s → Q (.ok a) s) : Triple P (Pure.pure a) Q :=
  fun s hs => h s hs

theorem throw {e : ε} (h : ∀ s, P s → Q (.error e) s) : Triple P (MonadExcept.throw e) Q :=
  fun s hs => h s hs

theorem throw_bind {γ : Type} {e : ε} {g : γ → ExceptT ε (StateM σ) α} (h : ∀ s, P s → Q (.error e) s) :
    Triple P (MonadExcept.throw e >>= g) Q := by
  intro s hs
  rw [run_bind]
  exact h s hs

/-- The rule of sequence: `R` says what holds between the first step and the rest; a failure
of the first step must already satisfy `Q`. -/
theorem bind {x : ExceptT ε (StateM σ) α} {f : α → ExceptT ε (StateM σ) β} {R : Except ε α → σ → Prop}
    {Q : Except ε β → σ → Prop} (hx : Triple P x R) (hf : ∀ a, Triple (R (.ok a)) (f a) Q)
    (he : ∀ e s, R (.error e) s → Q (.error e) s) : Triple P (x >>= f) Q := by
  intro s hs
  have hr := hx s hs
  rw [run_bind]
  rcases hxs : x.run.run s with ⟨a | a, s'⟩ <;> rw [hxs] at hr
  · exact he a s' hr
  · exact hf a s' hr

/-- The rule of a handler: `R` says what holds when the step ends; a result must already satisfy
`Q`, and the handler runs from a failure. -/
theorem tryCatch {x : ExceptT ε (StateM σ) α} {h : ε → ExceptT ε (StateM σ) α} {R : Except ε α → σ → Prop}
    (hx : Triple P x R) (hok : ∀ a s, R (.ok a) s → Q (.ok a) s) (hh : ∀ e, Triple (R (.error e)) (h e) Q) :
    Triple P (MonadExcept.tryCatch x h) Q := by
  intro s hs
  have hr := hx s hs
  rw [run_tryCatch]
  rcases hxs : x.run.run s with ⟨a | a, s'⟩ <;> rw [hxs] at hr
  · exact hh a s' hr
  · exact hok a s' hr

theorem get {Q : Except ε σ → σ → Prop} (h : ∀ s, P s → Q (.ok s) s) :
    Triple P (MonadState.get : ExceptT ε (StateM σ) σ) Q :=
  fun s hs => h s hs

theorem modify {f : σ → σ} {Q : Except ε PUnit → σ → Prop} (h : ∀ s, P s → Q (.ok ⟨⟩) (f s)) :
    Triple P (modify f : ExceptT ε (StateM σ) PUnit) Q :=
  fun s hs => h s hs

theorem modifyGet {f : σ → α × σ} (h : ∀ s, P s → Q (.ok (f s).1) (f s).2) :
    Triple P (modifyGet f : ExceptT ε (StateM σ) α) Q :=
  fun s hs => h s hs

theorem liftExcept {r : Except ε α} (h : ∀ s, P s → Q r s) : Triple P (liftM r : ExceptT ε (StateM σ) α) Q := by
  intro s hs
  cases r <;> exact h s hs

theorem map {x : ExceptT ε (StateM σ) α} {g : α → β} {Q : Except ε β → σ → Prop} (h : Triple P x fun r s => Q (g <$> r) s) :
    Triple P (g <$> x) Q := by
  intro s hs
  have hx := h s hs
  rw [map_eq_pure_bind, run_bind]
  rcases hxs : x.run.run s with ⟨a | a, s'⟩ <;> rw [hxs] at hx <;> exact hx

theorem ofExcept {r : Except ε α} (h : ∀ s, P s → Q r s) :
    Triple P (MonadExcept.ofExcept r : ExceptT ε (StateM σ) α) Q := by
  intro s hs
  cases r <;> exact h s hs

theorem ite {c : Prop} [Decidable c] {x y : ExceptT ε (StateM σ) α} (hx : c → Triple P x Q) (hy : ¬c → Triple P y Q) :
    Triple P (if c then x else y) Q := by
  by_cases h : c
  · rw [if_pos h]; exact hx h
  · rw [if_neg h]; exact hy h

/-- A triple may be proved one start state at a time, with what the precondition says of it in
hand. -/
theorem each {x : ExceptT ε (StateM σ) α} (h : ∀ s, P s → Triple (fun t => t = s) x Q) : Triple P x Q :=
  fun s hs => h s hs s rfl

/-- A step that reads the state goes on from exactly the state it read. -/
theorem get_bind {f : σ → ExceptT ε (StateM σ) β} {Q : Except ε β → σ → Prop}
    (h : ∀ s, P s → Triple (fun s' => s' = s) (f s) Q) : Triple P (MonadState.get >>= f) Q := by
  intro s hs
  rw [run_bind]
  exact h s hs s rfl

/-- A step that reads and changes the state goes on from the state it left, with the value it
read. -/
theorem modifyGet_bind {g : σ → α × σ} {f : α → ExceptT ε (StateM σ) β} {Q : Except ε β → σ → Prop}
    (h : ∀ s, P s → Triple (fun t => t = (g s).2) (f (g s).1) Q) : Triple P (MonadState.modifyGet g >>= f) Q := by
  intro s hs
  rw [run_bind]
  exact h s hs _ rfl

/-- A step that replaces the state goes on from the new one. -/
theorem set_bind {s' : σ} {f : PUnit → ExceptT ε (StateM σ) β} {Q : Except ε β → σ → Prop}
    (h : Triple (fun t => t = s') (f ⟨⟩) Q) : Triple P (MonadStateOf.set s' >>= f) Q := by
  intro s _
  rw [run_bind]
  exact h s' rfl

end Triple

/-! ## Invariants -/

/-- `x` keeps the invariant `I`: run from a state where `I` holds, it ends in one. -/
def Keeps {ε σ α : Type} (I : σ → Prop) (x : ExceptT ε (StateM σ) α) : Prop :=
  Triple I x fun _ => I

namespace Keeps

variable {ε σ α β : Type} {I : σ → Prop}

theorem pure (a : α) : Keeps I (Pure.pure a : ExceptT ε (StateM σ) α) :=
  Triple.pure fun _ hs => hs

theorem throw (e : ε) : Keeps I (MonadExcept.throw e : ExceptT ε (StateM σ) α) :=
  Triple.throw fun _ hs => hs

theorem bind {x : ExceptT ε (StateM σ) α} {f : α → ExceptT ε (StateM σ) β} (hx : Keeps I x)
    (hf : ∀ a, Keeps I (f a)) : Keeps I (x >>= f) :=
  Triple.bind hx hf fun _ _ hs => hs

theorem tryCatch {x : ExceptT ε (StateM σ) α} {h : ε → ExceptT ε (StateM σ) α} (hx : Keeps I x)
    (hh : ∀ e, Keeps I (h e)) : Keeps I (MonadExcept.tryCatch x h) :=
  Triple.tryCatch hx (fun _ _ hs => hs) hh

theorem get : Keeps I (MonadState.get : ExceptT ε (StateM σ) σ) :=
  Triple.get fun _ hs => hs

theorem modify {f : σ → σ} (h : ∀ s, I s → I (f s)) : Keeps I (modify f : ExceptT ε (StateM σ) PUnit) :=
  Triple.modify h

theorem modifyGet {f : σ → α × σ} (h : ∀ s, I s → I (f s).2) :
    Keeps I (modifyGet f : ExceptT ε (StateM σ) α) :=
  Triple.modifyGet h

theorem liftExcept (r : Except ε α) : Keeps I (liftM r : ExceptT ε (StateM σ) α) :=
  Triple.liftExcept fun _ hs => hs

theorem map {x : ExceptT ε (StateM σ) α} (g : α → β) (hx : Keeps I x) : Keeps I (g <$> x) :=
  Triple.map hx

theorem ofExcept (r : Except ε α) : Keeps I (MonadExcept.ofExcept r : ExceptT ε (StateM σ) α) :=
  Triple.ofExcept fun _ hs => hs

theorem ite {c : Prop} [Decidable c] {x y : ExceptT ε (StateM σ) α} (hx : c → Keeps I x) (hy : ¬c → Keeps I y) :
    Keeps I (if c then x else y) := by
  by_cases h : c
  · rw [if_pos h]; exact hx h
  · rw [if_neg h]; exact hy h

/-- An invariant kept by a step holds after it when the step starts from a known state where it
holds. -/
theorem triple {x : ExceptT ε (StateM σ) α} {s : σ} (h : Keeps I x) (hs : I s) : Triple (fun t => t = s) x fun _ => I :=
  fun _ ht => ht ▸ h s hs

/-- The invariant holds in the state any run of the step ends in. -/
theorem of_run {x : ExceptT ε (StateM σ) α} {s s' : σ} {r : Except ε α} (h : Keeps I x) (hs : I s)
    (hr : x.run.run s = (r, s')) : I s' := by
  have hend := h s hs
  rw [hr] at hend
  exact hend

end Keeps

/-! ## Results under an invariant -/

/-- Run from a state where `I` holds, `x` keeps `I`, and every value it returns satisfies `Q`. -/
def Yields {ε σ α : Type} (I : σ → Prop) (x : ExceptT ε (StateM σ) α) (Q : α → Prop) : Prop :=
  Triple I x fun r s => I s ∧ ∀ a, r = .ok a → Q a

namespace Yields

variable {ε σ α β : Type} {I : σ → Prop} {Q : α → Prop}

theorem pure {a : α} (h : Q a) : Yields I (Pure.pure a : ExceptT ε (StateM σ) α) Q :=
  Triple.pure fun _ hs => ⟨hs, fun _ hr => by cases hr; exact h⟩

theorem throw (e : ε) : Yields I (MonadExcept.throw e : ExceptT ε (StateM σ) α) Q :=
  Triple.throw fun _ hs => ⟨hs, fun _ hr => nomatch hr⟩

theorem throw_bind {γ : Type} (e : ε) (g : γ → ExceptT ε (StateM σ) α) :
    Yields I (MonadExcept.throw e >>= g) Q :=
  Triple.bind (R := fun r s => r = .error e ∧ I s) (Triple.throw fun _ hs => ⟨rfl, hs⟩)
    (fun _ _ h => nomatch h.1) fun _ _ h => ⟨h.2, fun _ hr => nomatch hr⟩

theorem of_keeps {x : ExceptT ε (StateM σ) α} (hx : Keeps I x) (hQ : ∀ a, Q a) : Yields I x Q :=
  Triple.conseq hx (fun _ h => h) fun _ _ h => ⟨h, fun a _ => hQ a⟩

theorem bind {x : ExceptT ε (StateM σ) α} {f : α → ExceptT ε (StateM σ) β} {P : α → Prop} {Q : β → Prop}
    (hx : Yields I x P) (hf : ∀ a, P a → Yields I (f a) Q) : Yields I (x >>= f) Q :=
  Triple.bind (R := fun (r : Except ε α) (s : σ) => I s ∧ ∀ a, r = .ok a → P a) hx
    (fun a s h => hf a (h.2 a rfl) s h.1) fun _ _ h => ⟨h.1, fun _ hr => nomatch hr⟩

/-- A step that keeps `I` and yields `P`, then, for each value `P` allows, one that keeps `I`. -/
theorem keeps_bind {x : ExceptT ε (StateM σ) α} {f : α → ExceptT ε (StateM σ) β} {P : α → Prop}
    (hx : Yields I x P) (hf : ∀ a, P a → Keeps I (f a)) : Keeps I (x >>= f) :=
  Triple.bind (R := fun (r : Except ε α) (s : σ) => I s ∧ ∀ a, r = .ok a → P a) hx
    (fun a s h => hf a (h.2 a rfl) s h.1) fun _ _ h => h.1

theorem get {Q : σ → Prop} (h : ∀ s, I s → Q s) : Yields I (MonadState.get : ExceptT ε (StateM σ) σ) Q :=
  Triple.get fun s hs => ⟨hs, fun _ hr => by cases hr; exact h s hs⟩

theorem conseq {x : ExceptT ε (StateM σ) α} {Q' : α → Prop} (hx : Yields I x Q) (hQ : ∀ a, Q a → Q' a) :
    Yields I x Q' :=
  Triple.conseq hx (fun _ h => h) fun _ _ h => ⟨h.1, fun a hr => hQ a (h.2 a hr)⟩

theorem any (x : ExceptT ε (StateM σ) α) : Yields (fun _ => True) x fun _ => True :=
  fun _ _ => ⟨trivial, fun _ _ => trivial⟩

theorem ite {c : Prop} [Decidable c] {x y : ExceptT ε (StateM σ) α} (hx : c → Yields I x Q)
    (hy : ¬c → Yields I y Q) : Yields I (if c then x else y) Q := by
  by_cases h : c
  · rw [if_pos h]; exact hx h
  · rw [if_neg h]; exact hy h

end Yields

/-! ## Failures under an invariant -/

/-- Run from a state where `I` holds, `x` keeps `I`, and every failure it ends with satisfies `F`
in the state it ends in. -/
def Fails {ε σ α : Type} (I : σ → Prop) (x : ExceptT ε (StateM σ) α) (F : ε → σ → Prop) : Prop :=
  Triple I x fun r s => I s ∧ ∀ e, r = .error e → F e s

namespace Fails

variable {ε σ α β : Type} {I : σ → Prop} {F : ε → σ → Prop}

theorem pure (a : α) : Fails I (Pure.pure a : ExceptT ε (StateM σ) α) F :=
  Triple.pure fun _ hs => ⟨hs, fun _ he => (by cases he)⟩

theorem throw {e : ε} (h : ∀ s, I s → F e s) : Fails I (MonadExcept.throw e : ExceptT ε (StateM σ) α) F :=
  Triple.throw fun s hs => ⟨hs, fun _ he => (by cases he; exact h s hs)⟩

theorem bind {x : ExceptT ε (StateM σ) α} {f : α → ExceptT ε (StateM σ) β} (hx : Fails I x F)
    (hf : ∀ a, Fails I (f a) F) : Fails I (x >>= f) F :=
  Triple.bind hx (fun a s h => hf a s h.1) fun e _ h => ⟨h.1, fun _ he => (by cases he; exact h.2 e rfl)⟩

/-- A step that keeps `I` and fails only with `F`, followed by one that ends in `Q`, ends in
`Q`, when `Q` takes every failure `F` allows in a state where `I` holds. -/
theorem bind_triple {x : ExceptT ε (StateM σ) α} {f : α → ExceptT ε (StateM σ) β} {Q : Except ε β → σ → Prop}
    (hx : Fails I x F) (hf : ∀ a, Triple I (f a) Q) (he : ∀ e s, I s → F e s → Q (.error e) s) :
    Triple I (x >>= f) Q :=
  Triple.bind hx (fun a s h => hf a s h.1) fun e s h => he e s h.1 (h.2 e rfl)

theorem map {x : ExceptT ε (StateM σ) α} (g : α → β) (hx : Fails I x F) : Fails I (g <$> x) F :=
  Triple.map (Triple.conseq hx (fun _ h => h) fun r _ h =>
    ⟨h.1, fun e he => h.2 e (by cases r <;> cases he; rfl)⟩)

theorem get : Fails I (MonadState.get : ExceptT ε (StateM σ) σ) F :=
  Triple.get fun _ hs => ⟨hs, fun _ he => (by cases he)⟩

theorem modify {f : σ → σ} (h : ∀ s, I s → I (f s)) : Fails I (modify f : ExceptT ε (StateM σ) PUnit) F :=
  Triple.modify fun s hs => ⟨h s hs, fun _ he => (by cases he)⟩

theorem ite {c : Prop} [Decidable c] {x y : ExceptT ε (StateM σ) α} (hx : c → Fails I x F) (hy : ¬c → Fails I y F) :
    Fails I (if c then x else y) F := by
  by_cases h : c
  · rw [if_pos h]; exact hx h
  · rw [if_neg h]; exact hy h

end Fails

end MailIngest
