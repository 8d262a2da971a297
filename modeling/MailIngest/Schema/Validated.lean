import MailIngest.Error.Fault

/-!
# Validation that reports every issue

A `Validated` value is a result or the list of everything wrong with the input. Combining
independent checks with `<*>` keeps the issues of all of them, in order; `andThen` runs a check
that needs an earlier result and so stops at the first failing stage. `under` files the issues
of a check under a field name.

- `seq_bad_bad` : two failing checks report the issues of both, first the first's;
- `issues_seq` : in general, the issues of combined checks are those of each, in order.
-/

namespace MailIngest.Schema

/-- A checked value, or the issues found. -/
inductive Validated (α : Type) where
  | ok (a : α)
  | bad (issues : List Issue)
deriving Inhabited

namespace Validated

def map {α β : Type} (f : α → β) : Validated α → Validated β
  | ok a => ok (f a)
  | bad is => bad is

/-- Combines a checked function with a checked argument, keeping the issues of both. -/
def seq {α β : Type} : Validated (α → β) → Validated α → Validated β
  | ok f, x => x.map f
  | bad is, ok _ => bad is
  | bad is, bad js => bad (is ++ js)

instance : Functor Validated where
  map := map

instance : Applicative Validated where
  pure := ok
  seq f x := seq f (x ())

/-- Checks every element, keeping the issues of all of them. -/
def traverse {α β : Type} (f : α → Validated β) : List α → Validated (List β)
  | [] => ok []
  | x :: xs => seq ((f x).map List.cons) (traverse f xs)

/-- Runs a check that needs the value; stops at the first failing stage. -/
def andThen {α β : Type} : Validated α → (α → Validated β) → Validated β
  | ok a, k => k a
  | bad is, _ => bad is

def under {α : Type} (name : String) : Validated α → Validated α
  | ok a => ok a
  | bad is => bad (is.map fun i => { i with loc := name :: i.loc })

def fail {α : Type} (rule : String) : Validated α :=
  bad [{ loc := [], rule := rule }]

def failValue {α : Type} (msg : String) : Validated α :=
  bad [{ loc := [], rule := "value_error", msg := some ("Value error, " ++ msg) }]

/-- A checked value as an outcome: issues become a validation failure. -/
def toOutcome {α : Type} : Validated α → Outcome α
  | ok a => .ok a
  | bad is => .error (.invalid is)

def issues {α : Type} : Validated α → List Issue
  | ok _ => []
  | bad is => is

/-- Two failing checks report the issues of both, first the first's. -/
theorem seq_bad_bad {α β : Type} (is js : List Issue) :
    seq (bad is : Validated (α → β)) (bad js) = bad (is ++ js) := rfl

section Issues

variable {α β : Type}

@[simp] theorem issues_map (f : α → β) (x : Validated α) : (f <$> x).issues = x.issues := by
  cases x <;> rfl

/-- Combined checks report the issues of both, first the function's. -/
@[simp] theorem issues_seq (f : Validated (α → β)) (x : Validated α) :
    (f <*> x).issues = f.issues ++ x.issues := by
  cases f <;> cases x <;> simp [issues, Seq.seq, seq, map]

theorem issues_under (name : String) (x : Validated α) :
    (x.under name).issues = x.issues.map fun i => { i with loc := name :: i.loc } := by
  cases x <;> rfl

theorem eq_bad_of_mem {x : Validated α} {i : Issue} (h : i ∈ x.issues) : x = bad x.issues := by
  cases x with
  | ok a => cases h
  | bad is => rfl

end Issues

end Validated

end MailIngest.Schema
