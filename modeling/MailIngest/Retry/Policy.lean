import MailIngest.Number

/-!
# Backoff between attempts

After failed attempt `n` an operation waits `base ^ n` seconds plus a jitter drawn uniformly
from `0` to the largest jitter. The draws come from a `Jitter` source: a cycle of fractions
`u`, each draw being `a + (b - a) * u`.

- `Jitter.draw_next` : each draw moves the cycle on by one.
-/

namespace MailIngest.Retry

/-- A cyclic source of fractions for the uniform draws. -/
structure Jitter where
  fractions : List Number := [.real 0.0]
  drawn : Nat := 0
deriving Inhabited

def Jitter.fraction (j : Jitter) : Number :=
  match j.fractions with
  | [] => .real 0.0
  | fs => fs.getD (j.drawn % fs.length) (.real 0.0)

/-- A uniform draw between `a` and `b`, and the source after it. -/
def Jitter.draw (j : Jitter) (a b : Number) : Outcome (Number × Jitter) := do
  let width ← b.sub a
  let off ← width.mul j.fraction
  let v ← a.add off
  pure (v, { j with drawn := j.drawn + 1 })

/-- How often and how patiently an operation is tried. -/
structure Policy where
  maxAttempts : Int := 5
  backoffBase : Number := .real 2.0
  maxJitter : Number := .real 1.0
deriving Inhabited

/-- The wait after failed attempt `n`, and the jitter source after its draw. -/
def Policy.delayFor (p : Policy) (j : Jitter) (n : Int) : Outcome (Number × Jitter) := do
  let grow ← p.backoffBase.pow (.int n)
  let (jit, j') ← j.draw (.int 0) p.maxJitter
  let d ← grow.add jit
  pure (d, j')

/-- The waits after each of the given attempts, drawing in turn. -/
def Policy.delays (p : Policy) (j : Jitter) : List Int → Outcome (List Number × Jitter)
  | [] => pure ([], j)
  | n :: rest => do
    let (d, j1) ← p.delayFor j n
    let (ds, j2) ← p.delays j1 rest
    pure (d :: ds, j2)

theorem Jitter.draw_next (j : Jitter) (a b : Number) (v : Number) (j' : Jitter)
    (h : j.draw a b = .ok (v, j')) : j'.drawn = j.drawn + 1 := by
  simp only [Jitter.draw, bind, Except.bind] at h
  split at h
  · simp at h
  · split at h
    · simp at h
    · split at h
      · simp at h
      · simp only [pure, Except.pure, Except.ok.injEq, Prod.mk.injEq] at h
        rw [← h.2]

end MailIngest.Retry
