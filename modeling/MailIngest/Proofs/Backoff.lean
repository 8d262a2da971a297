import MailIngest.Retry.Policy
import Mathlib.Algebra.Order.Field.Rat
import Mathlib.Tactic.FieldSimp
import Mathlib.Tactic.Linarith
import Mathlib.Tactic.Positivity
import Mathlib.Tactic.Ring

/-!
# Whether the waits of a backoff rise

After failed attempt `n` an operation waits `base ^ n` plus a jitter drawn uniformly between `0`
and the largest jitter, `0 + (jitter - 0) * u` for a fraction `u` in `[0, 1)`. The formula is
written once over an arithmetic (`Arith.delay`): the program reckons it in integers and floats
(`delayFor_eq`), and here it is read in exact rationals, where it is `base ^ n + jitter * u`
(`exactArith_delay`).

Whether the waits rise for every draw depends on how the growth of the power compares with the
spread of the jitter:

- `gap_rises_iff` : the wait after attempt `n + 1` exceeds the wait after attempt `n`, whatever
  the two draws, exactly when `1 < base` and `jitter ≤ base ^ n * (base - 1)`;
- `rising_iff` : the waits after attempts `1, …, m - 1` rise whatever the draws exactly when
  there are fewer than two of them, or `1 < base` and `jitter ≤ base * (base - 1)`; the default
  policy, base `2` and jitter `1`, is such (`defaultBackoff_rises`);
- `flatBase_not_rising` : not every policy that settings accept is: a base of `1` without
  jitter waits `1` after every attempt.
-/

namespace MailIngest.Retry

/-- An arithmetic to reckon backoff delays in: the integers among its numbers, and sums,
differences, products and integer powers, each of which may fail. -/
structure Arith (α : Type) where
  ofInt : Int → α
  add : α → α → Outcome α
  sub : α → α → Outcome α
  mul : α → α → Outcome α
  pow : α → Int → Outcome α

variable {α : Type}

/-- The draw between `a` and `b` at the fraction `u`: `a + (b - a) * u`. -/
def Arith.uniform (A : Arith α) (a b u : α) : Outcome α := do
  let width ← A.sub b a
  let off ← A.mul width u
  A.add a off

/-- The wait after failed attempt `n`: `base ^ n` plus the draw between `0` and `jitter` at the
fraction `u`. -/
def Arith.delay (A : Arith α) (base jitter u : α) (n : Int) : Outcome α := do
  let grow ← A.pow base n
  let jit ← A.uniform (A.ofInt 0) jitter u
  A.add grow jit

def numberArith : Arith Number where
  ofInt := .int
  add := Number.add
  sub := Number.sub
  mul := Number.mul
  pow a n := a.pow (.int n)

def exactArith : Arith ℚ where
  ofInt n := n
  add a b := .ok (a + b)
  sub a b := .ok (a - b)
  mul a b := .ok (a * b)
  pow a n := .ok (a ^ n)

/-- A draw reckons the uniform draw at the source's next fraction and moves the source on. -/
theorem Jitter.draw_eq (j : Jitter) (a b : Number) :
    j.draw a b = (fun v => (v, { j with drawn := j.drawn + 1 })) <$>
      numberArith.uniform a b j.fraction := by
  simp only [Jitter.draw, Arith.uniform, numberArith, map_bind, bind_pure_comp]

/-- The program's wait after failed attempt `n` is the backoff formula reckoned in integers and
floats, at the jitter source's next fraction. -/
theorem Policy.delayFor_eq (p : Policy) (j : Jitter) (n : Int) :
    p.delayFor j n = (fun d => (d, { j with drawn := j.drawn + 1 })) <$>
      numberArith.delay p.backoffBase p.maxJitter j.fraction n := by
  simp only [Policy.delayFor, Jitter.draw_eq, Arith.delay, bind_map_left, map_bind]
  rfl

/-- The wait after attempt `n`, reckoned exactly: `base ^ n + jitter * u`. -/
def exactDelay (b J u : ℚ) (n : ℕ) : ℚ := b ^ n + J * u

/-- In exact rationals the backoff formula never fails. -/
@[simp] theorem exactArith_delay (b J u : ℚ) (n : ℕ) :
    exactArith.delay b J u n = .ok (exactDelay b J u n) := by
  simp only [Arith.delay, Arith.uniform, exactArith, exactDelay, zpow_natCast, Int.cast_zero,
    sub_zero, zero_add]
  rfl

section Exact

variable {b J : ℚ}

/-- A jitter below every growth it is scaled below: if `J * u < g` for each fraction `u` in
`[0, 1)`, then `J ≤ g`. -/
theorem le_of_scaled_lt {g : ℚ} (hg : 0 ≤ g) (h : ∀ u : ℚ, 0 ≤ u → u < 1 → J * u < g) :
    J ≤ g := by
  refine le_of_not_gt fun hlt => ?_
  have hJ : 0 < J := hg.trans_lt hlt
  -- the fraction halfway between `g / J` and `1` scales the jitter beyond `g`
  have hu0 : 0 ≤ (g / J + 1) / 2 := by positivity
  have hu1 : (g / J + 1) / 2 < 1 := by
    have : g / J < 1 := (div_lt_one hJ).mpr hlt
    linarith
  have hscaled : J * ((g / J + 1) / 2) = (g + J) / 2 := by
    field_simp
  have := h _ hu0 hu1
  linarith

/-- One gap: the wait after attempt `n + 1` exceeds the wait after attempt `n` whatever the two
draws, exactly when the base grows and the growth `b ^ n * (b - 1)` covers the jitter. -/
theorem gap_rises_iff (hb : 1 ≤ b) (hJ : 0 ≤ J) (n : ℕ) :
    (∀ u v : ℚ, 0 ≤ u → u < 1 → 0 ≤ v → v < 1 → exactDelay b J u n < exactDelay b J v (n + 1)) ↔
      1 < b ∧ J ≤ b ^ n * (b - 1) := by
  have hpow : 0 < b ^ n := by positivity
  have hsucc : b ^ (n + 1) = b ^ n + b ^ n * (b - 1) := by ring
  simp only [exactDelay, hsucc]
  constructor
  · intro h
    have hgrow : 1 < b := by
      have h00 := h 0 0 le_rfl one_pos le_rfl one_pos
      by_contra hle
      nlinarith [not_lt.mp hle]
    refine ⟨hgrow, le_of_scaled_lt (by nlinarith) fun u hu0 hu1 => ?_⟩
    have := h u 0 hu0 hu1 le_rfl one_pos
    linarith
  · rintro ⟨hgrow, hcover⟩ u v hu0 hu1 hv0 _
    have hgap : 0 < b ^ n * (b - 1) := mul_pos hpow (by linarith)
    nlinarith [mul_pos hgap (sub_pos.mpr hu1), mul_nonneg hu0 (sub_nonneg.mpr hcover),
      mul_nonneg hJ hv0]

/-- The waits after attempts `1, …, m - 1`, the backoff formula reckoned in exact rationals,
rise whatever fractions in `[0, 1)` are drawn for them. -/
def AlwaysRising (b J : ℚ) (m : ℕ) : Prop :=
  ∀ u : ℕ → ℚ, (∀ k, 0 ≤ u k ∧ u k < 1) → ∀ n : ℕ, 1 ≤ n → n + 1 < m →
    ∃ d d', exactArith.delay b J (u n) n = .ok d ∧
      exactArith.delay b J (u (n + 1)) ((n + 1 : ℕ) : Int) = .ok d' ∧ d < d'

/-- Two waits reckoned exactly are both given, and compare as their closed forms do. -/
theorem exact_rises_iff (u v : ℚ) (n k : ℕ) :
    (∃ d d', exactArith.delay b J u n = .ok d ∧ exactArith.delay b J v k = .ok d' ∧ d < d') ↔
      exactDelay b J u n < exactDelay b J v k := by
  simp [exactArith_delay]

/-- The waits of a backoff rise whatever the draws exactly when there are fewer than two of them,
or the base grows and its first growth `b * (b - 1)` covers the jitter; every later gap then
grows more. -/
theorem rising_iff (hb : 1 ≤ b) (hJ : 0 ≤ J) (m : ℕ) :
    AlwaysRising b J m ↔ m ≤ 2 ∨ 1 < b ∧ J ≤ b * (b - 1) := by
  simp only [AlwaysRising, exact_rises_iff]
  constructor
  · intro h
    by_cases hm : m ≤ 2
    · exact .inl hm
    have hfirst := (gap_rises_iff hb hJ 1).mp fun u v hu0 hu1 hv0 hv1 => by
      have hdraws : ∀ k, 0 ≤ (if k = 1 then u else v) ∧ (if k = 1 then u else v) < 1 := by
        intro k
        split
        · exact ⟨hu0, hu1⟩
        · exact ⟨hv0, hv1⟩
      simpa using h (fun k => if k = 1 then u else v) hdraws 1 le_rfl (by omega)
    exact .inr (by simpa using hfirst)
  · rintro (hm | ⟨hgrow, hcover⟩) u hu n hn hnm
    · omega
    · have hmono : b * (b - 1) ≤ b ^ n * (b - 1) :=
        mul_le_mul_of_nonneg_right (le_self_pow₀ hb (by omega)) (by linarith)
      exact (gap_rises_iff hb hJ n).mpr ⟨hgrow, hcover.trans hmono⟩ _ _ (hu n).1 (hu n).2
        (hu (n + 1)).1 (hu (n + 1)).2

/-- The default policy, base `2` and jitter `1`, waits longer after each of its attempts. -/
theorem defaultBackoff_rises : AlwaysRising 2 1 5 :=
  (rising_iff (by norm_num) (by norm_num) 5).mpr (.inr ⟨by norm_num, by norm_num⟩)

/-- Settings accept every base from `1` to `10`, jitter from `0` to `10` and number of attempts
from `1` to `10`, and not all of them give rising waits: with base `1` and no jitter, the waits
after the first two of three attempts are both `1`. -/
theorem flatBase_not_rising :
    ¬ ∀ b J : ℚ, ∀ m : ℕ, 1 ≤ b → b ≤ 10 → 0 ≤ J → J ≤ 10 → 1 ≤ m → m ≤ 10 →
      AlwaysRising b J m := by
  intro h
  have hflat := h 1 0 3 le_rfl (by norm_num) le_rfl (by norm_num) (by norm_num) (by norm_num)
    (fun _ => 0) (fun _ => ⟨le_rfl, one_pos⟩) 1 le_rfl (by norm_num)
  rw [exact_rises_iff] at hflat
  simp [exactDelay] at hflat

end Exact

end MailIngest.Retry
