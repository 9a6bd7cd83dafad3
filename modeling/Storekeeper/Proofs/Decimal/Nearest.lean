import Mathlib.Algebra.Order.Field.Basic
import Mathlib.Algebra.Order.Ring.Rat
import Mathlib.Algebra.Field.Rat
import Mathlib.Data.Nat.Cast.Order.Field
import Mathlib.Tactic.Linarith
import Mathlib.Tactic.Positivity
import Mathlib.Tactic.Ring
import Storekeeper.Proofs.Decimal.Rounding

/-!
# The nearest number

A quotient is rounded to the number that is nearest to it, and of two that are equally near to the one with
the even significand.

* `abs_roundDiv_sub_le`, `even_roundDiv`: so it is for the integers.
* `Binary64.roundUnits_nearest`: so it is for numbers of units.  A number of units that is not on the grid
  around the quotient lies below all that counts (`lt_of_offGrid`).
* `Binary64.even_of_tie`: if another is equally near, the significand is even; two neighbours cannot both have
  an even one (`not_even_of_adjacent`).
* `Binary64.roundUnits_ratio_lt_bound_iff`, `Binary64.roundUnits_ratio_pos_iff`: which quotients are not rounded
  to infinity, and which are not rounded to zero.
* `Binary64.IsNearest`: the number nearest to a rational number; `isNearest_ofRatio` says that it is the one that
  is found, and `IsNearest.unique` that there is no other.
-/

namespace Storekeeper.Decimal

/-! ## Quotients -/

section Quotient

variable {n d : Nat}

/-- A quotient is rounded by at most one half, and by one half only to an even number. -/
theorem roundDiv_near (n : Nat) (positive : 0 < d) :
    2 * n ≤ 2 * (roundDiv n d * d) + d ∧ 2 * (roundDiv n d * d) ≤ 2 * n + d ∧
      (2 * n = 2 * (roundDiv n d * d) + d ∨ 2 * (roundDiv n d * d) = 2 * n + d →
        roundDiv n d % 2 = 0) := by
  have parts : n / d * d + n % d = n := Nat.div_add_mod' n d
  have small : n % d < d := Nat.mod_lt n positive
  have step : (n / d + 1) * d = n / d * d + d := Nat.succ_mul ..
  unfold roundDiv
  dsimp only
  split
  · omega
  · split
    · omega
    · split <;> omega

theorem abs_roundDiv_sub_le (n : Nat) (positive : 0 < d) : |(roundDiv n d : ℚ) - n / d| ≤ 1 / 2 := by
  have size : (0 : ℚ) < d := by exact_mod_cast positive
  obtain ⟨below, above, -⟩ := roundDiv_near n positive
  have below : (2 * n : ℚ) ≤ 2 * (roundDiv n d * d) + d := by exact_mod_cast below
  have above : (2 * (roundDiv n d * d) : ℚ) ≤ 2 * n + d := by exact_mod_cast above
  have upper : (n / d : ℚ) ≤ roundDiv n d + 1 / 2 := by
    rw [div_le_iff₀ size]
    linarith
  have lower : (roundDiv n d - 1 / 2 : ℚ) ≤ n / d := by
    rw [le_div_iff₀ size]
    linarith
  rw [abs_le]
  constructor <;> linarith

/-- A quotient halfway between two integers is rounded to the even one. -/
theorem even_roundDiv (positive : 0 < d) (half : |(roundDiv n d : ℚ) - n / d| = 1 / 2) :
    Even (roundDiv n d) := by
  have size : (d : ℚ) ≠ 0 := by exact_mod_cast Nat.ne_of_gt positive
  have scaled : (n / d : ℚ) * d = n := div_mul_cancel₀ _ size
  obtain ⟨-, -, tie⟩ := roundDiv_near n positive
  rw [Nat.even_iff]
  apply tie
  rcases (abs_eq (by positivity)).mp half with above | below
  · right
    have quotient : (n / d : ℚ) = roundDiv n d - 1 / 2 := by linarith
    rw [quotient] at scaled
    have product : (2 * (roundDiv n d * d) : ℚ) = 2 * n + d := by linarith
    exact_mod_cast product
  · left
    have quotient : (n / d : ℚ) = roundDiv n d + 1 / 2 := by linarith
    rw [quotient] at scaled
    have product : (2 * n : ℚ) = 2 * (roundDiv n d * d) + d := by linarith
    exact_mod_cast product

end Quotient

namespace Binary64

/-! ## Numbers of units -/

/-- The distance between neighbours on the grid around a number of units. -/
def gap (units : Nat) : Nat :=
  2 ^ spacing units

/-- How many times its distance from its neighbours a number of units is. -/
def significand (units : Nat) : Nat :=
  units / gap units

/-- How many steps of the grid around it a quotient is rounded to. -/
def steps (n d : Nat) : Nat :=
  roundDiv n (d * gap (n / d))

theorem gap_pos (units : Nat) : 0 < gap units :=
  Nat.two_pow_pos _

section Units

variable {n d other : Nat}

theorem roundUnits_eq_steps (n d : Nat) : roundUnits n d = steps n d * gap (n / d) :=
  rfl

theorem gap_dvd_roundUnits (n d : Nat) : gap (n / d) ∣ roundUnits n d :=
  Dvd.intro_left _ rfl

theorem steps_le (n d : Nat) : steps n d ≤ 2 ^ 53 := by
  have above := roundDiv_le n (d * gap (n / d))
  have digits := div_two_pow_spacing_lt (n / d)
  rw [← Nat.div_div_eq_div_mul] at above
  exact Nat.le_trans above digits

theorem roundUnits_sub (n d : Nat) :
    (roundUnits n d : ℚ) - n / d = (steps n d - n / (d * gap (n / d) : Nat)) * gap (n / d) := by
  have step : (gap (n / d) : ℚ) ≠ 0 := by exact_mod_cast (gap_pos (n / d)).ne'
  rw [roundUnits_eq_steps]
  push_cast
  rw [sub_mul, ← div_div, div_mul_cancel₀ _ step]

theorem abs_roundUnits_sub (n d : Nat) :
    |(roundUnits n d : ℚ) - n / d| =
      |(steps n d : ℚ) - n / (d * gap (n / d) : Nat)| * gap (n / d) := by
  rw [roundUnits_sub, abs_mul, Nat.abs_cast]

theorem abs_roundUnits_sub_le (n : Nat) (positive : 0 < d) :
    |(roundUnits n d : ℚ) - n / d| ≤ gap (n / d) / 2 := by
  have near := abs_roundDiv_sub_le n (Nat.mul_pos positive (gap_pos (n / d)))
  have step : (0 : ℚ) ≤ gap (n / d) := Nat.cast_nonneg _
  rw [abs_roundUnits_sub]
  calc |(steps n d : ℚ) - n / (d * gap (n / d) : Nat)| * gap (n / d)
      ≤ 1 / 2 * gap (n / d) := mul_le_mul_of_nonneg_right near step
    _ = gap (n / d) / 2 := by ring

theorem even_steps (positive : 0 < d) (half : |(roundUnits n d : ℚ) - n / d| = gap (n / d) / 2) :
    Even (steps n d) := by
  have step : (gap (n / d) : ℚ) ≠ 0 := by exact_mod_cast (gap_pos (n / d)).ne'
  refine even_roundDiv (Nat.mul_pos positive (gap_pos (n / d))) (mul_right_cancel₀ step ?_)
  rw [← steps, ← abs_roundUnits_sub, half]
  ring

/-! ## The nearest number of units -/

/-- Two points of one grid are at least one step apart. -/
theorem gap_le_abs_sub {step first second : Nat} (one : step ∣ first) (two : step ∣ second)
    (differ : first ≠ second) : (step : ℚ) ≤ |(first : ℚ) - second| := by
  have apart : (first : Int) - second ≠ 0 := sub_ne_zero.mpr (by exact_mod_cast differ)
  have divides : (step : Int) ∣ first - second :=
    dvd_sub (Int.natCast_dvd_natCast.mpr one) (Int.natCast_dvd_natCast.mpr two)
  have least : (step : Int) ≤ |(first : Int) - second| :=
    Int.le_of_dvd (abs_pos.mpr apart) ((dvd_abs _ _).mpr divides)
  exact_mod_cast least

/-- Two points of the grid around a quotient cannot both be nearer to it than half a step. -/
theorem gap_le_of_dvd (onGrid : gap (n / d) ∣ other) (differ : other ≠ roundUnits n d) :
    (gap (n / d) : ℚ) ≤ |(other : ℚ) - n / d| + |(roundUnits n d : ℚ) - n / d| := by
  calc (gap (n / d) : ℚ)
      ≤ |(other : ℚ) - roundUnits n d| := gap_le_abs_sub onGrid (gap_dvd_roundUnits n d) differ
    _ ≤ |(other : ℚ) - n / d| + |(n / d : ℚ) - roundUnits n d| := abs_sub_le ..
    _ = |(other : ℚ) - n / d| + |(roundUnits n d : ℚ) - n / d| := by
        rw [abs_sub_comm (n / d : ℚ)]

/-- On the grid around the quotient nothing is nearer. -/
theorem abs_roundUnits_sub_le_of_dvd (positive : 0 < d) (onGrid : gap (n / d) ∣ other) :
    |(roundUnits n d : ℚ) - n / d| ≤ |(other : ℚ) - n / d| := by
  rcases eq_or_ne other (roundUnits n d) with rfl | differ
  · exact le_rfl
  · have apart := gap_le_of_dvd onGrid differ
    have near := abs_roundUnits_sub_le n positive
    linarith

/-- What lies on its own grid but not on the grid around the quotient is below a number that does. -/
theorem lt_of_offGrid (own : gap other ∣ other) (offGrid : ¬gap (n / d) ∣ other) :
    other < 2 ^ 52 * gap (n / d) ∧ 2 ^ 52 * gap (n / d) ≤ n / d := by
  have finer : spacing other < spacing (n / d) := by
    by_contra coarse
    exact offGrid (Nat.dvd_trans (Nat.pow_dvd_pow 2 (Nat.not_lt.mp coarse)) own)
  unfold gap
  rw [← Nat.pow_add]
  unfold spacing at finer ⊢
  constructor
  · exact Nat.lt_of_lt_of_le Nat.lt_log2_self (Nat.pow_le_pow_right (by decide) (by omega))
  · have something : n / d ≠ 0 := by
      intro nothing
      rw [nothing] at finer
      exact absurd finer (Nat.not_lt_zero _)
    exact Nat.le_trans (Nat.pow_le_pow_right (by decide) (by omega)) (Nat.log2_self_le something)

theorem abs_roundUnits_sub_lt (positive : 0 < d) (own : gap other ∣ other)
    (offGrid : ¬gap (n / d) ∣ other) :
    |(roundUnits n d : ℚ) - n / d| < |(other : ℚ) - n / d| := by
  obtain ⟨below, above⟩ := lt_of_offGrid own offGrid
  have near := abs_roundUnits_sub_le_of_dvd positive (Dvd.intro_left (2 ^ 52) rfl : gap (n / d) ∣ _)
  have below : (other : ℚ) < (2 ^ 52 * gap (n / d) : Nat) := by exact_mod_cast below
  have above : ((2 ^ 52 * gap (n / d) : Nat) : ℚ) ≤ n / d :=
    le_trans (by exact_mod_cast above) Nat.cast_div_le
  rw [abs_of_nonpos (by linarith : ((2 ^ 52 * gap (n / d) : Nat) : ℚ) - n / d ≤ 0)] at near
  rw [abs_of_nonpos (by linarith : (other : ℚ) - n / d ≤ 0)]
  linarith

/-- No number that lies on its own grid is nearer to a quotient than the one it is rounded to. -/
theorem roundUnits_nearest (positive : 0 < d) (own : gap other ∣ other) :
    |(roundUnits n d : ℚ) - n / d| ≤ |(other : ℚ) - n / d| := by
  by_cases onGrid : gap (n / d) ∣ other
  · exact abs_roundUnits_sub_le_of_dvd positive onGrid
  · exact (abs_roundUnits_sub_lt positive own onGrid).le

/-! ## Significands -/

theorem significand_mul {m : Nat} (small : m < 2 ^ 53) (e : Nat) :
    significand (m * 2 ^ e) = m * 2 ^ (e - spacing (m * 2 ^ e)) := by
  have finer := spacing_le small e
  have split : m * 2 ^ e =
      m * 2 ^ (e - spacing (m * 2 ^ e)) * 2 ^ spacing (m * 2 ^ e) := by
    rw [Nat.mul_assoc, ← Nat.pow_add, Nat.sub_add_cancel finer]
  exact Nat.div_eq_of_eq_mul_left (gap_pos _) split

theorem even_significand_mul {m : Nat} (even : Even m) (small : m ≤ 2 ^ 53) (e : Nat) :
    Even (significand (m * 2 ^ e)) := by
  rcases Nat.lt_or_eq_of_le small with less | rfl
  · rw [significand_mul less]
    exact even.mul_right _
  · -- the next power of two has the significand `2 ^ 52`
    have split : 2 ^ 53 * 2 ^ e = 2 ^ 52 * 2 ^ (e + 1) := by
      rw [← Nat.pow_add, ← Nat.pow_add, Nat.add_comm e 1, ← Nat.add_assoc]
    rw [split, significand_mul (by decide)]
    exact (by decide : Even (2 ^ 52)).mul_right _

/-- Of two numbers that are equally near the one that a quotient is rounded to is even. -/
theorem even_of_tie (positive : 0 < d) (own : gap other ∣ other) (differ : other ≠ roundUnits n d)
    (tie : |(other : ℚ) - n / d| = |(roundUnits n d : ℚ) - n / d|) :
    Even (significand (roundUnits n d)) := by
  have onGrid : gap (n / d) ∣ other := by
    by_contra offGrid
    exact absurd tie (abs_roundUnits_sub_lt positive own offGrid).ne'
  have apart := gap_le_of_dvd onGrid differ
  have near := abs_roundUnits_sub_le n positive
  rw [tie] at apart
  have half : |(roundUnits n d : ℚ) - n / d| = gap (n / d) / 2 := by linarith
  exact even_significand_mul (even_steps positive half) (steps_le n d) _

/-- Of two numbers on their grids with none between them one is odd. -/
theorem not_even_of_adjacent {low high : Nat} (own : gap low ∣ low) (ownHigh : gap high ∣ high)
    (less : low < high) (none : ∀ between, gap between ∣ between → low < between → high ≤ between)
    (even : Even (significand low)) : ¬Even (significand high) := by
  have step : 0 < gap low := gap_pos low
  have parts : low = significand low * gap low := (Nat.div_mul_cancel own).symm
  have digits : significand low < 2 ^ 53 := div_two_pow_spacing_lt low
  have next : low + gap low = (significand low + 1) * gap low := by
    rw [Nat.add_mul, Nat.one_mul, ← parts]
  -- the next number on the grid is one step away
  have same : high = (significand low + 1) * 2 ^ spacing low := by
    have coarse : gap low ∣ high := Nat.dvd_trans (Nat.pow_dvd_pow 2 (spacing_mono less.le)) ownHigh
    have least : gap low ≤ high - low := Nat.le_of_dvd (by omega) (Nat.dvd_sub coarse own)
    have most : high ≤ low + gap low := by
      refine none _ ?_ (Nat.lt_add_of_pos_right step)
      rw [next]
      exact spacing_dvd digits _
    have exactly : high = low + gap low := by omega
    exact exactly.trans next
  have odd : ¬Even (significand low + 1) := Nat.not_even_iff_odd.mpr even.add_one
  have small : significand low + 1 < 2 ^ 53 := by
    refine Nat.lt_of_le_of_ne digits fun carried => odd ?_
    rw [carried]
    decide
  have size : spacing high = spacing low := by
    refine Nat.le_antisymm ?_ (spacing_mono less.le)
    rw [same]
    exact spacing_le small _
  rw [same, significand_mul small, ← same, size, Nat.sub_self, Nat.pow_zero, Nat.mul_one]
  exact odd

/-! ## The ends of the range -/

/-- What is more than half a unit is not rounded to zero. -/
theorem roundUnits_pos_iff (positive : 0 < d) : 0 < roundUnits n d ↔ d < 2 * n := by
  rcases Nat.lt_or_ge n d with small | large
  · have low : n / d = 0 := Nat.div_eq_of_lt small
    have unit : roundUnits n d = roundDiv n d := by
      rw [roundUnits_eq, low]
      change roundDiv n (d * 1) * 1 = _
      rw [Nat.mul_one, Nat.mul_one]
    rw [unit, Nat.pos_iff_ne_zero, Ne, roundDiv_eq_zero_iff n positive, Nat.not_le]
  · have rounded := roundUnits_pos positive large
    omega

theorem le_spacing {units e : Nat} (large : 2 ^ (52 + e) ≤ units) : e ≤ spacing units := by
  have something : units ≠ 0 := (Nat.lt_of_lt_of_le (Nat.two_pow_pos _) large).ne'
  have size : 52 + e ≤ Nat.log2 units := (Nat.le_log2 something).mpr large
  unfold spacing
  omega

theorem spacing_mul {m : Nat} (large : 2 ^ 52 ≤ m) (small : m < 2 ^ 53) (e : Nat) :
    spacing (m * 2 ^ e) = e := by
  refine Nat.le_antisymm (spacing_le small e) (le_spacing ?_)
  rw [Nat.pow_add]
  exact Nat.mul_le_mul_right _ large

/-- The last number before a power of two. -/
def lastBefore (e : Nat) : Nat :=
  (2 ^ 53 - 1) * 2 ^ e

theorem gap_dvd_lastBefore (e : Nat) : gap (lastBefore e) ∣ lastBefore e :=
  spacing_dvd (by decide) e

theorem significand_lastBefore (e : Nat) : significand (lastBefore e) = 2 ^ 53 - 1 := by
  unfold lastBefore
  rw [significand_mul (by decide), spacing_mul (by decide) (by decide), Nat.sub_self, Nat.pow_zero,
    Nat.mul_one]

/-- Below a power of two there is no number on its own grid beyond the last one. -/
theorem le_lastBefore {e : Nat} (own : gap other ∣ other) (small : other < 2 ^ 53 * 2 ^ e) :
    other ≤ lastBefore e := by
  unfold lastBefore
  by_contra beyond
  have large : 2 ^ (52 + e) ≤ other := by
    rw [Nat.pow_add]
    exact Nat.le_trans (Nat.mul_le_mul_right _ (by decide)) (Nat.not_le.mp beyond).le
  obtain ⟨k, rfl⟩ := Nat.dvd_trans (Nat.pow_dvd_pow 2 (le_spacing large)) own
  rw [Nat.mul_comm] at small beyond
  have most : k < 2 ^ 53 := Nat.lt_of_mul_lt_mul_right small
  exact beyond (Nat.mul_le_mul_right _ (Nat.le_sub_one_of_lt most))

/-- A power of two, and the last number before it, as they lie around the middle between them. -/
theorem cast_power (e : Nat) : ((2 ^ 53 * 2 ^ (e + 1) : Nat) : ℚ) = (2 ^ 54 - 1) * 2 ^ e + 2 ^ e := by
  push_cast
  ring

theorem cast_lastBefore (e : Nat) : (lastBefore (e + 1) : ℚ) = (2 ^ 54 - 1) * 2 ^ e - 2 ^ e := by
  unfold lastBefore
  push_cast
  ring

/-- Below the middle between a power of two and the last number before it, a quotient is rounded to less
than the power. -/
theorem roundUnits_lt_of_lt_middle (positive : 0 < d) {e : Nat}
    (small : (n / d : ℚ) < (2 ^ 54 - 1) * 2 ^ e) : roundUnits n d < 2 ^ 53 * 2 ^ (e + 1) := by
  by_contra large
  have half : (0 : ℚ) < 2 ^ e := by positivity
  have near := roundUnits_nearest (n := n) positive (gap_dvd_lastBefore (e + 1))
  have above : (2 ^ 54 - 1) * 2 ^ e + 2 ^ e ≤ (roundUnits n d : ℚ) := by
    rw [← cast_power]
    exact_mod_cast Nat.not_lt.mp large
  rw [abs_of_nonneg (by linarith : (0 : ℚ) ≤ roundUnits n d - n / d), cast_lastBefore] at near
  rcases le_total (n / d : ℚ) ((2 ^ 54 - 1) * 2 ^ e - 2 ^ e) with before | after
  · rw [abs_of_nonneg (by linarith)] at near
    linarith
  · rw [abs_of_nonpos (by linarith)] at near
    linarith

/-- From the middle on it can only be rounded to less where it is the middle itself, to the last number. -/
theorem middle_of_roundUnits_lt (positive : 0 < d) {e : Nat} (large : (2 ^ 54 - 1) * 2 ^ e ≤ (n / d : ℚ))
    (small : roundUnits n d < 2 ^ 53 * 2 ^ (e + 1)) :
    (n / d : ℚ) = (2 ^ 54 - 1) * 2 ^ e ∧ roundUnits n d = lastBefore (e + 1) := by
  have half : (0 : ℚ) < 2 ^ e := by positivity
  have near := roundUnits_nearest (n := n) positive
    (spacing_dvd le_rfl (e + 1) : gap (2 ^ 53 * 2 ^ (e + 1)) ∣ 2 ^ 53 * 2 ^ (e + 1))
  have below : (roundUnits n d : ℚ) ≤ (2 ^ 54 - 1) * 2 ^ e - 2 ^ e := by
    rw [← cast_lastBefore]
    exact_mod_cast le_lastBefore (spacing_dvd_roundUnits n d) small
  rw [abs_of_nonpos (by linarith : (roundUnits n d : ℚ) - n / d ≤ 0), cast_power] at near
  have middle : (n / d : ℚ) = (2 ^ 54 - 1) * 2 ^ e := by
    rcases le_total (n / d : ℚ) ((2 ^ 54 - 1) * 2 ^ e + 2 ^ e) with before | after
    · rw [abs_of_nonneg (by linarith)] at near
      linarith
    · rw [abs_of_nonpos (by linarith)] at near
      linarith
  refine ⟨middle, ?_⟩
  rw [middle, abs_of_nonneg (by linarith)] at near
  have last : (roundUnits n d : ℚ) = lastBefore (e + 1) := by
    rw [cast_lastBefore]
    linarith
  exact_mod_cast last

/-- A quotient is rounded to less than a power of two if it is below the middle between that power and
the last number before it; the middle itself is rounded to the power, whose significand is even. -/
theorem roundUnits_lt_two_pow_iff (positive : 0 < d) (e : Nat) :
    roundUnits n d < 2 ^ 53 * 2 ^ (e + 1) ↔ (n / d : ℚ) < (2 ^ 54 - 1) * 2 ^ e := by
  refine ⟨fun small => ?_, roundUnits_lt_of_lt_middle positive⟩
  by_contra large
  obtain ⟨middle, last⟩ := middle_of_roundUnits_lt positive (not_lt.mp large) small
  have tie : |((2 ^ 53 * 2 ^ (e + 1) : Nat) : ℚ) - n / d| = |(roundUnits n d : ℚ) - n / d| := by
    rw [last, middle, cast_power, cast_lastBefore, add_sub_cancel_left, sub_sub_cancel_left, abs_neg]
  have even := even_of_tie positive (spacing_dvd le_rfl (e + 1)) small.ne' tie
  rw [last, significand_lastBefore] at even
  exact absurd even (by decide)

theorem roundUnits_lt_bound_iff (positive : 0 < d) :
    roundUnits n d < bound ↔ (n / d : ℚ) < (2 ^ 54 - 1) * 2 ^ 2044 := by
  have range : bound = 2 ^ 53 * 2 ^ (2044 + 1) := by
    rw [← Nat.pow_add]
    rfl
  rw [range]
  exact roundUnits_lt_two_pow_iff positive 2044

end Units

/-! ## The nearest number -/

/-- The rational number that a finite number is. -/
def value (negative : Bool) (units : Nat) : ℚ :=
  signedUnits negative units / one

/-- The number is finite and no finite number is nearer to a rational number; if another is equally near,
the significand of this one is even. -/
inductive IsNearest (q : ℚ) : Binary64 → Prop
  | finite {negative : Bool} {units : Nat} (held : Representable units)
      (least : ∀ sign other, Representable other →
        |value negative units - q| ≤ |value sign other - q|)
      (even : ∀ sign other, Representable other → value sign other ≠ value negative units →
        |value sign other - q| = |value negative units - q| → Even (significand units)) :
      IsNearest q (.finite negative units)

section Value

variable {q : ℚ} {units other : Nat}

theorem one_eq : (one : ℚ) = 2 ^ 1074 := by
  unfold one
  exact_mod_cast rfl

theorem one_pos : (0 : ℚ) < one := by
  exact_mod_cast zero_lt_units

theorem value_false (units : Nat) : value false units = units / one :=
  rfl

theorem value_true (units : Nat) : value true units = -(units / one) := by
  unfold value signedUnits
  rw [if_pos rfl, Int.cast_neg, Int.cast_natCast, neg_div]

theorem value_zero : value true 0 = value false 0 := by
  rw [value_false, value_true, Nat.cast_zero, zero_div, neg_zero]

theorem value_false_inj : value false units = value false other ↔ units = other := by
  rw [value_false, value_false, div_left_inj' one_pos.ne', Nat.cast_inj]

theorem value_false_lt : value false units < value false other ↔ units < other := by
  rw [value_false, value_false, div_lt_div_iff_of_pos_right one_pos, Nat.cast_lt]

/-- What is below zero is further from a positive number. -/
theorem abs_value_sub_lt (positive : 0 < q) (something : other ≠ 0) :
    |value false other - q| < |value true other - q| := by
  have above : (0 : ℚ) < other / one := by
    have some : (0 : ℚ) < other := by exact_mod_cast Nat.pos_of_ne_zero something
    exact div_pos some one_pos
  rw [value_false, value_true, abs_of_neg (by linarith : -(other / one : ℚ) - q < 0), abs_lt]
  constructor <;> linarith

/-- The numbers that are not negative decide which one is the nearest to a positive number. -/
theorem isNearest_of_positive (positive : 0 < q) (held : Representable units)
    (least : ∀ other, Representable other → |value false units - q| ≤ |value false other - q|)
    (even : ∀ other, Representable other → other ≠ units →
      |value false other - q| = |value false units - q| → Even (significand units)) :
    IsNearest q (.finite false units) := by
  refine .finite held ?_ ?_
  · intro sign other representable
    refine (least other representable).trans ?_
    cases sign with
    | false => exact le_rfl
    | true =>
      rcases Nat.eq_zero_or_pos other with rfl | something
      · rw [value_zero]
      · exact (abs_value_sub_lt positive something.ne').le
  · intro sign other representable differ tie
    cases sign with
    | false => exact even other representable (fun same => differ (same ▸ rfl)) tie
    | true =>
      rcases Nat.eq_zero_or_pos other with rfl | something
      · rw [value_zero] at differ tie
        exact even 0 representable (fun same => differ (same ▸ rfl)) tie
      · have further := abs_value_sub_lt positive something.ne'
        exact absurd tie (lt_of_le_of_lt (least other representable) further).ne'

/-- A number below zero is not the nearest to a positive number. -/
theorem IsNearest.eq_zero_of_negative (positive : 0 < q) (nearest : IsNearest q (.finite true units)) :
    units = 0 := by
  cases nearest with
  | finite held least even =>
    by_contra something
    exact absurd (least false units held) (not_le.mpr (abs_value_sub_lt positive something))

/-- What lies between two numbers that are equally near is nearer. -/
theorem abs_sub_lt_of_between {low between high : ℚ} (above : low < between) (below : between < high)
    (tie : |low - q| = |high - q|) : |between - q| < |high - q| := by
  have middle : q = (low + high) / 2 := by
    rcases abs_eq_abs.mp tie with same | opposite <;> linarith
  rw [abs_of_nonneg (by linarith : (0 : ℚ) ≤ high - q), abs_lt]
  constructor <;> linarith

/-- Of two numbers that are both nearest neither is the lower one. -/
theorem IsNearest.not_lt (low : IsNearest q (.finite false units))
    (high : IsNearest q (.finite false other)) : ¬units < other := by
  intro less
  cases low with
  | finite lowHeld lowLeast lowEven =>
    cases high with
    | finite highHeld highLeast highEven =>
      have tie : |value false units - q| = |value false other - q| :=
        le_antisymm (lowLeast false other highHeld) (highLeast false units lowHeld)
      have differ : value false units ≠ value false other := fun same =>
        less.ne (value_false_inj.mp same)
      have even := lowEven false other highHeld differ.symm tie.symm
      refine not_even_of_adjacent lowHeld.onGrid highHeld.onGrid less ?_ even
        (highEven false units lowHeld differ tie)
      intro between own above
      by_contra below
      have below : between < other := Nat.not_le.mp below
      have nearer : |value false between - q| < |value false other - q| :=
        abs_sub_lt_of_between (value_false_lt.mpr above) (value_false_lt.mpr below) tie
      exact absurd (highLeast false between ⟨own, Nat.lt_trans below highHeld.finite⟩)
        (not_le.mpr nearer)

/-- If the nearest number to a positive number is not zero, there is no other. -/
theorem IsNearest.unique {x : Binary64} (positive : 0 < q) (something : units ≠ 0)
    (this : IsNearest q (.finite false units)) (that : IsNearest q x) : x = .finite false units := by
  obtain ⟨negative, other, rfl⟩ : ∃ negative other, x = .finite negative other := by
    cases that
    exact ⟨_, _, rfl⟩
  cases negative with
  | false => rw [Nat.le_antisymm (Nat.not_lt.mp (this.not_lt that)) (Nat.not_lt.mp (that.not_lt this))]
  | true =>
    -- the zero below is as near as the one above
    obtain rfl := that.eq_zero_of_negative positive
    have above : IsNearest q (.finite false 0) := by
      cases that with
      | finite held least even => exact .finite held (value_zero ▸ least) (value_zero ▸ even)
    exact absurd (Nat.pos_of_ne_zero something) (above.not_lt this)

/-! ## The number nearest to a quotient -/

variable {n d : Nat}

/-- The distance from a rational number, in units. -/
theorem abs_value_sub (scaled : q * one = n / d) (units : Nat) :
    |value false units - q| * one = |(units : ℚ) - n / d| := by
  rw [value_false, ← scaled, ← abs_of_pos one_pos, ← abs_mul, abs_of_pos one_pos, sub_mul,
    div_mul_cancel₀ _ one_pos.ne']

theorem isNearest_roundUnits (positive : 0 < q) (whole : 0 < d) (scaled : q * one = n / d)
    (finite : roundUnits n d < bound) : IsNearest q (.finite false (roundUnits n d)) := by
  refine isNearest_of_positive positive ⟨spacing_dvd_roundUnits n d, finite⟩ ?_ ?_
  · intro other held
    refine le_of_mul_le_mul_right ?_ one_pos
    rw [abs_value_sub scaled, abs_value_sub scaled]
    exact roundUnits_nearest whole held.onGrid
  · intro other held differ tie
    refine even_of_tie whole held.onGrid differ ?_
    rw [← abs_value_sub scaled, ← abs_value_sub scaled, tie]

theorem scaled_units (n d : Nat) : (n / d : ℚ) * one = (n * one : Nat) / d := by
  rw [Nat.cast_mul, div_mul_eq_mul_div]

/-- The number nearest to a positive quotient is the one that is found. -/
theorem isNearest_ofRatio (something : 0 < n) (whole : 0 < d)
    (finite : roundUnits (n * one) d < bound) : IsNearest (n / d) (ofRatio false n d) := by
  have positive : (0 : ℚ) < n / d :=
    div_pos (by exact_mod_cast something) (by exact_mod_cast whole)
  rw [ofRatio_finite false finite]
  exact isNearest_roundUnits positive whole (scaled_units n d) finite

/-- A quotient is rounded to zero up to half a unit. -/
theorem roundUnits_ratio_pos_iff (whole : 0 < d) :
    0 < roundUnits (n * one) d ↔ 1 / 2 ^ 1075 < (n / d : ℚ) := by
  have size : (0 : ℚ) < d := by exact_mod_cast whole
  have unit : (2 : ℚ) ^ 1075 = 2 * one := by
    rw [one_eq]
    exact pow_succ' 2 1074
  rw [roundUnits_pos_iff whole, unit, div_lt_div_iff₀ (mul_pos two_pos one_pos) size, one_mul,
    mul_left_comm]
  exact_mod_cast Iff.rfl

/-- A quotient is finite up to the middle between the last number and the next power of two. -/
theorem roundUnits_ratio_lt_bound_iff (whole : 0 < d) :
    roundUnits (n * one) d < bound ↔ (n / d : ℚ) < 2 ^ 1024 - 2 ^ 970 := by
  have power : (2 : ℚ) ^ 1024 = 2 ^ 54 * 2 ^ 970 := pow_add 2 54 970
  have middle : (2 : ℚ) ^ 2044 = 2 ^ 970 * one := by
    rw [one_eq]
    exact pow_add 2 970 1074
  rw [roundUnits_lt_bound_iff whole, ← scaled_units, middle, ← mul_assoc,
    mul_lt_mul_iff_left₀ one_pos, power, sub_mul, one_mul]

end Value

end Binary64

end Storekeeper.Decimal
