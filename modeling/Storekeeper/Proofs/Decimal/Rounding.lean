import Mathlib.Algebra.Group.Nat.Defs
import Storekeeper.Decimal.Binary64

/-!
# Rounding to representable numbers

What is said of `roundUnits` rests on two bounds of `roundDiv`: the quotient rounded down, and one more.

* `roundUnits_pos` and `roundUnits_lt`: a quotient of at least one does not vanish, and nothing is
  rounded to twice as much.
* `spacing_dvd_roundUnits`: what has been rounded lies on the grid of its own size, also where rounding
  carries it to the next power of two.
* `roundUnits_exact`: a quotient that lies on its grid is not changed.
* `Representable`: the numbers of units that a finite number may have.
* `sub_exact`: the difference of two numbers that are near to each other is not rounded.
* `isBelow_of_less`: a number that is less than a difference as it is rounded is less than the difference.
-/

namespace Storekeeper.Decimal

/-! ## Quotients -/

theorem le_roundDiv (n d : Nat) : n / d ≤ roundDiv n d := by
  unfold roundDiv
  simp only
  split
  · exact Nat.le_refl _
  · split
    · exact Nat.le_succ _
    · split
      · exact Nat.le_refl _
      · exact Nat.le_succ _

theorem roundDiv_le (n d : Nat) : roundDiv n d ≤ n / d + 1 := by
  unfold roundDiv
  simp only
  split
  · exact Nat.le_succ _
  · split
    · exact Nat.le_refl _
    · split
      · exact Nat.le_succ _
      · exact Nat.le_refl _

theorem roundDiv_mul (n : Nat) {d : Nat} (positive : 0 < d) : roundDiv (n * d) d = n := by
  unfold roundDiv
  simp only [Nat.mul_mod_left, Nat.mul_zero, positive, if_true]
  exact Nat.mul_div_cancel n positive

/-- A quotient is not rounded past an integer. -/
theorem roundDiv_le_of_le_mul {n d k : Nat} (positive : 0 < d) (le : n ≤ k * d) :
    roundDiv n d ≤ k := by
  rcases Nat.lt_or_eq_of_le le with less | rfl
  · have low : n / d < k := (Nat.div_lt_iff_lt_mul positive).mpr less
    have above := roundDiv_le n d
    omega
  · exact Nat.le_of_eq (roundDiv_mul k positive)

/-- A quotient that is expanded is rounded to the same. -/
theorem roundDiv_expand (n d : Nat) {k : Nat} (positive : 0 < k) :
    roundDiv (n * k) (d * k) = roundDiv n d := by
  have rest : 2 * (n * k % (d * k)) = 2 * (n % d) * k := by
    rw [Nat.mul_mod_mul_right, Nat.mul_assoc]
  unfold roundDiv
  simp only [Nat.mul_div_mul_right n d positive, rest, Nat.mul_lt_mul_right positive]

/-- A quotient is rounded to zero up to one half, the half included. -/
theorem roundDiv_eq_zero_iff (n : Nat) {d : Nat} (positive : 0 < d) :
    roundDiv n d = 0 ↔ 2 * n ≤ d := by
  rcases Nat.lt_or_ge n d with small | large
  · have low : n / d = 0 := Nat.div_eq_of_lt small
    have rest : n % d = n := Nat.mod_eq_of_lt small
    unfold roundDiv
    simp only [low, rest]
    split
    · simp only [true_iff]
      omega
    · split
      · simp only [Nat.zero_add, Nat.one_ne_zero, false_iff]
        omega
      · simp only [if_true, true_iff]
        omega
  · have low : 0 < n / d := Nat.div_pos large positive
    have above := le_roundDiv n d
    omega

namespace Binary64

/-! ## The grid around a number of units -/

variable {units n d : Nat}

theorem zero_lt_units : 0 < one :=
  Nat.two_pow_pos _

theorem one_dvd {k : Nat} (large : 1074 ≤ k) : one ∣ 2 ^ k := by
  unfold one
  exact Nat.pow_dvd_pow 2 large

theorem one_le_two_pow {k : Nat} (large : 1074 ≤ k) : one ≤ 2 ^ k :=
  Nat.le_of_dvd (Nat.two_pow_pos k) (one_dvd large)

theorem two_pow_le_one {k : Nat} (small : k ≤ 1074) : 2 ^ k ≤ one := by
  unfold one
  exact Nat.pow_le_pow_right (by decide) small

theorem lt_bound {k : Nat} (small : units < 2 ^ k) (room : k ≤ 2098) : units < bound := by
  unfold bound
  exact Nat.lt_of_lt_of_le small (Nat.pow_le_pow_right (by decide) room)

theorem roundUnits_eq (n d : Nat) :
    roundUnits n d = roundDiv n (d * 2 ^ spacing (n / d)) * 2 ^ spacing (n / d) :=
  rfl

theorem roundUnits_expand (n d : Nat) {k : Nat} (positive : 0 < k) :
    roundUnits (n * k) (d * k) = roundUnits n d := by
  rw [roundUnits_eq, roundUnits_eq, Nat.mul_div_mul_right n d positive, Nat.mul_right_comm d k,
    roundDiv_expand n _ positive]

theorem two_pow_spacing_le (something : units ≠ 0) : 2 ^ spacing units ≤ units := by
  have below : spacing units ≤ Nat.log2 units := Nat.sub_le ..
  exact Nat.le_trans (Nat.pow_le_pow_right (by decide) below) (Nat.log2_self_le something)

/-- In the grid around it a number has at most 53 binary digits. -/
theorem div_two_pow_spacing_lt (units : Nat) : units / 2 ^ spacing units < 2 ^ 53 := by
  have above : units < 2 ^ (Nat.log2 units + 1) := Nat.lt_log2_self
  have fits : Nat.log2 units + 1 ≤ 53 + spacing units := by
    unfold spacing
    omega
  refine (Nat.div_lt_iff_lt_mul (Nat.two_pow_pos _)).mpr ?_
  rw [← Nat.pow_add]
  exact Nat.lt_of_lt_of_le above (Nat.pow_le_pow_right (by decide) fits)

/-- A multiple of a power of two with at most 53 binary digits lies on a grid that is no coarser. -/
theorem spacing_le {m : Nat} (small : m < 2 ^ 53) (e : Nat) : spacing (m * 2 ^ e) ≤ e := by
  rcases Nat.eq_zero_or_pos m with rfl | positive
  · rw [Nat.zero_mul]
    exact Nat.zero_le e
  · have something : m * 2 ^ e ≠ 0 :=
      Nat.ne_of_gt (Nat.mul_pos positive (Nat.two_pow_pos e))
    have below : m * 2 ^ e < 2 ^ (53 + e) := by
      rw [Nat.pow_add]
      exact Nat.mul_lt_mul_of_pos_right small (Nat.two_pow_pos e)
    have size : Nat.log2 (m * 2 ^ e) < 53 + e := (Nat.log2_lt something).mpr below
    unfold spacing
    omega

/-- Such a multiple, or the next power of two, lies on the grid of its own size. -/
theorem spacing_dvd {m : Nat} (small : m ≤ 2 ^ 53) (e : Nat) :
    2 ^ spacing (m * 2 ^ e) ∣ m * 2 ^ e := by
  rcases Nat.lt_or_eq_of_le small with less | rfl
  · exact Nat.dvd_trans (Nat.pow_dvd_pow 2 (spacing_le less e)) (Nat.dvd_mul_left ..)
  · rw [← Nat.pow_add]
    have finer : spacing (2 ^ (53 + e)) ≤ 53 + e := by
      unfold spacing
      rw [Nat.log2_two_pow]
      omega
    exact Nat.pow_dvd_pow 2 finer

/-! ## Rounding -/

theorem spacing_dvd_roundUnits (n d : Nat) :
    2 ^ spacing (roundUnits n d) ∣ roundUnits n d := by
  rw [roundUnits_eq]
  refine spacing_dvd ?_ _
  have above := roundDiv_le n (d * 2 ^ spacing (n / d))
  have digits := div_two_pow_spacing_lt (n / d)
  rw [← Nat.div_div_eq_div_mul] at above
  omega

/-- A quotient of at least one does not vanish. -/
theorem roundUnits_pos (positive : 0 < d) (large : d ≤ n) : 0 < roundUnits n d := by
  have low : 0 < n / d := Nat.div_pos large positive
  have onGrid : 0 < n / d / 2 ^ spacing (n / d) :=
    Nat.div_pos (two_pow_spacing_le (Nat.ne_of_gt low)) (Nat.two_pow_pos _)
  rw [Nat.div_div_eq_div_mul] at onGrid
  rw [roundUnits_eq]
  exact Nat.mul_pos (Nat.lt_of_lt_of_le onGrid (le_roundDiv ..)) (Nat.two_pow_pos _)

/-- Nothing is rounded past the next power of two. -/
theorem roundUnits_lt {k : Nat} (small : n / d < 2 ^ k) : roundUnits n d < 2 ^ (k + 1) := by
  have above := roundDiv_le n (d * 2 ^ spacing (n / d))
  rw [← Nat.div_div_eq_div_mul] at above
  have most : roundUnits n d ≤ n / d + 2 ^ spacing (n / d) := by
    calc roundUnits n d
        ≤ (n / d / 2 ^ spacing (n / d) + 1) * 2 ^ spacing (n / d) :=
          Nat.mul_le_mul_right _ above
      _ = n / d / 2 ^ spacing (n / d) * 2 ^ spacing (n / d) + 2 ^ spacing (n / d) := by
          rw [Nat.add_mul, Nat.one_mul]
      _ ≤ n / d + 2 ^ spacing (n / d) := Nat.add_le_add_right (Nat.div_mul_le_self ..) _
  rw [Nat.pow_succ]
  rcases Nat.eq_zero_or_pos (n / d) with nothing | something
  · have gap : 2 ^ spacing (n / d) = 1 := by
      rw [nothing]
      rfl
    have one : 0 < 2 ^ k := Nat.two_pow_pos k
    omega
  · have gap := two_pow_spacing_le (Nat.ne_of_gt something)
    omega

/-- A number that lies on the grid of its own size is not changed. -/
theorem roundUnits_exact (positive : 0 < d) (onGrid : 2 ^ spacing units ∣ units) :
    roundUnits (units * d) d = units := by
  obtain ⟨m, same⟩ := onGrid
  have whole : units * d / d = units := Nat.mul_div_cancel units positive
  have steps : units * d = m * (d * 2 ^ spacing units) := by
    calc units * d = 2 ^ spacing units * m * d := by rw [← same]
      _ = m * (d * 2 ^ spacing units) := by
        rw [Nat.mul_comm (2 ^ spacing units) m, Nat.mul_assoc, Nat.mul_comm d]
  rw [roundUnits_eq, whole, steps, roundDiv_mul m (Nat.mul_pos positive (Nat.two_pow_pos _)),
    Nat.mul_comm m, ← same]

/-- So many units are held as a finite number. -/
structure Representable (units : Nat) : Prop where
  onGrid : 2 ^ spacing units ∣ units
  finite : units < bound

/-- A finite number that is nearest to a quotient has its units and its sign. -/
theorem ofRatio_eq_finite {negative sign : Bool}
    (nearest : ofRatio negative n d = .finite sign units) :
    roundUnits (n * one) d < bound ∧ sign = negative ∧ units = roundUnits (n * one) d := by
  unfold ofRatio ofUnits at nearest
  dsimp only at nearest
  split at nearest
  · rename_i finite
    cases nearest
    exact ⟨finite, rfl, rfl⟩
  · cases nearest

/-- What is rounded to a finite number is representable. -/
theorem ofRatio_representable {negative sign : Bool}
    (nearest : ofRatio negative n d = .finite sign units) : Representable units := by
  obtain ⟨finite, -, rfl⟩ := ofRatio_eq_finite nearest
  exact ⟨spacing_dvd_roundUnits _ _, finite⟩

theorem spacing_mono {small large : Nat} (le : small ≤ large) : spacing small ≤ spacing large := by
  rcases Nat.eq_zero_or_pos small with rfl | something
  · exact Nat.zero_le _
  · have least : 2 ^ Nat.log2 small ≤ small := Nat.log2_self_le (Nat.ne_of_gt something)
    have sizes : Nat.log2 small ≤ Nat.log2 large :=
      (Nat.le_log2 (Nat.ne_of_gt (Nat.lt_of_lt_of_le something le))).mpr (Nat.le_trans least le)
    exact Nat.sub_le_sub_right sizes 52

/-- Rounding does not pass a number that lies on the grid of its own size. -/
theorem roundUnits_le (onGrid : 2 ^ spacing units ∣ units) (le : n ≤ units) :
    roundUnits n 1 ≤ units := by
  have fine : 2 ^ spacing n ∣ units :=
    Nat.dvd_trans (Nat.pow_dvd_pow 2 (spacing_mono le)) onGrid
  obtain ⟨k, same⟩ := fine
  rw [Nat.mul_comm] at same
  rw [roundUnits_eq, Nat.div_one, Nat.one_mul, same]
  exact Nat.mul_le_mul_right _ (roundDiv_le_of_le_mul (Nat.two_pow_pos _) (same ▸ le))

/-- The difference of two numbers, of which one is at most twice the other, is not rounded. -/
theorem sub_exact {large small : Nat} (above : Representable large) (below : Representable small)
    (le : small ≤ large) (near : large ≤ 2 * small) :
    (finite false large).sub (finite false small) = finite false (large - small) := by
  have onGrid : 2 ^ spacing (large - small) ∣ large - small := by
    have coarse : spacing (large - small) ≤ spacing small := spacing_mono (by omega)
    have coarser : spacing (large - small) ≤ spacing large :=
      Nat.le_trans coarse (spacing_mono le)
    exact Nat.dvd_sub (Nat.dvd_trans (Nat.pow_dvd_pow 2 coarser) above.onGrid)
      (Nat.dvd_trans (Nat.pow_dvd_pow 2 coarse) below.onGrid)
  have kept : roundUnits (large - small) 1 = large - small := by
    have exactly := roundUnits_exact Nat.one_pos onGrid
    rwa [Nat.mul_one] at exactly
  have room : large - small < bound := Nat.lt_of_le_of_lt (Nat.sub_le ..) above.finite
  have sum : (large : Int) + -(small : Int) = ((large - small : Nat) : Int) := by omega
  rcases Nat.eq_zero_or_pos large with rfl | something
  · rw [Nat.le_zero.mp le]
    rfl
  · change (if large = 0 ∧ small = 0 then _ else ofSignedUnits ((large : Int) + -(small : Int))) = _
    rw [if_neg (fun none => Nat.ne_of_gt something none.1), sum]
    unfold ofSignedUnits ofUnits
    simp [kept, room]

/-- The difference of two numbers is their difference in units, rounded. -/
theorem sub_eq {large small : Nat} (above : Representable large) (something : small ≠ 0)
    (le : small ≤ large) :
    (finite false large).sub (finite false small) = finite false (roundUnits (large - small) 1) := by
  have room : roundUnits (large - small) 1 < bound :=
    Nat.lt_of_le_of_lt (roundUnits_le above.onGrid (Nat.sub_le ..)) above.finite
  have sum : (large : Int) + -(small : Int) = ((large - small : Nat) : Int) := by omega
  change (if large = 0 ∧ small = 0 then _ else ofSignedUnits ((large : Int) + -(small : Int))) = _
  rw [if_neg (fun none => something none.2), sum]
  unfold ofSignedUnits ofUnits
  simp [room]

/-- A number is less than so many units; a NaN is not. -/
inductive IsBelow : Binary64 → Nat → Prop
  | finite {negative : Bool} {units above : Nat} (less : signedUnits negative units < above) :
    IsBelow (.finite negative units) above
  | infinite {above : Nat} : IsBelow (.infinite true) above

/-- A number that a floating-point number can be: if it is finite, its units are representable. -/
def IsNumber (x : Binary64) : Prop :=
  ∀ negative units, x = finite negative units → Representable units

theorem ofRatio_isNumber (negative : Bool) (n d : Nat) : (ofRatio negative n d).IsNumber :=
  fun _ _ same => ofRatio_representable same

/-- What is less than a difference as it is rounded is less than the difference itself. -/
theorem isBelow_of_less {x : Binary64} {large small : Nat} (number : x.IsNumber)
    (above : Representable large) (something : small ≠ 0) (le : small ≤ large)
    (less : x.less ((finite false large).sub (finite false small)) = true) :
    x.IsBelow (large - small) := by
  rw [sub_eq above something le] at less
  cases x with
  | finite negative units =>
    have below : signedUnits negative units < (roundUnits (large - small) 1 : Int) := by
      simpa [Binary64.less, signedUnits] using less
    refine .finite (Int.not_le.mp fun beyond => ?_)
    have whole : signedUnits negative units = (units : Int) := by
      cases negative with
      | false => rfl
      | true =>
        change ((large - small : Nat) : Int) ≤ -(units : Int) at beyond
        change -(units : Int) = units
        omega
    have kept := roundUnits_le (number negative units rfl).onGrid (n := large - small) (by omega)
    omega
  | infinite negative =>
    cases negative with
    | true => exact .infinite
    | false => cases less
  | nan => cases less

theorem ofRatio_finite (negative : Bool) (finite : roundUnits (n * one) d < bound) :
    ofRatio negative n d = .finite negative (roundUnits (n * one) d) := by
  unfold ofRatio ofUnits
  exact if_pos finite

end Binary64

end Storekeeper.Decimal
