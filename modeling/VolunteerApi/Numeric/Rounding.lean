import Mathlib

/-!
# Rounding to a binary format

A number of a format is a mantissa times a power of two, with a mantissa of so many bits.  The
rounding of the logical model of floats never crosses a number of the format: what is at most
such a number is rounded to at most that number, and likewise from below.
-/

set_option autoImplicit false

namespace Numeric

open Float.Model Float.Model.UnpackedFloat

/-! ## Scaled mantissas -/

/-- `m * 2 ^ e` -/
def scaled (m : Nat) (e : Int) : ℚ := m * 2 ^ e

theorem scaled_nonneg (m : Nat) (e : Int) : 0 ≤ scaled m e := by
  unfold scaled
  positivity

@[simp] theorem scaled_zero (e : Int) : scaled 0 e = 0 := by simp [scaled]

theorem scaled_le_scaled {m n : Nat} {e : Int} : scaled m e ≤ scaled n e ↔ m ≤ n := by
  have positive : (0 : ℚ) < 2 ^ e := by positivity
  rw [scaled, scaled, mul_le_mul_iff_left₀ positive, Nat.cast_le]

theorem scaled_lt_scaled {m n : Nat} {e : Int} : scaled m e < scaled n e ↔ m < n := by
  rw [← not_le, ← not_le, scaled_le_scaled]

theorem scaled_inj {m n : Nat} {e : Int} : scaled m e = scaled n e ↔ m = n := by
  rw [le_antisymm_iff, scaled_le_scaled, scaled_le_scaled, le_antisymm_iff]

theorem scaled_mul_pow (m k : Nat) (e : Int) : scaled (m * 2 ^ k) e = scaled m (e + k) := by
  rw [scaled, scaled, zpow_add₀ two_ne_zero, zpow_natCast]
  push_cast
  ring

theorem scaled_of_le {e f : Int} (le : e ≤ f) (m : Nat) :
    scaled m f = scaled (m * 2 ^ (f - e).toNat) e := by
  rw [scaled_mul_pow, Int.toNat_of_nonneg (by omega)]
  congr 1
  omega

theorem scaled_mul (m n : Nat) (e f : Int) :
    scaled m e * scaled n f = scaled (m * n) (e + f) := by
  rw [scaled, scaled, scaled, zpow_add₀ two_ne_zero]
  push_cast
  ring

section Formats

variable {spec : Format}

/-- The mantissa and exponent of a number of the format: the exponent is the least one that the
mantissa leaves room for. -/
structure Canonical (spec : Format) (m : Nat) (e : Int) : Prop where
  small : m < 2 ^ (spec.mantissaBitsWithoutImplicit + 1)
  least : spec.minExponent ≤ e
  normal : 2 ^ spec.mantissaBitsWithoutImplicit ≤ m ∨ e = spec.minExponent

theorem canonical_zero : Canonical spec 0 spec.minExponent where
  small := by positivity
  least := le_refl _
  normal := Or.inr rfl

theorem Canonical.lt_of_exponent_lt {m n : Nat} {e f : Int} (left : Canonical spec m e)
    (right : Canonical spec n f) (lt : e < f) : scaled m e < scaled n f := by
  have normal : 2 ^ spec.mantissaBitsWithoutImplicit ≤ n := by
    rcases right.normal with normal | lowest
    · exact normal
    · exact absurd left.least (by omega)
  rw [scaled_of_le lt.le, scaled_lt_scaled]
  calc m < 2 ^ (spec.mantissaBitsWithoutImplicit + 1) := left.small
    _ = 2 ^ spec.mantissaBitsWithoutImplicit * 2 ^ 1 := Nat.pow_succ ..
    _ ≤ n * 2 ^ (f - e).toNat :=
        Nat.mul_le_mul normal (Nat.pow_le_pow_right (by omega) (by omega))

/-! ## Shifting a mantissa -/

theorem shiftRight_zero (em : ExtendedMantissa) : em >>> 0 = em := rfl

theorem shiftRight_succ (em : ExtendedMantissa) (k : Nat) :
    em >>> (k + 1) = (em >>> k).shiftRightOne := rfl

theorem shiftRight_mantissa (em : ExtendedMantissa) (k : Nat) :
    (em >>> k).mantissa = em.mantissa / 2 ^ k := by
  induction k with
  | zero => rw [shiftRight_zero, Nat.pow_zero, Nat.div_one]
  | succ k ih =>
      rw [shiftRight_succ, Nat.pow_succ, ← Nat.div_div_eq_div_mul, ← ih]
      rfl

theorem shiftRight_exact {m k : Nat} (divides : 2 ^ k ∣ m) :
    (ExtendedMantissa.mk m false false) >>> k = ExtendedMantissa.mk (m / 2 ^ k) false false := by
  induction k with
  | zero => rw [shiftRight_zero, Nat.pow_zero, Nat.div_one]
  | succ k ih =>
      have even : m / 2 ^ k % 2 = 0 := by
        obtain ⟨half, rfl⟩ := divides
        rw [Nat.pow_succ, Nat.mul_assoc, Nat.mul_div_cancel_left _ (Nat.two_pow_pos k)]
        exact Nat.mul_mod_right 2 half
      rw [shiftRight_succ, ih ((Nat.pow_dvd_pow 2 (Nat.le_succ k)).trans divides),
        ExtendedMantissa.shiftRightOne, Nat.pow_succ, ← Nat.div_div_eq_div_mul]
      simp [even]

theorem ofMantissaAndAccuracy_mantissa (m : Nat) (acc : Accuracy) :
    (ExtendedMantissa.ofMantissaAndAccuracy m acc).mantissa = m := by
  unfold ExtendedMantissa.ofMantissaAndAccuracy
  split <;> rfl

theorem roundToNearestEven_bounds (m : Nat) (acc : Accuracy) :
    m ≤ acc.roundToNearestEven m ∧ acc.roundToNearestEven m ≤ m + 1 := by
  unfold Accuracy.roundToNearestEven
  split <;> omega

/-! ## Rounding -/

/-- The number `x` lies from `m` on and below `m + 1`, in units of `2 ^ e`; where it is `m`, the
accuracy knows it. -/
structure Approximates (x : ℚ) (m : Nat) (e : Int) (acc : Accuracy) : Prop where
  lower : scaled m e ≤ x
  upper : x < scaled (m + 1) e
  exact : x = scaled m e → acc = .exact

theorem approximates_scaled (m : Nat) (e : Int) : Approximates (scaled m e) m e .exact where
  lower := le_refl _
  upper := scaled_lt_scaled.mpr (Nat.lt_succ_self m)
  exact := fun _ => rfl

/-- The mantissa `r` is `q` or the next one, and `q` where that is exact. -/
structure RoundsMantissa (x : ℚ) (q r : Nat) (t : Int) : Prop where
  lower : scaled q t ≤ x
  upper : x < scaled (q + 1) t
  down : q ≤ r
  up : r ≤ q + 1
  exact : x = scaled q t → r = q

theorem Approximates.shiftRight {x : ℚ} {m : Nat} {e : Int} {acc : Accuracy}
    (approx : Approximates x m e acc) (k : Nat) :
    RoundsMantissa x (m / 2 ^ k)
      (ExtendedMantissa.ofMantissaAndAccuracy m acc >>> k).roundedMantissa (e + k) := by
  have kept : (ExtendedMantissa.ofMantissaAndAccuracy m acc >>> k).mantissa = m / 2 ^ k := by
    rw [shiftRight_mantissa, ofMantissaAndAccuracy_mantissa]
  have bounds := roundToNearestEven_bounds
    (ExtendedMantissa.ofMantissaAndAccuracy m acc >>> k).mantissa
    (ExtendedMantissa.ofMantissaAndAccuracy m acc >>> k).accuracy
  have below : scaled (m / 2 ^ k) (e + k) ≤ scaled m e := by
    rw [← scaled_mul_pow, scaled_le_scaled]
    exact Nat.div_mul_le_self m (2 ^ k)
  refine ⟨below.trans approx.lower, ?_, kept ▸ bounds.1, kept ▸ bounds.2, ?_⟩
  · refine lt_of_lt_of_le approx.upper ?_
    rw [← scaled_mul_pow, scaled_le_scaled, Nat.succ_mul]
    exact Nat.lt_div_mul_add (Nat.two_pow_pos k)
  · intro same
    have unshifted : x = scaled m e := le_antisymm (same ▸ below) approx.lower
    have divides : 2 ^ k ∣ m := by
      rw [same, ← scaled_mul_pow, scaled_inj] at unshifted
      exact Dvd.intro_left _ unshifted
    rw [approx.exact unshifted, ExtendedMantissa.ofMantissaAndAccuracy, shiftRight_exact divides]
    rfl

/-- The number `x` is rounded to `m * 2 ^ e`, and no number of the format lies between them. -/
structure Rounds (spec : Format) (x : ℚ) (m : Nat) (e : Int) : Prop where
  canonical : Canonical spec m e
  below : ∀ {n f}, Canonical spec n f → x ≤ scaled n f → scaled m e ≤ scaled n f
  above : ∀ {n f}, Canonical spec n f → scaled n f ≤ x → scaled n f ≤ scaled m e

section Mantissas

variable {x : ℚ} {q r : Nat} {t : Int}

/-- With all bits of the mantissa in use, or at the least exponent, a number of the format with
a smaller exponent is below. -/
theorem scaled_lt_of_exponent_lt (full : 2 ^ spec.mantissaBitsWithoutImplicit ≤ q ∨
    t = spec.minExponent) {n : Nat} {f : Int} (canonical : Canonical spec n f) (lt : f < t) :
    scaled n f < scaled q t := by
  have normal : 2 ^ spec.mantissaBitsWithoutImplicit ≤ q := by
    rcases full with normal | lowest
    · exact normal
    · exact absurd canonical.least (by omega)
  rw [scaled_of_le lt.le, scaled_lt_scaled]
  calc n < 2 ^ spec.mantissaBitsWithoutImplicit * 2 ^ 1 := canonical.small
    _ ≤ q * 2 ^ (t - f).toNat :=
        Nat.mul_le_mul normal (Nat.pow_le_pow_right (by omega) (by omega))

theorem RoundsMantissa.below (rounds : RoundsMantissa x q r t)
    (full : 2 ^ spec.mantissaBitsWithoutImplicit ≤ q ∨ t = spec.minExponent) {n : Nat} {f : Int}
    (canonical : Canonical spec n f) (le : x ≤ scaled n f) : scaled r t ≤ scaled n f := by
  have kept := rounds.lower.trans le
  have exponents : t ≤ f := by
    by_contra smaller
    exact absurd kept (not_le.mpr (scaled_lt_of_exponent_lt full canonical (not_le.mp smaller)))
  rw [scaled_of_le exponents, scaled_le_scaled] at kept ⊢
  by_cases same : n * 2 ^ (f - t).toNat = q
  · -- then `x` is `q` units and stays so
    rw [scaled_of_le exponents, same] at le
    rw [rounds.exact (le_antisymm le rounds.lower), same]
  · have up := rounds.up
    omega

theorem RoundsMantissa.above (rounds : RoundsMantissa x q r t)
    (full : 2 ^ spec.mantissaBitsWithoutImplicit ≤ q ∨ t = spec.minExponent) {n : Nat} {f : Int}
    (canonical : Canonical spec n f) (le : scaled n f ≤ x) : scaled n f ≤ scaled r t := by
  refine le_trans ?_ (scaled_le_scaled.mpr rounds.down)
  rcases lt_or_ge f t with smaller | exponents
  · exact (scaled_lt_of_exponent_lt full canonical smaller).le
  · have under := lt_of_le_of_lt le rounds.upper
    rw [scaled_of_le exponents] at under ⊢
    rw [scaled_lt_scaled] at under
    exact scaled_le_scaled.mpr (Nat.le_of_lt_succ under)

end Mantissas

/-! ## The rounding of the model -/

theorem targetExponent_eq (spec : Format) (m : Nat) (e : Int) :
    spec.targetExponent (totalExponent m e) =
      max (m.log2 + e - spec.mantissaBitsWithoutImplicit) spec.minExponent := by
  rw [Format.targetExponent, totalExponent, Format.mantissaBits]
  congr 1
  push_cast
  ring

/-- A float with this mantissa, which may be zero. -/
def ofScaled (sign : Sign) (m : Nat) (e : Int) : UnpackedFloat :=
  if zero : m = 0 then .zero sign else .finite sign m e (Nat.pos_of_ne_zero zero)

theorem log2_le_of_lt {m k : Nat} (small : m < 2 ^ (k + 1)) : m.log2 ≤ k := by
  rcases Nat.eq_zero_or_pos m with rfl | positive
  · exact Nat.zero_le k
  · exact Nat.lt_succ_iff.mp ((Nat.log2_lt positive.ne').mpr small)

/-- A mantissa of the format stays where it is. -/
theorem shiftToTargetExponent_of_small {r : Nat} {t : Int}
    (small : r < 2 ^ (spec.mantissaBitsWithoutImplicit + 1)) (least : spec.minExponent ≤ t) :
    shiftToTargetExponent spec r t .exact = (ExtendedMantissa.mk r false false, t) := by
  have bits := log2_le_of_lt small
  have unshifted : (spec.targetExponent (totalExponent r t) - t).toNat = 0 := by
    rw [targetExponent_eq]
    omega
  simp only [shiftToTargetExponent, shiftToExponent, unshifted]
  exact congrArg (Prod.mk _) (add_zero t)

/-- A mantissa of one bit too many, which rounding up may leave, is halved. -/
theorem shiftToTargetExponent_of_full {t : Int} (least : spec.minExponent ≤ t) :
    shiftToTargetExponent spec (2 ^ (spec.mantissaBitsWithoutImplicit + 1)) t .exact =
      (ExtendedMantissa.mk (2 ^ spec.mantissaBitsWithoutImplicit) false false, t + 1) := by
  have once : (spec.targetExponent (totalExponent (2 ^ (spec.mantissaBitsWithoutImplicit + 1)) t) -
      t).toNat = 1 := by
    rw [targetExponent_eq, Nat.log2_two_pow]
    omega
  have halved : 2 ^ (spec.mantissaBitsWithoutImplicit + 1) / 2 ^ 1 =
      2 ^ spec.mantissaBitsWithoutImplicit := Nat.mul_div_cancel _ Nat.two_pos
  simp only [shiftToTargetExponent, shiftToExponent, once, ExtendedMantissa.ofMantissaAndAccuracy]
  rw [shiftRight_exact (Nat.pow_dvd_pow 2 (Nat.le_add_left 1 _)), halved]
  rfl

/-- Two shifts: one before the mantissa is rounded, one for a carry. -/
theorem roundWithAccuracy_eq {sign : Sign} {m r : Nat} {e t : Int} {acc : Accuracy}
    {em : ExtendedMantissa} (shifted : shiftToTargetExponent spec m e acc = (em, t))
    (rounded : em.roundedMantissa = r)
    (bound : r ≤ 2 ^ (spec.mantissaBitsWithoutImplicit + 1)) (least : spec.minExponent ≤ t) :
    roundWithAccuracy spec sign m e acc =
      if r = 2 ^ (spec.mantissaBitsWithoutImplicit + 1) then
        ofScaled sign (2 ^ spec.mantissaBitsWithoutImplicit) (t + 1)
      else ofScaled sign r t := by
  subst rounded
  obtain rfl : (shiftToTargetExponent spec m e acc).1 = em := congrArg Prod.fst shifted
  obtain rfl : (shiftToTargetExponent spec m e acc).2 = t := congrArg Prod.snd shifted
  have twice : roundWithAccuracy spec sign m e acc =
      ofScaled sign
        (shiftToTargetExponent spec
          (shiftToTargetExponent spec m e acc).1.roundedMantissa
          (shiftToTargetExponent spec m e acc).2 .exact).1.mantissa
        (shiftToTargetExponent spec
          (shiftToTargetExponent spec m e acc).1.roundedMantissa
          (shiftToTargetExponent spec m e acc).2 .exact).2 := rfl
  rw [twice]
  by_cases full : (shiftToTargetExponent spec m e acc).1.roundedMantissa =
      2 ^ (spec.mantissaBitsWithoutImplicit + 1)
  · rw [if_pos full, full, shiftToTargetExponent_of_full least]
  · rw [if_neg full, shiftToTargetExponent_of_small (lt_of_le_of_ne bound full) least]

/-- The mantissa need not be shifted to the left. -/
def Placed (spec : Format) (m : Nat) (e : Int) : Prop :=
  e ≤ spec.targetExponent (totalExponent m e)

/-- The result of rounding is canonical, and no number of the format is crossed. -/
theorem roundWithAccuracy_rounds {x : ℚ} {m : Nat} {e : Int} {acc : Accuracy} (sign : Sign)
    (approx : Approximates x m e acc) (placed : Placed spec m e) :
    ∃ n f, Rounds spec x n f ∧ roundWithAccuracy spec sign m e acc = ofScaled sign n f := by
  obtain ⟨t, target⟩ : ∃ t, t = spec.targetExponent (totalExponent m e) := ⟨_, rfl⟩
  have reached : e + ((t - e).toNat : Int) = t := by
    have le : e ≤ t := target ▸ placed
    omega
  have shifted : shiftToTargetExponent spec m e acc =
      (ExtendedMantissa.ofMantissaAndAccuracy m acc >>> (t - e).toNat, t) := by
    simp only [shiftToTargetExponent, shiftToExponent, ← target, reached]
  rw [targetExponent_eq] at target
  have least : spec.minExponent ≤ t := by omega
  have units := approx.shiftRight (t - e).toNat
  rw [reached] at units
  obtain ⟨q, kept⟩ : ∃ q, q = m / 2 ^ (t - e).toNat := ⟨_, rfl⟩
  rw [← kept] at units
  have small : q < 2 ^ (spec.mantissaBitsWithoutImplicit + 1) := by
    rw [kept, Nat.div_lt_iff_lt_mul (Nat.two_pow_pos _), ← Nat.pow_add]
    refine lt_of_lt_of_le Nat.lt_log2_self (Nat.pow_le_pow_right Nat.two_pos ?_)
    omega
  have full : 2 ^ spec.mantissaBitsWithoutImplicit ≤ q ∨ t = spec.minExponent := by
    rcases Nat.eq_zero_or_pos m with rfl | positive
    · rw [Nat.log2_zero] at target
      have bits := spec.hm
      omega
    · refine or_iff_not_imp_right.mpr fun higher => ?_
      rw [kept, Nat.le_div_iff_mul_le (Nat.two_pow_pos _), ← Nat.pow_add]
      refine le_trans (Nat.pow_le_pow_right Nat.two_pos ?_) (Nat.log2_self_le positive.ne')
      omega
  have bound := units.up.trans small
  have down := units.down
  rw [roundWithAccuracy_eq shifted rfl bound least]
  split
  case isTrue carried =>
    -- the mantissa was rounded up to a power of two
    have value : scaled (2 ^ spec.mantissaBitsWithoutImplicit) (t + 1) =
        scaled (2 ^ (spec.mantissaBitsWithoutImplicit + 1)) t := (scaled_mul_pow _ 1 t).symm
    rw [carried] at units
    refine ⟨_, _, ⟨⟨?_, by omega, Or.inl (le_refl _)⟩, ?_, ?_⟩, rfl⟩
    · exact Nat.pow_lt_pow_right Nat.one_lt_two (Nat.lt_succ_self _)
    · exact fun canonical le => value ▸ units.below full canonical le
    · exact fun canonical le => value ▸ units.above full canonical le
  case isFalse uncarried =>
    refine ⟨_, _, ⟨⟨lt_of_le_of_ne bound uncarried, least, full.imp_left down.trans'⟩, ?_, ?_⟩, rfl⟩
    · exact fun canonical le => units.below full canonical le
    · exact fun canonical le => units.above full canonical le

/-! ## Integers, products and quotients -/

theorem log2_mul_pow {m : Nat} (positive : 0 < m) (k : Nat) :
    (m * 2 ^ k).log2 = m.log2 + k := by
  rw [Nat.log2_eq_iff (Nat.mul_pos positive (Nat.two_pow_pos k)).ne', Nat.pow_add,
    Nat.add_right_comm, Nat.pow_add]
  exact ⟨Nat.mul_le_mul_right _ (Nat.log2_self_le positive.ne'),
    Nat.mul_lt_mul_of_pos_right Nat.lt_log2_self (Nat.two_pow_pos k)⟩

theorem round_rounds (sign : Sign) {m : Nat} (positive : 0 < m) (e : Int) :
    ∃ n f, Rounds spec (scaled m e) n f ∧
      UnpackedFloat.round spec sign m e = ofScaled sign n f := by
  obtain ⟨k, shift⟩ : ∃ k, k = (e - spec.targetExponent (totalExponent m e)).toNat := ⟨_, rfl⟩
  have placed : Placed spec (m * 2 ^ k) (e - k) := by
    rw [targetExponent_eq] at shift
    rw [Placed, targetExponent_eq, log2_mul_pow positive]
    push_cast
    omega
  have same : scaled (m * 2 ^ k) (e - k) = scaled m e := by
    rw [scaled_mul_pow, Int.sub_add_cancel]
  have shifted : UnpackedFloat.round spec sign m e =
      roundWithAccuracy spec sign (m * 2 ^ k) (e - k) .exact := by
    rw [UnpackedFloat.round, decreaseExponent, ← shift, Nat.shiftLeft_eq]
  rw [shifted, ← same]
  exact roundWithAccuracy_rounds sign (approximates_scaled _ _) placed

theorem minExponent_nonpos (spec : Format) : spec.minExponent ≤ 0 := by
  have bits := spec.hm
  have positive : (0 : Int) < 2 ^ (spec.exponentBits - 1) := by positivity
  rw [Format.minExponent, Format.mantissaBits]
  omega

theorem Canonical.mul_placed {m n : Nat} {e f : Int} (left : Canonical spec m e)
    (right : Canonical spec n f) (leftPos : 0 < m) (rightPos : 0 < n) :
    Placed spec (m * n) (e + f) := by
  have bits : 2 ^ spec.mantissaBitsWithoutImplicit ≤ m * n → Placed spec (m * n) (e + f) := by
    intro many
    have enough := (Nat.le_log2 (Nat.mul_pos leftPos rightPos).ne').mpr many
    rw [Placed, targetExponent_eq]
    omega
  rcases left.normal with normal | leftLeast
  · exact bits (normal.trans (Nat.le_mul_of_pos_right m rightPos))
  rcases right.normal with normal | rightLeast
  · exact bits (normal.trans (Nat.le_mul_of_pos_left n leftPos))
  · have nonpos := minExponent_nonpos spec
    rw [Placed, targetExponent_eq]
    omega

theorem scaled_div {m n : Nat} {e f t : Int} (same : e = t + f) :
    scaled m e / scaled n f = m / n * 2 ^ t := by
  rw [scaled, scaled, same, zpow_add₀ two_ne_zero]
  have positive : (0 : ℚ) < 2 ^ f := by positivity
  rw [← mul_assoc, mul_div_mul_right _ _ positive.ne', mul_div_right_comm]

theorem approximates_div {m n : Nat} {e f t : Int} (positive : 0 < n) (same : e = t + f) :
    Approximates (scaled m e / scaled n f) (m / n) t (accuracyOfFraction (m % n) n) := by
  have unit : (0 : ℚ) < 2 ^ t := by positivity
  have divisor : (0 : ℚ) < n := Nat.cast_pos.mpr positive
  rw [scaled_div same]
  refine ⟨mul_le_mul_of_nonneg_right Nat.cast_div_le unit.le, ?_, ?_⟩
  · refine mul_lt_mul_of_pos_right ?_ unit
    rw [div_lt_iff₀ divisor]
    exact_mod_cast (Nat.mul_comm n _ ▸ Nat.lt_mul_div_succ m positive)
  · intro exact
    have whole : (m : ℚ) / n = (m / n : Nat) := mul_right_cancel₀ unit.ne' exact
    have product : m = m / n * n := by
      rw [div_eq_iff divisor.ne'] at whole
      exact_mod_cast whole
    have remainder : m % n = 0 := Nat.mod_eq_zero_of_dvd (Dvd.intro_left _ product.symm)
    rw [accuracyOfFraction, if_pos remainder]

theorem log2_sub_le_log2_div {m n k : Nat} (mPos : 0 < m) (nPos : 0 < n)
    (enough : n.log2 + 1 + k ≤ m.log2) : k ≤ (m / n).log2 := by
  have many : 2 ^ k ≤ m / n := by
    rw [Nat.le_div_iff_mul_le nPos]
    calc 2 ^ k * n ≤ 2 ^ k * 2 ^ (n.log2 + 1) := Nat.mul_le_mul_left _ Nat.lt_log2_self.le
      _ = 2 ^ (n.log2 + 1 + k) := by rw [Nat.mul_comm, ← Nat.pow_add]
      _ ≤ 2 ^ m.log2 := Nat.pow_le_pow_right Nat.two_pos enough
      _ ≤ m := Nat.log2_self_le mPos.ne'
  exact (Nat.le_log2 (lt_of_lt_of_le (Nat.two_pow_pos k) many).ne').mpr many

/-- What `divCore` returns approximates the quotient, with enough bits. -/
theorem divCore_approximates {m n : Nat} {e f : Int} (mPos : 0 < m) (nPos : 0 < n) {q : Nat}
    {t : Int} {acc : Accuracy} (core : divCore spec m e n f = (q, t, acc)) :
    Approximates (scaled m e / scaled n f) q t acc ∧ Placed spec q t := by
  obtain ⟨shift, shifted⟩ : ∃ shift, shift = (e - f - t).toNat := ⟨_, rfl⟩
  have target : t = min (e - f)
      (spec.targetExponent (totalExponent m e - totalExponent n f)) :=
    (congrArg (fun result => result.2.1) core).symm
  have quotient : q = m * 2 ^ shift / n := by
    rw [shifted, target, ← Nat.shiftLeft_eq]
    exact (congrArg Prod.fst core).symm
  have accuracy : acc = accuracyOfFraction (m * 2 ^ shift % n) n := by
    rw [shifted, target, ← Nat.shiftLeft_eq]
    exact (congrArg (fun result => result.2.2) core).symm
  have same : scaled m e = scaled (m * 2 ^ shift) (t + f) := by
    rw [scaled_mul_pow]
    congr 1
    omega
  rw [same, quotient, accuracy]
  refine ⟨approximates_div nPos rfl, ?_⟩
  rw [Format.targetExponent, totalExponent, totalExponent, Format.mantissaBits] at target
  rw [Placed, targetExponent_eq]
  rcases le_or_gt t spec.minExponent with lowest | higher
  · omega
  · have bits : spec.mantissaBitsWithoutImplicit ≤ (m * 2 ^ shift / n).log2 := by
      apply log2_sub_le_log2_div (Nat.mul_pos mPos (Nat.two_pow_pos shift)) nPos
      rw [log2_mul_pow mPos]
      omega
    omega

end Formats

end Numeric
