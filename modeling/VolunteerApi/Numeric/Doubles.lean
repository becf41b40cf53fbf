import VolunteerApi.Numeric.Rounding

/-!
# Doubles

The numbers that a `Float` can be, and what its operations make of them: a product or quotient is
the exact one, rounded, and no double lies between the two.
-/

set_option autoImplicit false

namespace Numeric

open Float.Model Float.Model.UnpackedFloat

/-! ## Packing -/

/-- The mantissa and exponent of a finite double. -/
structure DoubleForm (m : Nat) (e : Int) : Prop where
  canonical : Canonical .binary64 m e
  fits : e ≤ 971

theorem DoubleForm.small {m : Nat} {e : Int} (form : DoubleForm m e) : m < 2 ^ 53 :=
  form.canonical.small

theorem DoubleForm.least {m : Nat} {e : Int} (form : DoubleForm m e) : -1074 ≤ e :=
  form.canonical.least

theorem DoubleForm.normal {m : Nat} {e : Int} (form : DoubleForm m e) :
    2 ^ 52 ≤ m ∨ e = -1074 := form.canonical.normal

def Packable : UnpackedFloat → Prop
  | .finite _ m e _ => DoubleForm m e
  | _ => True

theorem ofBitVec_unpackSign {spec : Format} (sign : Sign) (exponent : BitVec spec.exponentBits)
    (mantissa : BitVec spec.mantissaBitsWithoutImplicit) :
    Sign.ofBitVec (unpackSign (packComponents spec sign exponent mantissa)) = sign := by
  have bits : unpackSign (packComponents spec sign exponent mantissa) = sign.toBitVec := by
    ext i inside
    obtain rfl : i = 0 := by omega
    simp [unpackSign, packComponents, BitVec.getLsbD_append, BitVec.getElem_append]
  rw [bits]
  cases sign <;> rfl

theorem toNat_one_append (mantissa : BitVec 52) :
    (1#1 ++ mantissa).toNat = 2 ^ 52 + mantissa.toNat := by
  rw [BitVec.toNat_append, ← Nat.shiftLeft_add_eq_or_of_lt mantissa.isLt]
  rfl

/-- A double whose exponent is neither all ones nor zero. -/
theorem unpack_normal (sign : Sign) {exponent : BitVec 11} (mantissa : BitVec 52)
    (finite : exponent ≠ -1#11) (normal : exponent ≠ 0#11) :
    UnpackedFloat.unpack .binary64 (packComponents .binary64 sign exponent mantissa) =
      .finite sign (2 ^ 52 + mantissa.toNat) (exponent.toNat - 1075)
        (Nat.add_pos_left (Nat.two_pow_pos 52) _) := by
  rw [UnpackedFloat.unpack]
  simp only [unpackExponent_packComponents, unpackMantissa_packComponents, ofBitVec_unpackSign,
    if_neg finite, if_neg normal, toNat_one_append]
  rfl

theorem unpack_subnormal (sign : Sign) {mantissa : BitVec 52} (positive : 0 < mantissa.toNat) :
    UnpackedFloat.unpack .binary64 (packComponents .binary64 sign 0#11 mantissa) =
      .finite sign mantissa.toNat (-1074) positive := by
  have nonzero : mantissa ≠ 0#52 := by
    rintro rfl
    exact absurd positive (lt_irrefl 0)
  have finite : ¬ (0#11 : BitVec 11) = -1#11 := by decide
  rw [UnpackedFloat.unpack]
  simp only [unpackExponent_packComponents, unpackMantissa_packComponents, ofBitVec_unpackSign,
    if_neg finite, dif_neg nonzero]
  rfl

theorem unpack_pack_finite (sign : Sign) {m : Nat} {e : Int} (positive : 0 < m)
    (form : DoubleForm m e) :
    UnpackedFloat.unpack .binary64 (UnpackedFloat.pack .binary64 (.finite sign m e positive)) =
      .finite sign m e positive := by
  have small := form.small
  have least := form.least
  have fits := form.fits
  obtain ⟨biased, shift⟩ : ∃ biased : Nat, biased = (e + 1023 + 52).toNat := ⟨_, rfl⟩
  have packed : UnpackedFloat.pack .binary64 (.finite sign m e positive) =
      if m.log2 + 1 = 53 then
        packComponents .binary64 sign (BitVec.ofNat 11 biased) (BitVec.ofNat 52 m)
      else packComponents .binary64 sign 0#11 (BitVec.ofNat 52 m) := by
    have finite : ¬ 2 ^ 11 ≤ (e + 1023 + 52).toNat + 1 := by omega
    rw [shift]
    exact if_neg finite
  have exponent : (BitVec.ofNat 11 biased).toNat = biased := by
    rw [BitVec.toNat_ofNat]
    omega
  rw [packed]
  by_cases normal : 2 ^ 52 ≤ m
  · have bits : m.log2 = 52 := (Nat.log2_eq_iff positive.ne').mpr ⟨normal, small⟩
    have finite : BitVec.ofNat 11 biased ≠ -1#11 := by
      intro same
      have ones : biased = 2047 := exponent ▸ congrArg BitVec.toNat same
      omega
    have nonzero : BitVec.ofNat 11 biased ≠ 0#11 := by
      intro same
      have zero : biased = 0 := exponent ▸ congrArg BitVec.toNat same
      omega
    rw [if_pos (by omega), unpack_normal sign _ finite nonzero, UnpackedFloat.finite.injEq,
      exponent, BitVec.toNat_ofNat]
    refine ⟨rfl, ?_, ?_⟩ <;> omega
  · have bits : m.log2 < 52 := (Nat.log2_lt positive.ne').mpr (not_le.mp normal)
    have mantissa : (BitVec.ofNat 52 m).toNat = m := by
      rw [BitVec.toNat_ofNat]
      omega
    have lowest := form.normal.resolve_left normal
    rw [if_neg (by omega), unpack_subnormal sign (mantissa.symm ▸ positive),
      UnpackedFloat.finite.injEq]
    exact ⟨rfl, mantissa, lowest.symm⟩

theorem unpack_pack {u : UnpackedFloat} (packable : Packable u) :
    (Float.Model.pack u).unpack = u := by
  show UnpackedFloat.unpack .binary64 (UnpackedFloat.pack .binary64 u) = u
  match u, packable with
  | .notANumber, _ => rfl
  | .infinity .positive, _ => rfl
  | .infinity .negative, _ => rfl
  | .zero .positive, _ => rfl
  | .zero .negative, _ => rfl
  | .finite sign m e positive, form => exact unpack_pack_finite sign positive form

theorem doubleForm_subnormal (mantissa : BitVec 52) : DoubleForm mantissa.toNat (-1074) where
  canonical := ⟨lt_trans mantissa.isLt (by decide), le_refl _, Or.inr rfl⟩
  fits := by decide

theorem doubleForm_normal (mantissa : BitVec 52) {exponent : BitVec 11}
    (finite : exponent ≠ -1#11) (normal : exponent ≠ 0#11) :
    DoubleForm (2 ^ 52 + mantissa.toNat) (exponent.toNat - 1075) := by
  have bits := exponent.isLt
  have notOnes : exponent.toNat ≠ 2047 := fun ones => finite (BitVec.eq_of_toNat_eq ones)
  have positive : exponent.toNat ≠ 0 := fun zero => normal (BitVec.eq_of_toNat_eq zero)
  have least : (-1074 : Int) ≤ exponent.toNat - 1075 := by omega
  have small : 2 ^ 52 + mantissa.toNat < 2 ^ 53 := by
    have below := mantissa.isLt
    omega
  exact ⟨⟨small, least, Or.inl (Nat.le_add_right _ _)⟩, by omega⟩

theorem packable_unpack (a : Float.Model) : Packable a.unpack := by
  show Packable (UnpackedFloat.unpack .binary64 a.toBits.toBitVec)
  rw [UnpackedFloat.unpack]
  dsimp only
  split
  · split <;> trivial
  · rename_i finite
    split
    · rename_i zero
      split
      · trivial
      · show DoubleForm _ ((unpackExponent _).toNat - 1075 + 1)
        rw [zero]
        exact doubleForm_subnormal _
    · rename_i normal
      show DoubleForm (1#1 ++ unpackMantissa _).toNat ((unpackExponent _).toNat - 1075)
      rw [toNat_one_append]
      exact doubleForm_normal _ finite normal

/-! ## Values -/

def signed : Sign → ℚ → ℚ
  | .negative, x => -x
  | .positive, x => x

/-- The number that a float is; an infinity and a NaN are none. -/
def unpackedValue : UnpackedFloat → Option ℚ
  | .zero _ => some 0
  | .finite sign m e _ => some (signed sign (scaled m e))
  | _ => none

def value (a : Float) : Option ℚ := unpackedValue a.toModel.unpack

/-- The numbers that doubles are. -/
def IsDouble (x : ℚ) : Prop := ∃ m e, DoubleForm m e ∧ |x| = scaled m e

theorem IsDouble.neg {x : ℚ} (double : IsDouble x) : IsDouble (-x) := by
  rwa [IsDouble, abs_neg]

theorem isDouble_zero : IsDouble 0 := by
  refine ⟨0, Format.binary64.minExponent, ⟨canonical_zero, by decide⟩, ?_⟩
  rw [abs_zero, scaled_zero]

theorem isDouble_natCast {n : Nat} (small : n < 2 ^ 53) : IsDouble n := by
  rcases Nat.eq_zero_or_pos n with rfl | positive
  · exact_mod_cast isDouble_zero
  have bits : n.log2 ≤ 52 := log2_le_of_lt small
  have normal : 2 ^ 52 ≤ n * 2 ^ (52 - n.log2) := by
    rw [← Nat.le_log2 (Nat.mul_pos positive (Nat.two_pow_pos _)).ne', log2_mul_pow positive]
    omega
  have fitting : n * 2 ^ (52 - n.log2) < 2 ^ 53 := by
    rw [← Nat.log2_lt (Nat.mul_pos positive (Nat.two_pow_pos _)).ne', log2_mul_pow positive]
    omega
  have least : (-1074 : Int) ≤ n.log2 - 52 := by omega
  refine ⟨_, n.log2 - 52, ⟨⟨fitting, least, Or.inl normal⟩, by omega⟩, ?_⟩
  rw [scaled_mul_pow, Nat.abs_cast]
  have unit : (n.log2 - 52 + ((52 - n.log2 : Nat) : Int)) = 0 := by omega
  rw [unit, scaled, zpow_zero, mul_one]

theorem abs_signed (sign : Sign) (x : ℚ) : |signed sign x| = |x| := by
  cases sign with
  | negative => exact abs_neg x
  | positive => rfl

theorem abs_signed_scaled (sign : Sign) (m : Nat) (e : Int) :
    |signed sign (scaled m e)| = scaled m e := by
  rw [abs_signed, abs_of_nonneg (scaled_nonneg m e)]

theorem signed_mul : ∀ (left right : Sign) (x y : ℚ),
    signed left x * signed right y = signed (left * right) (x * y)
  | .negative, .negative, x, y => neg_mul_neg x y
  | .negative, .positive, x, y => neg_mul x y
  | .positive, .negative, x, y => mul_neg x y
  | .positive, .positive, _, _ => rfl

theorem signed_div : ∀ (left right : Sign) (x y : ℚ),
    signed left x / signed right y = signed (left / right) (x / y)
  | .negative, .negative, x, y => neg_div_neg_eq x y
  | .negative, .positive, x, y => neg_div y x
  | .positive, .negative, x, _ => div_neg x
  | .positive, .positive, _, _ => rfl

/-- A float that is a number is a zero or has a mantissa. -/
theorem unpackedValue_cases {u : UnpackedFloat} (packable : Packable u) {x : ℚ}
    (same : unpackedValue u = some x) :
    (∃ sign, u = .zero sign ∧ x = 0) ∨
      ∃ sign m e positive, u = .finite sign m e positive ∧ DoubleForm m e ∧
        x = signed sign (scaled m e) := by
  cases u with
  | notANumber => cases same
  | infinity sign => cases same
  | zero sign =>
      cases same
      exact Or.inl ⟨sign, rfl, rfl⟩
  | finite sign m e positive =>
      cases same
      exact Or.inr ⟨sign, m, e, positive, rfl, packable, rfl⟩

theorem isDouble_of_value {a : Float} {x : ℚ} (same : value a = some x) : IsDouble x := by
  rcases unpackedValue_cases (packable_unpack a.toModel) same with
    ⟨_, _, rfl⟩ | ⟨sign, m, e, _, _, form, rfl⟩
  · exact isDouble_zero
  · exact ⟨m, e, form, abs_signed_scaled sign m e⟩

/-! ## Rounded results -/

/-- The double `z` is what `x` is rounded to: no double lies between them. -/
structure RoundedTo (x z : ℚ) : Prop where
  double : IsDouble z
  below : ∀ {c}, IsDouble c → x ≤ c → z ≤ c
  above : ∀ {c}, IsDouble c → c ≤ x → c ≤ z

theorem RoundedTo.neg {x z : ℚ} (rounded : RoundedTo x z) : RoundedTo (-x) (-z) where
  double := rounded.double.neg
  below double le := neg_le.mp (rounded.above double.neg (neg_le.mp le))
  above double le := le_neg.mp (rounded.below double.neg (le_neg.mp le))

theorem RoundedTo.signed {x z : ℚ} (rounded : RoundedTo x z) (sign : Sign) :
    RoundedTo (signed sign x) (signed sign z) := by
  cases sign with
  | negative => exact rounded.neg
  | positive => exact rounded

/-- A double is rounded to itself. -/
theorem RoundedTo.eq_of_double {x z : ℚ} (rounded : RoundedTo x z) (double : IsDouble x) :
    z = x :=
  le_antisymm (rounded.below double (le_refl x)) (rounded.above double (le_refl x))

theorem roundedTo_zero : RoundedTo 0 0 where
  double := isDouble_zero
  below _ le := le
  above _ le := le

theorem DoubleForm.eq_of_nonneg {c : ℚ} (double : IsDouble c) (nonneg : 0 ≤ c) :
    ∃ m e, DoubleForm m e ∧ c = scaled m e := by
  obtain ⟨m, e, form, same⟩ := double
  exact ⟨m, e, form, abs_of_nonneg nonneg ▸ same⟩

/-- Below a double, rounding does not overflow. -/
theorem doubleForm_of_rounds {x c : ℚ} {m : Nat} {e : Int} (rounds : Rounds .binary64 x m e)
    (double : IsDouble c) (nonneg : 0 ≤ x) (le : x ≤ c) : DoubleForm m e := by
  obtain ⟨n, f, form, rfl⟩ := DoubleForm.eq_of_nonneg double (nonneg.trans le)
  refine ⟨rounds.canonical, ?_⟩
  by_contra larger
  have exponents : f < e := lt_of_le_of_lt form.fits (not_le.mp larger)
  exact absurd (rounds.below form.canonical le)
    (not_le.mpr (form.canonical.lt_of_exponent_lt rounds.canonical exponents))

theorem roundedTo_of_rounds {x : ℚ} {m : Nat} {e : Int} (rounds : Rounds .binary64 x m e)
    (form : DoubleForm m e) (nonneg : 0 ≤ x) : RoundedTo x (scaled m e) where
  double := ⟨m, e, form, abs_of_nonneg (scaled_nonneg m e)⟩
  below double le := by
    obtain ⟨n, f, other, rfl⟩ := DoubleForm.eq_of_nonneg double (nonneg.trans le)
    exact rounds.below other.canonical le
  above := by
    intro c double le
    rcases le_total c 0 with negative | positive
    · exact negative.trans (scaled_nonneg m e)
    · obtain ⟨n, f, other, rfl⟩ := DoubleForm.eq_of_nonneg double positive
      exact rounds.above other.canonical le

theorem packable_ofScaled (sign : Sign) {m : Nat} {e : Int} (form : DoubleForm m e) :
    Packable (ofScaled sign m e) := by
  unfold ofScaled
  split
  · trivial
  · exact form

theorem unpackedValue_ofScaled (sign : Sign) (m : Nat) (e : Int) :
    unpackedValue (ofScaled sign m e) = some (signed sign (scaled m e)) := by
  unfold ofScaled
  split
  case isTrue zero =>
    rw [zero, scaled_zero]
    cases sign with
    | negative => exact congrArg some neg_zero.symm
    | positive => rfl
  case isFalse => rfl

theorem value_of_packed {result : Float} {u : UnpackedFloat}
    (packed : result.toModel = Float.Model.pack u) (packable : Packable u) :
    value result = unpackedValue u := by
  rw [value, packed, unpack_pack packable]

/-- The value of a result that was rounded and packed. -/
theorem value_packed {result : Float} {u : UnpackedFloat} {sign : Sign} {x c : ℚ}
    (packed : result.toModel = Float.Model.pack u)
    (rounded : ∃ m e, Rounds .binary64 x m e ∧ u = ofScaled sign m e) (nonneg : 0 ≤ x)
    (double : IsDouble c) (le : x ≤ c) :
    ∃ z, value result = some z ∧ RoundedTo (signed sign x) z := by
  obtain ⟨m, e, rounds, rfl⟩ := rounded
  have form := doubleForm_of_rounds rounds double nonneg le
  refine ⟨signed sign (scaled m e), ?_, (roundedTo_of_rounds rounds form nonneg).signed sign⟩
  rw [value_of_packed packed (packable_ofScaled sign form), unpackedValue_ofScaled]

/-! ## Operations -/

/-- A product is the exact one rounded, unless it overflows. -/
theorem value_mul {a b : Float} {x y c : ℚ} (left : value a = some x) (right : value b = some y)
    (double : IsDouble c) (le : |x * y| ≤ c) :
    ∃ z, value (a * b) = some z ∧ RoundedTo (x * y) z := by
  have packed : (a * b).toModel =
      Float.Model.pack (UnpackedFloat.mul .binary64 a.toModel.unpack b.toModel.unpack) := rfl
  have ofZero : ∀ sign, UnpackedFloat.mul .binary64 a.toModel.unpack b.toModel.unpack =
      .zero sign → x * y = 0 → ∃ z, value (a * b) = some z ∧ RoundedTo (x * y) z := by
    intro sign same zero
    refine ⟨0, ?_, zero.symm ▸ roundedTo_zero⟩
    exact value_of_packed (u := .zero sign) (packed.trans (congrArg _ same)) trivial
  rcases unpackedValue_cases (packable_unpack a.toModel) left with
    ⟨s, leftIs, zero⟩ | ⟨s, m, e, mPos, leftIs, leftForm, rfl⟩
  · rcases unpackedValue_cases (packable_unpack b.toModel) right with
      ⟨t, rightIs, _⟩ | ⟨t, n, f, nPos, rightIs, _, _⟩
    · exact ofZero (s * t) (by rw [leftIs, rightIs]; rfl) (by rw [zero, zero_mul])
    · exact ofZero (s * t) (by rw [leftIs, rightIs]; rfl) (by rw [zero, zero_mul])
  · rcases unpackedValue_cases (packable_unpack b.toModel) right with
      ⟨t, rightIs, zero⟩ | ⟨t, n, f, nPos, rightIs, rightForm, rfl⟩
    · exact ofZero (s * t) (by rw [leftIs, rightIs]; rfl) (by rw [zero, mul_zero])
    · rw [signed_mul, scaled_mul] at le ⊢
      rw [abs_signed_scaled] at le
      have product : UnpackedFloat.mul .binary64 a.toModel.unpack b.toModel.unpack =
          roundWithAccuracy .binary64 (s * t) (m * n) (e + f) .exact := by
        rw [leftIs, rightIs]
        rfl
      have rounded := roundWithAccuracy_rounds (s * t) (approximates_scaled (m * n) (e + f))
        (leftForm.canonical.mul_placed rightForm.canonical mPos nPos)
      exact value_packed packed (product ▸ rounded) (scaled_nonneg _ _) double le

theorem value_mul_exact {a b : Float} {x y : ℚ} (left : value a = some x)
    (right : value b = some y) (double : IsDouble (x * y)) : value (a * b) = some (x * y) := by
  have bound : IsDouble |x * y| := by rwa [IsDouble, abs_abs]
  obtain ⟨z, result, rounded⟩ := value_mul left right bound (le_refl _)
  rw [result, rounded.eq_of_double double]

/-- A quotient is the exact one rounded, unless it overflows. -/
theorem value_div {a b : Float} {x y c : ℚ} (left : value a = some x) (right : value b = some y)
    (nonzero : y ≠ 0) (double : IsDouble c) (le : |x / y| ≤ c) :
    ∃ z, value (a / b) = some z ∧ RoundedTo (x / y) z := by
  have packed : (a / b).toModel =
      Float.Model.pack (UnpackedFloat.div .binary64 a.toModel.unpack b.toModel.unpack) := rfl
  rcases unpackedValue_cases (packable_unpack b.toModel) right with
    ⟨t, rightIs, zero⟩ | ⟨t, n, f, nPos, rightIs, rightForm, rfl⟩
  · exact absurd zero nonzero
  rcases unpackedValue_cases (packable_unpack a.toModel) left with
    ⟨s, leftIs, rfl⟩ | ⟨s, m, e, mPos, leftIs, leftForm, rfl⟩
  · have quotient : UnpackedFloat.div .binary64 a.toModel.unpack b.toModel.unpack =
        .zero (s / t) := by
      rw [leftIs, rightIs]
      rfl
    refine ⟨0, ?_, (zero_div (signed t (scaled n f))).symm ▸ roundedTo_zero⟩
    exact value_of_packed (u := .zero (s / t)) (packed.trans (congrArg _ quotient)) trivial
  · rw [signed_div] at le ⊢
    have nonneg : 0 ≤ scaled m e / scaled n f := div_nonneg (scaled_nonneg m e) (scaled_nonneg n f)
    rw [abs_signed, abs_of_nonneg nonneg] at le
    have core : divCore .binary64 m e n f = (_, _, _) := rfl
    obtain ⟨approx, placed⟩ := divCore_approximates mPos nPos core
    have quotient : UnpackedFloat.div .binary64 a.toModel.unpack b.toModel.unpack =
        roundWithAccuracy .binary64 (s / t) (divCore .binary64 m e n f).1
          (divCore .binary64 m e n f).2.1 (divCore .binary64 m e n f).2.2 := by
      rw [leftIs, rightIs]
      rfl
    have rounded := roundWithAccuracy_rounds (s / t) approx placed
    exact value_packed packed (quotient ▸ rounded) nonneg double le

/-! ## Integers -/

theorem scaled_exponent_zero (m : Nat) : scaled m 0 = m := by
  rw [scaled, zpow_zero, mul_one]

theorem value_toFloat {n : UInt64} (small : n.toNat < 2 ^ 53) :
    value n.toFloat = some (n.toNat : ℚ) := by
  have packed : n.toFloat.toModel =
      Float.Model.pack (UnpackedFloat.normalize .binary64 (n.toNat : Int) 0 .positive) := rfl
  rcases Nat.eq_zero_or_pos n.toNat with zero | positive
  · have nothing : UnpackedFloat.normalize .binary64 (n.toNat : Int) 0 .positive =
        .zero .positive := by
      rw [zero]
      rfl
    rw [value_of_packed (u := .zero .positive) (packed.trans (congrArg _ nothing)) trivial, zero]
    rfl
  · have greater : compare (n.toNat : Int) 0 = .gt :=
      compare_gt_iff_gt.mpr (Int.natCast_pos.mpr positive)
    have rounds : UnpackedFloat.normalize .binary64 (n.toNat : Int) 0 .positive =
        UnpackedFloat.round .binary64 .positive n.toNat 0 := by
      rw [UnpackedFloat.normalize, greater, Int.toNat_natCast]
    have double := isDouble_natCast small
    obtain ⟨z, result, rounded⟩ := value_packed (packed.trans (congrArg _ rounds))
      (round_rounds .positive positive 0) (scaled_nonneg _ 0) double (scaled_exponent_zero _).le
    have exact : z = (n.toNat : ℚ) := by
      rw [signed, scaled_exponent_zero] at rounded
      exact rounded.eq_of_double double
    rw [result, exact]

theorem value_one : value (Float.ofBits 0x3FF0000000000000) = some 1 := by
  have unpacked : (Float.ofBits 0x3FF0000000000000).toModel.unpack =
      .finite .positive (2 ^ 52) (-52) (by decide) := rfl
  rw [value, unpacked, unpackedValue, signed]
  have one : scaled (1 * 2 ^ 52) (-52) = scaled 1 0 := scaled_mul_pow 1 52 (-52)
  rw [← Nat.one_mul (2 ^ 52), one, scaled_exponent_zero, Nat.cast_one]

theorem value_ofNat {n : Nat} (small : n < 2 ^ 53) : value (Float.ofNat n) = some (n : ℚ) := by
  have fast : Float.ofNat n = n.toUInt64.toFloat * Float.ofBits 0x3FF0000000000000 :=
    dif_pos (⟨small, Nat.zero_le 22⟩ : n < 2 ^ 53 ∧ 0 ≤ 22)
  have kept : n.toUInt64.toNat = n := by
    rw [UInt64.toNat_ofNat']
    omega
  have left : value n.toUInt64.toFloat = some (n : ℚ) := by
    rw [value_toFloat (by omega), kept]
  have double : IsDouble ((n : ℚ) * 1) := by
    rw [mul_one]
    exact isDouble_natCast small
  rw [fast, value_mul_exact left value_one double, mul_one]

theorem value_neg {a : Float} {x : ℚ} (same : value a = some x) : value (-a) = some (-x) := by
  have packed : (-a).toModel = Float.Model.pack a.toModel.unpack.neg := rfl
  rcases unpackedValue_cases (packable_unpack a.toModel) same with
    ⟨sign, unpacked, rfl⟩ | ⟨sign, m, e, positive, unpacked, form, rfl⟩
  · rw [unpacked, UnpackedFloat.neg] at packed
    rw [value_of_packed packed trivial, neg_zero, unpackedValue]
  · rw [unpacked, UnpackedFloat.neg] at packed
    rw [value_of_packed packed form, unpackedValue]
    cases sign with
    | negative => exact congrArg some (neg_neg _).symm
    | positive => rfl

theorem value_ofInt {n : Int} (small : n.natAbs < 2 ^ 53) :
    value (Float.ofInt n) = some (n : ℚ) := by
  cases n with
  | ofNat n => exact value_ofNat small
  | negSucc n =>
      rw [Int.cast_negSucc]
      exact value_neg (value_ofNat small)

theorem roundToInt_of_scaled {m n : Nat} {e : Int} (whole : scaled m e = n) (sign : Sign) :
    roundToInt sign m e = sign.apply n := by
  have mantissa : m * 2 ^ e.toNat / 2 ^ (-e).toNat = n := by
    rw [← scaled_exponent_zero] at whole
    rcases le_total 0 e with nonneg | nonpos
    · rw [scaled_of_le nonneg, sub_zero, scaled_inj] at whole
      rw [whole, Int.toNat_of_nonpos (by omega), Nat.pow_zero, Nat.div_one]
    · rw [scaled_of_le nonpos, zero_sub, scaled_inj] at whole
      rw [whole, Int.toNat_of_nonpos nonpos, Nat.pow_zero, Nat.mul_one,
        Nat.mul_div_cancel _ (Nat.two_pow_pos _)]
  have shifts : (0 - (e - ((e - 0).toNat : Int))).toNat = (-e).toNat := by omega
  show sign.apply ((ExtendedMantissa.ofMantissaAndAccuracy (m <<< (e - 0).toNat) .exact >>>
    (0 - (e - ((e - 0).toNat : Int))).toNat).mantissa : Int) = _
  rw [shiftRight_mantissa, ofMantissaAndAccuracy_mantissa, shifts, sub_zero, Nat.shiftLeft_eq,
    mantissa]

theorem toInt_of_value {a : Float} {n : Int} (same : value a = some (n : ℚ)) (low high : Int) :
    a.toModel.unpack.toInt low high = n := by
  rcases unpackedValue_cases (packable_unpack a.toModel) same with
    ⟨sign, unpacked, zero⟩ | ⟨sign, m, e, positive, unpacked, form, whole⟩
  · rw [unpacked]
    exact (Int.cast_eq_zero.mp zero).symm
  · have size : scaled m e = n.natAbs := by
      rw [← abs_signed_scaled sign m e, ← whole, Nat.cast_natAbs, Int.cast_abs]
    rw [unpacked, UnpackedFloat.toInt, roundToInt_of_scaled size]
    rw [size] at whole
    cases sign with
    | negative =>
        have negated : (n : ℚ) = ((-(n.natAbs : Int) : Int) : ℚ) := by
          rw [Int.cast_neg, Int.cast_natCast]
          exact whole
        exact (Int.cast_inj.mp negated).symm
    | positive =>
        have kept : (n : ℚ) = ((n.natAbs : Int) : ℚ) := by
          rw [Int.cast_natCast]
          exact whole
        exact (Int.cast_inj.mp kept).symm

/-! ## Comparisons -/

theorem value_abs {a : Float} {x : ℚ} (same : value a = some x) : value a.abs = some |x| := by
  have packed : a.abs.toModel = Float.Model.pack a.toModel.unpack.abs := rfl
  rcases unpackedValue_cases (packable_unpack a.toModel) same with
    ⟨sign, unpacked, rfl⟩ | ⟨sign, m, e, positive, unpacked, form, rfl⟩
  · rw [unpacked, UnpackedFloat.abs] at packed
    rw [value_of_packed packed trivial, abs_zero, unpackedValue]
  · rw [unpacked, UnpackedFloat.abs] at packed
    rw [value_of_packed packed form, unpackedValue, abs_signed_scaled]
    rfl

theorem compare_scaled {m n : Nat} {e f : Int} (left : DoubleForm m e) (right : DoubleForm n f) :
    (compare e f).then (compare m n) = cmp (scaled m e) (scaled n f) := by
  rcases lt_trichotomy e f with lt | rfl | gt
  · rw [compare_lt_iff_lt.mpr lt,
      (cmp_eq_lt_iff _ _).mpr (left.canonical.lt_of_exponent_lt right.canonical lt)]
    rfl
  · rw [compare_eq_iff_eq.mpr rfl]
    show compare m n = _
    rcases lt_trichotomy m n with lt | rfl | gt
    · rw [compare_lt_iff_lt.mpr lt, (cmp_eq_lt_iff _ _).mpr (scaled_lt_scaled.mpr lt)]
    · rw [compare_eq_iff_eq.mpr rfl, cmp_self_eq_eq]
    · rw [compare_gt_iff_gt.mpr gt, (cmp_eq_gt_iff _ _).mpr (scaled_lt_scaled.mpr gt)]
  · rw [compare_gt_iff_gt.mpr gt,
      (cmp_eq_gt_iff _ _).mpr (right.canonical.lt_of_exponent_lt left.canonical gt)]
    rfl

theorem scaled_pos {m : Nat} (positive : 0 < m) (e : Int) : 0 < scaled m e := by
  have unit : (0 : ℚ) < m := Nat.cast_pos.mpr positive
  unfold scaled
  positivity

theorem cmp_neg_neg (x y : ℚ) : cmp (-x) (-y) = (cmp x y).swap := by
  rw [cmp_swap]
  rcases lt_trichotomy x y with lt | rfl | gt
  · rw [(cmp_eq_gt_iff _ _).mpr (neg_lt_neg lt), (cmp_eq_gt_iff _ _).mpr lt]
  · rw [cmp_self_eq_eq, cmp_self_eq_eq]
  · rw [(cmp_eq_lt_iff _ _).mpr (neg_lt_neg gt), (cmp_eq_lt_iff _ _).mpr gt]

/-- Floats compare as the numbers that they are. -/
theorem compare_value {a b : Float} {x y : ℚ} (left : value a = some x)
    (right : value b = some y) : a.toModel.unpack.compare b.toModel.unpack = some (cmp x y) := by
  rcases unpackedValue_cases (packable_unpack a.toModel) left with
    ⟨s, leftIs, rfl⟩ | ⟨s, m, e, mPos, leftIs, leftForm, rfl⟩ <;>
  rcases unpackedValue_cases (packable_unpack b.toModel) right with
    ⟨t, rightIs, rfl⟩ | ⟨t, n, f, nPos, rightIs, rightForm, rfl⟩
  · rw [leftIs, rightIs, cmp_self_eq_eq]
    rfl
  · have above := scaled_pos nPos f
    rw [leftIs, rightIs]
    cases t with
    | negative => exact congrArg some ((cmp_eq_gt_iff _ _).mpr (neg_lt_zero.mpr above)).symm
    | positive => exact congrArg some ((cmp_eq_lt_iff _ _).mpr above).symm
  · have above := scaled_pos mPos e
    rw [leftIs, rightIs]
    cases s with
    | negative => exact congrArg some ((cmp_eq_lt_iff _ _).mpr (neg_lt_zero.mpr above)).symm
    | positive => exact congrArg some ((cmp_eq_gt_iff _ _).mpr above).symm
  · have leftPos := scaled_pos mPos e
    have rightPos := scaled_pos nPos f
    rw [leftIs, rightIs]
    cases s with
    | negative =>
        cases t with
        | negative =>
            show some ((compare e f).then (compare m n)).swap = some (cmp (-_) (-_))
            rw [cmp_neg_neg, compare_scaled leftForm rightForm]
        | positive =>
            have less := (neg_lt_zero.mpr leftPos).trans rightPos
            exact congrArg some ((cmp_eq_lt_iff _ _).mpr less).symm
    | positive =>
        cases t with
        | negative =>
            have less := (neg_lt_zero.mpr rightPos).trans leftPos
            exact congrArg some ((cmp_eq_gt_iff _ _).mpr less).symm
        | positive => exact congrArg some (compare_scaled leftForm rightForm)

theorem lt_iff_compare (a b : Float) :
    a < b ↔ a.toModel.unpack.compare b.toModel.unpack = some .lt := by
  show decide (a.toModel < b.toModel) = true ↔ _
  rw [decide_eq_true_iff]
  show (a.toModel.unpack.compare b.toModel.unpack == some .lt) = true ↔ _
  rw [beq_iff_eq]

theorem lt_iff_value {a b : Float} {x y : ℚ} (left : value a = some x)
    (right : value b = some y) : a < b ↔ x < y := by
  rw [lt_iff_compare, compare_value left right, Option.some_inj, cmp_eq_lt_iff]

theorem le_iff_value {a b : Float} {x y : ℚ} (left : value a = some x)
    (right : value b = some y) : a ≤ b ↔ x ≤ y := by
  show decide (a.toModel ≤ b.toModel) = true ↔ _
  rw [decide_eq_true_iff]
  show (a.toModel.unpack.compare b.toModel.unpack).any (·.isLE) = true ↔ _
  rw [compare_value left right, Option.any_some, Ordering.isLE_iff_ne_gt]
  exact (not_congr (cmp_eq_gt_iff x y)).trans not_lt

/-! ## Infinities and NaN -/

/-- Nothing is greater than infinity, and nothing compares with a NaN. -/
theorem not_lt_of_unpack {a : Float}
    (outside : a.toModel.unpack = .notANumber ∨ a.toModel.unpack = .infinity .positive)
    (b : Float) : ¬ a < b := by
  rw [lt_iff_compare]
  rcases outside with unpacked | unpacked
  · rw [unpacked]
    rintro ⟨⟩
  · rw [unpacked]
    cases b.toModel.unpack with
    | notANumber => rintro ⟨⟩
    | infinity sign => cases sign <;> rintro ⟨⟩
    | zero sign => rintro ⟨⟩
    | finite sign m e positive => rintro ⟨⟩

theorem value_none_cases {a : Float} (none : value a = none) :
    a.toModel.unpack = .notANumber ∨ ∃ sign, a.toModel.unpack = .infinity sign := by
  unfold value at none
  cases unpacked : a.toModel.unpack with
  | notANumber => exact Or.inl rfl
  | infinity sign => exact Or.inr ⟨sign, rfl⟩
  | zero sign =>
      rw [unpacked] at none
      cases none
  | finite sign m e positive =>
      rw [unpacked] at none
      cases none

/-- No size exceeds that of a float that is not a number. -/
theorem not_abs_lt_of_value_none {a : Float} (none : value a = none) (b : Float) :
    ¬ a.abs < b := by
  have packed : a.abs.toModel = Float.Model.pack a.toModel.unpack.abs := rfl
  apply not_lt_of_unpack
  rw [packed]
  rcases value_none_cases none with unpacked | ⟨sign, unpacked⟩
  · rw [unpacked, UnpackedFloat.abs, unpack_pack (u := .notANumber) trivial]
    exact Or.inl rfl
  · rw [unpacked, UnpackedFloat.abs, unpack_pack (u := .infinity .positive) trivial]
    exact Or.inr rfl

/-- No float exceeds one that is neither negative nor a number. -/
theorem not_lt_of_value_none {a : Float} (none : value a = none) {zero : Float}
    (isZero : value zero = some 0) (nonneg : ¬ a < zero) (b : Float) : ¬ a < b := by
  apply not_lt_of_unpack
  rcases value_none_cases none with unpacked | ⟨sign, unpacked⟩
  · exact Or.inl unpacked
  · cases sign with
    | positive => exact Or.inr unpacked
    | negative =>
        refine absurd ((lt_iff_compare a zero).mpr ?_) nonneg
        rcases unpackedValue_cases (packable_unpack zero.toModel) isZero with
          ⟨_, zeroIs, _⟩ | ⟨_, _, _, _, zeroIs, _, _⟩
        · rw [unpacked, zeroIs]
          rfl
        · rw [unpacked, zeroIs]
          rfl

end Numeric
