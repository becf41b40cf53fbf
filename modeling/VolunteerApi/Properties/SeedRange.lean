import VolunteerApi.Model.SeedNumbers
import VolunteerApi.Numeric.Doubles

/-!
# The range of the seed

After each code unit the hash is a 32-bit integer again, so that its product with 33 is far below
the integers that doubles leave out: the loop computes with doubles what 32-bit words would.  The
ratio is then at most one, and the offset at most the radius, unless the radius is negative.
-/

set_option autoImplicit false

namespace VolunteerApi

open Numeric

/-! ## The hash of 32-bit words -/

def mixWord (hash : BitVec 32) (charCode : BitVec 16) : BitVec 32 :=
  (hash * 33#32) ^^^ charCode.setWidth 32

/-- djb2 with an exclusive or, modulo `2 ^ 32`. -/
def djb2Xor (str : CodeUnits) : BitVec 32 := str.foldl mixWord 5381#32

def maskedSeed (str : CodeUnits) : Nat := (djb2Xor str &&& 0x7fffffff#32).toNat

theorem maskedSeed_le (str : CodeUnits) : maskedSeed str ≤ 2 ^ 31 - 1 := by
  rw [maskedSeed, BitVec.toNat_and]
  exact Nat.and_le_right

/-! ## What is promised of the seed -/

/-- The float is this integer, which is among those that are all doubles. -/
def HoldsInteger (x : Float) (n : Int) : Prop := value x = some (n : ℚ) ∧ |n| ≤ 2 ^ 53

/-- The hash and its product are integers, the product not rounded. -/
def ExactRound (hash : Float) : Prop := ∃ n, HoldsInteger hash n ∧ HoldsInteger (hash * 33) (n * 33)

structure SeedInRange (str : CodeUnits) : Prop where
  exact : ∀ before rest, str = before ++ rest → ExactRound (Numbers.hashOf before)
  seed : Numbers.getSeed str = Float.ofNat (maskedSeed str)
  least : 0 ≤ Numbers.getSeed str
  greatest : Numbers.getSeed str ≤ 0x7fffffff
  ratioLeast : 0 ≤ Numbers.seedRatio str
  ratioGreatest : Numbers.seedRatio str ≤ 1

/-- The offset does not exceed the radius in size, and exceeds at most a negative radius. -/
structure OffsetWithin (str : CodeUnits) (radius : Float) : Prop where
  size : ¬ radius.abs < (Numbers.offsetMeters str radius).abs
  offset : ¬ radius < 0 → ¬ radius < Numbers.offsetMeters str radius

/-! ## Words as Numbers -/

namespace Numbers

theorem toInt_natAbs_le (bits : BitVec 32) : bits.toInt.natAbs ≤ 2 ^ 31 := by
  have lower := BitVec.le_toInt bits
  have upper := BitVec.toInt_lt (x := bits)
  omega

theorem value_ofInt32 (bits : BitVec 32) : value (ofInt32 bits) = some (bits.toInt : ℚ) := by
  have small := toInt_natAbs_le bits
  exact value_ofInt (by omega)

theorem toInt32_of_value {x : Float} {n : Int} (same : value x = some (n : ℚ)) :
    toInt32 x = BitVec.ofInt 32 n := by
  rw [toInt32, toInt_of_value same]

theorem toInt32_ofInt32 (bits : BitVec 32) : toInt32 (ofInt32 bits) = bits := by
  rw [toInt32_of_value (value_ofInt32 bits), BitVec.ofInt_toInt]

theorem toInt32_ofNat {n : Nat} (small : n < 2 ^ 53) :
    toInt32 (Float.ofNat n) = BitVec.ofNat 32 n := by
  rw [toInt32_of_value (n := n) (by exact_mod_cast value_ofNat small), BitVec.ofInt_natCast]

theorem value_product (bits : BitVec 32) :
    value (ofInt32 bits * 33) = some ((bits.toInt * 33 : Int) : ℚ) := by
  have small := toInt_natAbs_le bits
  have double : IsDouble ((bits.toInt : ℚ) * (33 : Nat)) := by
    have whole := isDouble_of_value (value_ofInt (n := bits.toInt * 33) (by omega))
    exact_mod_cast whole
  have times : value 33 = some ((33 : Nat) : ℚ) := value_ofNat (by decide)
  rw [value_mul_exact (value_ofInt32 bits) times double]
  push_cast
  rfl

theorem mixSeed_ofInt32 (hash : BitVec 32) (charCode : BitVec 16) :
    mixSeed (ofInt32 hash) charCode = ofInt32 (mixWord hash charCode) := by
  have product : toInt32 (ofInt32 hash * 33) = hash * 33#32 := by
    rw [toInt32_of_value (value_product hash), BitVec.ofInt_mul, BitVec.ofInt_toInt]
    rfl
  have unit : toInt32 (Float.ofNat charCode.toNat) = charCode.setWidth 32 := by
    have small := charCode.isLt
    rw [toInt32_ofNat (by omega), BitVec.ofNat_toNat]
  rw [mixSeed, bitXor, product, unit, mixWord]

theorem hashOf_eq (str : CodeUnits) : hashOf str = ofInt32 (djb2Xor str) := by
  have run : ∀ hash, str.foldl mixSeed (ofInt32 hash) = ofInt32 (str.foldl mixWord hash) := by
    induction str with
    | nil => exact fun _ => rfl
    | cons charCode rest ih =>
        intro hash
        rw [List.foldl_cons, List.foldl_cons, mixSeed_ofInt32, ih]
  exact run 5381#32

theorem getSeed_eq (str : CodeUnits) : getSeed str = Float.ofNat (maskedSeed str) := by
  have mask : toInt32 0x7fffffff = 0x7fffffff#32 := toInt32_ofNat (by decide)
  have positive : (djb2Xor str &&& 0x7fffffff#32).toInt = (maskedSeed str : Int) := by
    have below : (djb2Xor str &&& 0x7fffffff#32).toNat ≤ 2 ^ 31 - 1 := maskedSeed_le str
    exact BitVec.toInt_eq_toNat_of_lt (by omega)
  rw [getSeed, bitAnd, hashOf_eq, toInt32_ofInt32, mask, ofInt32, positive]
  rfl

theorem exactRound_hashOf (str : CodeUnits) : ExactRound (hashOf str) := by
  have small := toInt_natAbs_le (djb2Xor str)
  rw [hashOf_eq]
  refine ⟨(djb2Xor str).toInt, ⟨value_ofInt32 _, ?_⟩, ⟨value_product _, ?_⟩⟩ <;>
    exact abs_le.mpr ⟨by omega, by omega⟩

theorem value_getSeed (str : CodeUnits) : value (getSeed str) = some (maskedSeed str : ℚ) := by
  have below := maskedSeed_le str
  rw [getSeed_eq, value_ofNat (by omega)]

theorem value_zero : value 0 = some 0 := value_ofNat (by decide)

theorem value_greatest : value 0x7fffffff = some ((2 ^ 31 - 1 : Nat) : ℚ) :=
  value_ofNat (by decide)

/-- The ratio is a number from zero to one. -/
theorem value_seedRatio (str : CodeUnits) :
    ∃ ratio, value (seedRatio str) = some ratio ∧ 0 ≤ ratio ∧ ratio ≤ 1 := by
  have positive : (0 : ℚ) < (2 ^ 31 - 1 : Nat) := by norm_num
  have nonneg : (0 : ℚ) ≤ maskedSeed str / (2 ^ 31 - 1 : Nat) := by positivity
  have atMost : (maskedSeed str : ℚ) / (2 ^ 31 - 1 : Nat) ≤ 1 := by
    rw [div_le_one positive, Nat.cast_le]
    exact maskedSeed_le str
  have one : IsDouble 1 := by exact_mod_cast isDouble_natCast (n := 1) (by decide)
  obtain ⟨ratio, result, rounded⟩ := value_div (value_getSeed str) value_greatest positive.ne' one
    ((abs_of_nonneg nonneg).le.trans atMost)
  exact ⟨ratio, result, rounded.above isDouble_zero nonneg, rounded.below one atMost⟩

/-- With a radius that is a number, so is the offset, and it lies between zero and the radius. -/
theorem value_offsetMeters (str : CodeUnits) {radius : Float} {r : ℚ}
    (given : value radius = some r) :
    ∃ offset, value (offsetMeters str radius) = some offset ∧ |offset| ≤ |r| ∧
      (0 ≤ r → offset ≤ r) := by
  obtain ⟨ratio, result, nonneg, atMost⟩ := value_seedRatio str
  have size : |ratio * r| ≤ |r| := by
    rw [abs_mul, abs_of_nonneg nonneg]
    exact mul_le_of_le_one_left (abs_nonneg r) atMost
  have double : IsDouble |r| := isDouble_of_value (value_abs given)
  obtain ⟨offset, product, rounded⟩ := value_mul result given double size
  refine ⟨offset, product, ?_, ?_⟩
  · rw [abs_le] at size ⊢
    exact ⟨rounded.above double.neg size.1, rounded.below double size.2⟩
  · intro radiusNonneg
    exact rounded.below (isDouble_of_value given) (mul_le_of_le_one_left radiusNonneg atMost)

end Numbers

theorem seedInRange (str : CodeUnits) : SeedInRange str := by
  obtain ⟨ratio, result, nonneg, atMost⟩ := Numbers.value_seedRatio str
  have one : value 1 = some (1 : ℚ) := by exact_mod_cast value_ofNat (n := 1) (by decide)
  refine ⟨fun before _ _ => Numbers.exactRound_hashOf before, Numbers.getSeed_eq str, ?_, ?_, ?_,
    ?_⟩
  · rw [le_iff_value Numbers.value_zero (Numbers.value_getSeed str)]
    exact Nat.cast_nonneg _
  · rw [le_iff_value (Numbers.value_getSeed str) Numbers.value_greatest, Nat.cast_le]
    exact maskedSeed_le str
  · rwa [le_iff_value Numbers.value_zero result]
  · rwa [le_iff_value result one]

theorem offsetWithin (str : CodeUnits) (radius : Float) : OffsetWithin str radius := by
  cases given : value radius with
  | none =>
      exact ⟨not_abs_lt_of_value_none given _,
        fun nonneg => not_lt_of_value_none given Numbers.value_zero nonneg _⟩
  | some r =>
      obtain ⟨offset, result, size, atMost⟩ := Numbers.value_offsetMeters str given
      constructor
      · rw [lt_iff_value (value_abs given) (value_abs result)]
        exact not_lt.mpr size
      · intro nonneg
        rw [lt_iff_value given Numbers.value_zero, not_lt] at nonneg
        rw [lt_iff_value given result]
        exact not_lt.mpr (atMost nonneg)

/-! ## The answers -/

theorem charCodes_lt (c : Char) : ∀ charCode ∈ charCodes c, charCode < 2 ^ 16 := by
  have valid : c.toNat < 0x110000 := by
    rcases c.valid with low | ⟨_, high⟩
    · exact lt_trans low (by decide)
    · exact high
  intro charCode listed
  rw [charCodes] at listed
  split at listed
  · obtain rfl := List.mem_singleton.mp listed
    assumption
  · simp only [List.mem_cons, List.not_mem_nil, or_false] at listed
    omega

theorem ofInt_mixSeed (hash : Int) {charCode : Nat} (small : charCode < 2 ^ 16) :
    BitVec.ofInt 32 (mixSeed hash charCode) =
      mixWord (BitVec.ofInt 32 hash) (BitVec.ofNat 16 charCode) := by
  have unit : (BitVec.ofNat 16 charCode).setWidth 32 = BitVec.ofNat 32 charCode := by
    rw [← BitVec.ofNat_toNat, BitVec.toNat_ofNat, Nat.mod_eq_of_lt small]
  rw [mixSeed, BitVec.ofInt_toInt, BitVec.ofInt_mul, mixWord, unit]
  rfl

/-- The seed that is computed with integers is the one that is computed with Numbers. -/
theorem getSeed_codeUnits (str : String) :
    Numbers.getSeed (codeUnits str) = Float.ofNat (getSeed str) := by
  have run : ∀ charCodes : List Nat, (∀ charCode ∈ charCodes, charCode < 2 ^ 16) →
      ∀ hash : Int, BitVec.ofInt 32 (charCodes.foldl mixSeed hash) =
        (charCodes.map (BitVec.ofNat 16)).foldl mixWord (BitVec.ofInt 32 hash) := by
    intro charCodes small
    induction charCodes with
    | nil => exact fun _ => rfl
    | cons charCode rest ih =>
        intro hash
        rw [List.foldl_cons, List.map_cons, List.foldl_cons,
          ih fun other listed => small other (List.mem_cons_of_mem _ listed),
          ofInt_mixSeed hash (small charCode List.mem_cons_self)]
  have units : ∀ charCode ∈ str.toList.flatMap charCodes, charCode < 2 ^ 16 := by
    intro charCode listed
    obtain ⟨c, _, inside⟩ := List.mem_flatMap.mp listed
    exact charCodes_lt c charCode inside
  rw [Numbers.getSeed_eq, getSeed, run _ units]
  rfl

open RequestsService in
/-- The displacement of an answer is the one with these offsets. -/
theorem displacedLocation_eq (env : LocationEnv) (id : RequestId) (latitude longitude : Int) :
    displacedLocation env id latitude longitude =
      Numbers.displaced (degrees latitude) (degrees longitude)
        (Numbers.seedRatio
          (codeUnits (toString id ++ "angle" ++ env.serverSecretSalt.getD "undefined")) * 2 * pi)
        (Numbers.offsetMeters
          (codeUnits (toString id ++ "offset" ++ env.serverSecretSalt.getD "undefined"))
          env.obfuscationRadiusM) := by
  rw [Numbers.seedRatio, Numbers.offsetMeters, Numbers.seedRatio, getSeed_codeUnits,
    getSeed_codeUnits]
  rfl

/-- The text that is hashed for request 7 with the salt `salt`. -/
def saltedOffset : CodeUnits := codeUnits "7offsetsalt"

theorem seedAndOffset_in_range (str : CodeUnits) (obfuscationRadiusM : Float) :
    SeedInRange str ∧ OffsetWithin str obfuscationRadiusM :=
  ⟨seedInRange str, offsetWithin str obfuscationRadiusM⟩

/-- An offset of 59 metres to the other side exceeds a radius of -100. -/
theorem offset_exceeds_negative_radius :
    ¬ (SeedInRange saltedOffset ∧ ¬ (-100 : Float) < Numbers.offsetMeters saltedOffset (-100)) := by
  have exceeds : (-100 : Float) < Numbers.offsetMeters saltedOffset (-100) := by
    decide +kernel
  exact fun both => both.2 exceeds

end VolunteerApi
