import Mathlib.Data.Int.Log
import Mathlib.Data.Rat.Floor
import Mathlib.Tactic.Linarith
import Mathlib.Tactic.Positivity
import Mathlib.Tactic.FieldSimp
import Mathlib.Tactic.Ring
import Mathlib.Tactic.NormNum

namespace HumanoidSdk.Foundation

/-- A value halfway between two integers goes to the even one. -/
def roundHalfEven (value : ℚ) : ℤ :=
  let low := ⌊value⌋
  if value - low < 1 / 2 then low
  else if 1 / 2 < value - low then low + 1
  else if low % 2 = 0 then low
  else low + 1

/-- Rounding reaches an even integer from one half below it. -/
theorem even_le_roundHalfEven {target : ℤ} (even : target % 2 = 0) (value : ℚ) :
    target ≤ roundHalfEven value ↔ (target : ℚ) - 1 / 2 ≤ value := by
  have below := Int.floor_le value
  have above := Int.lt_floor_add_one value
  unfold roundHalfEven
  generalize ⌊value⌋ = low at below above
  have near : target ≤ low → (target : ℚ) ≤ low := fun within => by exact_mod_cast within
  have far : low + 1 < target → (low : ℚ) + 2 ≤ target := fun beyond => by
    exact_mod_cast (show low + 2 ≤ target by omega)
  rcases lt_trichotomy target (low + 1) with lower | equal | higher
  · have within : target ≤ low := by omega
    have reached := near within
    refine iff_of_true ?_ (by linarith)
    dsimp only
    split_ifs <;> omega
  · have same : (target : ℚ) = low + 1 := by exact_mod_cast equal
    have odd : low % 2 ≠ 0 := by omega
    constructor
    · intro rounded
      by_contra short
      rw [if_pos (by linarith)] at rounded
      omega
    · intro reached
      rw [if_neg (by linarith)]
      split_ifs <;> omega
  · have beyond := far higher
    refine iff_of_false ?_ (by linarith)
    dsimp only
    split_ifs <;> omega

/-- Rounding stays on the same side of an integer. -/
theorem le_roundHalfEven {target : ℤ} {value : ℚ} (reached : (target : ℚ) ≤ value) :
    target ≤ roundHalfEven value := by
  have floor : target ≤ ⌊value⌋ := Int.le_floor.mpr reached
  unfold roundHalfEven
  dsimp only
  split_ifs <;> omega

theorem roundHalfEven_le {target : ℤ} {value : ℚ} (short : value ≤ target) :
    roundHalfEven value ≤ target := by
  have below := Int.floor_le value
  have floor : ⌊value⌋ ≤ target := by exact_mod_cast below.trans short
  unfold roundHalfEven
  dsimp only
  rcases floor.lt_or_eq with lower | equal
  · split_ifs <;> omega
  · have same : (⌊value⌋ : ℚ) = target := by exact_mod_cast equal
    rw [if_pos (by linarith)]
    exact floor

/-- Rounding to integers keeps the order. -/
theorem roundHalfEven_mono {first second : ℚ} (ordered : first ≤ second) :
    roundHalfEven first ≤ roundHalfEven second := by
  have floors := Int.floor_mono ordered
  rcases floors.lt_or_eq with apart | same
  · have upper : roundHalfEven first ≤ ⌊first⌋ + 1 := roundHalfEven_le (by
      exact_mod_cast (Int.lt_floor_add_one first).le)
    have lower : ⌊second⌋ ≤ roundHalfEven second := le_roundHalfEven (Int.floor_le second)
    omega
  · unfold roundHalfEven
    rw [same]
    dsimp only
    split_ifs <;> first | omega | linarith

/-- A binary format has so many digits and a least exponent of its last digit. -/
structure BinaryFormat where
  digits : ℕ
  least : ℤ
  positive : 0 < digits

namespace BinaryFormat

variable (format : BinaryFormat)

/-- The exponent of the last digit of a number of this size. -/
def lastPlace (size : ℚ) : ℤ := max (Int.log 2 size + 1 - format.digits) format.least

/-- The size of a rounded number is the nearest multiple of its last place. -/
def roundSize (size : ℚ) : ℚ := roundHalfEven (size / 2 ^ format.lastPlace size) * 2 ^ format.lastPlace size

def round (value : ℚ) : ℚ := if value < 0 then -format.roundSize (-value) else format.roundSize value

variable {format}

/-- A power of two from the last place on is a whole number of last places. -/
theorem power_div {place exponent : ℤ} (within : place ≤ exponent) :
    (2 : ℚ) ^ exponent / 2 ^ place = ((2 ^ (exponent - place).toNat : ℤ) : ℚ) := by
  rw [← zpow_sub₀ two_ne_zero, Int.cast_pow, Int.cast_ofNat, ← zpow_natCast,
    Int.toNat_of_nonneg (Int.sub_nonneg.mpr within)]

/-- Rounding keeps a number on its side of a power of two. -/
theorem power_le_roundSize {size : ℚ} {exponent : ℤ} (within : format.lastPlace size ≤ exponent)
    (reached : (2 : ℚ) ^ exponent ≤ size) : (2 : ℚ) ^ exponent ≤ format.roundSize size := by
  have place : (0 : ℚ) < 2 ^ format.lastPlace size := zpow_pos two_pos _
  have scaled := le_roundHalfEven (power_div within ▸ (div_le_div_iff_of_pos_right place).mpr reached)
  rw [roundSize, ← div_le_iff₀ place, power_div within]
  exact_mod_cast scaled

theorem roundSize_le_power {size : ℚ} {exponent : ℤ} (within : format.lastPlace size ≤ exponent)
    (short : size ≤ (2 : ℚ) ^ exponent) : format.roundSize size ≤ (2 : ℚ) ^ exponent := by
  have place : (0 : ℚ) < 2 ^ format.lastPlace size := zpow_pos two_pos _
  have scaled := roundHalfEven_le (power_div within ▸ (div_le_div_iff_of_pos_right place).mpr short)
  rw [roundSize, ← le_div_iff₀ place, power_div within]
  exact_mod_cast scaled

/-- In the binade below a power of two the last place is fixed. -/
theorem lastPlace_binade {size : ℚ} {exponent : ℤ} (least : format.least ≤ exponent - format.digits)
    (low : (2 : ℚ) ^ (exponent - 1) ≤ size) (high : size < (2 : ℚ) ^ exponent) :
    format.lastPlace size = exponent - format.digits := by
  have positive : 0 < size := lt_of_lt_of_le (zpow_pos two_pos _) low
  have first : exponent - 1 ≤ Int.log 2 size := by
    rw [← Int.zpow_le_iff_le_log one_lt_two positive]
    exact_mod_cast low
  have last : Int.log 2 size < exponent := by
    rw [← Int.lt_zpow_iff_log_lt one_lt_two positive]
    exact_mod_cast high
  unfold lastPlace
  omega

/-- A binade below a power of two holds the multiples of its last place. -/
theorem binade_multiples {exponent multiple : ℤ} (low : 2 ^ (format.digits - 1) < multiple)
    (high : multiple ≤ 2 ^ format.digits) :
    (2 : ℚ) ^ (exponent - 1) ≤ ((multiple : ℚ) - 1) * 2 ^ (exponent - format.digits) ∧
      (multiple : ℚ) * 2 ^ (exponent - format.digits) ≤ 2 ^ exponent := by
  have place : (0 : ℚ) < 2 ^ (exponent - format.digits) := zpow_pos two_pos _
  have above : (2 : ℚ) ^ (format.digits - 1) ≤ (multiple : ℚ) - 1 := by
    have next : 2 ^ (format.digits - 1) ≤ multiple - 1 := by omega
    exact_mod_cast next
  have below : (multiple : ℚ) ≤ 2 ^ format.digits := by exact_mod_cast high
  have bottom : (2 : ℚ) ^ (exponent - 1) = 2 ^ (format.digits - 1) * 2 ^ (exponent - format.digits) := by
    rw [← zpow_natCast, ← zpow_add₀ two_ne_zero]
    congr 1
    have digits := format.positive
    omega
  have top : (2 : ℚ) ^ exponent = 2 ^ format.digits * 2 ^ (exponent - format.digits) := by
    rw [← zpow_natCast, ← zpow_add₀ two_ne_zero, add_sub_cancel]
  rw [bottom, top]
  exact ⟨mul_le_mul_of_nonneg_right above place.le, mul_le_mul_of_nonneg_right below place.le⟩

/-- A rounded number reaches an even multiple of the last place of a binade from half a place
below it. -/
theorem multiple_le_roundSize {size : ℚ} {exponent multiple : ℤ} (positive : 0 < exponent)
    (least : format.least ≤ exponent - format.digits) (even : multiple % 2 = 0)
    (low : 2 ^ (format.digits - 1) < multiple) (high : multiple ≤ 2 ^ format.digits) (sign : 0 ≤ size) :
    (multiple : ℚ) * 2 ^ (exponent - format.digits) ≤ format.roundSize size ↔
      ((multiple : ℚ) - 1 / 2) * 2 ^ (exponent - format.digits) ≤ size := by
  have unit : (0 : ℚ) < 2 ^ (exponent - format.digits) := zpow_pos two_pos _
  obtain ⟨bottom, top⟩ := binade_multiples low high
  have digits := format.positive
  rcases lt_or_ge size ((2 : ℚ) ^ (exponent - 1)) with under | within
  · have small : format.lastPlace size ≤ exponent - 1 := by
      refine max_le ?_ (by omega)
      rcases sign.eq_or_lt with zero | nonzero
      · rw [← zero, Int.log_zero_right]
        omega
      · have log : Int.log 2 size < exponent - 1 := by
          rw [← Int.lt_zpow_iff_log_lt one_lt_two nonzero]
          exact_mod_cast under
        omega
    have rounded := roundSize_le_power small under.le
    refine iff_of_false ?_ ?_
    · linarith
    · linarith
  · rcases lt_or_ge size ((2 : ℚ) ^ exponent) with inside | above
    · rw [roundSize, lastPlace_binade least within inside, mul_le_mul_iff_left₀ unit,
        ← le_div_iff₀ unit]
      exact_mod_cast even_le_roundHalfEven even _
    · have nonzero : 0 < size := lt_of_lt_of_le (zpow_pos two_pos _) above
      have log : exponent ≤ Int.log 2 size := by
        rw [← Int.zpow_le_iff_le_log one_lt_two nonzero]
        exact_mod_cast above
      have reached : (2 : ℚ) ^ Int.log 2 size ≤ size := by
        exact_mod_cast Int.zpow_log_le_self one_lt_two nonzero
      have place : format.lastPlace size ≤ Int.log 2 size := max_le (by omega) (by omega)
      have rounded := power_le_roundSize place reached
      have grown : (2 : ℚ) ^ exponent ≤ 2 ^ Int.log 2 size := zpow_le_zpow_right₀ one_le_two log
      refine iff_of_true ?_ ?_
      · linarith
      · linarith

/-- A rounded number reaches a power of two from half a place of the binade below it. -/
theorem power_le_roundSize_iff {size : ℚ} {exponent : ℤ} (positive : 0 < exponent)
    (least : format.least ≤ exponent - format.digits) (sign : 0 ≤ size) :
    (2 : ℚ) ^ exponent ≤ format.roundSize size ↔
      (2 : ℚ) ^ exponent - 2 ^ (exponent - format.digits - 1) ≤ size := by
  obtain ⟨digits, enough⟩ := Nat.exists_eq_add_of_le' format.positive
  have even : (2 ^ format.digits : ℤ) % 2 = 0 := by
    rw [enough, pow_succ, Int.mul_emod_left]
  have low : (2 : ℤ) ^ (format.digits - 1) < 2 ^ format.digits :=
    pow_lt_pow_right₀ one_lt_two (Nat.sub_lt format.positive one_pos)
  have whole : (2 : ℚ) ^ exponent = 2 ^ format.digits * 2 ^ (exponent - format.digits) := by
    rw [← zpow_natCast, ← zpow_add₀ two_ne_zero, add_sub_cancel]
  have half : (2 : ℚ) ^ (exponent - format.digits - 1) = 1 / 2 * 2 ^ (exponent - format.digits) := by
    rw [zpow_sub_one₀ two_ne_zero, one_div, mul_comm]
  have reaches := multiple_le_roundSize positive least even low le_rfl sign
  rw [Int.cast_pow, Int.cast_ofNat, sub_mul, ← whole, ← half] at reaches
  exact reaches

theorem roundSize_nonneg {size : ℚ} (sign : 0 ≤ size) : 0 ≤ format.roundSize size := by
  have place : (0 : ℚ) < 2 ^ format.lastPlace size := zpow_pos two_pos _
  have scaled : 0 ≤ roundHalfEven (size / 2 ^ format.lastPlace size) :=
    le_roundHalfEven (by simpa using div_nonneg sign place.le)
  exact mul_nonneg (by exact_mod_cast scaled) place.le

/-- The sign takes no part in rounding. -/
theorem abs_round (value : ℚ) : |format.round value| = format.roundSize |value| := by
  unfold BinaryFormat.round
  rcases lt_or_ge value 0 with negative | sign
  · rw [if_pos negative, abs_neg, abs_of_neg negative, abs_of_nonneg (roundSize_nonneg (by linarith))]
  · rw [if_neg (not_lt.mpr sign), abs_of_nonneg sign, abs_of_nonneg (roundSize_nonneg sign)]

@[simp] theorem roundSize_zero : format.roundSize 0 = 0 := by
  have zero : roundHalfEven 0 = 0 :=
    le_antisymm (roundHalfEven_le (by simp)) (le_roundHalfEven (by simp))
  rw [roundSize, zero_div, zero, Int.cast_zero, zero_mul]

/-- Rounding of sizes keeps the order: within one binade by the scaled integers, otherwise with a
power of two in between. -/
theorem roundSize_mono {first second : ℚ} (sign : 0 ≤ first) (ordered : first ≤ second) :
    format.roundSize first ≤ format.roundSize second := by
  rcases sign.eq_or_lt with zero | positive
  · rw [← zero, roundSize_zero]
    exact roundSize_nonneg (sign.trans ordered)
  have logs : Int.log 2 first ≤ Int.log 2 second := Int.log_mono_right positive ordered
  have places : format.lastPlace first ≤ format.lastPlace second :=
    max_le_max_right _ (by omega)
  rcases places.lt_or_eq with apart | same
  · have digits := format.positive
    have least : format.least ≤ format.lastPlace first := le_max_right _ _
    have scaled : format.lastPlace second = Int.log 2 second + 1 - format.digits := by
      unfold lastPlace at apart least ⊢
      omega
    have low : Int.log 2 first < Int.log 2 second := by
      unfold lastPlace at apart
      omega
    have below : first ≤ (2 : ℚ) ^ Int.log 2 second := by
      refine (Int.lt_zpow_iff_log_lt one_lt_two positive).mpr ?_ |>.le
      exact low
    have reached : (2 : ℚ) ^ Int.log 2 second ≤ second := by
      exact_mod_cast Int.zpow_log_le_self one_lt_two (positive.trans_le ordered)
    calc format.roundSize first
      _ ≤ 2 ^ Int.log 2 second := roundSize_le_power (by omega) below
      _ ≤ format.roundSize second := power_le_roundSize (by omega) reached
  · have place : (0 : ℚ) < 2 ^ format.lastPlace second := zpow_pos two_pos _
    rw [roundSize, roundSize, same]
    refine mul_le_mul_of_nonneg_right ?_ place.le
    exact_mod_cast roundHalfEven_mono ((div_le_div_iff_of_pos_right place).mpr ordered)

/-- Rounding keeps the order. -/
theorem round_mono {first second : ℚ} (ordered : first ≤ second) :
    format.round first ≤ format.round second := by
  unfold BinaryFormat.round
  split_ifs with negative negative' negative'
  · have sizes : format.roundSize (-second) ≤ format.roundSize (-first) :=
      roundSize_mono (neg_pos.mpr negative').le (neg_le_neg ordered)
    linarith
  · have left : 0 ≤ format.roundSize (-first) := roundSize_nonneg (neg_pos.mpr negative).le
    have right : 0 ≤ format.roundSize second := roundSize_nonneg (not_lt.mp negative')
    linarith
  · exact absurd (ordered.trans_lt negative') negative
  · exact roundSize_mono (not_lt.mp negative) ordered

end BinaryFormat

end HumanoidSdk.Foundation
