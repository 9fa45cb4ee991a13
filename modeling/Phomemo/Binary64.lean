import Mathlib.Algebra.Order.Field.Power
import Mathlib.Data.Rat.Floor
import Mathlib.Tactic.FieldSimp
import Mathlib.Tactic.Linarith
import Mathlib.Tactic.NormNum
import Mathlib.Tactic.Positivity
import Mathlib.Tactic.Ring

/-!
# Doubles

Numbers of the IEEE 754 format binary64, finite ones as the rationals they stand for.  Each
operation is the exact one, rounded to the nearest double, ties to even.  Zero has no sign here.
-/

namespace Phomemo

/-- `int(value)`: drop the fraction. -/
def truncate (value : ℚ) : Int :=
  if 0 ≤ value then value.floor else -(-value).floor

/-- `round(value)`: to the nearest integer, halves to the even one. -/
def roundHalfEven (value : ℚ) : Int :=
  let low := value.floor
  let fraction := value - low
  if fraction < 1 / 2 then low
  else if 1 / 2 < fraction then low + 1
  else if low % 2 = 0 then low
  else low + 1

namespace Binary64

/-- A power with an integer exponent, computed on natural numbers. -/
def power (base : Nat) (exponent : Int) : ℚ :=
  if 0 ≤ exponent then (base ^ exponent.toNat : Nat) else 1 / (base ^ (-exponent).toNat : Nat)

/-- The exponent of the binade a number other than zero lies in. -/
def binade (value : ℚ) : Int :=
  let guess : Int := (value.num.natAbs.log2 : Int) - value.den.log2
  if power 2 guess ≤ |value| then guess else guess - 1

/-- The exponent of the last place of the doubles around a number. -/
def lastPlace (value : ℚ) : Int := max (binade value - 52) (-1074)

/-- The nearest number whose last place fits the format. -/
def round (value : ℚ) : ℚ :=
  roundHalfEven (value / power 2 (lastPlace value)) * power 2 (lastPlace value)

/-- A double. -/
inductive Double where
  | finite (value : ℚ)
  | infinite (negative : Bool)
  | nan
  deriving DecidableEq

namespace Double

/-- Round to a double; what is too large becomes infinite. -/
def ofRat (value : ℚ) : Double :=
  if |round value| < power 2 1024 then finite (round value) else infinite (decide (value < 0))

def add : Double → Double → Double
  | finite a, finite b => ofRat (a + b)
  | finite _, infinite negative => infinite negative
  | infinite negative, finite _ => infinite negative
  | infinite first, infinite second => if first = second then infinite first else nan
  | _, _ => nan

def sub : Double → Double → Double
  | finite a, finite b => ofRat (a - b)
  | finite _, infinite negative => infinite !negative
  | infinite negative, finite _ => infinite negative
  | infinite first, infinite second => if first = second then nan else infinite first
  | _, _ => nan

def mul : Double → Double → Double
  | finite a, finite b => ofRat (a * b)
  | finite a, infinite negative => if a = 0 then nan else infinite (negative ^^ decide (a < 0))
  | infinite negative, finite b => if b = 0 then nan else infinite (negative ^^ decide (b < 0))
  | infinite first, infinite second => infinite (first ^^ second)
  | _, _ => nan

def div : Double → Double → Double
  | finite a, finite b =>
      if b = 0 then if a = 0 then nan else infinite (decide (a < 0)) else ofRat (a / b)
  | finite _, infinite _ => finite 0
  | infinite negative, finite b => infinite (negative ^^ decide (b < 0))
  | _, _ => nan

/-- `a <= b`. -/
def le : Double → Double → Bool
  | finite a, finite b => decide (a ≤ b)
  | finite _, infinite negative => !negative
  | infinite negative, finite _ => negative
  | infinite first, infinite second => first || !second
  | _, _ => false

/-- `(int)value` for an integer type of so many bits; `none` where C leaves it undefined. -/
def toInt (bits : Nat) : Double → Option Int
  | finite value =>
      let whole := truncate value
      if -(2 ^ (bits - 1)) ≤ whole ∧ whole < 2 ^ (bits - 1) then some whole else none
  | _ => none

end Double

/-! ## Powers and binades -/

theorem power_eq (base : Nat) (exponent : Int) : power base exponent = (base : ℚ) ^ exponent := by
  unfold power
  split
  · rename_i nonneg
    obtain ⟨n, rfl⟩ := Int.eq_ofNat_of_zero_le nonneg
    simp
  · rename_i negative
    obtain ⟨n, same⟩ := Int.eq_ofNat_of_zero_le (a := -exponent) (by omega)
    obtain rfl : exponent = -(n : Int) := by omega
    simp

/-- A natural number other than zero between two powers of two. -/
theorem log2_spec {n : Nat} (nonzero : n ≠ 0) :
    (2 : ℚ) ^ (n.log2 : Int) ≤ n ∧ (n : ℚ) < (2 : ℚ) ^ ((n.log2 : Int) + 1) := by
  constructor
  · rw [zpow_natCast]
    exact_mod_cast (Nat.le_log2 nonzero).mp le_rfl
  · have below := (Nat.log2_lt nonzero).mp (Nat.lt_succ_self n.log2)
    rw [show (n.log2 : Int) + 1 = ((n.log2 + 1 : Nat) : Int) by push_cast; rfl, zpow_natCast]
    exact_mod_cast below

theorem binade_spec {value : ℚ} (nonzero : value ≠ 0) :
    (2 : ℚ) ^ binade value ≤ |value| ∧ |value| < (2 : ℚ) ^ (binade value + 1) := by
  have two : (2 : ℚ) ≠ 0 := by norm_num
  have den_pos : (0 : ℚ) < value.den := by exact_mod_cast value.den_pos
  have split : |value| * value.den = value.num.natAbs := by
    have whole : value * value.den = value.num := Rat.mul_den_eq_num value
    rw [Nat.cast_natAbs, Int.cast_abs, ← whole, abs_mul, abs_of_pos den_pos]
  obtain ⟨numLow, numHigh⟩ := log2_spec (Int.natAbs_ne_zero.mpr (Rat.num_ne_zero.mpr nonzero))
  obtain ⟨denLow, denHigh⟩ := log2_spec value.den_nz
  set a : Int := (value.num.natAbs.log2 : Int) with a_eq
  set b : Int := (value.den.log2 : Int) with b_eq
  have above : |value| < (2 : ℚ) ^ (a - b + 1) := by
    have sum : (2 : ℚ) ^ (a - b + 1) * 2 ^ b = 2 ^ (a + 1) := by
      rw [← zpow_add₀ two]
      congr 1
      ring
    have scaled : |value| * 2 ^ b < (2 : ℚ) ^ (a - b + 1) * 2 ^ b := by
      calc |value| * 2 ^ b ≤ |value| * value.den := by gcongr
        _ = value.num.natAbs := split
        _ < 2 ^ (a + 1) := numHigh
        _ = _ := sum.symm
    exact lt_of_mul_lt_mul_right scaled (by positivity)
  have below : (2 : ℚ) ^ (a - b - 1) < |value| := by
    have sum : (2 : ℚ) ^ (a - b - 1) * 2 ^ (b + 1) = 2 ^ a := by
      rw [← zpow_add₀ two]
      congr 1
      ring
    have scaled : (2 : ℚ) ^ (a - b - 1) * value.den < |value| * value.den := by
      calc (2 : ℚ) ^ (a - b - 1) * value.den < 2 ^ (a - b - 1) * 2 ^ (b + 1) := by gcongr
        _ = 2 ^ a := sum
        _ ≤ value.num.natAbs := numLow
        _ = _ := split.symm
    exact lt_of_mul_lt_mul_right scaled den_pos.le
  unfold binade
  dsimp only
  split
  · rename_i reached
    rw [power_eq] at reached
    exact ⟨reached, above⟩
  · rename_i missed
    rw [power_eq, not_le] at missed
    refine ⟨below.le, ?_⟩
    rw [sub_add_cancel]
    exact missed

theorem binade_eq {value : ℚ} {exponent : Int} (low : (2 : ℚ) ^ exponent ≤ |value|)
    (high : |value| < (2 : ℚ) ^ (exponent + 1)) : binade value = exponent := by
  have one_lt : (1 : ℚ) < 2 := by norm_num
  have positive : 0 < |value| := lt_of_lt_of_le (by positivity) low
  obtain ⟨reached, below⟩ := binade_spec (abs_pos.mp positive)
  have upper := (zpow_lt_zpow_iff_right₀ one_lt).mp (reached.trans_lt high)
  have lower := (zpow_lt_zpow_iff_right₀ one_lt).mp (low.trans_lt below)
  omega

theorem lastPlace_eq {value : ℚ} {exponent : Int} (low : (2 : ℚ) ^ exponent ≤ |value|)
    (high : |value| < (2 : ℚ) ^ (exponent + 1)) (usual : -1022 ≤ exponent) :
    lastPlace value = exponent - 52 := by
  rw [lastPlace, binade_eq low high]
  omega

theorem lastPlace_lt {value : ℚ} (nonzero : value ≠ 0) {exponent : Int}
    (small : |value| < (2 : ℚ) ^ exponent) (usual : -1022 < exponent) :
    lastPlace value < exponent - 52 := by
  have reached := (binade_spec nonzero).1.trans_lt small
  have below := (zpow_lt_zpow_iff_right₀ (by norm_num : (1 : ℚ) < 2)).mp reached
  unfold lastPlace
  omega

/-- A multiple of a power of two is one of every smaller power. -/
theorem exists_multiple (n fine coarse : Int) (le : fine ≤ coarse) :
    ∃ m : Int, (n : ℚ) * 2 ^ coarse = m * 2 ^ fine := by
  obtain ⟨k, difference⟩ := Int.eq_ofNat_of_zero_le (a := coarse - fine) (by omega)
  refine ⟨n * 2 ^ k, ?_⟩
  rw [show coarse = (k : Int) + fine by omega, zpow_add₀ (by norm_num), zpow_natCast]
  push_cast
  ring

/-! ## Rounding -/

theorem abs_roundHalfEven_sub (value : ℚ) : |(roundHalfEven value : ℚ) - value| ≤ 1 / 2 := by
  have low := Rat.floor_le value
  have high := Rat.lt_floor_add_one value
  push_cast at high
  unfold roundHalfEven
  dsimp only
  split_ifs <;> rw [abs_le] <;> push_cast <;> constructor <;> linarith

@[simp]
theorem roundHalfEven_intCast (n : Int) : roundHalfEven n = n := by
  simp [roundHalfEven]

theorem roundHalfEven_nonneg {value : ℚ} (nonneg : 0 ≤ value) : 0 ≤ roundHalfEven value := by
  have floor_nonneg : 0 ≤ value.floor := Rat.le_floor_iff.mpr (by simpa using nonneg)
  unfold roundHalfEven
  dsimp only
  split_ifs <;> omega

theorem roundHalfEven_nonpos {value : ℚ} (nonpos : value ≤ 0) : roundHalfEven value ≤ 0 := by
  have low := Rat.floor_le value
  unfold roundHalfEven
  dsimp only
  split_ifs with below above even
  · exact_mod_cast low.trans nonpos
  · have strict : (value.floor : ℚ) < 0 := by linarith
    have whole : value.floor < 0 := by exact_mod_cast strict
    omega
  · exact_mod_cast low.trans nonpos
  · have strict : (value.floor : ℚ) < 0 := by linarith
    have whole : value.floor < 0 := by exact_mod_cast strict
    omega

theorem roundHalfEven_le {value : ℚ} {n : Int} (le : value ≤ n) : roundHalfEven value ≤ n := by
  have near := abs_le.mp (abs_roundHalfEven_sub value)
  by_contra above
  have next : ((n + 1 : Int) : ℚ) ≤ roundHalfEven value := by exact_mod_cast not_le.mp above
  push_cast at next
  linarith

theorem le_roundHalfEven {value : ℚ} {n : Int} (le : n ≤ value) : n ≤ roundHalfEven value := by
  have near := abs_le.mp (abs_roundHalfEven_sub value)
  by_contra below
  have previous : (roundHalfEven value : ℚ) + 1 ≤ n := by exact_mod_cast not_le.mp below
  linarith

theorem roundHalfEven_eq {value : ℚ} {n : Int} (near : |value - n| < 1 / 2) :
    roundHalfEven value = n := by
  have close := abs_le.mp (abs_roundHalfEven_sub value)
  obtain ⟨low, high⟩ := abs_lt.mp near
  have above : (roundHalfEven value : ℚ) < n + 1 := by linarith
  have below : (n : ℚ) < roundHalfEven value + 1 := by linarith
  have above' : roundHalfEven value < n + 1 := by exact_mod_cast above
  have below' : n < roundHalfEven value + 1 := by exact_mod_cast below
  omega

theorem lastPlace_le {value : ℚ} (nonzero : value ≠ 0) :
    (2 : ℚ) ^ lastPlace value ≤ (|value| + 1) / 2 ^ 52 := by
  have two : (2 : ℚ) ≠ 0 := by norm_num
  have spread : (|value| + 1) / 2 ^ 52 = |value| / 2 ^ 52 + 1 / 2 ^ 52 := by ring
  rw [spread]
  unfold lastPlace
  rcases le_total (binade value - 52) (-1074) with tiny | usual
  · rw [max_eq_right tiny]
    have small : (2 : ℚ) ^ (-1074 : Int) ≤ 2 ^ (-52 : Int) :=
      zpow_le_zpow_right₀ (by norm_num) (by norm_num)
    have same : (2 : ℚ) ^ (-52 : Int) = 1 / 2 ^ 52 := by norm_num
    have nonneg : 0 ≤ |value| / 2 ^ 52 := by positivity
    exact (small.trans_eq same).trans (le_add_of_nonneg_left nonneg)
  · rw [max_eq_left usual, zpow_sub₀ two]
    have same : (2 : ℚ) ^ (52 : Int) = 2 ^ 52 := by norm_cast
    have scaled : (2 : ℚ) ^ binade value / 2 ^ (52 : Int) ≤ |value| / 2 ^ 52 := by
      rw [same]
      exact div_le_div_of_nonneg_right (binade_spec nonzero).1 (by norm_num)
    have nonneg : (0 : ℚ) ≤ 1 / 2 ^ 52 := by norm_num
    linarith

theorem power_two_pos (exponent : Int) : 0 < power 2 exponent := by
  rw [power_eq]
  positivity

@[simp]
theorem round_zero : round 0 = 0 := by
  have whole := roundHalfEven_intCast 0
  rw [Int.cast_zero] at whole
  unfold round
  rw [zero_div, whole, Int.cast_zero, zero_mul]

/-- Rounding moves a number by half of its last place. -/
theorem abs_round_sub_place (value : ℚ) :
    |round value - value| ≤ (2 : ℚ) ^ lastPlace value / 2 := by
  set place := power 2 (lastPlace value) with place_eq
  have place_pos : 0 < place := power_two_pos _
  have near := abs_roundHalfEven_sub (value / place)
  have scaled : round value - value =
      (roundHalfEven (value / place) - value / place) * place := by
    unfold round
    rw [← place_eq, sub_mul, div_mul_cancel₀ _ place_pos.ne']
  rw [scaled, abs_mul, abs_of_pos place_pos]
  calc |(roundHalfEven (value / place) : ℚ) - value / place| * place ≤ 1 / 2 * place := by gcongr
    _ = (2 : ℚ) ^ lastPlace value / 2 := by
        rw [place_eq, power_eq, Nat.cast_ofNat]
        ring

/-- Rounding moves a number by little. -/
theorem abs_round_sub (value : ℚ) : |round value - value| ≤ (|value| + 1) / 2 ^ 53 := by
  by_cases zero : value = 0
  · subst zero
    rw [round_zero]
    norm_num
  · calc |round value - value| ≤ (2 : ℚ) ^ lastPlace value / 2 := abs_round_sub_place value
      _ ≤ (|value| + 1) / 2 ^ 52 / 2 := by
          have fine := lastPlace_le zero
          gcongr
      _ = (|value| + 1) / 2 ^ 53 := by ring

theorem exists_round_eq (value : ℚ) : ∃ n : Int, round value = n * (2 : ℚ) ^ lastPlace value :=
  ⟨_, by rw [round, power_eq, Nat.cast_ofNat]⟩

/-- Rounding does not pass a number of that precision. -/
theorem round_le {value bound : ℚ} {n : Int} (grid : bound = n * (2 : ℚ) ^ lastPlace value)
    (le : value ≤ bound) : round value ≤ bound := by
  have place_pos := power_two_pos (lastPlace value)
  have place : power 2 (lastPlace value) = (2 : ℚ) ^ lastPlace value := by
    rw [power_eq, Nat.cast_ofNat]
  rw [← place] at grid
  have below : value / power 2 (lastPlace value) ≤ n := by
    rw [div_le_iff₀ place_pos, ← grid]
    exact le
  have whole : (roundHalfEven (value / power 2 (lastPlace value)) : ℚ) ≤ n := by
    exact_mod_cast roundHalfEven_le below
  rw [round, grid]
  gcongr

theorem le_round {value bound : ℚ} {n : Int} (grid : bound = n * (2 : ℚ) ^ lastPlace value)
    (le : bound ≤ value) : bound ≤ round value := by
  have place_pos := power_two_pos (lastPlace value)
  have place : power 2 (lastPlace value) = (2 : ℚ) ^ lastPlace value := by
    rw [power_eq, Nat.cast_ofNat]
  rw [← place] at grid
  have above : (n : ℚ) ≤ value / power 2 (lastPlace value) := by
    rw [le_div_iff₀ place_pos, ← grid]
    exact le
  have whole : (n : ℚ) ≤ roundHalfEven (value / power 2 (lastPlace value)) := by
    exact_mod_cast le_roundHalfEven above
  rw [round, grid]
  gcongr

theorem round_nonneg {value : ℚ} (nonneg : 0 ≤ value) : 0 ≤ round value := by
  have place_pos := power_two_pos (lastPlace value)
  have whole := roundHalfEven_nonneg (div_nonneg nonneg place_pos.le)
  exact mul_nonneg (by exact_mod_cast whole) place_pos.le

theorem round_nonpos {value : ℚ} (nonpos : value ≤ 0) : round value ≤ 0 := by
  have place_pos := power_two_pos (lastPlace value)
  have whole := roundHalfEven_nonpos (div_nonpos_of_nonpos_of_nonneg nonpos place_pos.le)
  exact mul_nonpos_of_nonpos_of_nonneg (by exact_mod_cast whole) place_pos.le

/-- Integers of up to 53 bits are doubles. -/
theorem round_intCast {n : Int} (small : |n| < 2 ^ 53) : round n = n := by
  by_cases zero : n = 0
  · subst zero
    rw [Int.cast_zero, round_zero]
  · have nonzero : (n : ℚ) ≠ 0 := by exact_mod_cast zero
    have place_le : lastPlace n ≤ 0 := by
      have bounded : (2 : ℚ) ^ binade n < 2 ^ (53 : Int) := by
        calc (2 : ℚ) ^ binade n ≤ |(n : ℚ)| := (binade_spec nonzero).1
          _ < 2 ^ (53 : Int) := by exact_mod_cast small
      have low := (zpow_lt_zpow_iff_right₀ (by norm_num : (1 : ℚ) < 2)).mp bounded
      unfold lastPlace
      omega
    obtain ⟨k, scale⟩ := Int.eq_ofNat_of_zero_le (a := -lastPlace (n : ℚ)) (by omega)
    have place : power 2 (lastPlace n) = 1 / 2 ^ k := by
      rw [power_eq, show lastPlace (n : ℚ) = -(k : Int) by omega]
      simp
    have whole : (n : ℚ) / power 2 (lastPlace n) = ((n * 2 ^ k : Int) : ℚ) := by
      rw [place]
      push_cast
      field_simp
    unfold round
    rw [whole, roundHalfEven_intCast, ← whole, div_mul_cancel₀]
    exact (power_two_pos _).ne'

/-! ## Rounding half up -/

/-- A half integer that is not too large is not passed from above. -/
theorem half_le_round (n : Int) (value : ℚ) (small : |n| ≤ 2 ^ 40) (le : (n : ℚ) / 2 ≤ value) :
    (n : ℚ) / 2 ≤ round value := by
  have bounds := abs_le.mp small
  have low : (-2 ^ 40 : ℚ) ≤ n := by exact_mod_cast bounds.1
  have high : (n : ℚ) ≤ 2 ^ 40 := by exact_mod_cast bounds.2
  by_cases large : (2 : ℚ) ^ 45 ≤ value
  · have nonneg : (0 : ℚ) ≤ value := le_trans (by norm_num) large
    have error := abs_le.mp (abs_round_sub value)
    rw [abs_of_nonneg nonneg] at error
    linarith [error.1]
  · by_cases zero : value = 0
    · rw [zero, round_zero]
      exact zero ▸ le
    · have bounded : |value| < (2 : ℚ) ^ (45 : Int) := by
        rw [abs_lt]
        constructor
        · norm_num at low le ⊢
          linarith
        · exact_mod_cast not_le.mp large
      have place := lastPlace_lt zero bounded (by norm_num)
      obtain ⟨m, same⟩ := exists_multiple n (lastPlace value) (-1) (by omega)
      refine le_round (n := m) ?_ le
      rw [← same, zpow_neg_one, div_eq_mul_inv]

/-- Of two multiples of a power of two, the smaller one is smaller by that power. -/
theorem multiple_le {n : Int} {m : Int} {place : Int}
    (lt : (n : ℚ) * (2 : ℚ) ^ place < m * (2 : ℚ) ^ place) :
    (n : ℚ) * (2 : ℚ) ^ place ≤ m * (2 : ℚ) ^ place - (2 : ℚ) ^ place := by
  have positive : (0 : ℚ) < (2 : ℚ) ^ place := by positivity
  have less : n < m := by exact_mod_cast lt_of_mul_lt_mul_right lt positive.le
  have step : (n : ℚ) + 1 ≤ m := by exact_mod_cast less
  calc (n : ℚ) * (2 : ℚ) ^ place ≤ ((m : ℚ) - 1) * (2 : ℚ) ^ place := by gcongr; linarith
    _ = m * (2 : ℚ) ^ place - (2 : ℚ) ^ place := by ring

/-- A double below a half integer is still below the next integer when a half is added to it: the
sum is either as fine as the double or well below. -/
theorem round_add_half_lt {n k exponent : Int} {value : ℚ}
    (grid : value = n * (2 : ℚ) ^ (exponent - 52)) (nonneg : 0 ≤ value)
    (within : value ≤ (2 : ℚ) ^ (exponent + 1)) (low : -1 ≤ exponent) (high : exponent ≤ 40)
    (below : value < k + 1 / 2) : round (value + 1 / 2) < k + 1 := by
  have positive : 0 < value + 1 / 2 := by linarith
  have error := (abs_le.mp (abs_round_sub_place (value + 1 / 2))).2
  have one_le : (1 : ℚ) ≤ 2 := by norm_num
  by_cases crosses : (2 : ℚ) ^ (exponent + 1) < k + 1
  · have whole : value ≤ k := by
      obtain ⟨power, same⟩ := Int.eq_ofNat_of_zero_le (a := exponent + 1) (by omega)
      rw [same, zpow_natCast] at crosses within
      have less : (2 ^ power : Int) < k + 1 := by exact_mod_cast crosses
      have reached : ((2 ^ power : Int) : ℚ) ≤ k := by exact_mod_cast Int.lt_add_one_iff.mp less
      push_cast at reached
      exact within.trans reached
    have bounded : |value + 1 / 2| < (2 : ℚ) ^ (42 : Int) := by
      have largest : (2 : ℚ) ^ (exponent + 1) ≤ 2 ^ (41 : Int) :=
        zpow_le_zpow_right₀ one_le (by omega)
      rw [abs_of_pos positive]
      norm_num at largest ⊢
      linarith
    have place := lastPlace_lt positive.ne' bounded (by norm_num)
    have fine : (2 : ℚ) ^ lastPlace (value + 1 / 2) ≤ 2 ^ (-1 : Int) :=
      zpow_le_zpow_right₀ one_le (by omega)
    norm_num at fine
    linarith
  · obtain ⟨m, half⟩ := exists_multiple (2 * k + 1) (exponent - 52) (-1) (by omega)
    have same : (k : ℚ) + 1 / 2 = m * 2 ^ (exponent - 52) := by
      rw [← half, zpow_neg_one]
      push_cast
      ring
    have gap : value ≤ k + 1 / 2 - (2 : ℚ) ^ (exponent - 52) := by
      rw [same, grid] at below
      rw [same, grid]
      exact multiple_le below
    have gap_pos : (0 : ℚ) < (2 : ℚ) ^ (exponent - 52) := by positivity
    have bounded : |value + 1 / 2| < (2 : ℚ) ^ (exponent + 1) := by
      rw [abs_of_pos positive]
      linarith [not_lt.mp crosses]
    have place := lastPlace_lt positive.ne' bounded (by omega)
    have fine : (2 : ℚ) ^ lastPlace (value + 1 / 2) ≤ 2 ^ (exponent - 52) :=
      zpow_le_zpow_right₀ one_le (by omega)
    linarith

/-! ## Arithmetic -/

namespace Double

theorem ofRat_of_small {value : ℚ} (small : |value| ≤ 2 ^ 53) :
    ofRat value = finite (round value) := by
  have error := abs_round_sub value
  have bounded : |round value| < power 2 1024 := by
    have triangle : |round value| ≤ |round value - value| + |value| := by
      simpa using abs_add_le (round value - value) value
    calc |round value| ≤ (|value| + 1) / 2 ^ 53 + |value| := by linarith
      _ < 2 ^ (54 : Int) := by norm_num at small ⊢; linarith
      _ < 2 ^ (1024 : Int) := zpow_lt_zpow_right₀ (by norm_num) (by norm_num)
      _ = power 2 1024 := by rw [power_eq, Nat.cast_ofNat]
  unfold ofRat
  rw [if_pos bounded]

theorem ofRat_eq_finite {value rounded : ℚ} :
    ofRat value = finite rounded ↔
      rounded = round value ∧ |round value| < (2 : ℚ) ^ (1024 : Int) := by
  have power : power 2 1024 = (2 : ℚ) ^ (1024 : Int) := by rw [power_eq, Nat.cast_ofNat]
  unfold ofRat
  rw [power]
  split
  · rename_i bounded
    rw [finite.injEq]
    exact ⟨fun same => ⟨same.symm, bounded⟩, fun both => both.1.symm⟩
  · rename_i large
    exact ⟨nofun, fun both => absurd both.2 large⟩

/-- A half does not carry a double to infinity. -/
theorem ofRat_add_half {value rounded : ℚ} (nonneg : 0 ≤ value)
    (finite_value : ofRat value = finite rounded) :
    ofRat (rounded + 1 / 2) = finite (round (rounded + 1 / 2)) := by
  obtain ⟨rfl, bounded⟩ := ofRat_eq_finite.mp finite_value
  refine ofRat_eq_finite.mpr ⟨rfl, ?_⟩
  have rounded_nonneg := round_nonneg nonneg
  rw [abs_of_nonneg rounded_nonneg] at bounded
  have sum_nonneg : 0 ≤ round value + 1 / 2 := by linarith
  rw [abs_of_nonneg (round_nonneg sum_nonneg)]
  have one_lt : (1 : ℚ) < 2 := by norm_num
  have doubled : (2 : ℚ) ^ (1024 : Int) = 2 * 2 ^ (1023 : Int) := by
    rw [← zpow_one_add₀ (by norm_num)]
    norm_num
  have one_le : (1 : ℚ) ≤ 2 ^ (1023 : Int) := one_le_zpow₀ one_lt.le (by norm_num)
  by_cases large : round value ≤ (2 : ℚ) ^ (1023 : Int)
  · have error := (abs_le.mp (abs_round_sub (round value + 1 / 2))).2
    rw [abs_of_nonneg sum_nonneg] at error
    rw [doubled]
    generalize (2 : ℚ) ^ (1023 : Int) = top at large one_le ⊢
    norm_num at error
    linarith
  · rw [not_le] at large
    have positive : 0 < value := by
      rcases nonneg.eq_or_lt with rfl | positive
      · rw [round_zero] at large
        exact absurd large (not_lt.mpr (by positivity))
      · exact positive
    have reached : (2 : ℚ) ^ (1023 : Int) ≤ value := by
      by_contra small
      have below : |value| < (2 : ℚ) ^ (1023 : Int) := by
        rw [abs_of_pos positive]
        exact not_le.mp small
      have place := lastPlace_lt positive.ne' below (by norm_num)
      obtain ⟨m, same⟩ := exists_multiple 1 (lastPlace value) 1023 (by omega)
      rw [Int.cast_one, one_mul] at same
      exact absurd (round_le same (not_le.mp small).le) (not_le.mpr large)
    have place : 971 ≤ lastPlace value := by
      have low := (binade_spec positive.ne').2
      rw [abs_of_pos positive] at low
      have upper := (zpow_lt_zpow_iff_right₀ one_lt).mp (reached.trans_lt low)
      unfold lastPlace
      omega
    obtain ⟨n, scaled⟩ := exists_round_eq value
    obtain ⟨m, same⟩ := exists_multiple n 971 _ place
    rw [same] at scaled
    have top : (2 : ℚ) ^ (1024 : Int) = ((2 ^ 53 : Int) : ℚ) * 2 ^ (971 : Int) := by
      rw [show ((2 ^ 53 : Int) : ℚ) = (2 : ℚ) ^ (53 : Int) by norm_num, ← zpow_add₀ (by norm_num)]
      norm_num
    have gap : round value ≤ (2 : ℚ) ^ (1024 : Int) - 2 ^ (971 : Int) := by
      rw [scaled, top] at bounded
      rw [scaled, top]
      exact multiple_le bounded
    have gap_pos : (1 : ℚ) < 2 ^ (971 : Int) := one_lt_zpow₀ one_lt (by norm_num)
    have sum_place : lastPlace (round value + 1 / 2) = 971 := by
      refine @lastPlace_eq _ 1023 ?_ ?_ (by norm_num)
      · rw [abs_of_nonneg sum_nonneg]
        exact large.le.trans (le_add_of_nonneg_right (by norm_num))
      · rw [abs_of_nonneg sum_nonneg, show (1023 : Int) + 1 = 1024 by norm_num]
        generalize (2 : ℚ) ^ (1024 : Int) = huge at gap ⊢
        generalize (2 : ℚ) ^ (971 : Int) = place at gap gap_pos
        linarith
    have power : power 2 971 = (2 : ℚ) ^ (971 : Int) := by rw [power_eq, Nat.cast_ofNat]
    have whole : roundHalfEven ((round value + 1 / 2) / 2 ^ (971 : Int)) = m := by
      apply roundHalfEven_eq
      rw [scaled, add_div, mul_div_cancel_right₀ _ (by positivity), add_sub_cancel_left,
        abs_of_nonneg (by positivity), div_lt_iff₀ (by positivity)]
      generalize (2 : ℚ) ^ (971 : Int) = place at gap_pos ⊢
      linarith
    have fixed : round (round value + 1 / 2) = round value := by
      rw [round, sum_place, power, whole, ← scaled]
    rw [fixed]
    exact bounded

theorem ofRat_intCast {n : Int} (small : |n| < 2 ^ 53) : ofRat n = finite n := by
  rw [ofRat_of_small, round_intCast small]
  exact_mod_cast small.le

/-- Rounding keeps the sign of an integer. -/
theorem ofRat_intCast_le_zero (n : Int) : (ofRat n).le (finite 0) = decide (n ≤ 0) := by
  unfold ofRat
  by_cases nonpos : n ≤ 0
  · have cast : (n : ℚ) ≤ 0 := by exact_mod_cast nonpos
    split
    · simpa [le, nonpos] using round_nonpos cast
    · rename_i large
      have nonzero : n ≠ 0 := by
        rintro rfl
        exact large (by simpa using power_two_pos 1024)
      have negative : (n : ℚ) < 0 := by exact_mod_cast lt_of_le_of_ne nonpos nonzero
      simp [le, nonpos, negative]
  · have one_le : (1 : ℚ) ≤ n := by exact_mod_cast not_le.mp nonpos
    split
    · have error := abs_le.mp (abs_round_sub (n : ℚ))
      rw [abs_of_nonneg (by linarith)] at error
      have positive : 0 < round n := by
        have small : ((n : ℚ) + 1) / 2 ^ 53 < n := by linarith
        linarith [error.1]
      simp [le, nonpos, positive]
    · have notNegative : ¬(n : ℚ) < 0 := by linarith
      simp [le, nonpos, notNegative]

@[simp]
theorem truncate_intCast (n : Int) : truncate n = n := by
  unfold truncate
  split
  · exact Rat.floor_intCast n
  · rw [← Int.cast_neg, Rat.floor_intCast, neg_neg]

theorem toInt_intCast {bits : Nat} {n : Int} (low : -(2 ^ (bits - 1)) ≤ n)
    (high : n < 2 ^ (bits - 1)) : (finite n).toInt bits = some n := by
  simp [toInt, low, high]

/-- `(int)(value * 100.0 + 0.5)` is the nearest integer, up to the two roundings. -/
theorem toInt_hundredths {value : ℚ} (nonneg : 0 ≤ value) (small : 100 * value ≤ 2 ^ 31 - 1) :
    ∃ m : Int, (((finite value).mul (finite 100)).add (finite (1 / 2))).toInt 32 = some m ∧
      |(m : ℚ) - 100 * value| ≤ 1 / 2 + (100 * value + 2) / 2 ^ 52 := by
  set product := round (value * 100) with product_eq
  set sum := round (product + 1 / 2) with sum_eq
  have scaled_nonneg : 0 ≤ value * 100 := by linarith
  have product_nonneg : 0 ≤ product := round_nonneg scaled_nonneg
  have sum_nonneg : 0 ≤ sum := round_nonneg (by linarith)
  have productError := abs_le.mp (abs_round_sub (value * 100))
  rw [← product_eq, abs_of_nonneg scaled_nonneg] at productError
  have sumError := abs_le.mp (abs_round_sub (product + 1 / 2))
  rw [← sum_eq, abs_of_nonneg (by linarith : 0 ≤ product + 1 / 2)] at sumError
  have multiplied : (finite value).mul (finite 100) = finite product := by
    apply ofRat_of_small
    rw [abs_of_nonneg scaled_nonneg]
    linarith
  have added : (finite product).add (finite (1 / 2)) = finite sum := by
    apply ofRat_of_small
    rw [abs_of_nonneg (by linarith : 0 ≤ product + 1 / 2)]
    linarith [productError.2]
  have low := Rat.floor_le sum
  have high := Rat.lt_floor_add_one sum
  push_cast at high
  have floor_nonneg : 0 ≤ sum.floor := Rat.le_floor_iff.mpr (by exact_mod_cast sum_nonneg)
  have floor_lt : sum.floor < 2 ^ 31 := by
    have below : (sum.floor : ℚ) < 2 ^ 31 := by linarith [productError.2, sumError.2]
    exact_mod_cast below
  have whole : truncate sum = sum.floor := if_pos sum_nonneg
  refine ⟨sum.floor, ?_, ?_⟩
  · rw [multiplied, added, toInt, whole]
    exact if_pos ⟨le_trans (by norm_num) floor_nonneg, floor_lt⟩
  · rw [abs_le]
    constructor <;> linarith [productError.1, productError.2, sumError.1, sumError.2]

end Double

end Binary64

end Phomemo
