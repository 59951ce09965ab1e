import Mathlib.Data.Int.Log
import Mathlib.Data.Rat.Floor
import Mathlib.Tactic.Positivity

/-!
Binary64 numbers as the rationals they stand for: rounding to the nearest of them with ties to
even, and rounding to decimals. A number too large for the format has no value here.
-/

namespace EvoomGuard.Lib.Binary64

/-- The nearest integer, of two the even one. -/
def nearestInt (value : Rat) : Int :=
  if Int.fract value < 1 / 2 then ⌊value⌋
  else if 1 / 2 < Int.fract value then ⌊value⌋ + 1
  else if ⌊value⌋ % 2 = 0 then ⌊value⌋
  else ⌊value⌋ + 1

/-- The exponent of the last of 53 places; the subnormal numbers have fewer. -/
def lastPlace (value : Rat) : Int := max (Int.log 2 |value| - 52) (-1074)

def nearest (value : Rat) : Rat := nearestInt (value / 2 ^ lastPlace value) * 2 ^ lastPlace value

/-- The numbers from here on are infinite ones. -/
@[irreducible] def limit : Rat := 2 ^ 1024

/-- The float nearest to a number, unless that is an infinite one. -/
@[irreducible] def rounded (value : Rat) : Option Rat :=
  if |nearest value| < limit then some (nearest value) else none

/-- `round(value, digits)` of a float: the nearest decimal, as a float. -/
def roundedTo (digits : Nat) (value : Rat) : Option Rat :=
  rounded (nearestInt (value * 10 ^ digits) / 10 ^ digits)

theorem nearest_int_close (value : Rat) : |(nearestInt value : Rat) - value| ≤ 1 / 2 := by
  have parted := Int.floor_add_fract value
  have low := Int.fract_nonneg value
  have high := Int.fract_lt_one value
  rw [abs_le]
  unfold nearestInt
  split_ifs with below above even
  · constructor <;> linarith
  · push_cast
    constructor <;> linarith
  · constructor <;> linarith
  · push_cast
    constructor <;> linarith

theorem nearest_int_nonneg {value : Rat} (positive : 0 ≤ value) : 0 ≤ nearestInt value := by
  have floor := Int.floor_nonneg.2 positive
  unfold nearestInt
  split_ifs <;> omega

theorem nearest_int_le {value : Rat} {bound : Int} (below : value < bound + 1 / 2) :
    nearestInt value ≤ bound := by
  have close := (abs_le.1 (nearest_int_close value)).2
  apply Int.lt_add_one_iff.1
  have strict : (nearestInt value : Rat) < ((bound + 1 : Int) : Rat) := by
    push_cast
    linarith
  exact_mod_cast strict

theorem nearest_int_int (value : Int) : nearestInt value = value := by
  rw [nearestInt, Int.fract_intCast, if_pos (by norm_num), Int.floor_intCast]

theorem two_pow_last_place_pos (value : Rat) : (0 : Rat) < 2 ^ lastPlace value :=
  zpow_pos (by norm_num) _

section

variable {value : Rat} (positive : 0 ≤ value)
include positive

theorem two_pow_last_place_le :
    (2 : Rat) ^ lastPlace value ≤ (value + 1) / 2 ^ 52 := by
  have ordered : (value + 1) / 2 ^ 52 = value / 2 ^ 52 + 1 / 2 ^ 52 := add_div _ _ _
  rw [lastPlace, abs_of_nonneg positive]
  rcases max_choice (Int.log 2 value - 52) (-1074) with normal | subnormal
  · rw [normal]
    by_cases none : value = 0
    · subst none
      rw [Int.log_zero_right]
      norm_num
    · have strict : 0 < value := lt_of_le_of_ne positive (Ne.symm none)
      have logged := Int.zpow_log_le_self one_lt_two strict
      push_cast at logged
      rw [zpow_sub₀ (by norm_num)]
      have divided : (2 : Rat) ^ Int.log 2 value / 2 ^ (52 : ℤ) ≤ value / 2 ^ 52 := by
        rw [show (2 : Rat) ^ (52 : ℤ) = 2 ^ 52 from by norm_cast]
        exact div_le_div_of_nonneg_right logged (by positivity)
      have some : (0 : Rat) ≤ 1 / 2 ^ 52 := by positivity
      linarith
  · rw [subnormal]
    have tiny : (2 : Rat) ^ (-1074 : ℤ) ≤ 2 ^ (-52 : ℤ) :=
      zpow_le_zpow_right₀ (by norm_num) (by norm_num)
    have same : (2 : Rat) ^ (-52 : ℤ) = 1 / 2 ^ 52 := by norm_num
    have some : (0 : Rat) ≤ value / 2 ^ 52 := by positivity
    rw [same] at tiny
    exact ordered ▸ tiny.trans (le_add_of_nonneg_left some)

theorem nearest_close :
    |nearest value - value| ≤ (value + 1) / 2 ^ 53 := by
  have unit := two_pow_last_place_pos value
  have close := nearest_int_close (value / 2 ^ lastPlace value)
  have scaled : nearest value - value =
      (nearestInt (value / 2 ^ lastPlace value) - value / 2 ^ lastPlace value) *
        2 ^ lastPlace value := by
    rw [nearest, sub_mul, div_mul_cancel₀ _ unit.ne']
  rw [scaled, abs_mul, abs_of_pos unit]
  have halved : (value + 1) / 2 ^ 53 = 1 / 2 * ((value + 1) / 2 ^ 52) := by ring
  rw [halved]
  exact mul_le_mul close (two_pow_last_place_le positive) unit.le (by norm_num)

theorem nearest_le :
    nearest value ≤ value + (value + 1) / 2 ^ 53 := by
  have close := (abs_le.1 (nearest_close positive)).2
  linarith

theorem le_nearest :
    value - (value + 1) / 2 ^ 53 ≤ nearest value := by
  have close := (abs_le.1 (nearest_close positive)).1
  linarith

theorem nearest_nonneg : 0 ≤ nearest value := by
  have unit := two_pow_last_place_pos value
  have int := nearest_int_nonneg (div_nonneg positive unit.le)
  rw [nearest]
  exact mul_nonneg (by exact_mod_cast int) unit.le

end

theorem nearest_nat {value : Nat} (small : value < 2 ^ 53) : nearest value = value := by
  by_cases none : value = 0
  · subst none
    rw [nearest, Nat.cast_zero, zero_div, show (0 : Rat) = ((0 : Int) : Rat) from rfl,
      nearest_int_int, Int.cast_zero, zero_mul]
  have strict : (0 : Rat) < value := by exact_mod_cast Nat.pos_of_ne_zero none
  have places : Int.log 2 (value : Rat) ≤ 52 := by
    rw [Int.log_natCast]
    have logged := Nat.log_lt_of_lt_pow none small
    omega
  have shift : lastPlace value ≤ 0 := by
    rw [lastPlace, abs_of_pos strict]
    omega
  obtain ⟨count, same⟩ := Int.exists_eq_neg_ofNat shift
  have whole : (value : Rat) / 2 ^ lastPlace (value : Rat) = ((value * 2 ^ count : Int) : Rat) := by
    rw [same, zpow_neg, zpow_natCast, div_inv_eq_mul]
    push_cast
    rfl
  rw [nearest, whole, nearest_int_int, ← whole,
    div_mul_cancel₀ _ (two_pow_last_place_pos (value : Rat)).ne']

theorem rounded_eq {value : Rat} (positive : 0 ≤ value) (small : value ≤ 2 ^ 200) :
    rounded value = some (nearest value) := by
  unfold rounded
  apply if_pos
  rw [abs_of_nonneg (nearest_nonneg positive)]
  have above := nearest_le positive
  have slack : (value + 1) / 2 ^ 53 ≤ value + 1 :=
    div_le_self (by linarith) (one_le_pow₀ (by norm_num))
  have room : (2 : Rat) ^ 200 + (2 ^ 200 + 1) < 2 ^ 202 := by norm_num
  have within : (2 : Rat) ^ 202 ≤ limit := by
    unfold limit
    exact pow_le_pow_right₀ (by norm_num) (by norm_num)
  exact lt_of_lt_of_le (by linarith) within

theorem rounded_to_eq {value : Rat} {digits : Nat} (positive : 0 ≤ value)
    (small : value * 10 ^ digits ≤ 2 ^ 199) :
    roundedTo digits value =
      some (nearest (nearestInt (value * 10 ^ digits) / 10 ^ digits)) := by
  have scaled : 0 ≤ value * 10 ^ digits := by positivity
  have close := (abs_le.1 (nearest_int_close (value * 10 ^ digits))).2
  have whole : (0 : Rat) ≤ nearestInt (value * 10 ^ digits) := by
    exact_mod_cast nearest_int_nonneg scaled
  apply rounded_eq (by positivity)
  have divided : (nearestInt (value * 10 ^ digits) : Rat) / 10 ^ digits ≤
      nearestInt (value * 10 ^ digits) := div_le_self whole (one_le_pow₀ (by norm_num))
  have room : (2 : Rat) ^ 199 + 1 / 2 ≤ 2 ^ 200 := by norm_num
  linarith

inductive OverflowError where
  | tooLarge
  deriving DecidableEq

def timesInt (value : Rat) (count : Int) : Except OverflowError (Option Rat) :=
  match rounded count with
  | none => .error .tooLarge
  | some converted => .ok (rounded (value * converted))

def overInt (value : Option Rat) (count : Int) : Except OverflowError (Option Rat) :=
  match rounded count with
  | none => .error .tooLarge
  | some converted => .ok (value.bind fun dividend => rounded (dividend / converted))

def roundDigits (digits : Nat) : Option Rat → Except OverflowError (Option Rat)
  | none => .ok none
  | some value =>
    match roundedTo digits value with
    | none => .error .tooLarge
    | some decimal => .ok (some decimal)

/-- `round(100.0 * part / whole, 1)`. -/
def ratioPercent (part whole : Int) : Except OverflowError (Option Rat) :=
  match timesInt 100 part with
  | .error problem => .error problem
  | .ok product =>
    match overInt product whole with
    | .error problem => .error problem
    | .ok quotient => roundDigits 1 quotient

theorem times_int_eq {value : Rat} {count : Nat} (positive : 0 ≤ value) (few : value ≤ 100)
    (sized : count ≤ 2 ^ 127) :
    timesInt value count = .ok (some (nearest (value * nearest count))) := by
  have counted : (0 : Rat) ≤ count := Nat.cast_nonneg count
  have small : (count : Rat) ≤ 2 ^ 127 := by exact_mod_cast sized
  have room : (2 : Rat) ^ 126 ≤ 2 ^ 200 := pow_le_pow_right₀ (by norm_num) (by norm_num)
  have above := nearest_le counted
  have product : value * nearest count ≤ 100 * nearest count :=
    mul_le_mul_of_nonneg_right few (nearest_nonneg counted)
  have largest : 100 * ((2 : Rat) ^ 126 + (2 ^ 127 + 1) / 2 ^ 53) ≤ 2 ^ 200 := by norm_num
  rw [timesInt, Int.cast_natCast, rounded_eq counted (small.trans room)]
  dsimp only
  rw [rounded_eq (mul_nonneg positive (nearest_nonneg counted)) (by linarith)]

theorem over_int_eq {value : Rat} {count : Nat} (positive : 0 ≤ value) (some : 0 < count)
    (sized : count ≤ 2 ^ 127) (inside : value ≤ 2 ^ 199) :
    overInt (.some value) count = .ok (.some (nearest (value / nearest count))) := by
  have counted : (1 : Rat) ≤ count := by exact_mod_cast some
  have small : (count : Rat) ≤ 2 ^ 127 := by exact_mod_cast sized
  have room : (2 : Rat) ^ 126 ≤ 2 ^ 200 := pow_le_pow_right₀ (by norm_num) (by norm_num)
  have below := le_nearest (zero_le_one.trans counted)
  have divisor : 0 < nearest (count : Rat) := by linarith
  have quotient : value / nearest count ≤ 2 ^ 200 := by
    rw [div_le_iff₀ divisor]
    have enough : (2 : Rat) ^ 200 * (1 / 2) ≤ 2 ^ 200 * nearest (count : Rat) :=
      mul_le_mul_of_nonneg_left (by linarith) (by positivity)
    have halved : (2 : Rat) ^ 199 = 2 ^ 200 * (1 / 2) := by norm_num
    linarith
  rw [overInt, Int.cast_natCast, rounded_eq (zero_le_one.trans counted) (small.trans room)]
  dsimp only
  rw [Option.bind_some, rounded_eq (div_nonneg positive divisor.le) quotient]

theorem round_digits_bounded {value : Rat} (positive : 0 ≤ value) (below : value ≤ 10004 / 100) :
    ∃ decimal, roundDigits 1 (some value) = .ok (some decimal) ∧ 0 ≤ decimal ∧
      decimal ≤ 100 := by
  have scaled : 0 ≤ value * 10 ^ 1 := mul_nonneg positive (by norm_num)
  have room : (2000 : Rat) ≤ 2 ^ 199 := by norm_num
  have small : value * 10 ^ 1 ≤ 2 ^ 199 := by linarith
  have tenths : nearestInt (value * 10 ^ 1) ≤ 1000 := by
    apply nearest_int_le
    push_cast
    linarith
  have whole : (0 : Rat) ≤ nearestInt (value * 10 ^ 1) := by
    exact_mod_cast nearest_int_nonneg scaled
  have shown : (0 : Rat) ≤ nearestInt (value * 10 ^ 1) / 10 ^ 1 := div_nonneg whole (by norm_num)
  refine ⟨_, by rw [roundDigits, rounded_to_eq positive small], nearest_nonneg shown, ?_⟩
  generalize nearestInt (value * 10 ^ 1) = count at tenths whole shown ⊢
  rcases lt_or_eq_of_le tenths with fewer | full
  · have bound : (count : Rat) ≤ 999 := by exact_mod_cast Int.lt_add_one_iff.1 fewer
    have above := nearest_le shown
    linarith
  · have hundred := nearest_nat (show 100 < 2 ^ 53 by norm_num)
    rw [full]
    norm_num at hundred ⊢
    exact hundred.le

theorem ratio_percent_bounded {part whole : Nat} (some : 0 < whole) (inside : part ≤ whole)
    (sized : whole ≤ 2 ^ 127) :
    ∃ percent, ratioPercent part whole = .ok (.some percent) ∧ 0 ≤ percent ∧ percent ≤ 100 := by
  have partPositive : (0 : Rat) ≤ part := Nat.cast_nonneg part
  have wholePositive : (1 : Rat) ≤ whole := by exact_mod_cast some
  have ordered : (part : Rat) ≤ whole := by exact_mod_cast inside
  have small : (whole : Rat) ≤ 2 ^ 127 := by exact_mod_cast sized
  have partAbove := nearest_le partPositive
  have wholeBelow := le_nearest (zero_le_one.trans wholePositive)
  have times := @times_int_eq 100 part (by norm_num) (by norm_num) (inside.trans sized)
  have converted : 0 ≤ 100 * nearest (part : Rat) :=
    mul_nonneg (by norm_num) (nearest_nonneg partPositive)
  have productPositive := nearest_nonneg converted
  have productAbove := nearest_le converted
  obtain ⟨product, same⟩ : ∃ product, nearest (100 * nearest (part : Rat)) = product := ⟨_, rfl⟩
  rw [same] at times productPositive productAbove
  have room : (2 : Rat) ^ 126 * 1000 ≤ 2 ^ 199 := by norm_num
  have divided := over_int_eq productPositive some sized (by linarith)
  have divisor : 0 < nearest (whole : Rat) := by linarith
  have bounded : product / nearest (whole : Rat) ≤ 10001 / 100 := by
    rw [div_le_iff₀ divisor]
    linarith
  have quotient := div_nonneg productPositive divisor.le
  have quotientAbove := nearest_le quotient
  rw [ratioPercent, times]
  dsimp only
  rw [divided]
  exact round_digits_bounded (nearest_nonneg quotient) (by linarith)

end EvoomGuard.Lib.Binary64
