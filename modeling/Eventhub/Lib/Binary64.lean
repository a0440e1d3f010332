import Mathlib

set_option autoImplicit false

-- Conversion of integers to binary64: 53 significant bits, ties to even. The
-- results are integers again, so a double is represented by its value.
namespace Binary64

def roundUp (shift number : Nat) : Bool :=
  decide (2 ^ shift < 2 * (number % 2 ^ shift)) ||
    (decide (2 * (number % 2 ^ shift) = 2 ^ shift) && decide (number / 2 ^ shift % 2 = 1))

def roundAt (shift number : Nat) : Nat :=
  if roundUp shift number then (number / 2 ^ shift + 1) * 2 ^ shift else number / 2 ^ shift * 2 ^ shift

def roundNat (number : Nat) : Nat := roundAt (Nat.log2 number - 52) number

def ofInt (number : Int) : Int := if number < 0 then -(roundNat number.natAbs : Int) else roundNat number.natAbs

theorem round_at_lower (shift number : Nat) : number / 2 ^ shift * 2 ^ shift ≤ roundAt shift number := by
  unfold roundAt
  split
  · exact Nat.mul_le_mul_right _ (Nat.le_succ _)
  · exact Nat.le_refl _

theorem round_at_upper (shift number : Nat) : roundAt shift number ≤ (number / 2 ^ shift + 1) * 2 ^ shift := by
  unfold roundAt
  split
  · exact Nat.le_refl _
  · exact Nat.mul_le_mul_right _ (Nat.le_succ _)

theorem round_up_mono (shift left right : Nat) (ordered : left ≤ right) (same : left / 2 ^ shift = right / 2 ^ shift)
    (up : roundUp shift left = true) : roundUp shift right = true := by
  have leftSplit := Nat.div_add_mod left (2 ^ shift)
  have rightSplit := Nat.div_add_mod right (2 ^ shift)
  rw [same] at leftSplit
  simp only [roundUp, Bool.or_eq_true, Bool.and_eq_true, decide_eq_true_eq, same] at up ⊢
  omega

theorem round_at_mono (shift left right : Nat) (ordered : left ≤ right) : roundAt shift left ≤ roundAt shift right := by
  have quotients : left / 2 ^ shift ≤ right / 2 ^ shift := Nat.div_le_div_right ordered
  by_cases same : left / 2 ^ shift = right / 2 ^ shift
  · by_cases up : roundUp shift left = true
    · rw [roundAt, roundAt, if_pos up, if_pos (round_up_mono shift left right ordered same up), same]
    · rw [roundAt, if_neg up, same]
      exact round_at_lower shift right
  · calc roundAt shift left
      _ ≤ (left / 2 ^ shift + 1) * 2 ^ shift := round_at_upper shift left
      _ ≤ right / 2 ^ shift * 2 ^ shift := Nat.mul_le_mul_right _ (by omega)
      _ ≤ roundAt shift right := round_at_lower shift right

theorem round_at_zero (number : Nat) : roundAt 0 number = number := by
  simp [roundAt, roundUp, Nat.mod_one]

theorem round_nat_exact (number : Nat) (small : number < 2 ^ 53) : roundNat number = number := by
  have bits : Nat.log2 number - 52 = 0 := by
    by_cases zero : number = 0
    · rw [zero]
      rfl
    · have bound := (Nat.log2_lt zero).mpr small
      omega
  rw [roundNat, bits, round_at_zero]

theorem round_nat_upper (number : Nat) : roundNat number ≤ 2 ^ (Nat.log2 number + 1) := by
  have below : number < 2 ^ (Nat.log2 number - 52) * 2 ^ (Nat.log2 number + 1 - (Nat.log2 number - 52)) := by
    rw [← Nat.pow_add, Nat.add_sub_cancel' (by omega)]
    exact Nat.lt_log2_self
  calc roundNat number
    _ ≤ (number / 2 ^ (Nat.log2 number - 52) + 1) * 2 ^ (Nat.log2 number - 52) := round_at_upper _ _
    _ ≤ 2 ^ (Nat.log2 number + 1 - (Nat.log2 number - 52)) * 2 ^ (Nat.log2 number - 52) :=
        Nat.mul_le_mul_right _ (Nat.div_lt_of_lt_mul below)
    _ = 2 ^ (Nat.log2 number + 1) := by rw [← Nat.pow_add, Nat.sub_add_cancel (by omega)]

theorem round_nat_lower (number : Nat) (positive : number ≠ 0) : 2 ^ Nat.log2 number ≤ roundNat number := by
  have above : 2 ^ (Nat.log2 number - (Nat.log2 number - 52)) * 2 ^ (Nat.log2 number - 52) ≤ number := by
    rw [← Nat.pow_add, Nat.sub_add_cancel (by omega)]
    exact Nat.log2_self_le positive
  calc 2 ^ Nat.log2 number
    _ = 2 ^ (Nat.log2 number - (Nat.log2 number - 52)) * 2 ^ (Nat.log2 number - 52) := by
        rw [← Nat.pow_add, Nat.sub_add_cancel (by omega)]
    _ ≤ number / 2 ^ (Nat.log2 number - 52) * 2 ^ (Nat.log2 number - 52) :=
        Nat.mul_le_mul_right _ ((Nat.le_div_iff_mul_le (Nat.two_pow_pos _)).mpr above)
    _ ≤ roundNat number := round_at_lower _ _

theorem round_nat_mono (left right : Nat) (ordered : left ≤ right) : roundNat left ≤ roundNat right := by
  by_cases zero : left = 0
  · rw [zero]
    exact Nat.zero_le _
  · have sizes : Nat.log2 left ≤ Nat.log2 right :=
      (Nat.le_log2 (by omega)).mpr (Nat.le_trans (Nat.log2_self_le zero) ordered)
    by_cases same : Nat.log2 left = Nat.log2 right
    · rw [roundNat, roundNat, same]
      exact round_at_mono _ left right ordered
    · calc roundNat left
        _ ≤ 2 ^ (Nat.log2 left + 1) := round_nat_upper left
        _ ≤ 2 ^ Nat.log2 right := Nat.pow_le_pow_right (by decide) (by omega)
        _ ≤ roundNat right := round_nat_lower right (by omega)

theorem of_int_exact (number : Int) (small : number.natAbs < 2 ^ 53) : ofInt number = number := by
  rw [ofInt, round_nat_exact _ small]
  split <;> omega

theorem of_int_mono (left right : Int) (ordered : left ≤ right) : ofInt left ≤ ofInt right := by
  unfold ofInt
  split <;> split
  · have sizes := round_nat_mono right.natAbs left.natAbs (by omega)
    omega
  · omega
  · omega
  · have sizes := round_nat_mono left.natAbs right.natAbs (by omega)
    omega

example : ofInt 9007199254740993 = 9007199254740992 := by decide

end Binary64
