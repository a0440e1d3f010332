import Mathlib

set_option autoImplicit false

namespace Decimal

def digitByte (digit : Nat) : UInt8 := UInt8.ofNat (48 + digit)

def digitValue (byte : UInt8) : Nat := byte.toNat - 48

def isDigit (byte : UInt8) : Bool := 48 ≤ byte && byte ≤ 57

def text (number : Nat) : List UInt8 := if number = 0 then [48] else ((Nat.digits 10 number).map digitByte).reverse

def value (bytes : List UInt8) : Nat := bytes.foldl (fun known byte => 10 * known + digitValue byte) 0

def signedText (number : Int) : List UInt8 := if number < 0 then 45 :: text number.natAbs else text number.natAbs

theorem digit_byte_value (digit : Nat) (small : digit < 10) : digitValue (digitByte digit) = digit := by
  rw [digitValue, digitByte, UInt8.toNat_ofNat']
  omega

theorem digit_byte_digit (digit : Nat) (small : digit < 10) : isDigit (digitByte digit) = true := by
  interval_cases digit <;> decide

theorem value_digits (digits : List Nat) (small : ∀ digit ∈ digits, digit < 10) :
    value (digits.map digitByte).reverse = Nat.ofDigits 10 digits := by
  induction digits with
  | nil => rfl
  | cons digit digits ih =>
      rw [List.forall_mem_cons] at small
      rw [List.map_cons, List.reverse_cons, value, List.foldl_append, ← value, ih small.2, Nat.ofDigits_cons]
      simp only [List.foldl_cons, List.foldl_nil, digit_byte_value digit small.1]
      omega

theorem value_text (number : Nat) : value (text number) = number := by
  unfold text
  split
  · rename_i zero
    rw [zero]
    rfl
  · rw [value_digits _ (fun digit inside => Nat.digits_lt_base (by decide) inside), Nat.ofDigits_digits]

theorem text_injective (left right : Nat) (same : text left = text right) : left = right := by
  rw [← value_text left, ← value_text right, same]

theorem text_digits (number : Nat) (byte : UInt8) (inside : byte ∈ text number) : isDigit byte = true := by
  unfold text at inside
  split at inside
  · rw [List.mem_singleton] at inside
    rw [inside]
    decide
  · rw [List.mem_reverse] at inside
    obtain ⟨digit, member, rfl⟩ := List.mem_map.mp inside
    exact digit_byte_digit digit (Nat.digits_lt_base (by decide) member)

theorem text_nonempty (number : Nat) : text number ≠ [] := by
  unfold text
  split
  · exact List.cons_ne_nil _ _
  · rename_i positive
    simpa using Nat.digits_ne_nil_iff_ne_zero.mpr positive

theorem signed_text_nonnegative (number : Int) (nonnegative : 0 ≤ number) : signedText number = text number.toNat := by
  rw [signedText, if_neg (by omega)]
  congr 1
  omega

theorem signed_text_injective (left right : Int) (same : signedText left = signedText right) : left = right := by
  have unsigned (number : Nat) (rest : List UInt8) : text number ≠ 45 :: rest := by
    intro equal
    have digit := text_digits number 45 (by rw [equal]; exact List.mem_cons_self)
    exact absurd digit (by decide)
  unfold signedText at same
  split at same <;> split at same
  · have sizes := text_injective _ _ (List.cons.inj same).2
    omega
  · exact absurd same.symm (unsigned _ _)
  · exact absurd same (unsigned _ _)
  · have sizes := text_injective _ _ same
    omega

end Decimal
