import Mathlib

set_option autoImplicit false

namespace Memory

variable {Cell : Type}

def overwrite (cells : List Cell) (offset : Nat) (values : List Cell) : List Cell :=
  cells.take offset ++ (values ++ cells.drop (offset + values.length))

theorem overwrite_nil (cells : List Cell) (offset : Nat) : overwrite cells offset [] = cells := List.take_append_drop offset cells

section

variable (cells values : List Cell) (offset : Nat) (fits : offset + values.length ≤ cells.length)

include fits

theorem overwrite_length : (overwrite cells offset values).length = cells.length := by
  rw [overwrite, List.length_append, List.length_append, List.length_take, List.length_drop, min_eq_left (by omega)]
  omega

theorem overwrite_take : (overwrite cells offset values).take (offset + values.length) = cells.take offset ++ values := by
  have front : (cells.take offset).length = offset := List.length_take_of_le (by omega)
  have counted : offset + values.length = (cells.take offset ++ values).length := by rw [List.length_append, front]
  rw [overwrite, ← List.append_assoc, counted, List.take_left]

theorem overwrite_drop : (overwrite cells offset values).drop offset = values ++ cells.drop (offset + values.length) :=
  List.drop_left' (List.length_take_of_le (by omega))

theorem overwrite_behind : (overwrite cells offset values).drop (offset + values.length) = cells.drop (offset + values.length) := by
  rw [← List.drop_drop, overwrite_drop cells values offset fits, List.drop_left]

end

theorem overwrite_append (cells first second : List Cell) (offset : Nat) (fits : offset + first.length ≤ cells.length) :
    overwrite (overwrite cells offset first) (offset + first.length) second = overwrite cells offset (first ++ second) := by
  have behind : (overwrite cells offset first).drop (offset + first.length + second.length) =
      cells.drop (offset + (first ++ second).length) := by
    rw [← List.drop_drop, overwrite_behind cells first offset fits, List.drop_drop, List.length_append, Nat.add_assoc]
  rw [overwrite, overwrite_take cells first offset fits, behind, overwrite, List.append_assoc, List.append_assoc]

end Memory
