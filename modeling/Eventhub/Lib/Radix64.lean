import Mathlib

set_option autoImplicit false

namespace Radix64

-- Octets regrouped into sextets, most significant bits first. The last group
-- may be short, and is then filled up with zero bits.
def sextets : List Nat → List Nat
  | [] => []
  | [first] => [first / 4, first % 4 * 16]
  | [first, second] => [first / 4, first % 4 * 16 + second / 16, second % 16 * 4]
  | first :: second :: third :: rest =>
      first / 4 :: (first % 4 * 16 + second / 16) :: (second % 16 * 4 + third / 64) :: third % 64 :: sextets rest

-- A single sextet at the end stands for no octet.
def octets : List Nat → List Nat
  | [] => []
  | [_] => []
  | [first, second] => [first * 4 + second / 16]
  | [first, second, third] => [first * 4 + second / 16, second % 16 * 16 + third / 4]
  | first :: second :: third :: fourth :: rest =>
      (first * 4 + second / 16) :: (second % 16 * 16 + third / 4) :: (third % 4 * 64 + fourth) :: octets rest

theorem octets_sextets (bytes : List Nat) (small : ∀ byte ∈ bytes, byte < 256) : octets (sextets bytes) = bytes := by
  induction bytes using sextets.induct with
  | case1 => rfl
  | case2 first =>
      have one := small first List.mem_cons_self
      simp only [sextets, octets, List.cons.injEq, and_true]
      omega
  | case3 first second =>
      have two := small second (List.mem_cons_of_mem _ List.mem_cons_self)
      simp only [sextets, octets, List.cons.injEq, and_true]
      omega
  | case4 first second third rest ih =>
      have two := small second (List.mem_cons_of_mem _ List.mem_cons_self)
      have three := small third (List.mem_cons_of_mem _ (List.mem_cons_of_mem _ List.mem_cons_self))
      have later := ih (fun byte inside =>
        small byte (List.mem_cons_of_mem _ (List.mem_cons_of_mem _ (List.mem_cons_of_mem _ inside))))
      simp only [sextets, octets, later, List.cons.injEq, and_true]
      omega

theorem sextets_small (bytes : List Nat) (small : ∀ byte ∈ bytes, byte < 256) : ∀ sextet ∈ sextets bytes, sextet < 64 := by
  induction bytes using sextets.induct with
  | case1 => simp [sextets]
  | case2 first =>
      have one := small first List.mem_cons_self
      simp only [sextets, List.forall_mem_cons, List.not_mem_nil, false_implies, implies_true, and_true]
      omega
  | case3 first second =>
      have one := small first List.mem_cons_self
      have two := small second (List.mem_cons_of_mem _ List.mem_cons_self)
      simp only [sextets, List.forall_mem_cons, List.not_mem_nil, false_implies, implies_true, and_true]
      omega
  | case4 first second third rest ih =>
      have one := small first List.mem_cons_self
      have two := small second (List.mem_cons_of_mem _ List.mem_cons_self)
      have three := small third (List.mem_cons_of_mem _ (List.mem_cons_of_mem _ List.mem_cons_self))
      have later := ih (fun byte inside =>
        small byte (List.mem_cons_of_mem _ (List.mem_cons_of_mem _ (List.mem_cons_of_mem _ inside))))
      simp only [sextets, List.forall_mem_cons]
      refine ⟨?_, ?_, ?_, ?_, later⟩ <;> omega

theorem octets_length (sextets : List Nat) : (octets sextets).length = sextets.length * 3 / 4 := by
  induction sextets using octets.induct with
  | case1 => rfl
  | case2 => simp [octets]
  | case3 => simp [octets]
  | case4 => simp [octets]
  | case5 first second third fourth rest ih =>
      simp only [octets, List.length_cons, ih]
      omega

example : octets [19, 22, 5, 46, 19, 16] = [77, 97, 110, 77] := by decide

end Radix64
