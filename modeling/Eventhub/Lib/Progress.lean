import Eventhub.Lib.Transition

set_option autoImplicit false

namespace Progress

open Transition

variable {State Event : Type}

def Stuck (step : State → Event → State → Prop) (state : State) : Prop := ∀ event after, ¬ step state event after

section

variable {step : State → Event → State → Prop} {measure : State → Nat} {invariant : State → Prop}
  (kept : ∀ before event after, invariant before → step before event after → invariant after)
  (decreases : ∀ before event after, invariant before → step before event after → measure after < measure before)

include kept decreases

theorem run_bounded {start last : State} {events : List Event} (initially : invariant start) (run : Run step start events last) :
    invariant last ∧ events.length + measure last ≤ measure start := by
  induction run with
  | nil => exact ⟨initially, by rw [List.length_nil, Nat.zero_add]⟩
  | snoc events event middle last _ taken ih =>
      obtain ⟨holds, bounded⟩ := ih
      have smaller := decreases middle event last holds taken
      refine ⟨kept middle event last holds taken, ?_⟩
      rw [List.length_append, List.length_singleton]
      omega

theorem run_to_stuck (start : State) (initially : invariant start) : ∃ events last, Run step start events last ∧ Stuck step last := by
  induction bound : measure start using Nat.strong_induction_on generalizing start with
  | _ size ih =>
      by_cases stuck : Stuck step start
      · exact ⟨[], start, .nil, stuck⟩
      · obtain ⟨event, after, taken⟩ : ∃ event after, step start event after := by
          by_contra none
          exact stuck (fun event after taken => none ⟨event, after, taken⟩)
        have smaller : measure after < size := bound ▸ decreases start event after initially taken
        obtain ⟨events, last, run, ended⟩ := ih (measure after) smaller after (kept start event after initially taken) rfl
        exact ⟨[event] ++ events, last, run_append step start after last [event] events (.snoc [] event start after .nil taken) run, ended⟩

end

theorem run_projected {View Move : Type} (step : State → Event → State → Prop) (move : View → Move → View → Prop) (view : State → View)
    (follows : ∀ before event after, step before event after → view after = view before ∨ ∃ taken, move (view before) taken (view after))
    (start last : State) (events : List Event) (run : Run step start events last) : ∃ moves, Run move (view start) moves (view last) := by
  induction run with
  | nil => exact ⟨[], .nil⟩
  | snoc events event middle last _ taken ih =>
      obtain ⟨moves, projected⟩ := ih
      rcases follows middle event last taken with same | ⟨next, moved⟩
      · exact ⟨moves, same ▸ projected⟩
      · exact ⟨moves ++ [next], .snoc moves next _ _ projected moved⟩

theorem sum_changed (count index : Nat) (before after : Nat → Nat) (inside : index < count)
    (others : ∀ other, other ≠ index → after other = before other) :
    (∑ place ∈ Finset.range count, after place) + before index = (∑ place ∈ Finset.range count, before place) + after index := by
  have member : index ∈ Finset.range count := Finset.mem_range.mpr inside
  have same : ∑ place ∈ (Finset.range count).erase index, after place = ∑ place ∈ (Finset.range count).erase index, before place :=
    Finset.sum_congr rfl (fun place there => others place (Finset.ne_of_mem_erase there))
  rw [← Finset.add_sum_erase _ after member, ← Finset.add_sum_erase _ before member, same]
  omega

end Progress
