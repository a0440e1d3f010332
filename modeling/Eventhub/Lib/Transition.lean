import Mathlib

set_option autoImplicit false

namespace Transition

variable {State Event : Type}

inductive Run (step : State → Event → State → Prop) (start : State) : List Event → State → Prop where
  | nil : Run step start [] start
  | snoc (events : List Event) (event : Event) (middle last : State) (before : Run step start events middle)
      (taken : step middle event last) : Run step start (events ++ [event]) last

theorem run_invariant (step : State → Event → State → Prop) (holds : List Event → State → Prop) (start : State)
    (initially : holds [] start)
    (preserved : ∀ events event middle last, holds events middle → step middle event last → holds (events ++ [event]) last)
    (events : List Event) (last : State) (run : Run step start events last) : holds events last := by
  induction run with
  | nil => exact initially
  | snoc events event middle last _ taken ih => exact preserved events event middle last ih taken

theorem run_append (step : State → Event → State → Prop) (start middle last : State) (first second : List Event)
    (before : Run step start first middle) (after : Run step middle second last) : Run step start (first ++ second) last := by
  induction after with
  | nil => rwa [List.append_nil]
  | snoc events event middle last _ taken ih =>
      rw [← List.append_assoc]
      exact .snoc _ event _ _ ih taken

-- A loop that ends: step is one turn of it, none where it is left.
inductive Halts (step : State → Option State) : State → State → Prop where
  | left (last : State) (ended : step last = none) : Halts step last last
  | turned (state next last : State) (taken : step state = some next) (later : Halts step next last) : Halts step state last

theorem halts_invariant (step : State → Option State) (holds : State → Prop)
    (preserved : ∀ state next, step state = some next → holds state → holds next) (first last : State)
    (halts : Halts step first last) (initially : holds first) : holds last := by
  induction halts with
  | left => exact initially
  | turned state next last taken _ ih => exact ih (preserved state next taken initially)

-- A partial step function, run over a list of events.
def perform (step : State → Event → Option State) (start : State) (events : List Event) : Option State := events.foldlM step start

theorem perform_run (step : State → Event → Option State) (start last : State) (events : List Event)
    (done : perform step start events = some last) : Run (fun before event after => step before event = some after) start events last := by
  induction events generalizing start with
  | nil =>
      cases done
      exact .nil
  | cons event events ih =>
      obtain ⟨middle, taken, rest⟩ := Option.bind_eq_some_iff.mp done
      exact run_append _ _ _ _ [event] events (.snoc [] event start middle .nil taken) (ih middle rest)

theorem run_mono (step other : State → Event → State → Prop) (start last : State) (events : List Event)
    (implies : ∀ before event after, step before event after → other before event after) (run : Run step start events last) :
    Run other start events last := by
  induction run with
  | nil => exact .nil
  | snoc events event middle last _ taken ih => exact .snoc events event middle last ih (implies middle event last taken)

def guardedStep (step : State → Event → Option State) (guard : State → Event → Prop) [∀ state event, Decidable (guard state event)]
    (state : State) (event : Event) : Option State := if guard state event then step state event else none

theorem perform_guarded (step : State → Event → Option State) (guard : State → Event → Prop)
    [∀ state event, Decidable (guard state event)] (start last : State) (events : List Event)
    (done : perform (guardedStep step guard) start events = some last) :
    Run (fun before event after => guard before event ∧ step before event = some after) start events last := by
  refine run_mono _ _ start last events ?_ (perform_run (guardedStep step guard) start last events done)
  intro before event after taken
  unfold guardedStep at taken
  split at taken
  · rename_i holds
    exact ⟨holds, taken⟩
  · cases taken

-- The guard holds before every step of the deterministic run.
def Guarded (step : State → Event → State) (guard : State → Event → Prop) (state : State) : List Event → Prop
  | [] => True
  | event :: events => guard state event ∧ Guarded step guard (step state event) events

instance guardedDecidable (step : State → Event → State) (guard : State → Event → Prop)
    [decidableGuard : ∀ state event, Decidable (guard state event)] (state : State) (events : List Event) :
    Decidable (Guarded step guard state events) :=
  match events with
  | [] => isTrue trivial
  | event :: events => @instDecidableAnd _ _ (decidableGuard state event) (guardedDecidable step guard (step state event) events)

theorem guarded_run (step : State → Event → State) (guard : State → Event → Prop) (state : State) (events : List Event)
    (guarded : Guarded step guard state events) :
    Run (fun before event after => guard before event ∧ step before event = after) state events (events.foldl step state) := by
  induction events generalizing state with
  | nil => exact .nil
  | cons event events ih =>
      obtain ⟨now, later⟩ := guarded
      exact run_append _ _ _ _ [event] events (.snoc [] event state _ .nil ⟨now, rfl⟩) (ih _ later)

theorem guarded_split (step : State → Event → State) (guard : State → Event → Prop) (state : State) (before : List Event) (event : Event)
    (after : List Event) (guarded : Guarded step guard state (before ++ event :: after)) : guard (before.foldl step state) event := by
  induction before generalizing state with
  | nil => exact guarded.1
  | cons first before ih => exact ih _ guarded.2

-- Every item of a history, with what came before it.
def Throughout {α : Type} (holds : List α → α → Prop) (history : List α) : Prop :=
  ∀ before item after, history = before ++ item :: after → holds before item

theorem throughout_nil {α : Type} (holds : List α → α → Prop) : Throughout holds [] := by
  intro before item after split
  cases before <;> cases split

theorem throughout_snoc {α : Type} (holds : List α → α → Prop) (history : List α) (item : α) (earlier : Throughout holds history)
    (last : holds history item) : Throughout holds (history ++ [item]) := by
  intro before other after split
  rcases List.eq_nil_or_concat after with rfl | ⟨rest, final, rfl⟩
  · obtain ⟨same, tail⟩ := List.append_inj' split rfl
    cases tail
    rw [← same]
    exact last
  · rw [List.concat_eq_append, ← List.cons_append, ← List.append_assoc] at split
    exact earlier before other rest (List.append_inj' split rfl).1

theorem set_lookup {α : Type} (items : List α) (index place : Nat) (item found : α)
    (lookup : (items.set index item)[place]? = some found) :
    (place = index ∧ found = item) ∨ (place ≠ index ∧ items[place]? = some found) := by
  rw [List.getElem?_set] at lookup
  split at lookup
  · rename_i same
    split at lookup
    · exact .inl ⟨same.symm, (Option.some.inj lookup).symm⟩
    · cases lookup
  · rename_i different
    exact .inr ⟨fun equal => different equal.symm, lookup⟩

end Transition
