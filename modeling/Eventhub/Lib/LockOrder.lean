import Eventhub.Lib.Progress

set_option autoImplicit false

namespace LockOrder

open Transition Progress

variable {Lock : Type}

inductive Act (Lock : Type) where
  | acquire (lock : Lock)
  | release (lock : Lock)

structure Thread (Lock : Type) where
  held : List Lock
  todo : List (Act Lock)

def holding (lock : Lock) (body : List (Act Lock)) : List (Act Lock) := .acquire lock :: (body ++ [.release lock])

-- Critical sections one after the other, each inside only of sections whose
-- locks have a lower rank.
inductive Nested (rank : Lock → Nat) : Nat → List (Act Lock) → Prop where
  | nil (bound : Nat) : Nested rank bound []
  | holding (bound : Nat) (lock : Lock) (body rest : List (Act Lock)) (above : bound ≤ rank lock)
      (inner : Nested rank (rank lock + 1) body) (outer : Nested rank bound rest) : Nested rank bound (holding lock body ++ rest)

variable {rank : Lock → Nat} {bound : Nat} {todo : List (Act Lock)}

theorem nested_append {rest : List (Act Lock)} (left : Nested rank bound todo) (right : Nested rank bound rest) :
    Nested rank bound (todo ++ rest) := by
  induction left with
  | nil bound => exact right
  | holding bound lock body rest above inner _ _ ih =>
      rw [List.append_assoc]
      exact .holding bound lock body _ above inner (ih right)

theorem nested_section {lock : Lock} (above : bound ≤ rank lock) (inner : Nested rank (rank lock + 1) todo) :
    Nested rank bound (holding lock todo) := by
  rw [← List.append_nil (holding lock todo)]
  exact .holding bound lock todo [] above inner (.nil bound)

theorem nested_all {α : Type} {items : List α} {act : α → List (Act Lock)} (each : ∀ item ∈ items, Nested rank bound (act item)) :
    Nested rank bound (items.flatMap act) := by
  induction items with
  | nil => exact .nil bound
  | cons item items ih =>
      rw [List.flatMap_cons]
      exact nested_append (each item List.mem_cons_self) (ih (fun other inside => each other (List.mem_cons_of_mem item inside)))

theorem nested_unless {α : Type} {items : List α} {bad : α → Bool} {act : α → List (Act Lock)} (kept : items.any bad = false)
    (good : ∀ item, bad item = false → Nested rank bound (act item)) : Nested rank bound (items.flatMap act) :=
  nested_all (fun item inside => good item (eq_false_of_ne_true (List.any_eq_false.mp kept item inside)))

theorem nested_lower {low : Nat} (below : low ≤ bound) (nested : Nested rank bound todo) : Nested rank low todo := by
  induction nested with
  | nil bound => exact .nil low
  | holding bound lock body rest above inner _ _ ih =>
      exact .holding low lock body rest (Nat.le_trans below above) inner (ih below)

section

variable [DecidableEq Lock]

def free (threads : List (Thread Lock)) (lock : Lock) : Bool := threads.all (fun thread => lock ∉ thread.held)

def advance (threads : List (Thread Lock)) (index : Nat) : Option (List (Thread Lock)) := do
  let thread ← threads[index]?
  match thread.todo with
  | [] => none
  | .acquire lock :: todo => if free threads lock = true then some (threads.set index ⟨lock :: thread.held, todo⟩) else none
  | .release lock :: todo => some (threads.set index ⟨thread.held.erase lock, todo⟩)

def Advances (before : List (Thread Lock)) (index : Nat) (after : List (Thread Lock)) : Prop := advance before index = some after

inductive Move (before : List (Thread Lock)) (index : Nat) : List (Thread Lock) → Prop where
  | acquired (held : List Lock) (lock : Lock) (todo : List (Act Lock)) (present : before[index]? = some ⟨held, .acquire lock :: todo⟩)
      (unheld : ∀ thread ∈ before, lock ∉ thread.held) : Move before index (before.set index ⟨lock :: held, todo⟩)
  | released (held : List Lock) (lock : Lock) (todo : List (Act Lock)) (present : before[index]? = some ⟨held, .release lock :: todo⟩) :
      Move before index (before.set index ⟨held.erase lock, todo⟩)

theorem advance_moves (before after : List (Thread Lock)) (index : Nat) (taken : Advances before index after) : Move before index after := by
  obtain ⟨⟨held, todo⟩, present, rest⟩ := Option.bind_eq_some_iff.mp taken
  cases todo with
  | nil => cases rest
  | cons act todo =>
      cases act with
      | acquire lock =>
          obtain ⟨unheld, outcome⟩ := Option.ite_none_right_eq_some.mp rest
          cases outcome
          exact .acquired held lock todo present (by simpa [free] using unheld)
      | release lock =>
          cases rest
          exact .released held lock todo present

def Ordered (rank : Lock → Nat) : List Lock → List (Act Lock) → Prop
  | held, [] => held = []
  | held, .acquire lock :: todo => (∀ other ∈ held, rank other < rank lock) ∧ Ordered rank (lock :: held) todo
  | held, .release lock :: todo => Ordered rank (held.erase lock) todo

theorem nested_ordered {tail : List (Act Lock)} {held : List Lock} (nested : Nested rank bound todo)
    (below : ∀ lock ∈ held, rank lock < bound) (later : Ordered rank held tail) : Ordered rank held (todo ++ tail) := by
  induction nested generalizing held tail with
  | nil bound => exact later
  | holding bound lock body rest above _ _ innerIh outerIh =>
      have after : Ordered rank (lock :: held) (.release lock :: (rest ++ tail)) := by
        unfold Ordered
        rw [List.erase_cons_head]
        exact outerIh below later
      have inside : ∀ other ∈ lock :: held, rank other < rank lock + 1 := by
        intro other member
        rcases List.mem_cons.mp member with rfl | deeper
        · exact Nat.lt_succ_self _
        · exact Nat.lt_succ_of_lt (Nat.lt_of_lt_of_le (below other deeper) above)
      have shape : holding lock body ++ rest ++ tail = .acquire lock :: (body ++ (.release lock :: (rest ++ tail))) := by
        simp [holding]
      rw [shape]
      exact ⟨fun other member => Nat.lt_of_lt_of_le (below other member) above, innerIh inside after⟩

def AllOrdered (rank : Lock → Nat) (threads : List (Thread Lock)) : Prop := ∀ thread ∈ threads, Ordered rank thread.held thread.todo

theorem all_ordered_step (before : List (Thread Lock)) (index : Nat) (after : List (Thread Lock))
    (ordered : AllOrdered rank before) (taken : Advances before index after) : AllOrdered rank after := by
  intro thread inside
  cases advance_moves before after index taken with
  | acquired held lock todo present unheld =>
      rcases List.mem_or_eq_of_mem_set inside with among | rfl
      · exact ordered thread among
      · exact (ordered _ (List.mem_of_getElem? present)).2
  | released held lock todo present =>
      rcases List.mem_or_eq_of_mem_set inside with among | rfl
      · exact ordered thread among
      · exact (show Ordered rank held (.release lock :: todo) from ordered _ (List.mem_of_getElem? present))

def workLeft (threads : List (Thread Lock)) : Nat := (threads.map (fun thread => thread.todo.length)).sum

theorem work_decreases (before : List (Thread Lock)) (index : Nat) (after : List (Thread Lock)) (taken : Advances before index after) :
    workLeft after < workLeft before := by
  have smaller (held : List Lock) (act : Act Lock) (todo : List (Act Lock)) (next : List Lock)
      (present : before[index]? = some ⟨held, act :: todo⟩) : workLeft (before.set index ⟨next, todo⟩) < workLeft before := by
    obtain ⟨inside, found⟩ := List.getElem?_eq_some_iff.mp present
    have split : before = before.take index ++ ⟨held, act :: todo⟩ :: before.drop (index + 1) := by
      rw [← found, List.getElem_cons_drop, List.take_append_drop]
    have changed := List.set_eq_take_append_cons_drop (l := before) (i := index) (a := ⟨next, todo⟩)
    rw [if_pos inside] at changed
    rw [changed]
    conv_rhs => rw [split]
    simp [workLeft]
  cases advance_moves before after index taken with
  | acquired held lock todo present unheld => exact smaller held _ todo _ present
  | released held lock todo present => exact smaller held _ todo _ present

def wanted (rank : Lock → Nat) (thread : Thread Lock) : Nat :=
  match thread.todo with
  | .acquire lock :: _ => rank lock
  | _ => 0

section

variable {threads : List (Thread Lock)} (stuck : Stuck Advances threads)

include stuck

theorem stuck_waits (thread : Thread Lock) (inside : thread ∈ threads) (busy : thread.todo ≠ []) :
    ∃ lock todo, thread.todo = .acquire lock :: todo ∧ ∃ owner ∈ threads, lock ∈ owner.held := by
  obtain ⟨index, present⟩ := List.mem_iff_getElem?.mp inside
  obtain ⟨held, todo⟩ := thread
  cases todo with
  | nil => exact absurd rfl busy
  | cons act todo =>
      cases act with
      | release lock => exact absurd (by simp only [Advances, advance, present]; rfl) (stuck index _)
      | acquire lock =>
          refine ⟨lock, todo, rfl, ?_⟩
          by_contra none
          have unheld : free threads lock = true := by
            simp only [free, List.all_eq_true, decide_eq_true_eq]
            exact fun owner member held => none ⟨owner, member, held⟩
          exact absurd (by simp only [Advances, advance, present]; exact if_pos unheld) (stuck index _)

theorem stuck_higher (ordered : AllOrdered rank threads) (thread : Thread Lock) (inside : thread ∈ threads) (busy : thread.todo ≠ []) :
    ∃ owner ∈ threads, owner.todo ≠ [] ∧ wanted rank thread < wanted rank owner := by
  obtain ⟨lock, todo, next, owner, member, held⟩ := stuck_waits stuck thread inside busy
  have above := ordered owner member
  have working : owner.todo ≠ [] := by
    intro finished
    rw [finished] at above
    rw [show owner.held = [] from above] at held
    cases held
  obtain ⟨other, rest, following, _⟩ := stuck_waits stuck owner member working
  refine ⟨owner, member, working, ?_⟩
  rw [following] at above
  simpa only [wanted, next, following] using above.1 lock held

theorem stuck_done (ordered : AllOrdered rank threads) : ∀ thread ∈ threads, thread.todo = [] ∧ thread.held = [] := by
  have idle : threads.filter (fun thread => !thread.todo.isEmpty) = [] := by
    cases highest : (threads.filter (fun thread => !thread.todo.isEmpty)).argmax (wanted rank) with
    | none => exact List.argmax_eq_none.mp highest
    | some top =>
        obtain ⟨inside, busy⟩ := List.mem_filter.mp (List.argmax_mem highest)
        obtain ⟨owner, member, working, higher⟩ := stuck_higher stuck ordered top inside (by simpa using busy)
        have bound := List.le_of_mem_argmax (List.mem_filter.mpr ⟨member, by simpa using working⟩) highest
        omega
  intro thread inside
  have finished : thread.todo = [] := by
    by_contra busy
    have listed : thread ∈ threads.filter (fun thread => !thread.todo.isEmpty) := List.mem_filter.mpr ⟨inside, by simpa using busy⟩
    rw [idle] at listed
    cases listed
  have nothing := ordered thread inside
  rw [finished] at nothing
  exact ⟨finished, nothing⟩

end

-- A thread that will ask for a lock it holds.
def SelfLocks : List Lock → List (Act Lock) → Prop
  | _, [] => False
  | held, .acquire lock :: todo => lock ∈ held ∨ SelfLocks (lock :: held) todo
  | held, .release lock :: todo => SelfLocks (held.erase lock) todo

theorem self_locks_after {tail : List (Act Lock)} {held : List Lock} (nested : Nested rank bound todo) (later : SelfLocks held tail) :
    SelfLocks held (todo ++ tail) := by
  induction nested generalizing held tail with
  | nil bound => exact later
  | holding bound lock body rest above _ _ innerIh outerIh =>
      have after : SelfLocks (lock :: held) (.release lock :: (rest ++ tail)) := by
        unfold SelfLocks
        rw [List.erase_cons_head]
        exact outerIh later
      have shape : holding lock body ++ rest ++ tail = .acquire lock :: (body ++ (.release lock :: (rest ++ tail))) := by
        simp [holding]
      rw [shape]
      exact .inr (innerIh after)

theorem self_locks_append {held : List Lock} (tail : List (Act Lock)) (locks : SelfLocks held todo) : SelfLocks held (todo ++ tail) := by
  induction todo generalizing held with
  | nil => exact locks.elim
  | cons act todo ih =>
      cases act with
      | acquire lock => exact locks.imp_right ih
      | release lock => exact ih (show SelfLocks (held.erase lock) todo from locks)

theorem self_locks_section {held : List Lock} {lock : Lock} (locks : SelfLocks (lock :: held) todo) :
    SelfLocks held (holding lock todo) := .inr (self_locks_append [.release lock] locks)

theorem self_locks_any {α : Type} {held : List Lock} {items : List α} {bad : α → Bool} {act : α → List (Act Lock)}
    (one : items.any bad = true) (good : ∀ item, bad item = false → Nested rank bound (act item))
    (locks : ∀ item ∈ items, bad item = true → SelfLocks held (act item)) : SelfLocks held (items.flatMap act) := by
  induction items with
  | nil => cases one
  | cons item items ih =>
      rw [List.flatMap_cons]
      cases first : bad item with
      | true => exact self_locks_append _ (locks item List.mem_cons_self first)
      | false =>
          rw [List.any_cons, first, Bool.false_or] at one
          exact self_locks_after (good item first) (ih one (fun other inside => locks other (List.mem_cons_of_mem item inside)))

theorem self_locks_step (before after : List (Thread Lock)) (index place : Nat) (thread : Thread Lock)
    (present : before[place]? = some thread) (locks : SelfLocks thread.held thread.todo) (taken : Advances before index after) :
    ∃ later, after[place]? = some later ∧ SelfLocks later.held later.todo := by
  by_cases same : index = place
  · subst same
    have inside := (List.getElem?_eq_some_iff.mp present).1
    cases advance_moves before after index taken with
    | acquired held lock todo found unheld =>
        cases found.symm.trans present
        refine ⟨_, List.getElem?_set_self inside, ?_⟩
        rcases locks with again | deeper
        · exact absurd again (unheld _ (List.mem_of_getElem? present))
        · exact deeper
    | released held lock todo found =>
        cases found.symm.trans present
        exact ⟨_, List.getElem?_set_self inside, locks⟩
  · cases advance_moves before after index taken with
    | acquired held lock todo found unheld => exact ⟨thread, (List.getElem?_set_ne same).trans present, locks⟩
    | released held lock todo found => exact ⟨thread, (List.getElem?_set_ne same).trans present, locks⟩

end

end LockOrder
