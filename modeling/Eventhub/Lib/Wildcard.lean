import Mathlib

set_option autoImplicit false

namespace Wildcard

variable {α : Type}

-- A pattern is a path whose levels are words, single-level holes, or a tail
-- hole. Levels after a tail hole are never inspected.
inductive Level (α : Type) where
  | word (name : α)
  | one
  | many
deriving DecidableEq, Repr

def Matches : List (Level α) → List α → Prop
  | .many :: _, _ => True
  | [], [] => True
  | .one :: pattern, _ :: path => Matches pattern path
  | .word name :: pattern, level :: path => name = level ∧ Matches pattern path
  | [], _ :: _ => False
  | .one :: _, [] => False
  | .word _ :: _, [] => False

-- A level that no word of the pattern names can only be met by a hole, so it
-- stands for every level at its position.
def Generalizes (pattern : List (Level α)) (general path : List α) : Prop :=
  List.Forall₂ (fun g level => g = level ∨ Level.word g ∉ pattern) general path

theorem generalizes_tail (head : Level α) (pattern : List (Level α)) (general path : List α)
    (covers : Generalizes (head :: pattern) general path) : Generalizes pattern general path := by
  refine List.Forall₂.imp ?_ covers
  intro g level related
  rcases related with same | absent
  · exact Or.inl same
  · exact Or.inr (fun member => absent (List.mem_cons_of_mem head member))

theorem matches_of_general (pattern : List (Level α)) (general path : List α)
    (covers : Generalizes pattern general path) (hit : Matches pattern general) : Matches pattern path := by
  induction pattern generalizing general path with
  | nil =>
      cases covers with
      | nil => trivial
      | cons _ _ => exact hit.elim
  | cons head pattern ih =>
      cases head with
      | many => trivial
      | one =>
          cases covers with
          | nil => exact hit.elim
          | cons _ rest => exact ih _ _ (generalizes_tail _ _ _ _ rest) hit
      | word name =>
          cases covers with
          | nil => exact hit.elim
          | cons first rest =>
              refine ⟨?_, ih _ _ (generalizes_tail _ _ _ _ rest) hit.2⟩
              rcases first with same | absent
              · exact hit.1.trans same
              · exact absurd (by simp [hit.1]) absent

theorem matches_extend (pattern : List (Level α)) (path extra : List α)
    (short : pattern.length ≤ path.length) (hit : Matches pattern path)
    (hole : pattern.length < path.length ∨ Level.many ∈ pattern) : Matches pattern (path ++ extra) := by
  induction pattern generalizing path with
  | nil =>
      cases path with
      | nil => simp at hole
      | cons _ _ => exact hit.elim
  | cons head pattern ih =>
      cases head with
      | many => trivial
      | one =>
          cases path with
          | nil => exact hit.elim
          | cons level path => exact ih path (by simpa using short) hit (by simpa using hole)
      | word name =>
          cases path with
          | nil => exact hit.elim
          | cons level path => exact ⟨hit.1, ih path (by simpa using short) hit.2 (by simpa using hole)⟩

theorem matches_words (path : List α) (other : List α) :
    Matches (path.map Level.word) other ↔ path = other := by
  induction path generalizing other with
  | nil => cases other <;> simp [Matches]
  | cons level path ih => cases other <;> simp [Matches, ih]

theorem matches_holes (path : List α) : Matches (List.replicate path.length Level.one) path := by
  induction path with
  | nil => trivial
  | cons level path ih => exact ih

theorem matches_stem_many (stem : List (Level α)) (path : List α) (plain : Level.many ∉ stem) :
    Matches (stem ++ [.many]) path ↔ ∃ extra, Matches (stem ++ List.replicate extra .one) path := by
  induction stem generalizing path with
  | nil =>
      simp only [List.nil_append]
      exact ⟨fun _ => ⟨path.length, matches_holes path⟩, fun _ => trivial⟩
  | cons head stem ih =>
      have rest : Level.many ∉ stem := fun member => plain (List.mem_cons_of_mem head member)
      cases head with
      | many => simp at plain
      | one => cases path <;> simp [Matches, ih _ rest]
      | word name => cases path <;> simp [Matches, ih _ rest]

def covers [DecidableEq α] : List (Level α) → List (Level α) → Bool
  | .many :: _, _ => true
  | [], [] => true
  | [], _ :: _ => false
  | .one :: _, [] => false
  | .one :: _, .many :: _ => false
  | .one :: wide, .one :: narrow => covers wide narrow
  | .one :: wide, .word _ :: narrow => covers wide narrow
  | .word _ :: _, [] => false
  | .word _ :: _, .many :: _ => false
  | .word _ :: _, .one :: _ => false
  | .word name :: wide, .word other :: narrow => name = other && covers wide narrow

def fillHoles (level : α) (count : Nat) : List (Level α) → List α
  | [] => []
  | .many :: _ => List.replicate count level
  | .one :: pattern => level :: fillHoles level count pattern
  | .word name :: pattern => name :: fillHoles level count pattern

theorem covers_matches [DecidableEq α] (wide narrow : List (Level α)) (path : List α) (covered : covers wide narrow = true)
    (hit : Matches narrow path) : Matches wide path := by
  induction wide generalizing narrow path with
  | nil =>
      cases narrow with
      | nil => exact hit
      | cons _ _ => cases covered
  | cons head wide ih =>
      cases head with
      | many => trivial
      | one =>
          cases narrow with
          | nil => cases covered
          | cons other narrow =>
              cases other with
              | many => cases covered
              | one =>
                  cases path with
                  | nil => exact hit.elim
                  | cons level path => exact ih narrow path covered hit
              | word name =>
                  cases path with
                  | nil => exact hit.elim
                  | cons level path => exact ih narrow path covered hit.2
      | word name =>
          cases narrow with
          | nil => cases covered
          | cons other narrow =>
              cases other with
              | many => cases covered
              | one => cases covered
              | word same =>
                  rw [covers, Bool.and_eq_true, decide_eq_true_eq] at covered
                  cases path with
                  | nil => exact hit.elim
                  | cons level path => exact ⟨covered.1.trans hit.1, ih narrow path covered.2 hit.2⟩

theorem covers_of_fills [DecidableEq α] (wide narrow : List (Level α)) (level : α) (unnamed : Level.word level ∉ wide)
    (short : Matches wide (fillHoles level 0 narrow)) (long : Matches wide (fillHoles level 1 narrow)) : covers wide narrow = true := by
  induction narrow generalizing wide with
  | nil =>
      cases wide with
      | nil => rfl
      | cons head wide =>
          cases head with
          | many => rfl
          | one => exact short.elim
          | word name => exact short.elim
  | cons other narrow ih =>
      cases wide with
      | nil =>
          cases other with
          | many => exact long.elim
          | one => exact short.elim
          | word name => exact short.elim
      | cons head wide =>
          have rest : Level.word level ∉ wide := fun member => unnamed (List.mem_cons_of_mem head member)
          cases head with
          | many => rfl
          | one =>
              cases other with
              | many => exact short.elim
              | one => exact ih wide rest short long
              | word name => exact ih wide rest short long
          | word name =>
              cases other with
              | many => exact short.elim
              | one => exact absurd (by rw [← short.1]; exact List.mem_cons_self) unnamed
              | word same =>
                  rw [covers, Bool.and_eq_true, decide_eq_true_eq]
                  exact ⟨short.1, ih wide rest short.2 long.2⟩

theorem fill_holes_append (level : α) (count : Nat) (stem pattern : List (Level α)) (plain : Level.many ∉ stem) :
    fillHoles level count (stem ++ pattern) = fillHoles level count stem ++ fillHoles level count pattern := by
  induction stem with
  | nil => rfl
  | cons head stem ih =>
      have rest := ih (fun member => plain (List.mem_cons_of_mem head member))
      cases head with
      | many => exact absurd List.mem_cons_self plain
      | one => rw [List.cons_append, fillHoles, rest, fillHoles, List.cons_append]
      | word name => rw [List.cons_append, fillHoles, rest, fillHoles, List.cons_append]

end Wildcard
