import Mathlib

set_option autoImplicit false

namespace Scan

-- Why a scanner gives nothing back: the input is wrong, or it ends too early.
inductive Refusal where
  | failed
  | incomplete
deriving DecidableEq

def Scanner (Symbol Value : Type) : Type := List Symbol → Except Refusal (Value × List Symbol)

variable {Symbol Value Other : Type}

instance scannerMonad : Monad (Scanner Symbol) where
  pure value := fun input => .ok (value, input)
  bind scan next := fun input =>
    match scan input with
    | .error refusal => .error refusal
    | .ok (value, rest) => next value rest

def refuse : Scanner Symbol Value := fun _ => .error .failed

def peek : Scanner Symbol Symbol
  | [] => .error .incomplete
  | c :: rest => .ok (c, c :: rest)

def expect (accepts : Symbol → Bool) : Scanner Symbol Symbol
  | [] => .error .incomplete
  | c :: rest => if accepts c then .ok (c, rest) else .error .failed

-- All symbols up to the first that is not within; there has to be one.
def run (within : Symbol → Bool) : Scanner Symbol (List Symbol) := fun input =>
  match input.dropWhile within with
  | [] => .error .incomplete
  | c :: rest => .ok (input.takeWhile within, c :: rest)

theorem bind_ok (scan : Scanner Symbol Other) (next : Other → Scanner Symbol Value) (input : List Symbol) (value : Value)
    (rest : List Symbol) :
    (scan >>= next) input = .ok (value, rest) ↔ ∃ first middle, scan input = .ok (first, middle) ∧ next first middle = .ok (value, rest) := by
  simp only [bind]
  cases scan input with
  | error refusal => exact ⟨fun same => (nomatch same), fun ⟨_, _, same, _⟩ => (nomatch same)⟩
  | ok result =>
      constructor
      · exact fun same => ⟨result.1, result.2, rfl, same⟩
      · rintro ⟨first, middle, same, later⟩
        cases same
        exact later

theorem take_while_stops (within : Symbol → Bool) (front back : List Symbol) (all : ∀ c ∈ front, within c = true)
    (stops : ∀ c ∈ back.head?, within c = false) : (front ++ back).takeWhile within = front := by
  rw [List.takeWhile_append_of_pos all]
  cases back with
  | nil => rw [List.takeWhile_nil, List.append_nil]
  | cons c back => rw [List.takeWhile_cons_of_neg (Bool.eq_false_iff.mp (stops c rfl)), List.append_nil]

theorem drop_while_stops (within : Symbol → Bool) (front back : List Symbol) (all : ∀ c ∈ front, within c = true)
    (stops : ∀ c ∈ back.head?, within c = false) : (front ++ back).dropWhile within = back := by
  rw [List.dropWhile_append_of_pos all]
  cases back with
  | nil => rfl
  | cons c back => rw [List.dropWhile_cons_of_neg (Bool.eq_false_iff.mp (stops c rfl))]

theorem drop_while_head (within : Symbol → Bool) (symbols rest : List Symbol) (c : Symbol)
    (found : symbols.dropWhile within = c :: rest) : within c = false := by
  have head := List.head?_dropWhile_not within symbols
  rw [found] at head
  exact head

theorem run_ok (within : Symbol → Bool) (input symbols left : List Symbol) :
    run within input = .ok (symbols, left) ↔
      input = symbols ++ left ∧ (∀ c ∈ symbols, within c = true) ∧ ∃ c rest, left = c :: rest ∧ within c = false := by
  rw [run]
  constructor
  · intro same
    have joined := List.takeWhile_append_dropWhile (p := within) (l := input)
    cases found : input.dropWhile within with
    | nil =>
        rw [found] at same
        cases same
    | cons c rest =>
        rw [found] at same joined
        cases same
        exact ⟨joined.symm, fun c inside => List.mem_takeWhile_imp inside, c, rest, rfl, drop_while_head within input rest c found⟩
  · rintro ⟨rfl, all, c, rest, rfl, outside⟩
    have stops : ∀ x ∈ (c :: rest).head?, within x = false := by
      rintro x ⟨⟩
      exact outside
    rw [take_while_stops within symbols _ all stops, drop_while_stops within symbols _ all stops]

-- The scanner takes exactly the words of the language off the input.
def Recognises (scan : Scanner Symbol Value) (language : List Symbol → Value → Prop) : Prop :=
  ∀ input value rest, scan input = .ok (value, rest) ↔ ∃ used, input = used ++ rest ∧ language used value

section

variable (scan : Scanner Symbol Value) (language other : List Symbol → Value → Prop)

theorem recognises_congr (recognises : Recognises scan language) (same : ∀ word value, language word value ↔ other word value) :
    Recognises scan other := by
  intro input value rest
  rw [recognises]
  simp only [same]

theorem recognised_alone (recognises : Recognises scan language) (input rest : List Symbol) (value : Value)
    (scanned : scan input = .ok (value, rest)) :
    ∃ used, input = used ++ rest ∧ language used value ∧ ∀ later, scan (used ++ later) = .ok (value, later) := by
  obtain ⟨used, split, word⟩ := (recognises input value rest).mp scanned
  exact ⟨used, split, word, fun later => (recognises _ value later).mpr ⟨used, rfl, word⟩⟩

end

theorem recognises_pure (value : Value) : Recognises (pure value : Scanner Symbol Value) (fun word result => word = [] ∧ result = value) := by
  intro input result rest
  constructor
  · intro same
    cases same
    exact ⟨[], rfl, rfl, rfl⟩
  · rintro ⟨used, rfl, rfl, rfl⟩
    rfl

theorem recognises_refuse : Recognises (refuse : Scanner Symbol Value) (fun _ _ => False) :=
  fun _ _ _ => ⟨fun same => (nomatch same), fun ⟨_, _, never⟩ => never.elim⟩

theorem recognises_expect (accepts : Symbol → Bool) : Recognises (expect accepts) (fun word c => word = [c] ∧ accepts c = true) := by
  intro input value rest
  cases input with
  | nil => exact ⟨fun same => (nomatch same), fun ⟨_, split, word, _⟩ => by rw [word] at split; cases split⟩
  | cons c later =>
      rw [expect]
      constructor
      · intro same
        split at same
        · rename_i accepted
          cases same
          exact ⟨[_], rfl, rfl, accepted⟩
        · cases same
      · rintro ⟨used, split, rfl, accepted⟩
        cases split
        rw [if_pos accepted]
        rfl

theorem recognises_bind (scan : Scanner Symbol Other) (next : Other → Scanner Symbol Value) (before : List Symbol → Other → Prop)
    (after : Other → List Symbol → Value → Prop) (first : Recognises scan before) (second : ∀ value, Recognises (next value) (after value)) :
    Recognises (scan >>= next) (fun word value => ∃ front middle back, word = front ++ back ∧ before front middle ∧ after middle back value) := by
  intro input value rest
  rw [bind_ok]
  constructor
  · rintro ⟨middle, left, scanned, later⟩
    obtain ⟨front, rfl, word⟩ := (first input middle left).mp scanned
    obtain ⟨back, rfl, tail⟩ := (second middle left value rest).mp later
    exact ⟨front ++ back, (List.append_assoc _ _ _).symm, front, middle, back, rfl, word, tail⟩
  · rintro ⟨used, rfl, front, middle, back, rfl, word, tail⟩
    refine ⟨middle, back ++ rest, (first _ _ _).mpr ⟨front, List.append_assoc _ _ _, word⟩, (second _ _ _ _).mpr ⟨back, rfl, tail⟩⟩

theorem recognises_map (scan : Scanner Symbol Other) (language : List Symbol → Other → Prop) (build : Other → Value)
    (recognises : Recognises scan language) :
    Recognises (do let found ← scan; pure (build found)) (fun word value => ∃ found, language word found ∧ value = build found) := by
  refine recognises_congr _ _ _ (recognises_bind _ _ _ _ recognises (fun found => recognises_pure (build found))) ?_
  intro word value
  constructor
  · rintro ⟨front, found, _, rfl, taken, rfl, rfl⟩
    exact ⟨found, by rwa [List.append_nil], rfl⟩
  · rintro ⟨found, taken, rfl⟩
    exact ⟨word, found, [], (List.append_nil word).symm, taken, rfl, rfl⟩

theorem recognises_run (within : Symbol → Bool) (next : List Symbol → Scanner Symbol Value)
    (after : List Symbol → List Symbol → Value → Prop) (second : ∀ symbols, Recognises (next symbols) (after symbols))
    (nonempty : ∀ symbols value, ¬ after symbols [] value) :
    Recognises (run within >>= next) (fun word value => ∃ symbols c back, word = symbols ++ c :: back ∧ (∀ x ∈ symbols, within x = true) ∧
      within c = false ∧ after symbols (c :: back) value) := by
  intro input value rest
  rw [bind_ok]
  constructor
  · rintro ⟨symbols, left, scanned, later⟩
    obtain ⟨rfl, all, c, ended, rfl, outside⟩ := (run_ok within input symbols left).mp scanned
    obtain ⟨used, split, word⟩ := (second symbols _ value rest).mp later
    cases used with
    | nil => exact absurd word (nonempty symbols value)
    | cons first back =>
        cases split
        exact ⟨symbols ++ c :: back, (List.append_assoc symbols (c :: back) rest).symm, symbols, c, back, rfl, all, outside, word⟩
  · rintro ⟨used, rfl, symbols, c, back, rfl, all, outside, word⟩
    refine ⟨symbols, c :: (back ++ rest), (run_ok within _ _ _).mpr ⟨by rw [List.append_assoc, List.cons_append], all, c, _, rfl, outside⟩, ?_⟩
    exact (second symbols _ _ _).mpr ⟨c :: back, rfl, word⟩

theorem recognises_peek (next : Symbol → Scanner Symbol Value) (after : Symbol → List Symbol → Value → Prop)
    (second : ∀ c, Recognises (next c) (after c)) (nonempty : ∀ c value, ¬ after c [] value) :
    Recognises (peek >>= next) (fun word value => ∃ c back, word = c :: back ∧ after c (c :: back) value) := by
  intro input value rest
  rw [bind_ok]
  constructor
  · rintro ⟨c, left, peeked, later⟩
    cases input with
    | nil => cases peeked
    | cons first tail =>
        cases peeked
        obtain ⟨used, split, word⟩ := (second c _ value rest).mp later
        cases used with
        | nil => exact absurd word (nonempty c value)
        | cons first back =>
            cases split
            exact ⟨c :: back, rfl, c, back, rfl, word⟩
  · rintro ⟨used, rfl, c, back, rfl, word⟩
    exact ⟨c, c :: (back ++ rest), rfl, (second c _ _ _).mpr ⟨c :: back, rfl, word⟩⟩

end Scan
