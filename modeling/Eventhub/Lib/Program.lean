import Mathlib

set_option autoImplicit false

-- Programs that call out for commands and get an answer to each, and that end
-- with a result or a failure. A program is the tree of its runs.
inductive Program (Command : Type) (Answer : Command → Type) (Failure α : Type) where
  | done (result : Except Failure α)
  | call (command : Command) (next : Answer command → Program Command Answer Failure α)

namespace Program

variable {Command : Type} {Answer : Command → Type} {Failure α β σ : Type}

def bind : Program Command Answer Failure α → (α → Program Command Answer Failure β) → Program Command Answer Failure β
  | .done (.ok value), next => next value
  | .done (.error failure), _ => .done (.error failure)
  | .call command rest, next => .call command (fun answer => (rest answer).bind next)

def tryCatch : Program Command Answer Failure α → (Failure → Program Command Answer Failure α) → Program Command Answer Failure α
  | .done (.ok value), _ => .done (.ok value)
  | .done (.error failure), handler => handler failure
  | .call command rest, handler => .call command (fun answer => (rest answer).tryCatch handler)

instance : Monad (Program Command Answer Failure) where
  pure value := .done (.ok value)
  bind := bind

def perform (command : Command) : Program Command Answer Failure (Answer command) := .call command (fun answer => .done (.ok answer))

def each (body : β → Program Command Answer Failure Unit) : List β → Program Command Answer Failure Unit
  | [] => pure ()
  | item :: rest => do
      body item
      each body rest

def Uses (allowed : Command → Prop) : Program Command Answer Failure α → Prop
  | .done _ => True
  | .call command next => allowed command ∧ ∀ answer, (next answer).Uses allowed

theorem uses_mono (narrow wide : Command → Prop) (implies : ∀ command, narrow command → wide command)
    (program : Program Command Answer Failure α) (uses : program.Uses narrow) : program.Uses wide := by
  induction program with
  | done result => trivial
  | call command next ih => exact ⟨implies command uses.1, fun answer => ih answer (uses.2 answer)⟩

theorem uses_all (program : Program Command Answer Failure α) : program.Uses (fun _ => True) := by
  induction program with
  | done result => trivial
  | call command next ih => exact ⟨trivial, ih⟩

section

variable (allowed : Command → Prop)

theorem uses_bind (program : Program Command Answer Failure α) (next : α → Program Command Answer Failure β)
    (first : program.Uses allowed) (second : ∀ value, (next value).Uses allowed) : (program >>= next).Uses allowed := by
  induction program with
  | done result =>
      cases result with
      | ok value => exact second value
      | error failure => trivial
  | call command rest ih => exact ⟨first.1, fun answer => ih answer (first.2 answer)⟩

theorem uses_try_catch (program : Program Command Answer Failure α) (handler : Failure → Program Command Answer Failure α)
    (first : program.Uses allowed) (second : ∀ failure, (handler failure).Uses allowed) :
    (program.tryCatch handler).Uses allowed := by
  induction program with
  | done result =>
      cases result with
      | ok value => trivial
      | error failure => exact second failure
  | call command rest ih => exact ⟨first.1, fun answer => ih answer (first.2 answer)⟩

theorem uses_perform (command : Command) (permitted : allowed command) :
    (perform command : Program Command Answer Failure (Answer command)).Uses allowed := ⟨permitted, fun _ => trivial⟩

theorem uses_each (body : β → Program Command Answer Failure Unit) (items : List β)
    (bodies : ∀ item ∈ items, (body item).Uses allowed) : (each body items).Uses allowed := by
  induction items with
  | nil => trivial
  | cons item rest ih =>
      exact uses_bind allowed _ _ (bodies item List.mem_cons_self)
        (fun _ => ih (fun other inside => bodies other (List.mem_cons_of_mem item inside)))

end

-- answer says what a command does to the state and what it is answered.
def run (answer : σ → (command : Command) → σ × Answer command) : Program Command Answer Failure α → σ → σ × Except Failure α
  | .done result, state => (state, result)
  | .call command next, state => (next (answer state command).2).run answer (answer state command).1

theorem run_keeps (answer : σ → (command : Command) → σ × Answer command) (allowed : Command → Prop) (holds : σ → Prop)
    (kept : ∀ state command, holds state → allowed command → holds (answer state command).1)
    (program : Program Command Answer Failure α) (uses : program.Uses allowed) (state : σ) (before : holds state) :
    holds (program.run answer state).1 := by
  induction program generalizing state with
  | done result => exact before
  | call command next ih => exact ih _ (uses.2 _) _ (kept state command before uses.1)

-- Every path with possible answers: the commands along it with their answers,
-- and its result.
def Paths (possible : (command : Command) → Answer command → Prop) (holds : List (Sigma Answer) → Except Failure α → Prop) :
    Program Command Answer Failure α → Prop
  | .done result => holds [] result
  | .call command next =>
      ∀ answer, possible command answer → (next answer).Paths possible (fun steps result => holds (⟨command, answer⟩ :: steps) result)

def Takes (possible : (command : Command) → Answer command → Prop) :
    Program Command Answer Failure α → List (Sigma Answer) → Except Failure α → Prop
  | .done result, steps, last => steps = [] ∧ last = result
  | .call command next, steps, last =>
      ∃ answer rest, steps = ⟨command, answer⟩ :: rest ∧ possible command answer ∧ (next answer).Takes possible rest last

section

variable (possible : (command : Command) → Answer command → Prop)

theorem paths_takes (holds : List (Sigma Answer) → Except Failure α → Prop) (program : Program Command Answer Failure α)
    (paths : program.Paths possible holds) (steps : List (Sigma Answer)) (last : Except Failure α)
    (taken : program.Takes possible steps last) : holds steps last := by
  induction program generalizing holds steps with
  | done result =>
      obtain ⟨rfl, rfl⟩ := taken
      exact paths
  | call command next ih =>
      obtain ⟨answer, rest, rfl, given, later⟩ := taken
      exact ih answer _ (paths answer given) rest later

theorem takes_some (answered : ∀ command, ∃ answer, possible command answer) (program : Program Command Answer Failure α) :
    ∃ steps last, program.Takes possible steps last := by
  induction program with
  | done result => exact ⟨[], result, rfl, rfl⟩
  | call command next ih =>
      obtain ⟨answer, given⟩ := answered command
      obtain ⟨steps, last, later⟩ := ih answer
      exact ⟨⟨command, answer⟩ :: steps, last, answer, steps, rfl, given, later⟩

theorem paths_mono (narrow wide : List (Sigma Answer) → Except Failure α → Prop)
    (implies : ∀ steps result, narrow steps result → wide steps result) (program : Program Command Answer Failure α)
    (paths : program.Paths possible narrow) : program.Paths possible wide := by
  induction program generalizing narrow wide with
  | done result => exact implies [] result paths
  | call command next ih =>
      intro answer given
      exact ih answer _ _ (fun steps result => implies (⟨command, answer⟩ :: steps) result) (paths answer given)

theorem uses_paths (allowed : Command → Prop) (program : Program Command Answer Failure α) (uses : program.Uses allowed) :
    program.Paths possible (fun steps _ => ∀ step ∈ steps, allowed step.1) := by
  induction program with
  | done result => exact fun step inside => nomatch inside
  | call command next ih =>
      intro answer _
      refine paths_mono possible _ _ ?_ _ (ih answer (uses.2 answer))
      exact fun steps _ later => List.forall_mem_cons.mpr ⟨uses.1, later⟩

theorem paths_bind (first : List (Sigma Answer) → Except Failure α → Prop) (holds : List (Sigma Answer) → Except Failure β → Prop)
    (program : Program Command Answer Failure α) (next : α → Program Command Answer Failure β)
    (before : program.Paths possible first)
    (failed : ∀ steps failure, first steps (.error failure) → holds steps (.error failure))
    (rest : ∀ steps value, first steps (.ok value) → (next value).Paths possible (fun more result => holds (steps ++ more) result)) :
    (program >>= next).Paths possible holds := by
  induction program generalizing first holds with
  | done result =>
      cases result with
      | ok value => exact rest [] value before
      | error failure => exact failed [] failure before
  | call command branch ih =>
      intro answer given
      exact ih answer _ _ (before answer given) (fun steps failure => failed (⟨command, answer⟩ :: steps) failure)
        (fun steps value => rest (⟨command, answer⟩ :: steps) value)

theorem paths_try_catch (first holds : List (Sigma Answer) → Except Failure α → Prop) (program : Program Command Answer Failure α)
    (handler : Failure → Program Command Answer Failure α) (before : program.Paths possible first)
    (returned : ∀ steps value, first steps (.ok value) → holds steps (.ok value))
    (caught : ∀ steps failure, first steps (.error failure) →
      (handler failure).Paths possible (fun more result => holds (steps ++ more) result)) :
    (program.tryCatch handler).Paths possible holds := by
  induction program generalizing first holds with
  | done result =>
      cases result with
      | ok value => exact returned [] value before
      | error failure => exact caught [] failure before
  | call command branch ih =>
      intro answer given
      exact ih answer _ _ (before answer given) (fun steps value => returned (⟨command, answer⟩ :: steps) value)
        (fun steps failure => caught (⟨command, answer⟩ :: steps) failure)

theorem paths_each (holds : List (Sigma Answer) → Except Failure Unit → Prop) (body : β → Program Command Answer Failure Unit)
    (items : List β) (empty : holds [] (.ok ())) (bodies : ∀ item ∈ items, (body item).Paths possible holds)
    (joined : ∀ first second result, holds first (.ok ()) → holds second result → holds (first ++ second) result) :
    (each body items).Paths possible holds := by
  induction items with
  | nil => exact empty
  | cons item rest ih =>
      refine paths_bind possible holds holds _ _ (bodies item List.mem_cons_self) (fun _ _ failed => failed) ?_
      intro steps value first
      exact paths_mono possible _ _ (fun more result later => joined steps more result first later) _
        (ih (fun other inside => bodies other (List.mem_cons_of_mem item inside)))

end

def Given (answer : σ → (command : Command) → σ × Answer command) : σ → List (Sigma Answer) → Prop
  | _, [] => True
  | state, step :: steps => step.2 = (answer state step.1).2 ∧ Given answer (answer state step.1).1 steps

theorem run_paths (possible : (command : Command) → Answer command → Prop) (answer : σ → (command : Command) → σ × Answer command)
    (answered : ∀ state command, possible command (answer state command).2) (holds : List (Sigma Answer) → Except Failure α → Prop)
    (program : Program Command Answer Failure α) (paths : program.Paths possible holds) (state : σ) :
    ∃ steps, holds steps (program.run answer state).2 ∧ Given answer state steps ∧
      (program.run answer state).1 = (steps.map Sigma.fst).foldl (fun state command => (answer state command).1) state := by
  induction program generalizing holds state with
  | done result => exact ⟨[], paths, trivial, rfl⟩
  | call command next ih =>
      obtain ⟨steps, held, given, reached⟩ := ih _ _ (paths _ (answered state command)) (answer state command).1
      exact ⟨⟨command, (answer state command).2⟩ :: steps, held, ⟨rfl, given⟩, reached⟩

end Program
