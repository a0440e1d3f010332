import Eventhub.Redis.Window

set_option autoImplicit false

namespace Eventhub.Redis

def Newer (pivot key : Int × Int) : Prop := key.1 > pivot.1 ∨ (key.1 = pivot.1 ∧ key.2 > pivot.2)

instance : DecidableRel Newer := fun _ _ => inferInstanceAs (Decidable (_ ∨ _))

def Passed (pivot key : Int × Int) : Prop := key.1 = pivot.1 ∧ key.2 ≤ pivot.2

instance : DecidableRel Passed := fun _ _ => inferInstanceAs (Decidable (_ ∧ _))

section

variable {α : Type} (item : α → CacheItem) (key : α → Int × Int) (pivot : Int × Int)

def surpassed : List α → Bool
  | [] => false
  | entry :: rest => if key entry = pivot then false else if Newer pivot (key entry) then true else surpassed rest

def unpassed (entries : List α) : List α := entries.filter (fun entry => ¬ Passed pivot (key entry))

theorem unpassed_drops (entry : α) (rest : List α) (passed : Passed pivot (key entry)) :
    unpassed key pivot (entry :: rest) = unpassed key pivot rest :=
  List.filter_cons_of_neg (by simpa using passed)

theorem unpassed_keeps (entry : α) (rest : List α) (kept : ¬ Passed pivot (key entry)) :
    unpassed key pivot (entry :: rest) = entry :: unpassed key pivot rest :=
  List.filter_cons_of_pos (by simpa using kept)

theorem resume_loop_cons (found : Bool) (elm : CacheItem) (rest : List CacheItem) (read : Int × Int)
    (split : splitIdAndSeq elm.id = some read) :
    resumeLoop pivot.1 pivot.2 found (elm :: rest) =
      if Newer pivot read ∧ found = false then none
      else if Passed pivot read then resumeLoop pivot.1 pivot.2 (found || decide (read.2 = pivot.2)) rest
      else (resumeLoop pivot.1 pivot.2 found rest).map (fun kept => (kept.1, elm :: kept.2)) := by
  simp only [resumeLoop, split]
  rfl

theorem resume_loop_found (entries : List α) (splits : ∀ entry ∈ entries, splitIdAndSeq (item entry).id = some (key entry)) :
    resumeLoop pivot.1 pivot.2 true (entries.map item) = some (true, (unpassed key pivot entries).map item) := by
  induction entries with
  | nil => rfl
  | cons entry rest ih =>
      rw [List.forall_mem_cons] at splits
      have later := ih splits.2
      rw [List.map_cons, resume_loop_cons pivot true _ _ _ splits.1]
      simp only [Bool.true_eq_false, and_false, if_false, Bool.true_or, later, Option.map_some]
      by_cases passed : Passed pivot (key entry)
      · rw [if_pos passed, unpassed_drops key pivot entry rest passed]
      · rw [if_neg passed, unpassed_keeps key pivot entry rest passed, List.map_cons]

theorem resume_loop_start (entries : List α) (splits : ∀ entry ∈ entries, splitIdAndSeq (item entry).id = some (key entry)) :
    resumeLoop pivot.1 pivot.2 false (entries.map item) =
      if surpassed key pivot entries then none
      else some (decide (∃ entry ∈ entries, key entry = pivot), (unpassed key pivot entries).map item) := by
  induction entries with
  | nil => simp [resumeLoop, surpassed, unpassed]
  | cons entry rest ih =>
      rw [List.forall_mem_cons] at splits
      have later := ih splits.2
      rw [List.map_cons, resume_loop_cons pivot false _ _ _ splits.1]
      simp only [and_true, Bool.false_or]
      by_cases same : key entry = pivot
      · have notNewer : ¬ Newer pivot (key entry) := by
          rw [same]
          simp [Newer]
        have passed : Passed pivot (key entry) := by
          rw [same]
          exact ⟨rfl, Int.le_refl _⟩
        have found : decide ((key entry).2 = pivot.2) = true := by simp [same]
        rw [if_neg notNewer, if_pos passed, found, resume_loop_found item key pivot rest splits.2]
        simp [surpassed, same, unpassed_drops key pivot entry rest passed]
      · by_cases newer : Newer pivot (key entry)
        · rw [if_pos newer]
          simp [surpassed, same, newer]
        · have absent : (∃ other ∈ entry :: rest, key other = pivot) ↔ ∃ other ∈ rest, key other = pivot := by
            simp [same]
          rw [if_neg newer]
          by_cases passed : Passed pivot (key entry)
          · have other : decide ((key entry).2 = pivot.2) = false :=
              decide_eq_false (fun equal => same (Prod.ext passed.1 equal))
            rw [if_pos passed, other, later]
            simp only [surpassed, if_neg same, if_neg newer, absent, unpassed_drops key pivot entry rest passed]
          · rw [if_neg passed, later]
            simp only [surpassed, if_neg same, if_neg newer, absent, unpassed_keeps key pivot entry rest passed]
            split <;> rfl

theorem resume_result_eq (entries : List α) (splits : ∀ entry ∈ entries, splitIdAndSeq (item entry).id = some (key entry)) :
    resumeResult pivot.1 pivot.2 (entries.map item) =
      if surpassed key pivot entries = false ∧ ∃ entry ∈ entries, key entry = pivot then (unpassed key pivot entries).map item
      else [] := by
  rw [resumeResult, resume_loop_start item key pivot entries splits]
  by_cases lost : surpassed key pivot entries = true
  · simp [lost]
  · by_cases found : ∃ entry ∈ entries, key entry = pivot
    · simp [lost, found]
    · simp [lost, found]

theorem surpassed_iff (entries : List α) :
    surpassed key pivot entries = true ↔
      ∃ before entry after, entries = before ++ entry :: after ∧ Newer pivot (key entry) ∧ ∀ other ∈ before, key other ≠ pivot := by
  induction entries with
  | nil => simp [surpassed]
  | cons entry rest ih =>
      rw [surpassed]
      by_cases same : key entry = pivot
      · rw [if_pos same]
        constructor
        · intro absurdity
          cases absurdity
        · rintro ⟨before, other, after, split, newer, clean⟩
          cases before with
          | nil =>
              cases split
              rw [same] at newer
              simp [Newer] at newer
          | cons first before =>
              cases split
              exact absurd same (clean entry List.mem_cons_self)
      · rw [if_neg same]
        by_cases newer : Newer pivot (key entry)
        · rw [if_pos newer]
          exact ⟨fun _ => ⟨[], entry, rest, rfl, newer, by simp⟩, fun _ => rfl⟩
        · rw [if_neg newer, ih]
          constructor
          · rintro ⟨before, other, after, rfl, larger, clean⟩
            exact ⟨entry :: before, other, after, rfl, larger, List.forall_mem_cons.mpr ⟨same, clean⟩⟩
          · rintro ⟨before, other, after, split, larger, clean⟩
            cases before with
            | nil =>
                cases split
                exact absurd larger newer
            | cons first before =>
                cases split
                exact ⟨before, other, after, rfl, larger, (List.forall_mem_cons.mp clean).2⟩

end

end Eventhub.Redis
