import Mathlib

set_option autoImplicit false

namespace ListLemmas

variable {α β : Type}

theorem snoc_split (items earlier later : List α) (last item : α) (split : items ++ [last] = earlier ++ item :: later) :
    (item = last ∧ earlier = items) ∨ ∃ between, later = between ++ [last] ∧ items = earlier ++ item :: between := by
  rcases List.eq_nil_or_concat later with rfl | ⟨between, final, rfl⟩
  · obtain ⟨same, ends⟩ := List.append_inj' split rfl
    exact .inl ⟨(List.cons.inj ends).1.symm, same.symm⟩
  · rw [List.concat_eq_append, ← List.cons_append, ← List.append_assoc] at split
    obtain ⟨same, ends⟩ := List.append_inj' split rfl
    exact .inr ⟨between, by rw [List.concat_eq_append, (List.cons.inj ends).1], same⟩

theorem append_mark_unique (mark : α) (left right other rest : List α) (fresh : mark ∉ right) (clean : mark ∉ rest)
    (same : left ++ mark :: right = other ++ mark :: rest) : left = other ∧ right = rest := by
  rcases List.append_eq_append_iff.mp same with ⟨extra, otherEq, tail⟩ | ⟨extra, leftEq, tail⟩
  · cases extra with
    | nil =>
        rw [List.append_nil] at otherEq
        exact ⟨otherEq.symm, (List.cons.inj tail).2⟩
    | cons head extra =>
        have moved : right = extra ++ mark :: rest := (List.cons.inj tail).2
        exact absurd (by rw [moved]; simp) fresh
  · cases extra with
    | nil =>
        rw [List.append_nil] at leftEq
        exact ⟨leftEq, (List.cons.inj tail).2.symm⟩
    | cons head extra =>
        have moved : rest = extra ++ mark :: right := (List.cons.inj tail).2
        exact absurd (by rw [moved]; simp) clean

theorem first_mark_unique (mark : α) (left right other rest : List α) (plain : mark ∉ left) (clean : mark ∉ other)
    (same : left ++ mark :: right = other ++ mark :: rest) : left = other ∧ right = rest := by
  have turned := congrArg List.reverse same
  simp only [List.reverse_append, List.reverse_cons, List.append_assoc, List.singleton_append] at turned
  obtain ⟨first, second⟩ := append_mark_unique mark _ _ _ _ (by simpa using plain) (by simpa using clean) turned
  exact ⟨List.reverse_injective second, List.reverse_injective first⟩

theorem pairwise_either (related : α → α → Prop) (items : List α) (pairs : items.Pairwise related) (left right : α)
    (leftIn : left ∈ items) (rightIn : right ∈ items) (different : left ≠ right) : related left right ∨ related right left := by
  have symmetric : Std.Symm (fun first second => related first second ∨ related second first) := ⟨fun _ _ => Or.symm⟩
  have either : items.Pairwise (fun first second => related first second ∨ related second first) := pairs.imp Or.inl
  exact either.forall leftIn rightIn different

theorem filter_single [DecidableEq α] (items : List α) (item : α) (test : α → Bool) (nodup : items.Nodup)
    (inside : item ∈ items) (only : ∀ other ∈ items, test other = true ↔ other = item) : items.filter test = [item] := by
  have same : items.filter test = items.filter (fun other => other == item) := by
    apply List.filter_congr
    intro other among
    rw [Bool.eq_iff_iff, only other among, beq_iff_eq]
  rw [same, List.filter_beq, List.count_eq_one_of_mem nodup inside]
  rfl

theorem flat_map_part (f : α → List β) (part whole : List α) (inside : part.Sublist whole) (distinct : whole.Nodup)
    (silent : ∀ item ∈ whole, item ∉ part → f item = []) : part.flatMap f = whole.flatMap f := by
  induction inside with
  | slnil => rfl
  | @cons part whole item inside ih =>
      obtain ⟨fresh, rest⟩ := List.nodup_cons.mp distinct
      have nothing := silent item List.mem_cons_self (fun among => fresh (inside.subset among))
      rw [List.flatMap_cons, nothing, List.nil_append]
      exact ih rest (fun other among => silent other (List.mem_cons_of_mem _ among))
  | @cons_cons part whole item inside ih =>
      obtain ⟨fresh, rest⟩ := List.nodup_cons.mp distinct
      rw [List.flatMap_cons, List.flatMap_cons, ih rest]
      intro other among left
      refine silent other (List.mem_cons_of_mem _ among) (fun chosen => ?_)
      rcases List.mem_cons.mp chosen with same | chosen
      · exact fresh (same ▸ among)
      · exact left chosen

theorem rdrop_append_rtake (items : List α) (count : Nat) : items.rdrop count ++ items.rtake count = items := List.take_append_drop _ _

theorem rtake_length (items : List α) (count : Nat) : (items.rtake count).length = min count items.length := by
  rw [List.rtake, List.length_drop]
  omega

theorem rtake_append (first second : List α) (count : Nat) (inside : second.length ≤ count) :
    (first ++ second).rtake count = first.rtake (count - second.length) ++ second := by
  have place : (first ++ second).length - count = first.length - (count - second.length) := by
    rw [List.length_append]
    omega
  rw [List.rtake, List.rtake, place, List.drop_append_of_le_length (Nat.sub_le _ _)]

theorem filter_rtake_iff (items : List α) (count : Nat) (property : α → Bool) :
    (items.rtake count).filter property = (items.filter property).rtake count ↔
      (items.rdrop count).filter property = [] ∨ (items.rtake count).filter property = items.rtake count := by
  have short : ((items.rtake count).filter property).length ≤ count :=
    Nat.le_trans (List.length_filter_le _ _) (by rw [rtake_length]; exact Nat.min_le_left _ _)
  have parts : items.filter property = (items.rdrop count).filter property ++ (items.rtake count).filter property := by
    rw [← List.filter_append, rdrop_append_rtake]
  rw [parts, rtake_append _ _ _ short]
  constructor
  · intro same
    have missing : ((items.rdrop count).filter property).rtake (count - ((items.rtake count).filter property).length) = [] := by
      have sizes := congrArg List.length same
      rw [List.length_append] at sizes
      exact List.eq_nil_of_length_eq_zero (by omega)
    have sizes := congrArg List.length missing
    rw [rtake_length, List.length_nil] at sizes
    by_cases none : (items.rdrop count).filter property = []
    · exact .inl none
    · -- something was dropped, so the window is full and all of it counts
      refine .inr (List.Sublist.eq_of_length_le List.filter_sublist ?_)
      have some := List.length_pos_iff.mpr none
      rw [rtake_length]
      omega
  · rintro (none | all)
    · rw [none, List.rtake_nil, List.nil_append]
    · by_cases full : count ≤ items.length
      · have exact : count - ((items.rtake count).filter property).length = 0 := by
          rw [all, rtake_length]
          omega
        rw [exact, List.rtake_zero, List.nil_append]
      · have nothing : items.rdrop count = [] := by
          rw [List.rdrop, Nat.sub_eq_zero_of_le (by omega), List.take_zero]
        rw [nothing, List.filter_nil, List.rtake_nil, List.nil_append]

theorem rtake_append_short (first second : List α) (count : Nat) (short : count ≤ second.length) :
    (first ++ second).rtake count = second.rtake count := by
  have place : (first ++ second).length - count = first.length + (second.length - count) := by
    rw [List.length_append]
    omega
  rw [List.rtake, place, List.drop_length_add_append, List.rtake]

theorem mem_rtake_split (before after : List α) (item : α) (count : Nat) (fresh : item ∉ after) :
    item ∈ (before ++ item :: after).rtake count ↔ after.length < count := by
  by_cases inside : after.length < count
  · rw [rtake_append before (item :: after) count inside]
    exact iff_of_true (by simp) inside
  · have skipped : (before ++ item :: after).rtake count = after.rtake count := by
      rw [List.append_cons before item after, rtake_append_short _ _ _ (Nat.le_of_not_lt inside)]
    rw [skipped]
    exact iff_of_false (fun among => fresh (List.mem_of_mem_drop among)) inside

theorem map_cancel (f : α → β) (first second : List α)
    (injective : ∀ left ∈ first, ∀ right ∈ second, f left = f right → left = right) (same : first.map f = second.map f) : first = second := by
  induction first generalizing second with
  | nil =>
      cases second with
      | nil => rfl
      | cons item rest => cases same
  | cons item first ih =>
      cases second with
      | nil => cases same
      | cons other second =>
          obtain ⟨here, later⟩ := List.cons.inj same
          rw [injective item List.mem_cons_self other List.mem_cons_self here]
          rw [ih second (fun left inside right among => injective left (.tail _ inside) right (.tail _ among)) later]

end ListLemmas
