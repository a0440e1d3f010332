import Eventhub.AccessController

set_option autoImplicit false

namespace Eventhub

open Hub

structure FirstLongest (limits : List RlimitConfig) (topic : Bytes) (limit : RlimitConfig) (before after : List RlimitConfig) : Prop where
  split : limits = before ++ limit :: after
  matched : isFilterMatched limit.topic topic = true
  earlier : ∀ other ∈ before, isFilterMatched other.topic topic = true → other.topic.length < limit.topic.length
  later : ∀ other ∈ after, isFilterMatched other.topic topic = true → other.topic.length ≤ limit.topic.length

inductive LimitFound (limits : List RlimitConfig) (topic : Bytes) : Option RlimitConfig → Prop where
  | missing (nothing : ∀ limit ∈ limits, limit.topic ≠ topic ∧ isFilterMatched limit.topic topic = false) : LimitFound limits topic none
  | equal (limit : RlimitConfig) (first : limits.find? (fun limit => limit.topic = topic) = some limit) : LimitFound limits topic (some limit)
  | longest (limit : RlimitConfig) (before after : List RlimitConfig) (unequal : ∀ limit ∈ limits, limit.topic ≠ topic)
      (first : FirstLongest limits topic limit before after) : LimitFound limits topic (some limit)

inductive BestSoFar (seen : List RlimitConfig) (topic : Bytes) : Option RlimitConfig → Nat → Prop where
  | none (nothing : ∀ limit ∈ seen, isFilterMatched limit.topic topic = false) : BestSoFar seen topic none 0
  | some (limit : RlimitConfig) (before after : List RlimitConfig) (first : FirstLongest seen topic limit before after) :
      BestSoFar seen topic (some limit) limit.topic.length

theorem first_longest_bound (limits : List RlimitConfig) (topic : Bytes) (limit : RlimitConfig) (before after : List RlimitConfig)
    (first : FirstLongest limits topic limit before after) (other : RlimitConfig) (inside : other ∈ limits)
    (matched : isFilterMatched other.topic topic = true) : other.topic.length ≤ limit.topic.length := by
  rw [first.split, List.mem_append, List.mem_cons] at inside
  rcases inside with earlier | same | later
  · exact Nat.le_of_lt (first.earlier other earlier matched)
  · rw [same]
  · exact first.later other later matched

theorem empty_filter_matched (topic : Bytes) (matched : isFilterMatched [] topic = true) : topic = [] := by
  rw [filter_matched_iff] at matched
  have words : filterPattern [] = ([[]] : List Bytes).map .word := by decide
  rw [words, Wildcard.matches_words] at matched
  exact (split_levels_injective [] topic matched).symm

theorem best_bound (seen : List RlimitConfig) (topic : Bytes) (rlimit : Option RlimitConfig) (matchedPatternLen : Nat)
    (best : BestSoFar seen topic rlimit matchedPatternLen) (other : RlimitConfig) (inside : other ∈ seen)
    (matched : isFilterMatched other.topic topic = true) : other.topic.length ≤ matchedPatternLen := by
  cases best with
  | none nothing =>
      rw [nothing other inside] at matched
      cases matched
  | some limit before after first => exact first_longest_bound seen topic limit before after first other inside matched

theorem best_kept (seen : List RlimitConfig) (topic : Bytes) (rlimit : Option RlimitConfig) (matchedPatternLen : Nat) (limit : RlimitConfig)
    (best : BestSoFar seen topic rlimit matchedPatternLen) (unequal : limit.topic ≠ topic)
    (short : isFilterMatched limit.topic topic = true → limit.topic.length ≤ matchedPatternLen) :
    BestSoFar (seen ++ [limit]) topic rlimit matchedPatternLen := by
  cases best with
  | none nothing =>
      refine .none (List.forall_mem_append.mpr ⟨nothing, List.forall_mem_singleton.mpr ?_⟩)
      by_contra matched
      have hit := Bool.eq_true_of_not_eq_false matched
      have empty := List.length_eq_zero_iff.mp (Nat.le_zero.mp (short hit))
      rw [empty] at hit unequal
      exact unequal (empty_filter_matched topic hit).symm
  | some chosen before after first =>
      refine .some chosen before (after ++ [limit]) ⟨by rw [first.split]; simp, first.matched, first.earlier, ?_⟩
      exact List.forall_mem_append.mpr ⟨first.later, List.forall_mem_singleton.mpr short⟩

theorem rate_limit_loop_found (seen rest : List RlimitConfig) (topic : Bytes) (rlimit : Option RlimitConfig) (matchedPatternLen : Nat)
    (unequal : ∀ limit ∈ seen, limit.topic ≠ topic) (best : BestSoFar seen topic rlimit matchedPatternLen) :
    LimitFound (seen ++ rest) topic (rateLimitLoop topic rlimit matchedPatternLen rest) := by
  induction rest generalizing seen rlimit matchedPatternLen with
  | nil =>
      rw [List.append_nil, rateLimitLoop]
      cases best with
      | none nothing => exact .missing (fun limit inside => ⟨unequal limit inside, nothing limit inside⟩)
      | some limit before after first => exact .longest limit before after unequal first
  | cons limit rest ih =>
      rw [rateLimitLoop]
      by_cases equal : limit.topic = topic
      · rw [if_pos equal]
        refine .equal limit ?_
        have none : seen.find? (fun limit => limit.topic = topic) = none := List.find?_eq_none.mpr (by simpa using unequal)
        rw [List.find?_append, none, Option.none_or, List.find?_cons_of_pos (by simpa using equal)]
      · rw [if_neg equal, List.append_cons seen limit rest]
        have others : ∀ other ∈ seen ++ [limit], other.topic ≠ topic :=
          List.forall_mem_append.mpr ⟨unequal, List.forall_mem_singleton.mpr equal⟩
        by_cases longer : (isFilterMatched limit.topic topic && decide (limit.topic.length > matchedPatternLen)) = true
        · rw [if_pos longer]
          rw [Bool.and_eq_true, decide_eq_true_eq] at longer
          refine ih _ _ _ others (.some limit seen [] ⟨rfl, longer.1, ?_, by simp⟩)
          intro other inside matched
          exact Nat.lt_of_le_of_lt (best_bound seen topic _ _ best other inside matched) longer.2
        · rw [if_neg longer]
          refine ih _ _ _ others (best_kept seen topic _ _ limit best equal ?_)
          intro matched
          rw [matched, Bool.true_and, decide_eq_true_eq] at longer
          omega

theorem rate_limit_found (controller : AccessController) (topic : Bytes) :
    LimitFound controller.limitConfigs topic (getRateLimitForTopic controller topic) :=
  rate_limit_loop_found [] controller.limitConfigs topic none 0 (by simp) (.none (by simp))

-- A JSON number as an unsigned long.
def Hub.Json.toUnsigned : Json → Option Nat
  | .integer value => some (value % 2 ^ 64).toNat
  | .float bits => some (truncated bits % 2 ^ 64).toNat
  | _ => none

-- A floating-point number out of range has no defined conversion.
def Hub.Json.Fits : Json → Prop
  | .float bits => 0 ≤ truncated bits ∧ truncated bits < 2 ^ 64
  | _ => True

-- An object with a text for a topic and numbers for interval and max.
def keptLimit : Json → Option RlimitConfig
  | .object fields => do
      let .string topic ← fields.lookup (str "topic") | none
      let interval ← (← fields.lookup (str "interval")).toUnsigned
      let max ← (← fields.lookup (str "max")).toUnsigned
      return ⟨topic, interval, max⟩
  | _ => none

-- Each key is there when it is read, and what is read converts or throws.
def Readable : Json → Prop
  | .object fields =>
      ∃ topic, fields.lookup (str "topic") = some topic ∧ ∀ name, topic = .string name →
        ∃ interval, fields.lookup (str "interval") = some interval ∧ interval.Fits ∧ (interval.toUnsigned.isSome →
          ∃ max, fields.lookup (str "max") = some max ∧ max.Fits)
  | _ => True

theorem unsigned_long_fits (value : Json) (fits : value.Fits) :
    (∃ number, value.toUnsigned = some number ∧ value.getUnsignedLong = .ok number) ∨
      (value.toUnsigned = none ∧ ∃ what, value.getUnsignedLong = .error (.thrown what)) := by
  cases value with
  | integer value => exact .inl ⟨_, rfl, rfl⟩
  | float bits =>
      have range : 0 ≤ Json.truncated bits ∧ Json.truncated bits < 2 ^ 64 := fits
      refine .inl ⟨_, rfl, ?_⟩
      rw [Json.getUnsignedLong, if_pos range, Int.emod_eq_of_lt range.1 range.2]
  | _ => exact .inr ⟨rfl, _, rfl⟩

theorem unsigned_long_misfit (value : Json) (misfit : ¬ value.Fits) :
    value.getUnsignedLong = .error .undefined ∧ value.toUnsigned.isSome = true := by
  cases value with
  | float bits => exact ⟨if_neg misfit, rfl⟩
  | _ => exact absurd trivial misfit

theorem get_string_cases (value : Json) :
    (∃ text, value = .string text) ∨ ((∀ text, value ≠ .string text) ∧ ∃ what, value.getString = .error (.thrown what)) := by
  cases value with
  | string text => exact .inl ⟨text, rfl⟩
  | _ => exact .inr ⟨(fun _ same => nomatch same), _, rfl⟩

section

variable (fields : List (Bytes × Json))

inductive EntryRead : Prop where
  | kept (limit : RlimitConfig) (readable : Readable (.object fields)) (expected : keptLimit (.object fields) = some limit)
      (read : rlimitEntry fields = .ok limit)
  | skipped (what : Bytes) (readable : Readable (.object fields)) (expected : keptLimit (.object fields) = none)
      (read : rlimitEntry fields = .error (.thrown what))
  | lost (unreadable : ¬ Readable (.object fields)) (read : rlimitEntry fields = .error .undefined)

theorem entry_max (name : Bytes) (interval : Json) (seconds : Nat) (topicAt : fields.lookup (str "topic") = some (.string name))
    (intervalAt : fields.lookup (str "interval") = some interval) (fits : interval.Fits) (number : interval.toUnsigned = some seconds)
    (converted : interval.getUnsignedLong = .ok seconds) : EntryRead fields := by
  have read : rlimitEntry fields = (fieldAt fields (str "max")).bind (fun max => max.getUnsignedLong.bind
      (fun count => .ok ⟨name, seconds, count⟩)) := by
    simp only [rlimitEntry, fieldAt, topicAt, intervalAt, Json.getString, converted, bind, Except.bind]
    rfl
  have expected : keptLimit (.object fields) = (fields.lookup (str "max")).bind (fun max => max.toUnsigned.bind
      (fun count => some ⟨name, seconds, count⟩)) := by
    simp only [keptLimit, topicAt, intervalAt, number, bind, Option.bind]
    rfl
  have readable : Readable (.object fields) ↔ ∃ max, fields.lookup (str "max") = some max ∧ max.Fits := by
    simp [Readable, topicAt, intervalAt, fits, number]
  cases maxAt : fields.lookup (str "max") with
  | none => exact .lost (by rw [readable, maxAt]; simp) (by rw [read, fieldAt, maxAt]; rfl)
  | some max =>
      rw [maxAt, Option.bind_some] at expected
      rw [fieldAt, maxAt, Except.bind] at read
      by_cases fitting : max.Fits
      · have sound := readable.mpr ⟨max, maxAt, fitting⟩
        rcases unsigned_long_fits max fitting with ⟨count, counted, done⟩ | ⟨uncounted, what, thrown⟩
        · exact .kept ⟨name, seconds, count⟩ sound (by rw [expected, counted]; rfl) (by rw [read, done]; rfl)
        · exact .skipped what sound (by rw [expected, uncounted]; rfl) (by rw [read, thrown]; rfl)
      · refine .lost ?_ (by rw [read, (unsigned_long_misfit max fitting).1]; rfl)
        rw [readable, maxAt]
        rintro ⟨other, same, fits⟩
        cases same
        exact fitting fits

theorem entry_read : EntryRead fields := by
  cases topicAt : fields.lookup (str "topic") with
  | none => exact .lost (by simp [Readable, topicAt]) (by simp only [rlimitEntry, fieldAt, topicAt, bind, Except.bind])
  | some topic =>
      rcases get_string_cases topic with ⟨name, rfl⟩ | ⟨untitled, what, thrown⟩
      · cases intervalAt : fields.lookup (str "interval") with
        | none =>
            refine .lost (by simp [Readable, topicAt, intervalAt]) ?_
            simp only [rlimitEntry, fieldAt, topicAt, intervalAt, Json.getString, bind, Except.bind]
        | some interval =>
            by_cases fits : interval.Fits
            · rcases unsigned_long_fits interval fits with ⟨seconds, number, converted⟩ | ⟨unnumbered, what, thrown⟩
              · exact entry_max fields name interval seconds topicAt intervalAt fits number converted
              · refine .skipped what (by simp [Readable, topicAt, intervalAt, fits, unnumbered]) ?_ ?_
                · simp [keptLimit, topicAt, intervalAt, unnumbered]
                · simp only [rlimitEntry, fieldAt, topicAt, intervalAt, Json.getString, thrown, bind, Except.bind]
            · refine .lost (by simp [Readable, topicAt, intervalAt, fits]) ?_
              simp only [rlimitEntry, fieldAt, topicAt, intervalAt, Json.getString, (unsigned_long_misfit interval fits).1, bind,
                Except.bind]
      · refine .skipped what ⟨topic, topicAt, fun name text => absurd text (untitled name)⟩ ?_ ?_
        · rw [keptLimit, topicAt]
          cases topic with
          | string text => exact absurd rfl (untitled text)
          | _ => rfl
        · simp only [rlimitEntry, fieldAt, topicAt, thrown, bind, Except.bind]

end

theorem load_readable (limitConfigs : List RlimitConfig) (config : List Json) (readable : ∀ rlimit ∈ config, Readable rlimit) :
    loadFromJSON limitConfigs config = some (limitConfigs ++ config.filterMap keptLimit) := by
  induction config generalizing limitConfigs with
  | nil => rw [List.filterMap_nil, List.append_nil, loadFromJSON]
  | cons rlimit rest ih =>
      rw [List.forall_mem_cons] at readable
      have next := fun limits => ih limits readable.2
      cases rlimit with
      | object fields =>
          cases entry_read fields with
          | kept limit _ expected read =>
              simp only [loadFromJSON, read, next, List.filterMap_cons_some expected, List.append_assoc, List.singleton_append]
          | skipped what _ expected read => simp only [loadFromJSON, read, next, List.filterMap_cons_none expected]
          | lost unreadable _ => exact absurd readable.1 unreadable
      | _ => simp only [loadFromJSON, next, List.filterMap_cons, keptLimit]

theorem load_unreadable (limitConfigs : List RlimitConfig) (config : List Json) (rlimit : Json) (inside : rlimit ∈ config)
    (unreadable : ¬ Readable rlimit) : loadFromJSON limitConfigs config = none := by
  induction config generalizing limitConfigs with
  | nil => cases inside
  | cons first rest ih =>
      have next := fun (readable : Readable first) limits =>
        ih limits ((List.mem_cons.mp inside).resolve_left (fun same => unreadable (same ▸ readable)))
      cases first with
      | object fields =>
          cases entry_read fields with
          | kept limit readable _ read => simp only [loadFromJSON, read, next readable]
          | skipped what readable _ read => simp only [loadFromJSON, read, next readable]
          | lost _ read => simp only [loadFromJSON, read]
      | _ => simp only [loadFromJSON, next trivial]

structure LookedUp (limits : List RlimitConfig) (topic : Bytes) (result : Option RlimitConfig) : Prop where
  missing : result = none ↔ ∀ limit ∈ limits, limit.topic ≠ topic ∧ isFilterMatched limit.topic topic = false
  equal : ∀ limit, limits.find? (fun limit => limit.topic = topic) = some limit → result = some limit
  longest : (∀ limit ∈ limits, limit.topic ≠ topic) → ∀ limit, result = some limit →
    ∃ before after, FirstLongest limits topic limit before after

theorem find_equal (limits : List RlimitConfig) (topic : Bytes) (limit : RlimitConfig)
    (first : limits.find? (fun limit => limit.topic = topic) = some limit) : limit ∈ limits ∧ limit.topic = topic := by
  have named := List.find?_some first
  rw [decide_eq_true_eq] at named
  exact ⟨List.mem_of_find?_eq_some first, named⟩

theorem found_looked_up (limits : List RlimitConfig) (topic : Bytes) (result : Option RlimitConfig) (found : LimitFound limits topic result) :
    LookedUp limits topic result := by
  cases found with
  | missing nothing =>
      refine ⟨⟨fun _ => nothing, fun _ => rfl⟩, fun limit first => ?_, fun _ limit same => nomatch same⟩
      obtain ⟨inside, same⟩ := find_equal limits topic limit first
      exact absurd same (nothing limit inside).1
  | equal limit first =>
      obtain ⟨inside, same⟩ := find_equal limits topic limit first
      refine ⟨⟨(fun none => nomatch none), fun nothing => absurd same (nothing limit inside).1⟩, ?_, ?_⟩
      · intro other earlier
        exact first.symm.trans earlier
      · intro unequal
        exact absurd same (unequal limit inside)
  | longest limit before after unequal first =>
      have inside : limit ∈ limits := by
        rw [first.split]
        exact List.mem_append_right before List.mem_cons_self
      refine ⟨⟨(fun none => nomatch none), fun nothing => ?_⟩, fun other equal => ?_, fun _ other same => ?_⟩
      · have unmatched := (nothing limit inside).2
        rw [first.matched] at unmatched
        cases unmatched
      · obtain ⟨among, same⟩ := find_equal limits topic other equal
        exact absurd same (unequal other among)
      · cases same
        exact ⟨before, after, first⟩

theorem rate_limits_loaded_iff (limitConfigs : List RlimitConfig) (config : List Json) :
    (∃ limits, loadFromJSON limitConfigs config = some limits ∧ limits = limitConfigs ++ config.filterMap keptLimit ∧
      ∀ controller : AccessController, controller.limitConfigs = limits →
        ∀ topic, LookedUp limits topic (getRateLimitForTopic controller topic)) ↔
      ∀ rlimit ∈ config, Readable rlimit := by
  constructor
  · rintro ⟨limits, loaded, _⟩ rlimit inside
    by_contra unreadable
    rw [load_unreadable limitConfigs config rlimit inside unreadable] at loaded
    cases loaded
  · intro readable
    refine ⟨_, load_readable limitConfigs config readable, rfl, ?_⟩
    intro controller same topic
    rw [← same]
    exact found_looked_up _ topic _ (rate_limit_found controller topic)

theorem missing_interval_not_survived : loadFromJSON [] [.object [(str "topic", .string (str "a"))]] = none := by
  decide +kernel

end Eventhub
