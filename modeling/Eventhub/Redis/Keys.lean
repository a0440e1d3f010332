import Eventhub.Redis.TopicLog

set_option autoImplicit false

namespace Eventhub.Redis

-- REDIS_RATE_LIMIT_PATH(_prefix, subject, topic): the key it prefixes is the
-- prefix itself.
def rateLimitPath (keyspace subject topic : Bytes) : Bytes :=
  redisPrefix keyspace keyspace ++ str ":rlimit:" ++ topic ++ str ":" ++ subject

-- KVStore::_prefix_key
def prefixKey (keyspace key : Bytes) : Bytes :=
  if keyspace.isEmpty then str "kv:" ++ key else keyspace ++ str ":kv:" ++ key

section

variable (keyspace subject topic key : Bytes)

theorem cache_data_body : cacheDataPath keyspace topic = redisPrefix keyspace (topic ++ str ":cache") := by
  unfold cacheDataPath redisPrefix
  split
  · simp only [List.append_assoc]
  · rfl

theorem cache_score_body : cacheScorePath keyspace topic = redisPrefix keyspace (topic ++ str ":scores") := by
  unfold cacheScorePath redisPrefix
  split
  · simp only [List.append_assoc]
  · rfl

theorem rate_limit_body :
    rateLimitPath keyspace subject topic = redisPrefix keyspace (keyspace ++ str ":rlimit:" ++ topic ++ str ":" ++ subject) := by
  unfold rateLimitPath redisPrefix
  split
  · simp only [List.append_assoc]
  · rfl

theorem kv_body : prefixKey keyspace key = redisPrefix keyspace (str "kv:" ++ key) := by
  cases keyspace with
  | nil => rfl
  | cons first rest =>
      have marks : str ":kv:" = str ":" ++ str "kv:" := by decide
      simp only [prefixKey, redisPrefix, List.isEmpty_cons, Bool.false_eq_true, if_false, List.length_cons, Nat.zero_lt_succ, if_true,
        marks, List.append_assoc]

end

theorem topic_colon_free (topic : Bytes) (valid : isValidTopic topic = true) : colon ∉ topic := by
  intro inside
  obtain ⟨_, _, _, chars⟩ := (valid_topic_iff topic).mp valid
  exact absurd (chars colon inside) (by decide)

theorem topic_key_iff (topic key tail : Bytes) (plain : colon ∉ topic) :
    str "kv:" ++ key = topic ++ colon :: tail ↔ topic = str "kv" ∧ key = tail := by
  constructor
  · intro same
    obtain ⟨named, rest⟩ := ListLemmas.first_mark_unique colon (str "kv") key topic tail (by decide) plain same
    exact ⟨named.symm, rest⟩
  · rintro ⟨rfl, rfl⟩
    rfl

def limitTail (subject topic : Bytes) : Bytes := str ":rlimit:" ++ topic ++ str ":" ++ subject

-- Where two of the six builders meet.
structure KeysApart (keyspace logTopic scoreTopic key subject pattern : Bytes) : Prop where
  data : ¬ (logTopic = str "kv" ∧ key = str "cache")
  scores : ¬ (scoreTopic = str "kv" ∧ key = str "scores")
  limit : ¬ ((keyspace = str "kv" ∨ str "kv:" <+: keyspace) ∧ key = (keyspace ++ limitTail subject pattern).drop 3)

theorem limit_key_iff (keyspace subject pattern key : Bytes) :
    str "kv:" ++ key = keyspace ++ limitTail subject pattern ↔
      (keyspace = str "kv" ∨ str "kv:" <+: keyspace) ∧ key = (keyspace ++ limitTail subject pattern).drop 3 := by
  constructor
  · intro same
    refine ⟨?_, by rw [← same]; rfl⟩
    rcases List.append_eq_append_iff.mp same.symm with ⟨extra, named, tail⟩ | ⟨extra, named, _⟩
    · cases extra with
      | nil => exact .inr ⟨[], by rw [named, List.append_nil, List.append_nil]⟩
      | cons mark extra =>
          have colonMark : colon = mark := (List.cons.inj tail).1
          rw [← colonMark] at named
          have plain : colon ∉ extra := by
            intro inside
            have once : (str "kv:").count colon = 1 := by decide
            have twice := List.count_pos_iff.mpr inside
            rw [named, List.count_append, List.count_cons_self] at once
            omega
          exact .inl (ListLemmas.append_mark_unique colon (str "kv") [] keyspace extra (by decide) plain named).1.symm
    · exact .inr ⟨extra, named.symm⟩
  · rintro ⟨rfl | ⟨rest, rfl⟩, rfl⟩
    · rfl
    · rfl

theorem limit_tail_colons (keyspace subject pattern : Bytes) : 3 ≤ (keyspace ++ limitTail subject pattern).count colon := by
  have marks : (str ":rlimit:").count colon = 2 ∧ (str ":").count colon = 1 := by decide
  simp only [limitTail, List.count_append, marks.1, marks.2]
  omega

theorem topic_body_colons (topic tail : Bytes) (plain : colon ∉ topic) (clean : colon ∉ tail) :
    (topic ++ colon :: tail).count colon = 1 := by
  rw [List.count_append, List.count_eq_zero.mpr plain, List.count_cons_self, List.count_eq_zero.mpr clean]

theorem id_body_colons (timestamp : Int) : (str "id:" ++ Decimal.signedText timestamp).count colon = 1 := by
  have mark : (str "id:").count colon = 1 := by decide
  rw [List.count_append, mark, List.count_eq_zero.mpr (signed_text_colon_free timestamp)]

-- id:n would need the text of a number as the tail.
theorem topic_not_id (topic tail : Bytes) (timestamp : Int) (plain : colon ∉ topic) (letters : ∀ number, tail ≠ Decimal.signedText number) :
    topic ++ colon :: tail ≠ str "id:" ++ Decimal.signedText timestamp := by
  intro same
  exact letters timestamp (ListLemmas.first_mark_unique colon topic tail (str "id") _ plain (by decide) same).2

theorem letter_not_number (letter : UInt8) (rest : Bytes) (number : Int) (notDigit : Decimal.isDigit letter = false)
    (notSign : letter ≠ 45) : letter :: rest ≠ Decimal.signedText number := by
  intro same
  unfold Decimal.signedText at same
  split at same
  · exact notSign (List.cons.inj same).1
  · have digit := Decimal.text_digits number.natAbs letter (by rw [← same]; exact List.mem_cons_self)
    rw [notDigit] at digit
    cases digit

-- The keys of the six families, for one choice of their arguments.
def keyFamilies (keyspace logTopic scoreTopic : Bytes) (timestamp : Int) (subject pattern key : Bytes) : List Bytes :=
  [cacheDataPath keyspace logTopic, cacheScorePath keyspace scoreTopic, pubCountKey keyspace, idKey keyspace timestamp,
    rateLimitPath keyspace subject pattern, prefixKey keyspace key]

def keyBodies (keyspace logTopic scoreTopic : Bytes) (timestamp : Int) (subject pattern key : Bytes) : List Bytes :=
  [logTopic ++ colon :: str "cache", scoreTopic ++ colon :: str "scores", str "pub_count",
    str "id:" ++ Decimal.signedText timestamp, keyspace ++ limitTail subject pattern, str "kv:" ++ key]

theorem key_families_bodies (keyspace logTopic scoreTopic : Bytes) (timestamp : Int) (subject pattern key : Bytes) :
    keyFamilies keyspace logTopic scoreTopic timestamp subject pattern key =
      (keyBodies keyspace logTopic scoreTopic timestamp subject pattern key).map (redisPrefix keyspace) := by
  simp only [keyFamilies, keyBodies, List.map_cons, List.map_nil, cache_data_body, cache_score_body, rate_limit_body, kv_body,
    limitTail, pubCountKey, idKey, List.append_assoc]
  rfl

section

variable (keyspace logTopic scoreTopic : Bytes) (timestamp : Int) (subject pattern key : Bytes)

theorem bodies_without_key (logPlain : colon ∉ logTopic) (scorePlain : colon ∉ scoreTopic) :
    [logTopic ++ colon :: str "cache", scoreTopic ++ colon :: str "scores", str "pub_count",
      str "id:" ++ Decimal.signedText timestamp, keyspace ++ limitTail subject pattern].Nodup := by
  have logColons := topic_body_colons logTopic (str "cache") logPlain (by decide)
  have scoreColons := topic_body_colons scoreTopic (str "scores") scorePlain (by decide)
  have idColons := id_body_colons timestamp
  have limitColons := limit_tail_colons keyspace subject pattern
  have countColons : (str "pub_count").count colon = 0 := by decide
  have tails : logTopic ++ colon :: str "cache" ≠ scoreTopic ++ colon :: str "scores" := fun same =>
    absurd (ListLemmas.first_mark_unique colon _ _ _ _ logPlain scorePlain same).2 (by decide)
  have logId := topic_not_id logTopic (str "cache") timestamp logPlain (fun _ => letter_not_number _ _ _ (by decide) (by decide))
  have scoreId := topic_not_id scoreTopic (str "scores") timestamp scorePlain (fun _ => letter_not_number _ _ _ (by decide) (by decide))
  have apart : ∀ left right : Bytes, left.count colon ≠ right.count colon → left ≠ right := by
    intro left right counts same
    exact counts (by rw [same])
  simp only [List.nodup_cons, List.mem_cons, List.not_mem_nil, or_false, not_or, List.nodup_nil, not_false_eq_true, and_true]
  refine ⟨⟨tails, apart _ _ ?_, logId, apart _ _ ?_⟩, ⟨apart _ _ ?_, scoreId, apart _ _ ?_⟩, ⟨apart _ _ ?_, apart _ _ ?_⟩, apart _ _ ?_⟩
  all_goals omega

theorem key_families_apart_iff (logValid : isValidTopic logTopic = true) (scoreValid : isValidTopic scoreTopic = true) :
    (keyFamilies keyspace logTopic scoreTopic timestamp subject pattern key).Nodup ↔
      KeysApart keyspace logTopic scoreTopic key subject pattern := by
  have logPlain := topic_colon_free logTopic logValid
  have scorePlain := topic_colon_free scoreTopic scoreValid
  have split : keyBodies keyspace logTopic scoreTopic timestamp subject pattern key =
      [logTopic ++ colon :: str "cache", scoreTopic ++ colon :: str "scores", str "pub_count",
        str "id:" ++ Decimal.signedText timestamp, keyspace ++ limitTail subject pattern] ++ [str "kv:" ++ key] := rfl
  have fixed := bodies_without_key keyspace logTopic scoreTopic timestamp subject pattern logPlain scorePlain
  have counted : str "kv:" ++ key ≠ str "pub_count" := fun same => absurd (List.cons.inj same).1 (by decide)
  have numbered : str "kv:" ++ key ≠ str "id:" ++ Decimal.signedText timestamp := fun same =>
    absurd (List.cons.inj same).1 (by decide)
  rw [key_families_bodies, List.nodup_map_iff (fun left right => redis_prefix_injective keyspace left right), split,
    List.nodup_append_comm, List.singleton_append, List.nodup_cons]
  simp only [fixed, and_true, List.mem_cons, List.not_mem_nil, or_false, not_or, counted, numbered, not_false_eq_true, true_and]
  rw [topic_key_iff logTopic key _ logPlain, topic_key_iff scoreTopic key _ scorePlain, limit_key_iff]
  exact ⟨fun ⟨data, scores, limit⟩ => ⟨data, scores, limit⟩, fun ⟨data, scores, limit⟩ => ⟨data, scores, limit⟩⟩

end

theorem plain_keys_apart :
    (keyFamilies (str "eventhub") (str "a/b") (str "a/b") 1000 (str "user") (str "a/+") (str "a/b")).Nodup :=
  (key_families_apart_iff (str "eventhub") (str "a/b") (str "a/b") 1000 (str "user") (str "a/+") (str "a/b") (by decide)
    (by decide)).mpr ⟨by decide, by decide, by decide⟩

-- A client that may write the key cache overwrites the event log of topic kv.
theorem kv_key_hits_event_log :
    isValidTopic (str "kv") = true ∧ prefixKey (str "eventhub") (str "cache") = cacheDataPath (str "eventhub") (str "kv") ∧
      ¬ (keyFamilies (str "eventhub") (str "kv") (str "a") 1000 (str "user") (str "a") (str "cache")).Nodup := by
  decide

end Eventhub.Redis
