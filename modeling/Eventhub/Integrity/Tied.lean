import Eventhub.Integrity.System

set_option autoImplicit false

namespace Eventhub.Integrity

open Redis Transition

def Task.OwesField (topic id : Bytes) : Task → Prop
  | .caching args (.stored own _) => args.topic = topic ∧ own.text = id
  | .purging (.unlinking own field _ _) => own = topic ∧ field = id
  | _ => False

def Task.OwesTally (topic : Bytes) : Task → Prop
  | .caching args (.scored _) => args.topic = topic
  | _ => False

def Task.Named : Task → Prop
  | .caching _ (.prepared id zKey) => (CacheItemMeta.ofStr zKey).map CacheItemMeta.id = some id.text
  | .caching _ (.stored id zKey) => (CacheItemMeta.ofStr zKey).map CacheItemMeta.id = some id.text
  | _ => True

structure Tied (keyspace : Bytes) (world : World) : Prop where
  named : ∀ task ∈ world.tasks, task.Named
  fields : ∀ topic id, id ∈ world.db.hashes (cacheDataPath keyspace topic) →
    MemberNamed keyspace world.db topic id ∨ ∃ task ∈ world.tasks, task.OwesField topic id
  listed : ∀ topic, (world.db.zsets (cacheScorePath keyspace topic)).entries ≠ [] →
    topic ∈ world.db.tallies (pubCountKey keyspace) ∨ ∃ task ∈ world.tasks, task.OwesTally topic

-- No call is cut short half way, and purgeExpiredCacheItems forgets a topic
-- only while its score set is still empty.
def Undivided (keyspace : Bytes) (world : World) : Event → Prop
  | .fail index =>
      match world.tasks[index]? with
      | some (.caching _ (.stored _ _)) => False
      | some (.caching _ (.scored _)) => False
      | some (.purging (.unlinking _ _ _ _)) => False
      | _ => True
  | .advance index _ =>
      match world.tasks[index]? with
      | some (.purging (.emptied _ topic _ _)) => (world.db.zsets (cacheScorePath keyspace topic)).entries = []
      | _ => True
  | _ => True

instance (keyspace : Bytes) (world : World) (event : Event) : Decidable (Undivided keyspace world event) := by
  unfold Undivided
  split
  · split <;> infer_instance
  · split <;> infer_instance
  · infer_instance

def UndividedStep (keyspace : Bytes) (config : CacheConfig) (before : World) (event : Event) (after : World) : Prop :=
  Undivided keyspace before event ∧ Steps keyspace config before event after

theorem survives_set (tasks : List Task) (index : Nat) (task next : Task) (owes : Task → Prop) (found : tasks[index]? = some task)
    (owed : ∃ task ∈ tasks, owes task) : owes task ∨ ∃ task ∈ tasks.set index next, owes task := by
  obtain ⟨other, inside, holds⟩ := owed
  obtain ⟨place, here⟩ := List.mem_iff_getElem?.mp inside
  by_cases same : place = index
  · subst same
    rw [found, Option.some.injEq] at here
    exact .inl (by rw [here]; exact holds)
  · refine .inr ⟨other, List.mem_of_getElem? (i := place) ?_, holds⟩
    rw [List.getElem?_set_ne (Ne.symm same)]
    exact here

theorem mem_set_next (tasks : List Task) (index : Nat) (task next : Task) (found : tasks[index]? = some task) :
    next ∈ tasks.set index next :=
  List.mem_of_getElem? (i := index) (List.getElem?_set_self (List.getElem?_eq_some_iff.mp found).1)

-- What a command has to give back for what it takes away.
structure Settles (keyspace : Bytes) (before after : Db) (task next : Task) : Prop where
  named : next.Named
  fresh : ∀ topic id, id ∈ after.hashes (cacheDataPath keyspace topic) →
    id ∈ before.hashes (cacheDataPath keyspace topic) ∨ next.OwesField topic id
  members : ∀ topic id, id ∈ after.hashes (cacheDataPath keyspace topic) → MemberNamed keyspace before topic id →
    MemberNamed keyspace after topic id ∨ next.OwesField topic id
  owed : ∀ topic id, id ∈ after.hashes (cacheDataPath keyspace topic) → task.OwesField topic id →
    MemberNamed keyspace after topic id ∨ next.OwesField topic id
  grown : ∀ topic, (after.zsets (cacheScorePath keyspace topic)).entries ≠ [] →
    (before.zsets (cacheScorePath keyspace topic)).entries ≠ [] ∨ next.OwesTally topic
  tallies : ∀ topic, (after.zsets (cacheScorePath keyspace topic)).entries ≠ [] → topic ∈ before.tallies (pubCountKey keyspace) →
    topic ∈ after.tallies (pubCountKey keyspace)
  counted : ∀ topic, task.OwesTally topic → topic ∈ after.tallies (pubCountKey keyspace)

theorem settled_tied (keyspace : Bytes) (world : World) (index : Nat) (task next : Task) (db : Db) (tied : Tied keyspace world)
    (found : world.tasks[index]? = some task) (settles : Settles keyspace world.db db task next) :
    Tied keyspace { world with db := db, tasks := world.tasks.set index next } := by
  have placed := mem_set_next world.tasks index task next found
  refine ⟨fun other inside => ?_, fun topic id inside => ?_, fun topic entries => ?_⟩
  · rcases List.mem_or_eq_of_mem_set inside with among | rfl
    · exact tied.named other among
    · exact settles.named
  · have own : next.OwesField topic id → ∃ task ∈ world.tasks.set index next, task.OwesField topic id :=
      fun owes => ⟨next, placed, owes⟩
    rcases settles.fresh topic id inside with before | owes
    · rcases tied.fields topic id before with member | owed
      · exact (settles.members topic id inside member).imp_right own
      · rcases survives_set world.tasks index task next _ found owed with mine | others
        · exact (settles.owed topic id inside mine).imp_right own
        · exact .inr others
    · exact .inr (own owes)
  · rcases settles.grown topic entries with before | owes
    · rcases tied.listed topic before with counted | owed
      · exact .inl (settles.tallies topic entries counted)
      · rcases survives_set world.tasks index task next _ found owed with mine | others
        · exact .inl (settles.counted topic mine)
        · exact .inr others
    · exact .inr ⟨next, placed, owes⟩

section

variable (keyspace : Bytes) (before : Db)

theorem quiet_settles (after : Db) (task next : Task) (hashes : after.hashes = before.hashes) (zsets : after.zsets = before.zsets)
    (tallies : after.tallies = before.tallies) (named : next.Named) (fields : ∀ topic id, ¬ task.OwesField topic id)
    (topics : ∀ topic, ¬ task.OwesTally topic) : Settles keyspace before after task next where
  named := named
  fresh := fun topic id inside => .inl (by rw [← hashes]; exact inside)
  members := fun topic id _ member => .inl (by rw [MemberNamed, zsets]; exact member)
  owed := fun topic id _ owes => absurd owes (fields topic id)
  grown := fun topic entries => .inl (by rw [← zsets]; exact entries)
  tallies := fun topic _ inside => by rw [tallies]; exact inside
  counted := fun topic owes => absurd owes (topics topic)

variable (args : CacheArgs)

theorem hset_settles (id : CacheId) (zKey : Bytes) (named : (CacheItemMeta.ofStr zKey).map CacheItemMeta.id = some id.text) :
    Settles keyspace before (before.hset (cacheDataPath keyspace args.topic) id.text args.payload) (.caching args (.prepared id zKey))
      (.caching args (.stored id zKey)) where
  named := named
  fresh := by
    intro topic field inside
    by_cases same : cacheDataPath keyspace topic = cacheDataPath keyspace args.topic
    · simp only [Db.hset, same, Function.update_self, AList.mem_insert] at inside
      rcases inside with rfl | earlier
      · exact .inr ⟨(data_path_injective keyspace _ _ same).symm, rfl⟩
      · exact .inl (by rw [same]; exact earlier)
    · simp only [Db.hset, Function.update_of_ne same] at inside
      exact .inl inside
  members := fun _ _ _ member => .inl member
  owed := fun _ _ _ owes => owes.elim
  grown := fun _ entries => .inl entries
  tallies := fun _ _ inside => inside
  counted := fun _ owes => owes.elim

theorem zadd_settles (id : CacheId) (zKey : Bytes) (score : Int) (named : (CacheItemMeta.ofStr zKey).map CacheItemMeta.id = some id.text) :
    Settles keyspace before (before.zadd (cacheScorePath keyspace args.topic) zKey score) (.caching args (.stored id zKey))
      (.caching args (.scored id)) where
  named := trivial
  fresh := fun _ _ inside => .inl inside
  members := by
    intro topic field _ member
    obtain ⟨entry, inside, parsed⟩ := member
    refine .inl ?_
    by_cases same : cacheScorePath keyspace topic = cacheScorePath keyspace args.topic
    · simp only [MemberNamed, Db.zadd, same, Function.update_self, mem_zadd]
      rw [same] at inside
      by_cases again : entry.member = zKey
      · exact ⟨⟨score, zKey⟩, .inl rfl, by rw [← again]; exact parsed⟩
      · exact ⟨entry, .inr ⟨inside, again⟩, parsed⟩
    · simp only [MemberNamed, Db.zadd, Function.update_of_ne same]
      exact ⟨entry, inside, parsed⟩
  owed := by
    intro topic field _ owes
    obtain ⟨rfl, rfl⟩ := owes
    refine .inl ⟨⟨score, zKey⟩, ?_, named⟩
    simp only [Db.zadd, Function.update_self, mem_zadd]
    exact .inl trivial
  grown := by
    intro topic entries
    by_cases same : cacheScorePath keyspace topic = cacheScorePath keyspace args.topic
    · exact .inr (score_path_injective keyspace _ _ same).symm
    · simp only [Db.zadd, Function.update_of_ne same] at entries
      exact .inl entries
  tallies := fun _ _ inside => inside
  counted := fun _ owes => owes.elim

theorem hincrby_settles (id : CacheId) :
    Settles keyspace before (before.hincrby (pubCountKey keyspace) args.topic 1) (.caching args (.scored id))
      (.caching args (.returned id)) where
  named := trivial
  fresh := fun _ _ inside => .inl inside
  members := fun _ _ _ member => .inl member
  owed := fun _ _ _ owes => owes.elim
  grown := fun _ entries => .inl entries
  tallies := by
    intro topic _ inside
    simp only [Db.hincrby, Function.update_self, AList.mem_insert]
    exact .inr inside
  counted := by
    rintro topic rfl
    simp only [Db.hincrby, Function.update_self, AList.mem_insert]
    exact .inl trivial

variable (topic : Bytes)

theorem forget_settles (started : Nat) (topics : List Bytes) (expiredItems : List (Bytes × Bytes))
    (still : (before.zsets (cacheScorePath keyspace topic)).entries = []) :
    Settles keyspace before (before.hdelTally (pubCountKey keyspace) topic) (.purging (.emptied started topic topics expiredItems))
      (.purging (.scanning started topics expiredItems)) where
  named := trivial
  fresh := fun _ _ inside => .inl inside
  members := fun _ _ _ member => .inl member
  owed := fun _ _ _ owes => owes.elim
  grown := fun _ entries => .inl entries
  tallies := by
    intro other entries inside
    have different : other ≠ topic := by
      rintro rfl
      exact entries still
    simp only [Db.hdelTally, Function.update_self, AList.mem_erase]
    exact ⟨different, inside⟩
  counted := fun _ owes => owes.elim

theorem zrem_settles (key : Bytes) (p : CacheItemMeta) (expiredItems : List (Bytes × Bytes)) (total : Nat)
    (parsed : CacheItemMeta.ofStr key = some p) :
    Settles keyspace before (before.zrem (cacheScorePath keyspace topic) key) (.purging (.removing ((topic, key) :: expiredItems) total))
      (.purging (.unlinking topic p.id expiredItems total)) where
  named := trivial
  fresh := fun _ _ inside => .inl inside
  members := by
    intro other field _ member
    obtain ⟨entry, inside, named⟩ := member
    by_cases same : cacheScorePath keyspace other = cacheScorePath keyspace topic
    · by_cases removed : entry.member = key
      · rw [removed, parsed, Option.map_some, Option.some.injEq] at named
        exact .inr ⟨(score_path_injective keyspace _ _ same).symm, named⟩
      · refine .inl ⟨entry, ?_, named⟩
        simp only [Db.zrem, same, Function.update_self, mem_zrem]
        rw [same] at inside
        exact ⟨inside, removed⟩
    · refine .inl ⟨entry, ?_, named⟩
      simp only [Db.zrem, Function.update_of_ne same]
      exact inside
  owed := fun _ _ _ owes => owes.elim
  grown := by
    intro other entries
    refine .inl (fun nothing => entries ?_)
    by_cases same : cacheScorePath keyspace other = cacheScorePath keyspace topic
    · rw [same] at nothing
      simp only [Db.zrem, same, Function.update_self, ZSet.remove, ZSet.others, nothing, List.filter_nil]
    · simp only [Db.zrem, Function.update_of_ne same]
      exact nothing
  tallies := fun _ _ inside => inside
  counted := fun _ owes => owes.elim

theorem hdel_settles (id : Bytes) (expiredItems : List (Bytes × Bytes)) (total : Nat) :
    Settles keyspace before (before.hdel (cacheDataPath keyspace topic) id) (.purging (.unlinking topic id expiredItems total))
      (.purging (.removing expiredItems total)) where
  named := trivial
  fresh := by
    intro other field inside
    by_cases same : cacheDataPath keyspace other = cacheDataPath keyspace topic
    · simp only [Db.hdel, same, Function.update_self, AList.mem_erase] at inside
      exact .inl (by rw [same]; exact inside.2)
    · simp only [Db.hdel, Function.update_of_ne same] at inside
      exact .inl inside
  members := fun _ _ _ member => .inl member
  owed := by
    rintro other field inside ⟨rfl, rfl⟩
    simp only [Db.hdel, Function.update_self, AList.mem_erase] at inside
    exact absurd rfl inside.1
  grown := fun _ entries => .inl entries
  tallies := fun _ _ inside => inside
  counted := fun _ owes => owes.elim

end

section

variable (keyspace : Bytes) (config : CacheConfig) (now : Nat) (db : Db)

theorem cache_step_settles (args : CacheArgs) (pc : CachePc) (named : (Task.caching args pc).Named) :
    Settles keyspace db (cacheStep keyspace config now db args pc).1 (.caching args pc)
      (.caching args (cacheStep keyspace config now db args pc).2) := by
  cases pc with
  | entered => exact quiet_settles keyspace db _ _ _ rfl rfl rfl trivial (fun _ _ owes => owes) (fun _ owes => owes)
  | stamped timestamp => exact quiet_settles keyspace db _ _ _ rfl rfl rfl trivial (fun _ _ owes => owes) (fun _ owes => owes)
  | counted id =>
      obtain ⟨zsets, tallies, hashes⟩ := expire_tables db now (idKey keyspace id.timestamp) 1
      exact quiet_settles keyspace db _ _ _ hashes zsets tallies trivial (fun _ _ owes => owes) (fun _ owes => owes)
  | named id =>
      simp only [cacheStep]
      split
      · exact quiet_settles keyspace db _ _ _ rfl rfl rfl trivial (fun _ _ owes => owes) (fun _ owes => owes)
      · refine quiet_settles keyspace db _ _ _ rfl rfl rfl ?_ (fun _ _ owes => owes) (fun _ owes => owes)
        have parsed := meta_text_parses id (expireAt config now args.ttl) args.origin (Nat.mod_lt _ (by norm_num))
        simp only [Task.Named, parsed, Option.map_some]
  | prepared id zKey => exact hset_settles keyspace db args id zKey named
  | stored id zKey => exact zadd_settles keyspace db args id zKey _ named
  | scored id => exact hincrby_settles keyspace db args id
  | returned id => exact quiet_settles keyspace db _ _ _ rfl rfl rfl trivial (fun _ _ owes => owes) (fun _ owes => owes)

theorem purge_step_settles (allTopics : List Bytes) (pc next : PurgePc) (after : Db)
    (still : ∀ started topic topics expiredItems, pc = .emptied started topic topics expiredItems →
      (db.zsets (cacheScorePath keyspace topic)).entries = [])
    (step : purgeStep keyspace now db allTopics pc = some (after, next)) :
    Settles keyspace db after (.purging pc) (.purging next) := by
  have reads : after = db → (∀ topic id, ¬ (Task.purging pc).OwesField topic id) → Settles keyspace db after (.purging pc) (.purging next) := by
    rintro rfl fields
    exact quiet_settles keyspace _ _ _ _ rfl rfl rfl trivial fields (fun _ owes => owes)
  cases pc with
  | entered =>
      cases step
      exact reads rfl (fun _ _ owes => owes)
  | started started =>
      simp only [purgeStep] at step
      split at step
      · cases step
        exact reads rfl (fun _ _ owes => owes)
      · cases step
  | scanning started topics expiredItems =>
      cases topics with
      | nil =>
          cases step
          exact reads rfl (fun _ _ owes => owes)
      | cons topic topics =>
          simp only [purgeStep] at step
          split at step
          · cases step
            exact reads rfl (fun _ _ owes => owes)
          · cases step
            exact reads rfl (fun _ _ owes => owes)
  | emptied started topic topics expiredItems =>
      cases step
      exact forget_settles keyspace db topic started topics expiredItems (still started topic topics expiredItems rfl)
  | removing expiredItems total =>
      cases expiredItems with
      | nil =>
          cases step
          exact reads rfl (fun _ _ owes => owes)
      | cons item expiredItems =>
          obtain ⟨topic, key⟩ := item
          cases parsed : CacheItemMeta.ofStr key with
          | none =>
              simp only [purgeStep, parsed, Option.some.injEq, Prod.mk.injEq] at step
              exact reads step.1.symm (fun _ _ owes => owes)
          | some p =>
              simp only [purgeStep, parsed, Option.some.injEq, Prod.mk.injEq] at step
              rw [← step.1, ← step.2]
              exact zrem_settles keyspace db topic key p expiredItems total parsed
  | unlinking topic id expiredItems total =>
      cases step
      exact hdel_settles keyspace db topic id expiredItems total
  | purged total =>
      cases step
      exact reads rfl (fun _ _ owes => owes)
  | thrown =>
      cases step
      exact reads rfl (fun _ _ owes => owes)

end

section

variable (keyspace : Bytes) (config : CacheConfig)

theorem tied_advance (world after : World) (index : Nat) (allTopics : List Bytes) (tied : Tied keyspace world)
    (undivided : Undivided keyspace world (.advance index allTopics))
    (taken : Steps keyspace config world (.advance index allTopics) after) : Tied keyspace after := by
  obtain ⟨task, found, rest⟩ := Option.bind_eq_some_iff.mp taken
  obtain ⟨moved, step, outcome⟩ := Option.bind_eq_some_iff.mp rest
  rw [← Option.some.inj outcome]
  refine settled_tied keyspace world index task moved.2 moved.1 tied found ?_
  cases task with
  | caching args pc =>
      rw [← Option.some.inj step]
      exact cache_step_settles keyspace config world.now world.db args pc (tied.named _ (List.mem_of_getElem? found))
  | purging pc =>
      obtain ⟨reached, purged, rfl⟩ := Option.map_eq_some_iff.mp step
      refine purge_step_settles keyspace world.now world.db allTopics pc reached.2 reached.1 ?_ purged
      rintro started topic topics expiredItems rfl
      simpa only [Undivided, found] using undivided
  | failed =>
      rw [← Option.some.inj step]
      exact quiet_settles keyspace _ _ _ _ rfl rfl rfl trivial (fun _ _ owes => owes) (fun _ owes => owes)

theorem tied_called (world : World) (task : Task) (tied : Tied keyspace world) (named : task.Named) :
    Tied keyspace { world with tasks := world.tasks ++ [task] } := by
  refine ⟨fun other inside => ?_, fun topic id inside => ?_, fun topic entries => ?_⟩
  · rcases List.mem_append.mp inside with among | fresh
    · exact tied.named other among
    · rw [List.mem_singleton.mp fresh]
      exact named
  · refine (tied.fields topic id inside).imp_right ?_
    rintro ⟨other, among, owes⟩
    exact ⟨other, List.mem_append_left _ among, owes⟩
  · refine (tied.listed topic entries).imp_right ?_
    rintro ⟨other, among, owes⟩
    exact ⟨other, List.mem_append_left _ among, owes⟩

theorem tied_failed (world after : World) (index : Nat) (tied : Tied keyspace world) (undivided : Undivided keyspace world (.fail index))
    (taken : Steps keyspace config world (.fail index) after) : Tied keyspace after := by
  cases found : world.tasks[index]? with
  | none => simp [Steps, World.step, found] at taken
  | some task =>
      simp only [Steps, World.step, found] at taken
      split at taken
      · rw [← Option.some.inj taken]
        have fields : ∀ topic id, ¬ task.OwesField topic id := by
          intro topic id owes
          unfold Task.OwesField at owes
          split at owes
          · simp only [Undivided, found] at undivided
          · simp only [Undivided, found] at undivided
          · exact owes
        have topics : ∀ topic, ¬ task.OwesTally topic := by
          intro topic owes
          unfold Task.OwesTally at owes
          split at owes
          · simp only [Undivided, found] at undivided
          · exact owes
        exact settled_tied keyspace world index task .failed world.db tied found
          (quiet_settles keyspace _ _ _ _ rfl rfl rfl trivial fields topics)
      · cases taken

theorem tied_step (before after : World) (event : Event) (tied : Tied keyspace before)
    (taken : UndividedStep keyspace config before event after) : Tied keyspace after := by
  obtain ⟨undivided, step⟩ := taken
  cases event with
  | tick elapsed =>
      rw [← Option.some.inj step]
      exact ⟨tied.named, tied.fields, tied.listed⟩
  | cacheMessage args =>
      rw [← Option.some.inj step]
      exact tied_called keyspace before _ tied trivial
  | purgeExpiredCacheItems =>
      rw [← Option.some.inj step]
      exact tied_called keyspace before _ tied trivial
  | advance index allTopics => exact tied_advance keyspace config before after index allTopics tied undivided step
  | fail index => exact tied_failed keyspace config before after index tied undivided step

theorem idle_owes_nothing (task : Task) (idle : task.inProgress = false) :
    (∀ topic id, ¬ task.OwesField topic id) ∧ ∀ topic, ¬ task.OwesTally topic := by
  constructor
  · intro topic id owes
    unfold Task.OwesField at owes
    split at owes
    · cases idle
    · cases idle
    · exact owes
  · intro topic owes
    unfold Task.OwesTally at owes
    split at owes
    · cases idle
    · exact owes

theorem intact_when_idle (now : Nat) (events : List Event) (world : World)
    (run : Run (UndividedStep keyspace config) (World.start now) events world) (idle : ∀ task ∈ world.tasks, task.inProgress = false) :
    Intact keyspace world.db := by
  have tied : Tied keyspace world := by
    apply run_invariant (UndividedStep keyspace config) (fun _ world => Tied keyspace world) (World.start now) _ _ events world run
    · exact ⟨fun _ inside => absurd inside List.not_mem_nil, fun _ _ inside => absurd inside (AList.notMem_empty _),
        fun _ entries => absurd rfl entries⟩
    · intro _ event before after tied taken
      exact tied_step keyspace config before after event tied taken
  constructor
  · intro topic id inside
    rcases tied.fields topic id inside with member | ⟨task, among, owes⟩
    · exact member
    · exact absurd owes ((idle_owes_nothing task (idle task among)).1 topic id)
  · intro topic entries
    rcases tied.listed topic entries with counted | ⟨task, among, owes⟩
    · exact counted
    · exact absurd owes ((idle_owes_nothing task (idle task among)).2 topic)

end

def sampleArgs (timestamp : Int) : CacheArgs := ⟨str "t", str "m", [], timestamp, 1⟩

def samplePurge : List Event := List.flatten
  [[.cacheMessage (sampleArgs 5)], List.replicate 7 (.advance 0 []), [.tick 2000, .cacheMessage (sampleArgs 6), .purgeExpiredCacheItems],
    List.replicate 5 (.advance 1 []), [.advance 2 [], .advance 2 [str "t"], .advance 2 [], .advance 2 [], .advance 2 []],
    List.replicate 2 (.advance 1 []), [.advance 2 [], .advance 2 []]]

theorem purged_topic_intact :
    ∃ world, perform (guardedStep (World.step [] ⟨true, 60⟩) (Undivided [])) (World.start 0) samplePurge = some world ∧
      (world.db.hashes (str "t:cache")).keys = [str "6-0"] ∧ world.db.zrange (str "t:scores") = [str "6-0:3000"] ∧
      Intact [] world.db := by
  have reached : (perform (guardedStep (World.step [] ⟨true, 60⟩) (Undivided [])) (World.start 0) samplePurge).map (fun world =>
      ((world.db.hashes (str "t:cache")).keys, world.db.zrange (str "t:scores"), world.tasks.map Task.inProgress)) =
        some ([str "6-0"], [str "6-0:3000"], [false, false, false]) := by decide
  obtain ⟨world, done, facts⟩ := Option.map_eq_some_iff.mp reached
  obtain ⟨fields, rest⟩ := Prod.mk.inj facts
  obtain ⟨members, progress⟩ := Prod.mk.inj rest
  refine ⟨world, done, fields, members, ?_⟩
  refine intact_when_idle [] ⟨true, 60⟩ 0 samplePurge world (perform_guarded _ _ _ _ _ done) ?_
  intro task inside
  have among := List.mem_map_of_mem (f := Task.inProgress) inside
  rw [progress] at among
  simpa using among

def cutShort : List Event := .cacheMessage (sampleArgs 5) :: List.replicate 5 (.advance 0 []) ++ [.fail 0]

-- The score set of a topic is empty when the purger looks at it, and filled
-- when it forgets the topic.
def forgottenTopic : List Event := List.flatten
  [[.cacheMessage (sampleArgs 5)], List.replicate 7 (.advance 0 []), [.tick 2000, .purgeExpiredCacheItems, .advance 1 [], .advance 1 [str "t"]],
    List.replicate 5 (.advance 1 []), [.purgeExpiredCacheItems, .advance 2 [], .advance 2 [str "t"], .advance 2 []],
    [.cacheMessage (sampleArgs 6)], List.replicate 7 (.advance 3 []), List.replicate 3 (.advance 2 [])]

theorem cut_call_leaves_orphan :
    (∃ world, perform (World.step [] ⟨true, 60⟩) (World.start 0) cutShort = some world ∧
      world.tasks.map Task.inProgress = [false] ∧ ¬ Intact [] world.db) ∧
    ∃ world, perform (World.step [] ⟨true, 60⟩) (World.start 0) forgottenTopic = some world ∧
      world.tasks.map Task.inProgress = [false, false, false, false] ∧ ¬ Intact [] world.db := by
  have orphan : (perform (World.step [] ⟨true, 60⟩) (World.start 0) cutShort).map (fun world =>
      (world.tasks.map Task.inProgress, decide (str "5-0" ∈ world.db.hashes (cacheDataPath [] (str "t"))),
        (world.db.zsets (cacheScorePath [] (str "t"))).entries)) = some ([false], true, []) := by decide
  have hidden : (perform (World.step [] ⟨true, 60⟩) (World.start 0) forgottenTopic).map (fun world =>
      (world.tasks.map Task.inProgress, (world.db.zsets (cacheScorePath [] (str "t"))).entries.length,
        decide (str "t" ∈ world.db.tallies (pubCountKey [])))) = some ([false, false, false, false], 1, false) := by decide
  obtain ⟨first, firstDone, firstFacts⟩ := Option.map_eq_some_iff.mp orphan
  obtain ⟨second, secondDone, secondFacts⟩ := Option.map_eq_some_iff.mp hidden
  simp only [Prod.mk.injEq, decide_eq_true_eq] at firstFacts
  simp only [Prod.mk.injEq, decide_eq_false_iff_not] at secondFacts
  obtain ⟨firstIdle, field, nothing⟩ := firstFacts
  obtain ⟨secondIdle, member, uncounted⟩ := secondFacts
  refine ⟨⟨first, firstDone, firstIdle, fun intact => ?_⟩, second, secondDone, secondIdle, fun intact => ?_⟩
  · obtain ⟨entry, inside, _⟩ := intact.fields (str "t") (str "5-0") field
    rw [nothing] at inside
    cases inside
  · refine uncounted (intact.listed (str "t") ?_)
    intro empty
    rw [empty] at member
    cases member

end Eventhub.Integrity
