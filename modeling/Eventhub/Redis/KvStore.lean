import Eventhub.Redis.Keys
import Eventhub.Json

set_option autoImplicit false

namespace Eventhub.KvStore

open Redis Hub

structure Entry where
  value : Bytes
  expireAt : Option Nat
deriving DecidableEq

def Entry.alive (entry : Entry) (now : Nat) : Bool :=
  match entry.expireAt with
  | none => true
  | some deadline => now < deadline

-- The strings of one Redis, which all servers share, and its clock in
-- milliseconds.
structure World where
  now : Nat
  strings : Bytes → Option Entry

def World.start : World := ⟨0, fun _ => none⟩

def World.live (world : World) (key : Bytes) : Option Entry := (world.strings key).filter (fun entry => entry.alive world.now)

def World.put (world : World) (key : Bytes) (entry : Option Entry) : World :=
  { world with strings := Function.update world.strings key entry }

-- Whether Redis has answered the command. If not, redis++ throws, and Redis may
-- have run it all the same.
inductive Fate where
  | answered
  | lost (executed : Bool) (what : Bytes)

def Fate.executed : Fate → Bool
  | .answered => true
  | .lost executed _ => executed

-- std::chrono::seconds(ttl) in milliseconds. Both count in long long, whose
-- overflow is undefined.
def milliseconds (ttl : UInt64) : Option Int :=
  let count := ttl.toInt64.toInt * 1000
  if -2 ^ 63 ≤ count ∧ count < 2 ^ 63 then some count else none

def notFound : Failure := .thrown (str "KVStore: key not found")

def get (keyspace key : Bytes) (fate : Fate) (world : World) : Except Failure Bytes :=
  match fate with
  | .lost _ what => .error (.thrown what)
  | .answered =>
      match world.live (prefixKey keyspace key) with
      | none => .error notFound
      | some entry => .ok entry.value

def invalidExpireTime : Failure := .thrown (str "ERR invalid expire time in 'set' command")

-- redis++ sends no PX unless it is positive, and Redis takes none that ends
-- outside long long.
def set (keyspace key value : Bytes) (ttl : UInt64) (fate : Fate) (world : World) : World × Except Failure Bool :=
  match if ttl > 0 then milliseconds ttl else some 0 with
  | none => (world, .error .undefined)
  | some px =>
      let taken := px ≤ 0 ∨ world.now + px < 2 ^ 63
      (if fate.executed ∧ taken then
          world.put (prefixKey keyspace key) (some ⟨value, if px > 0 then some (world.now + px.toNat) else none⟩)
        else world,
        match fate with
        | .lost _ what => .error (.thrown what)
        | .answered => if taken then .ok true else .error invalidExpireTime)

-- The exception is swallowed.
def del (keyspace key : Bytes) (fate : Fate) (world : World) : World × Int :=
  (if fate.executed then world.put (prefixKey keyspace key) none else world,
    match fate with
    | .lost _ _ => 0
    | .answered => if (world.live (prefixKey keyspace key)).isSome then 1 else 0)

-- A call of a server, which has the given redis_prefix, or time that passes.
inductive Event where
  | get (keyspace key : Bytes) (fate : Fate)
  | set (keyspace key value : Bytes) (ttl : UInt64) (fate : Fate)
  | del (keyspace key : Bytes) (fate : Fate)
  | wait (milliseconds : Nat)

def Event.keyspace? : Event → Option Bytes
  | .get keyspace _ _ | .set keyspace _ _ _ _ | .del keyspace _ _ => some keyspace
  | .wait _ => none

def World.step (world : World) : Event → World
  | .get _ _ _ => world
  | .set keyspace key value ttl fate => (set keyspace key value ttl fate world).1
  | .del keyspace key fate => (del keyspace key fate world).1
  | .wait milliseconds => { world with now := world.now + milliseconds }

-- One key of a store that nobody else uses: the time and the last entry, which
-- stays for its ttl.
structure Cell where
  now : Nat
  entry : Option Entry

def deadline (now : Nat) (ttl : UInt64) : Option Nat := if ttl > 0 then some (now + ttl.toNat * 1000) else none

def Cell.step (keyspace key : Bytes) (cell : Cell) : Event → Cell
  | .get _ _ _ => cell
  | .set other name value ttl fate =>
      if other = keyspace ∧ name = key ∧ fate.executed then { cell with entry := some ⟨value, deadline cell.now ttl⟩ } else cell
  | .del other name fate => if other = keyspace ∧ name = key ∧ fate.executed then { cell with entry := none } else cell
  | .wait milliseconds => { cell with now := cell.now + milliseconds }

def Cell.live (cell : Cell) : Option Entry := cell.entry.filter (fun entry => entry.alive cell.now)

def lastCell (keyspace key : Bytes) (events : List Event) : Cell := events.foldl (Cell.step keyspace key) ⟨0, none⟩

def Event.waited : Event → Nat
  | .wait milliseconds => milliseconds
  | _ => 0

-- A ttl from then on ends in the range of long long, in milliseconds.
def Event.Fits (now : Nat) : Event → Prop
  | .set _ _ _ ttl _ => now + ttl.toNat * 1000 < 2 ^ 63
  | _ => True

def TtlsFit (events : List Event) : Prop := ∀ event ∈ events, event.Fits (events.map Event.waited).sum

theorem fits_earlier (event : Event) (early late : Nat) (before : early ≤ late) (fits : event.Fits late) : event.Fits early := by
  cases event with
  | set keyspace key value ttl fate =>
      have bound : late + ttl.toNat * 1000 < 2 ^ 63 := fits
      change early + ttl.toNat * 1000 < 2 ^ 63
      omega
  | _ => trivial

theorem milliseconds_fit (ttl : UInt64) (fits : ttl.toNat * 1000 < 2 ^ 63) : milliseconds ttl = some (ttl.toNat * 1000 : Int) := by
  have signed : ttl.toInt64.toInt = ttl.toNat := by
    rw [← Int64.toInt_toBitVec, UInt64.toBitVec_toInt64, BitVec.toInt_eq_toNat_of_lt]
    · rfl
    · rw [UInt64.toNat_toBitVec]
      omega
  rw [milliseconds, signed, if_pos (by omega)]

theorem set_fit (keyspace key value : Bytes) (ttl : UInt64) (fate : Fate) (world : World) (fits : world.now + ttl.toNat * 1000 < 2 ^ 63) :
    (set keyspace key value ttl fate world).1 =
      if fate.executed then world.put (prefixKey keyspace key) (some ⟨value, deadline world.now ttl⟩) else world := by
  have px : (if ttl > 0 then milliseconds ttl else some 0) = some (ttl.toNat * 1000 : Int) := by
    by_cases positive : ttl > 0
    · rw [if_pos positive, milliseconds_fit ttl (by omega)]
    · have zero : ttl = 0 := UInt64.le_zero_iff.mp (UInt64.not_lt.mp positive)
      rw [if_neg positive, zero]
      rfl
  have taken : (ttl.toNat * 1000 : Int) ≤ 0 ∨ world.now + (ttl.toNat * 1000 : Int) < 2 ^ 63 := .inr (by omega)
  have ends : (if (ttl.toNat * 1000 : Int) > 0 then some (world.now + (ttl.toNat * 1000 : Int).toNat) else none) = deadline world.now ttl := by
    rw [deadline]
    refine if_congr ?_ ?_ rfl
    · rw [gt_iff_lt, gt_iff_lt, UInt64.lt_iff_toNat_lt]
      change _ ↔ 0 < _
      omega
    · exact congrArg some (by omega)
  rw [set, px]
  dsimp only
  rw [ends]
  simp only [taken, and_true]

def kvRoot (keyspace : Bytes) : Bytes := redisPrefix keyspace (str "kv")

theorem prefix_key_root (keyspace key : Bytes) : prefixKey keyspace key = kvRoot keyspace ++ colon :: key := by
  rw [kv_body, kvRoot]
  unfold redisPrefix
  have marks : str "kv:" = str "kv" ++ [colon] := by decide
  split
  · simp only [marks, List.append_assoc, List.singleton_append]
  · simp only [marks, List.append_assoc, List.singleton_append]

-- The other server's redis_prefix starts where this one's keys start.
def Nested (keyspace other : Bytes) : Prop := other = kvRoot keyspace ∨ kvRoot keyspace ++ [colon] <+: other

instance nestedDecidable (keyspace other : Bytes) : Decidable (Nested keyspace other) := inferInstanceAs (Decidable (_ ∨ _))

theorem kv_root_text (keyspace : Bytes) (named : keyspace ≠ []) : kvRoot keyspace = keyspace ++ str ":kv" := by
  have marks : str ":kv" = str ":" ++ str "kv" := by decide
  rw [kvRoot, redisPrefix, if_pos (List.length_pos_iff.mpr named), marks, List.append_assoc]

theorem kv_root_injective (first second : Bytes) (same : kvRoot first = kvRoot second) : first = second := by
  by_cases firstEmpty : first = []
  · by_cases secondEmpty : second = []
    · rw [firstEmpty, secondEmpty]
    · rw [kv_root_text second secondEmpty, firstEmpty] at same
      have longer := congrArg List.length same
      simp [kvRoot, redisPrefix, str] at longer
  · by_cases secondEmpty : second = []
    · rw [kv_root_text first firstEmpty, secondEmpty] at same
      have longer := congrArg List.length same
      simp [kvRoot, redisPrefix, str] at longer
    · rw [kv_root_text first firstEmpty, kv_root_text second secondEmpty] at same
      exact List.append_cancel_right same

theorem nested_iff (first second : Bytes) : Nested first second ↔ ∃ extra, kvRoot second = kvRoot first ++ colon :: extra := by
  have short : 2 ≤ (kvRoot first).length := by
    rw [kvRoot, redisPrefix]
    split <;> simp [str]
  constructor
  · intro nested
    have marks : str ":kv" = colon :: str "kv" := by decide
    rcases nested with rfl | ⟨rest, rfl⟩
    · refine ⟨str "kv", ?_⟩
      rw [kv_root_text _ (List.ne_nil_of_length_pos (by omega)), marks]
    · refine ⟨rest ++ str ":kv", ?_⟩
      rw [kv_root_text _ (by simp), List.append_assoc, List.append_assoc, List.singleton_append]
  · rintro ⟨extra, longer⟩
    by_cases empty : second = []
    · have lengths := congrArg List.length longer
      rw [empty, List.length_append, List.length_cons] at lengths
      have two : (kvRoot []).length = 2 := by decide
      omega
    · rw [kv_root_text second empty] at longer
      rcases List.append_eq_append_iff.mp longer with ⟨more, root, tail⟩ | ⟨more, whole, tail⟩
      · cases more with
        | nil => exact .inl (by rw [root, List.append_nil])
        | cons mark more =>
            have rest : str "kv" = more ++ colon :: extra := (List.cons.inj tail).2
            have inside : colon ∈ str "kv" := by
              rw [rest]
              exact List.mem_append_right _ List.mem_cons_self
            exact absurd inside (by decide)
      · cases more with
        | nil => exact .inl (by rw [whole, List.append_nil])
        | cons mark more =>
            have marked : colon = mark := (List.cons.inj tail).1
            refine .inr ⟨more, ?_⟩
            rw [whole, ← marked, List.append_assoc, List.singleton_append]

theorem nested_irreflexive (keyspace : Bytes) : ¬ Nested keyspace keyspace := by
  rw [nested_iff]
  rintro ⟨extra, longer⟩
  have lengths := congrArg List.length longer
  rw [List.length_append, List.length_cons] at lengths
  omega

theorem roots_meet (first second key otherKey more : Bytes) (root : kvRoot second = kvRoot first ++ more)
    (tail : colon :: key = more ++ colon :: otherKey) : (first = second ∧ key = otherKey) ∨ Nested first second := by
  cases more with
  | nil =>
      rw [List.append_nil] at root
      exact .inl ⟨(kv_root_injective _ _ root).symm, (List.cons.inj tail).2⟩
  | cons mark more =>
      rw [← (List.cons.inj tail).1] at root
      exact .inr ((nested_iff first second).mpr ⟨more, root⟩)

theorem keys_meet (first second key otherKey : Bytes) (same : prefixKey first key = prefixKey second otherKey) :
    (first = second ∧ key = otherKey) ∨ Nested first second ∨ Nested second first := by
  rw [prefix_key_root, prefix_key_root] at same
  rcases List.append_eq_append_iff.mp same with ⟨more, root, tail⟩ | ⟨more, root, tail⟩
  · exact (roots_meet first second key otherKey more root tail).imp_right .inl
  · exact (roots_meet second first otherKey key more root tail).imp (And.imp Eq.symm Eq.symm) .inr

theorem put_cell (world : World) (keyspace key other name : Bytes) (entry : Option Entry)
    (apart : prefixKey other name = prefixKey keyspace key → other = keyspace ∧ name = key) :
    (world.put (prefixKey other name) entry).strings (prefixKey keyspace key) =
      if other = keyspace ∧ name = key then entry else world.strings (prefixKey keyspace key) := by
  change Function.update world.strings _ _ _ = _
  by_cases same : other = keyspace ∧ name = key
  · rw [if_pos same, same.1, same.2, Function.update_self]
  · rw [if_neg same, Function.update_of_ne (fun equal => same (apart equal.symm))]

theorem cell_step (keyspace key : Bytes) (world : World) (cell : Cell) (event : Event) (now : world.now = cell.now)
    (entry : world.strings (prefixKey keyspace key) = cell.entry)
    (apart : ∀ other, event.keyspace? = some other → ¬ Nested keyspace other ∧ ¬ Nested other keyspace) (fits : event.Fits world.now) :
    (world.step event).now = (cell.step keyspace key event).now ∧
      (world.step event).strings (prefixKey keyspace key) = (cell.step keyspace key event).entry := by
  have own : ∀ other name, event.keyspace? = some other → prefixKey other name = prefixKey keyspace key →
      other = keyspace ∧ name = key := by
    intro other name holds same
    rcases keys_meet other keyspace name key same with equal | nested | nested
    · exact equal
    · exact absurd nested (apart other holds).2
    · exact absurd nested (apart other holds).1
  cases event with
  | get other name fate => exact ⟨now, entry⟩
  | set other name value ttl fate =>
      have cells := put_cell world keyspace key other name (some ⟨value, deadline world.now ttl⟩) (own other name rfl)
      rw [World.step, set_fit other name value ttl fate world fits]
      cases executed : fate.executed with
      | false => simp [Cell.step, executed, now, entry]
      | true =>
          simp only [Cell.step, executed, if_true, and_true, cells]
          rw [now, entry]
          split <;> exact ⟨now, rfl⟩
  | del other name fate =>
      have cells := put_cell world keyspace key other name none (own other name rfl)
      cases executed : fate.executed with
      | false => simp [World.step, del, Cell.step, executed, now, entry]
      | true =>
          simp only [World.step, del, Cell.step, executed, if_true, and_true, cells]
          rw [entry]
          split <;> exact ⟨now, rfl⟩
  | wait milliseconds => exact ⟨congrArg (· + milliseconds) now, entry⟩

theorem step_now (world : World) (event : Event) : (world.step event).now = world.now + event.waited := by
  cases event with
  | set keyspace key value ttl fate =>
      change (set keyspace key value ttl fate world).1.now = world.now
      unfold set
      split
      · rfl
      · dsimp only
        split <;> rfl
  | del keyspace key fate =>
      change (del keyspace key fate world).1.now = world.now
      unfold del
      split <;> rfl
  | _ => rfl

theorem cell_run (keyspace key : Bytes) (events : List Event) (world : World) (cell : Cell) (now : world.now = cell.now)
    (entry : world.strings (prefixKey keyspace key) = cell.entry)
    (apart : ∀ event ∈ events, ∀ other, event.keyspace? = some other → ¬ Nested keyspace other ∧ ¬ Nested other keyspace)
    (fits : ∀ event ∈ events, event.Fits (world.now + (events.map Event.waited).sum)) :
    (events.foldl World.step world).live (prefixKey keyspace key) = (events.foldl (Cell.step keyspace key) cell).live := by
  induction events generalizing world cell with
  | nil =>
      rw [List.foldl_nil, List.foldl_nil, World.live, Cell.live, now, entry]
  | cons event events ih =>
      obtain ⟨clock, held⟩ := cell_step keyspace key world cell event now entry (apart event List.mem_cons_self)
        (fits_earlier event _ _ (Nat.le_add_right _ _) (fits event List.mem_cons_self))
      refine ih _ _ clock held (fun later member => apart later (List.mem_cons_of_mem _ member)) (fun later member => ?_)
      refine fits_earlier later _ _ (Nat.le_of_eq ?_) (fits later (List.mem_cons_of_mem _ member))
      rw [step_now, List.map_cons, List.sum_cons, Nat.add_assoc]

def reply (entry : Option Entry) : Except Failure Bytes :=
  match entry with
  | none => .error notFound
  | some entry => .ok entry.value

theorem nested_shows (first second : Bytes) (nested : Nested first second) :
    ∃ event key, event.keyspace? = some first ∧ TtlsFit [event] ∧
      get second key .answered ([event].foldl World.step World.start) ≠ reply (lastCell second key [event]).live := by
  obtain ⟨extra, longer⟩ := (nested_iff first second).mp nested
  have different : first ≠ second := by
    rintro rfl
    exact nested_irreflexive first nested
  have meet : prefixKey second [] = prefixKey first (extra ++ [colon]) := by
    rw [prefix_key_root, prefix_key_root, longer, List.append_assoc, List.cons_append]
  refine ⟨.set first (extra ++ [colon]) (str "v") 0 .answered, [], rfl, ?_, ?_⟩
  · intro event member
    rw [List.mem_singleton.mp member]
    change 0 < 2 ^ 63
    decide
  · simp [get, World.step, set, Fate.executed, World.put, World.live, meet, lastCell, Cell.step, Cell.live, different, Entry.alive,
      Option.filter, reply]

theorem private_stores_iff (family : List Bytes) :
    (∀ events, (∀ event ∈ events, ∀ keyspace, event.keyspace? = some keyspace → keyspace ∈ family) → TtlsFit events →
      ∀ keyspace ∈ family, ∀ key,
      get keyspace key .answered (events.foldl World.step World.start) = reply (lastCell keyspace key events).live ∧
        (del keyspace key .answered (events.foldl World.step World.start)).2 =
          if (lastCell keyspace key events).live.isSome then 1 else 0) ↔
    ∀ first ∈ family, ∀ second ∈ family, ¬ Nested first second := by
  constructor
  · intro alike first inside second within nested
    obtain ⟨event, key, own, fits, apart⟩ := nested_shows first second nested
    refine apart (alike [event] (fun other member keyspace holds => ?_) fits second within key).1
    rw [List.mem_singleton.mp member, own] at holds
    exact (Option.some.inj holds) ▸ inside
  · intro separate events own fits keyspace inside key
    have live := cell_run keyspace key events World.start ⟨0, none⟩ rfl rfl (fun event member other holds =>
      ⟨separate keyspace inside other (own event member other holds), separate other (own event member other holds) keyspace inside⟩)
      (fun event member => by rw [World.start, Nat.zero_add]; exact fits event member)
    rw [get, del, live]
    exact ⟨rfl, rfl⟩

-- 2 ^ 64 / 1000 seconds are too many, and -1 is sent as no ttl at all.
example : milliseconds 18446744073709552 = none ∧ milliseconds (-1) = some (-1000) := by decide

example : Nested [] (str "kv") ∧ ¬ Nested (str "a") (str "ab") := by decide

end Eventhub.KvStore
