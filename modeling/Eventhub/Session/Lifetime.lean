import Eventhub.Redis.TopicLog
import Eventhub.Session.Handlers

set_option autoImplicit false

namespace Eventhub.Session

open Hub

def effectiveTtl (config : Redis.CacheConfig) (ttl : Nat) : Nat :=
  if ttl = 0 then (config.defaultCacheTtl % 2 ^ 64).toNat else ttl

theorem expire_at_eq (config : Redis.CacheConfig) (now ttl : Nat) :
    Redis.expireAt config now ttl = (now + effectiveTtl config ttl * 1000) % 2 ^ 64 := rfl

section

variable (config : Redis.CacheConfig) (now : Nat) (id : Redis.CacheId) (origin : Bytes)

def storedKey (ttl : Nat) : Bytes := Redis.CacheItemMeta.toStr ⟨id.text, Redis.expireAt config now ttl, origin⟩

def storedExpiry (ttl : Nat) : Option Nat := (Redis.CacheItemMeta.ofStr (storedKey config now id origin ttl)).map Redis.CacheItemMeta.expireAt

structure LifetimeKept (ttl : Nat) : Prop where
  notBefore : ∃ expiry, storedExpiry config now id origin ttl = some expiry ∧ now ≤ expiry
  monotone : ∀ shorter longer, effectiveTtl config shorter ≤ effectiveTtl config longer → effectiveTtl config longer ≤ effectiveTtl config ttl →
    ∀ first second, storedExpiry config now id origin shorter = some first → storedExpiry config now id origin longer = some second →
      first ≤ second
  live : ∀ time, now ≤ time → time ≤ now + min (effectiveTtl config ttl) (2 ^ 40) * 1000 →
    ∀ zcacheKeys, storedKey config now id origin ttl ∈ zcacheKeys →
      ∃ item ∈ Redis.cacheKeys time zcacheKeys, Redis.CacheItemMeta.ofStr (storedKey config now id origin ttl) = some item

theorem stored_key_parses (ttl : Nat) :
    Redis.CacheItemMeta.ofStr (storedKey config now id origin ttl) =
      some ⟨id.text, Redis.expireAt config now ttl, origin.takeWhile (· ≠ colon)⟩ :=
  Redis.meta_text_parses id _ origin (Nat.mod_lt _ (by decide))

theorem stored_expiry_eq (ttl : Nat) : storedExpiry config now id origin ttl = some (Redis.expireAt config now ttl) := by
  rw [storedExpiry, stored_key_parses, Option.map_some]

theorem stored_key_live (ttl time : Nat) (zcacheKeys : List Bytes) (inside : storedKey config now id origin ttl ∈ zcacheKeys)
    (later : time ≤ Redis.expireAt config now ttl) :
    ∃ item ∈ Redis.cacheKeys time zcacheKeys, Redis.CacheItemMeta.ofStr (storedKey config now id origin ttl) = some item := by
  have parsed := stored_key_parses config now id origin ttl
  refine ⟨_, ?_, parsed⟩
  rw [Redis.cacheKeys, List.mem_filter, List.mem_filterMap]
  exact ⟨⟨_, inside, parsed⟩, decide_eq_true later⟩

theorem wrapped_not_monotone (ttl : Nat) (early : now < 2 ^ 62) (wraps : 2 ^ 64 ≤ now + effectiveTtl config ttl * 1000) :
    ¬ LifetimeKept config now id origin ttl := by
  intro kept
  let first := (2 ^ 64 - now + 999) / 1000
  have wrapping : first = (2 ^ 64 - now + 999) / 1000 := rfl
  have below : effectiveTtl config (first - 1) = first - 1 := if_neg (by omega)
  have at_first : effectiveTtl config first = first := if_neg (by omega)
  have order := kept.monotone (first - 1) first (by rw [below, at_first]; omega) (by rw [at_first]; omega) _ _
    (stored_expiry_eq config now id origin (first - 1)) (stored_expiry_eq config now id origin first)
  rw [expire_at_eq, expire_at_eq, below, at_first] at order
  omega

theorem lifetime_kept_iff (ttl : Nat) (early : now < 2 ^ 62) :
    LifetimeKept config now id origin ttl ↔ now + effectiveTtl config ttl * 1000 < 2 ^ 64 := by
  constructor
  · intro kept
    by_contra wraps
    exact wrapped_not_monotone config now id origin ttl early (Nat.le_of_not_lt wraps) kept
  · intro fits
    have exact_sum : ∀ shorter, effectiveTtl config shorter ≤ effectiveTtl config ttl →
        Redis.expireAt config now shorter = now + effectiveTtl config shorter * 1000 := by
      intro shorter bounded
      have least := Nat.add_le_add_left (Nat.mul_le_mul_right 1000 bounded) now
      rw [expire_at_eq, Nat.mod_eq_of_lt (Nat.lt_of_le_of_lt least fits)]
    refine ⟨⟨_, stored_expiry_eq config now id origin ttl, ?_⟩, ?_, ?_⟩
    · rw [exact_sum ttl (Nat.le_refl _)]
      exact Nat.le_add_right now _
    · intro shorter longer order bounded first second firstRead secondRead
      rw [stored_expiry_eq, Option.some.injEq, exact_sum shorter (order.trans bounded)] at firstRead
      rw [stored_expiry_eq, Option.some.injEq, exact_sum longer bounded] at secondRead
      rw [← firstRead, ← secondRead]
      exact Nat.add_le_add_left (Nat.mul_le_mul_right 1000 order) now
    · intro time _ before zcacheKeys inside
      have least := Nat.min_le_left (effectiveTtl config ttl) (2 ^ 40)
      refine stored_key_live config now id origin ttl time zcacheKeys inside ?_
      rw [exact_sum ttl (Nat.le_refl _)]
      exact before.trans (Nat.add_le_add_left (Nat.mul_le_mul_right 1000 least) now)

end

def CachesFor (ttl : Nat) : Command → Prop
  | .cacheMessage _ _ _ _ passed => passed = ttl
  | _ => True

theorem publish_caches_for (dump : Json → Except Failure Bytes) (controller : AccessController) (req : Request) (value : Int)
    (given : req.params.get (str "ttl") = .ok (.integer value)) :
    (handlePublish dump controller req).Uses (CachesFor (unsigned64 value)) := by
  have sends := fun reply => uses_sending (CachesFor (unsigned64 value)) dump reply (fun _ => trivial)
  refine uses_ite _ _ _ _ (sends _) (fun _ => ?_)
  refine uses_ite _ _ _ _ (sends _) (fun _ => ?_)
  refine uses_ite _ _ _ _ (sends _) (fun _ => ?_)
  refine Program.uses_bind _ _ _ (uses_recovered _ _ _ _ trivial) (fun timestamp => ?_)
  rw [given]
  refine uses_catching _ _ _ ?_ (fun _ => sends _)
  refine Program.uses_bind _ _ _ (uses_check_rate_limit _ controller _ (fun _ _ _ => trivial) (fun _ _ _ => trivial)) (fun limited => ?_)
  refine uses_ite _ _ _ _ (sends _) (fun _ => ?_)
  refine uses_ask_bind _ _ _ rfl (fun answer => uses_done_bind _ _ _ (fun id => ?_))
  refine uses_ite _ _ _ _ (sends _) (fun _ => ?_)
  exact uses_ask_bind _ _ _ trivial (fun answer => uses_done_bind _ _ _ (fun _ => sends _))

end Eventhub.Session
