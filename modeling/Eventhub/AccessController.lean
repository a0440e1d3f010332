import Eventhub.TopicFilter
import Eventhub.Json

set_option autoImplicit false

namespace Eventhub

open Hub

structure RlimitConfig where
  topic : Bytes
  interval : Nat
  max : Nat
deriving DecidableEq, Repr

structure AccessController where
  disableAuth : Bool
  tokenLoaded : Bool
  subject : Bytes
  publishAcl : List Bytes
  subscribeAcl : List Bytes
  limitConfigs : List RlimitConfig
deriving DecidableEq, Repr

def isAuthenticated (controller : AccessController) : Bool :=
  if controller.disableAuth then true else controller.tokenLoaded

-- allowPublish and allowSubscribe run the same loop over their own list.
def aclAllows (controller : AccessController) (acl : List Bytes) (topic : Bytes) : Bool :=
  if controller.disableAuth then true
  else if !controller.tokenLoaded then false
  else acl.any (fun filter => isFilterMatched filter topic)

def allowPublish (controller : AccessController) (topic : Bytes) : Bool :=
  aclAllows controller controller.publishAcl topic

def allowSubscribe (controller : AccessController) (topic : Bytes) : Bool :=
  aclAllows controller controller.subscribeAcl topic

-- The claims of a decoded token.
abbrev Claims := List (Bytes × Json)

-- get_claim_value<std::vector<std::string>>(name) behind has_claim(name).
def claimFilters (payload : Claims) (name : Bytes) : Except Failure (List Bytes) :=
  match payload.lookup name with
  | none => .ok []
  | some value => (value.getStrings).map (List.filter isValidTopicOrFilter)

def claimSubject (payload : Claims) (subject : Bytes) : Except Failure Bytes :=
  match payload.lookup (str "sub") with
  | none => .ok subject
  | some value => value.getString

-- The const operator[] asserts that the key exists.
def fieldAt (fields : List (Bytes × Json)) (name : Bytes) : Except Failure Json :=
  match fields.lookup name with
  | none => .error .undefined
  | some value => .ok value

def rlimitEntry (fields : List (Bytes × Json)) : Except Failure RlimitConfig := do
  let topic ← (← fieldAt fields (str "topic")).getString
  let interval ← (← fieldAt fields (str "interval")).getUnsignedLong
  let max ← (← fieldAt fields (str "max")).getUnsignedLong
  return ⟨topic, interval, max⟩

-- RateLimitConfig::loadFromJSON; none if the process does not survive it.
def loadFromJSON (limitConfigs : List RlimitConfig) : List Json → Option (List RlimitConfig)
  | [] => some limitConfigs
  | .object fields :: rest =>
      match rlimitEntry fields with
      | .ok limit => loadFromJSON (limitConfigs ++ [limit]) rest
      | .error (.thrown _) => loadFromJSON limitConfigs rest
      | .error .undefined => none
  | _ :: rest => loadFromJSON limitConfigs rest

def loadRateLimits (payload : Claims) (limitConfigs : List RlimitConfig) : Option (List RlimitConfig) :=
  match payload.lookup (str "rlimit") with
  | some (.array config) => loadFromJSON limitConfigs config
  | _ => some limitConfigs

-- decoded is what jwt::decode makes of the token, none if it throws. An
-- exception leaves behind what has been stored before it.
def authenticate (controller : AccessController) (decoded : Option Claims) : Option (AccessController × Bool) :=
  if controller.disableAuth then some (controller, true)
  else
    match decoded with
    | none => some (controller, false)
    | some payload =>
        match claimFilters payload (str "write") with
        | .error _ => some (controller, false)
        | .ok write =>
            let publishing := { controller with publishAcl := controller.publishAcl ++ write }
            match claimFilters payload (str "read") with
            | .error _ => some (publishing, false)
            | .ok read =>
                let subscribing := { publishing with subscribeAcl := publishing.subscribeAcl ++ read }
                if subscribing.subscribeAcl.length + subscribing.publishAcl.length = 0 then some (subscribing, false)
                else
                  match claimSubject payload subscribing.subject with
                  | .error _ => some (subscribing, false)
                  | .ok subject =>
                      (loadRateLimits payload subscribing.limitConfigs).map (fun limitConfigs =>
                        ({ subscribing with subject := subject, limitConfigs := limitConfigs, tokenLoaded := true }, true))

-- rlimit and matchedPatternLen; found is rlimit being set.
def rateLimitLoop (topic : Bytes) : Option RlimitConfig → Nat → List RlimitConfig → Option RlimitConfig
  | rlimit, _, [] => rlimit
  | rlimit, matchedPatternLen, limit :: rest =>
      if limit.topic = topic then some limit
      else if isFilterMatched limit.topic topic && decide (limit.topic.length > matchedPatternLen) then
        rateLimitLoop topic (some limit) limit.topic.length rest
      else rateLimitLoop topic rlimit matchedPatternLen rest

-- none stands for NoRateLimitForTopic.
def getRateLimitForTopic (controller : AccessController) (topic : Bytes) : Option RlimitConfig :=
  rateLimitLoop topic none 0 controller.limitConfigs

def AccessController.fresh (disableAuth : Bool) : AccessController := ⟨disableAuth, false, [], [], [], []⟩

-- What a call can leave behind, with auth enabled.
inductive Authenticated (controller : AccessController) : Option Claims → AccessController → Bool → Prop where
  | undecoded : Authenticated controller none controller false
  | rejected (payload : Claims) (write read : List Bytes) (writes : write = [] ∨ claimFilters payload (str "write") = .ok write)
      (reads : read = [] ∨ claimFilters payload (str "read") = .ok read) :
      Authenticated controller (some payload)
        { controller with publishAcl := controller.publishAcl ++ write, subscribeAcl := controller.subscribeAcl ++ read } false
  | accepted (payload : Claims) (write read : List Bytes) (subject : Bytes) (limitConfigs : List RlimitConfig)
      (writes : claimFilters payload (str "write") = .ok write) (reads : claimFilters payload (str "read") = .ok read)
      (filters : (controller.subscribeAcl ++ read).length + (controller.publishAcl ++ write).length ≠ 0)
      (subjects : claimSubject payload controller.subject = .ok subject)
      (limits : loadRateLimits payload controller.limitConfigs = some limitConfigs) :
      Authenticated controller (some payload)
        { controller with
          tokenLoaded := true
          subject := subject
          publishAcl := controller.publishAcl ++ write
          subscribeAcl := controller.subscribeAcl ++ read
          limitConfigs := limitConfigs } true

theorem authenticate_spec (controller after : AccessController) (decoded : Option Claims) (verdict : Bool)
    (enabled : controller.disableAuth = false) (done : authenticate controller decoded = some (after, verdict)) :
    Authenticated controller decoded after verdict := by
  unfold authenticate at done
  rw [if_neg (by rw [enabled]; exact Bool.false_ne_true)] at done
  cases decoded with
  | none =>
      cases done
      exact .undecoded
  | some payload =>
      dsimp only at done
      cases writes : claimFilters payload (str "write") with
      | error failure =>
          rw [writes] at done
          cases done
          have nothing : Authenticated controller (some payload) _ false := .rejected payload [] [] (.inl rfl) (.inl rfl)
          rwa [List.append_nil, List.append_nil] at nothing
      | ok write =>
          rw [writes] at done
          dsimp only at done
          cases reads : claimFilters payload (str "read") with
          | error failure =>
              rw [reads] at done
              cases done
              have partly : Authenticated controller (some payload) _ false := .rejected payload write [] (.inr writes) (.inl rfl)
              rwa [List.append_nil] at partly
          | ok read =>
              rw [reads] at done
              dsimp only at done
              have both : Authenticated controller (some payload) _ false := .rejected payload write read (.inr writes) (.inr reads)
              split at done
              · cases done
                exact both
              · rename_i filters
                cases subjects : claimSubject payload controller.subject with
                | error failure =>
                    rw [subjects] at done
                    cases done
                    exact both
                | ok subject =>
                    rw [subjects] at done
                    obtain ⟨limitConfigs, limits, loaded⟩ := Option.map_eq_some_iff.mp done
                    cases loaded
                    exact .accepted payload write read subject limitConfigs writes reads filters subjects limits

theorem authenticate_true (controller after : AccessController) (decoded : Option Claims)
    (done : authenticate controller decoded = some (after, true)) : isAuthenticated after = true := by
  unfold isAuthenticated
  by_cases disabled : controller.disableAuth = true
  · unfold authenticate at done
    rw [if_pos disabled] at done
    cases done
    rw [if_pos disabled]
  · have authenticated := authenticate_spec controller after decoded true (Bool.eq_false_iff.mpr disabled) done
    cases authenticated
    split <;> rfl

theorem acl_allows_iff (controller : AccessController) (acl : List Bytes) (topic : Bytes)
    (enabled : controller.disableAuth = false) (loaded : controller.tokenLoaded = true) :
    aclAllows controller acl topic = true ↔ ∃ filter ∈ acl, isFilterMatched filter topic = true := by
  simp [aclAllows, enabled, loaded]

theorem acl_allowed (controller : AccessController) (acl : List Bytes) (topic : Bytes) (enabled : controller.disableAuth = false)
    (allowed : aclAllows controller acl topic = true) : ∃ filter ∈ acl, isFilterMatched filter topic = true := by
  cases loaded : controller.tokenLoaded with
  | false =>
      rw [aclAllows, enabled, loaded] at allowed
      cases allowed
  | true => exact (acl_allows_iff controller acl topic enabled loaded).mp allowed

end Eventhub
