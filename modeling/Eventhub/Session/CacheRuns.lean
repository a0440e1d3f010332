import Eventhub.Session.ErrorReply

set_option autoImplicit false

namespace Eventhub.Session

open Hub

-- The event log in Redis. allTopics is what HKEYS pub_count answers.
structure Cache where
  keyspace : Bytes
  defaultCacheTtl : Int
  db : Redis.Db
  allTopics : List Bytes
  answered : allTopics.Perm (db.tallies (Redis.pubCountKey keyspace)).keys

section

variable (config : Config) (cache : Cache) (now : Nat)

def cacheSince (topic : Bytes) (since limit : Int) (isPattern : Bool) : List Redis.CacheItem :=
  Redis.getCacheSince cache.keyspace ⟨config.enableCache, cache.defaultCacheTtl⟩ cache.db now cache.allTopics topic since limit isPattern

def cacheSinceId (topic sinceId : Bytes) (limit : Int) (isPattern : Bool) : List Redis.CacheItem :=
  Redis.getCacheSinceId cache.keyspace ⟨config.enableCache, cache.defaultCacheTtl⟩ cache.db now cache.allTopics topic sinceId limit isPattern

-- What a handler is answered at this time. bits is what an expression gives
-- that the language defines no value for.
def Serves (bits : Int) : (command : Command) → Answer command → Prop
  | .getTimeSinceEpoch, answer => answer = (now : Int)
  | .getCacheSince topic since limit isPattern, answer => answer = ⟨cacheSince config cache now topic since limit isPattern, none⟩
  | .getCacheSinceId topic sinceId limit isPattern, answer => answer = ⟨cacheSinceId config cache now topic sinceId limit isPattern, none⟩
  | .unspecified, answer => answer = bits
  | _, _ => True

theorem serves_answers (bits : Int) (command : Command) : ∃ answer, Serves config cache now bits command answer := by
  cases command with
  | isRateLimited topic subject max => exact ⟨.ok true, trivial⟩
  | incrementLimitCount topic subject interval => exact ⟨.ok (), trivial⟩
  | cacheMessage topic payload origin timestamp ttl => exact ⟨.ok [], trivial⟩
  | publishMessage topic id payload origin => exact ⟨.ok (), trivial⟩
  | kvGet key => exact ⟨.ok [], trivial⟩
  | kvSet key value ttl => exact ⟨.ok true, trivial⟩
  | kvDel key => exact ⟨(0 : Int), trivial⟩
  | unsubscribe topicPattern => exact ⟨true, trivial⟩
  | unsubscribeAll => exact ⟨(0 : Nat), trivial⟩
  | listSubscriptions => exact ⟨([] : List Bytes), trivial⟩
  | renderMetrics json => exact ⟨([] : Bytes), trivial⟩
  | getTimeSinceEpoch => exact ⟨_, rfl⟩
  | getCacheSince topic since limit isPattern => exact ⟨_, rfl⟩
  | getCacheSinceId topic sinceId limit isPattern => exact ⟨_, rfl⟩
  | unspecified => exact ⟨_, rfl⟩
  | _ => exact ⟨(), trivial⟩

end

def served (steps : List (Sigma Answer)) : List Redis.CacheItem := (steps.filterMap cached).flatten

theorem served_append (first second : List (Sigma Answer)) : served (first ++ second) = served first ++ served second := by
  rw [served, List.filterMap_append, List.flatten_append]
  rfl

structure ItemTexts (valid : Bytes → Prop) (item : Redis.CacheItem) : Prop where
  id : valid item.id
  topic : valid item.topic
  message : valid item.message
  origin : valid item.origin

def logReply (topic : Bytes) (items : List Redis.CacheItem) : Json :=
  .object [(str "action", .string (str "eventlog")), (str "items", .array (items.map cacheItemJson)), (str "status", .string (str "ok")),
    (str "topic", .string topic)]

section

variable (dump : Json → Except Failure Bytes) (req : Request) (topic : Bytes)

-- The reply to subscribe itself, and one reply for each item.
def ItemsReplayed (items : List Redis.CacheItem) (frames : List Command) : Prop :=
  ∃ text replies, dump (successJson req.id (subscribed topic)) = .ok text ∧ frames = .sendData text .textFrame :: replies ∧
    List.Forall₂ (ItemReply dump req.id) items replies

def logErrors : List Bytes := [str "Cache is not enabled in server config", str "You must specify either 'since' or 'sinceEventId'."]

-- One reply with all items, or an error instead of none.
def ItemsReturned (items : List Redis.CacheItem) (frames : List Command) : Prop :=
  ∃ reply text, dump reply = .ok text ∧ frames = [.sendData text .textFrame] ∧
    (reply = successJson req.id (logReply topic items) ∨ (items = [] ∧ ∃ message ∈ logErrors, reply = invalidParams req.id message))

end

-- since as get<long long>() reads it has an absolute value.
structure Eligible (controller : AccessController) (params : Parameter) (topic : Bytes) : Prop where
  named : params.getString (str "topic") = .ok topic
  valid : isValidTopicOrFilter topic = true
  allows : allowSubscribe controller topic = true
  defined : (params.get (str "since")).bind Json.getLongLong ≠ .error .undefined
  above : (params.get (str "since")).bind Json.getLongLong ≠ .ok (-2 ^ 63)

def sinceIdOf (params : Parameter) : Bytes := params.stringOr (str "sinceEventId")

def sinceAt (now : Nat) (params : Parameter) : Nat :=
  match (params.get (str "since")).bind Json.getLongLong with
  | .ok since => if since ≥ 0 then since.toNat else unsigned64 ((now : Int) - since.natAbs)
  | .error _ => 0

def limitRead (value : Except Failure Int) (bits fallback : Int) : Int :=
  match value with
  | .ok limit => limit
  | .error (.thrown _) => fallback
  | .error .undefined => signed64 bits

-- The limits that subscribe and eventlog pass on.
def subscribeLimit (config : Config) (params : Parameter) (bits : Int) : Int :=
  windowLimit config (limitRead ((params.get (str "limit")).bind Json.getLongLong) bits config.maxCacheRequestLimit)

def logLimit (config : Config) (params : Parameter) (bits : Int) : Int :=
  windowLimit config (limitRead ((params.get (str "limit")).bind Json.getLong) bits config.maxCacheRequestLimit)

def lookedUp (config : Config) (cache : Cache) (now : Nat) (topic sinceEventId : Bytes) (since limit : Int) : List Redis.CacheItem :=
  if !sinceEventId.isEmpty then cacheSinceId config cache now topic sinceEventId limit (isValidTopicFilter topic)
  else cacheSince config cache now topic since limit (isValidTopicFilter topic)

-- The items behind a limit, which is all that the two handlers read differently.
def windowItems (config : Config) (cache : Cache) (now : Nat) (params : Parameter) (topic : Bytes) (limit : Int) : List Redis.CacheItem :=
  if config.enableCache = false then []
  else if (sinceIdOf params).isEmpty && sinceAt now params == 0 then []
  else lookedUp config cache now topic (sinceIdOf params) (Int.bmod (sinceAt now params) (2 ^ 64)) limit

def Fetches {α : Type} (items : List Redis.CacheItem) (value : α) (steps : List (Sigma Answer)) (result : Except Failure α) : Prop :=
  sent steps = [] ∧ served steps = items ∧ result = .ok value

def Shows {α : Type} (outcome : List Command → List Redis.CacheItem → Prop) (steps : List (Sigma Answer)) (_ : Except Failure α) : Prop :=
  outcome (sent steps) (served steps)

section

variable (config : Config) (cache : Cache) (now : Nat) (bits : Int)

theorem fetches_then {α β : Type} (outcome : List Command → List Redis.CacheItem → Prop) (program : Handler α) (next : α → Handler β)
    (items : List Redis.CacheItem) (value : α) (first : program.Paths (Serves config cache now bits) (Fetches items value))
    (rest : (next value).Paths (Serves config cache now bits) (Shows (fun frames more => outcome frames (items ++ more)))) :
    (program >>= next).Paths (Serves config cache now bits) (Shows outcome) := by
  refine Program.paths_bind _ (Fetches items value) _ program next first ?_ ?_
  · intro steps failure fetched
    cases fetched.2.2
  · intro steps other fetched
    obtain ⟨silent, found, same⟩ := fetched
    cases same
    refine Program.paths_mono _ _ _ ?_ _ rest
    intro more result shown
    rw [Shows, sent_silent_append steps more silent, served_append, found]
    exact shown

theorem since_read (params : Parameter) (defined : (params.get (str "since")).bind Json.getLongLong ≠ .error .undefined)
    (above : (params.get (str "since")).bind Json.getLongLong ≠ .ok (-2 ^ 63)) :
    (sinceParam params).Paths (Serves config cache now bits) (Fetches [] (sinceAt now params)) := by
  unfold sinceParam sinceAt
  cases read : (params.get (str "since")).bind Json.getLongLong with
  | ok since =>
      dsimp only
      unfold calculateRelativeSince
      by_cases positive : since ≥ 0
      · rw [if_pos positive, if_pos positive]
        exact ⟨rfl, rfl, rfl⟩
      · rw [if_neg positive, if_neg positive]
        refine paths_ask_bind _ _ _ _ (fun answer given => ?_)
        cases given
        rw [absolute, if_neg (fun least => above (by rw [read, least]))]
        exact ⟨rfl, rfl, rfl⟩
  | error failure =>
      cases failure with
      | thrown what => exact ⟨rfl, rfl, rfl⟩
      | undefined => exact absurd read defined

theorem limit_read (value : Except Failure Int) (fallback : Int) :
    (recovered value signed64 fallback).Paths (Serves config cache now bits) (Fetches [] (limitRead value bits fallback)) := by
  cases value with
  | ok limit => exact ⟨rfl, rfl, rfl⟩
  | error failure =>
      cases failure with
      | thrown what => exact ⟨rfl, rfl, rfl⟩
      | undefined =>
          refine paths_ask_bind _ _ _ _ (fun answer given => ?_)
          cases given
          exact ⟨rfl, rfl, rfl⟩

theorem query_fetches (topic sinceEventId : Bytes) (since limit : Int) :
    (queryCache topic sinceEventId since limit).Paths (Serves config cache now bits)
      (Fetches (lookedUp config cache now topic sinceEventId since limit) ⟨lookedUp config cache now topic sinceEventId since limit, none⟩) := by
  unfold queryCache lookedUp
  by_cases given : (!sinceEventId.isEmpty) = true
  · rw [if_pos given, if_pos given]
    intro answer same
    cases same
    exact ⟨rfl, List.append_nil _, rfl⟩
  · rw [if_neg given, if_neg given]
    intro answer same
    cases same
    exact ⟨rfl, List.append_nil _, rfl⟩

theorem look_up_fetches (topic sinceEventId : Bytes) (since limit : Int) :
    (lookUpCache topic sinceEventId since limit).Paths (Serves config cache now bits)
      (Fetches (lookedUp config cache now topic sinceEventId since limit) (lookedUp config cache now topic sinceEventId since limit)) := by
  refine Program.paths_bind _ _ _ _ _ (query_fetches config cache now bits topic sinceEventId since limit) ?_ ?_
  · intro steps failure fetched
    cases fetched.2.2
  · intro steps answer fetched
    obtain ⟨silent, found, same⟩ := fetched
    cases same
    exact ⟨by rw [List.append_nil]; exact silent, by rw [List.append_nil]; exact found, rfl⟩

end

section

variable (dump : Json → Except Failure Bytes) (possible : (command : Command) → Answer command → Prop)

theorem send_shows (reply : Json) :
    (sendJson dump reply).Paths possible
      (Shows (fun frames items => items = [] ∧ ∀ text, dump reply = .ok text → frames = [.sendData text .textFrame])) := by
  unfold sendJson
  cases dumped : dump reply with
  | error failure => exact ⟨rfl, fun text same => nomatch same⟩
  | ok text =>
      intro answer _
      refine ⟨rfl, fun other same => ?_⟩
      cases same
      rfl

theorem each_shows (req : Request) (replayed : List Redis.CacheItem) :
    (Program.each (fun item => sendSuccessResponse dump req (cacheItemJson item)) replayed).Paths possible
      (Shows (fun frames items => items = [] ∧
        ((∀ item ∈ replayed, ∃ text, dump (successJson req.id (cacheItemJson item)) = .ok text) →
          List.Forall₂ (ItemReply dump req.id) replayed frames))) := by
  induction replayed with
  | nil => exact ⟨rfl, fun _ => .nil⟩
  | cons item rest ih =>
      rw [Program.each, sendSuccessResponse, sendJson]
      cases dumped : dump (successJson req.id (cacheItemJson item)) with
      | error failure =>
          refine ⟨rfl, fun all => ?_⟩
          obtain ⟨text, same⟩ := all item List.mem_cons_self
          rw [dumped] at same
          cases same
      | ok text =>
          refine paths_ask_bind possible _ (.sendData text .textFrame) _ (fun answer _ => ?_)
          refine Program.paths_mono possible _ _ ?_ _ ih
          intro steps result shown
          refine ⟨shown.1, fun all => .cons ⟨text, dumped, rfl⟩ (shown.2 ?_)⟩
          exact fun other inside => all other (List.mem_cons_of_mem item inside)

end

section

variable (valid : Bytes → Prop) (parse : Bytes → Except Failure Json) (dump : Json → Except Failure Bytes)
  (library : JsonLibrary valid parse dump) (req : Request) (texts : (idJson req.id).Texts valid)

include library

theorem item_texts (item : Redis.CacheItem) (readable : ItemTexts valid item) : (cacheItemJson item).Texts valid := by
  refine object_texts valid _ (List.forall_mem_append.mpr ⟨List.forall_mem_append.mpr ⟨?_, ?_⟩, ?_⟩)
  · refine List.forall_mem_cons.mpr ⟨⟨library.plain_text (str "id") (by decide +kernel), .string _ readable.id⟩, ?_⟩
    exact List.forall_mem_singleton.mpr ⟨library.plain_text (str "message") (by decide +kernel), .string _ readable.message⟩
  · split
    · exact fun field inside => nomatch inside
    · exact List.forall_mem_singleton.mpr ⟨library.plain_text (str "origin") (by decide +kernel), .string _ readable.origin⟩
  · exact List.forall_mem_singleton.mpr ⟨library.plain_text (str "topic") (by decide +kernel), .string _ readable.topic⟩

include texts

theorem log_dumped (topic : Bytes) (known : isValidTopicOrFilter topic = true) (items : List Redis.CacheItem)
    (readable : ∀ item ∈ items, ItemTexts valid item) : ∃ text, dump (successJson req.id (logReply topic items)) = .ok text := by
  have listed : (Json.array (items.map cacheItemJson)).Texts valid := by
    refine .array _ (fun value inside => ?_)
    obtain ⟨item, among, same⟩ := List.mem_map.mp inside
    rw [← same]
    exact item_texts valid parse dump library item (readable item among)
  refine success_dumped valid parse dump library req texts _ (object_texts valid _ (List.forall_mem_cons.mpr
    ⟨library.plain_field (str "action") (str "eventlog") (by decide +kernel) (by decide +kernel), ?_⟩))
  refine List.forall_mem_cons.mpr ⟨⟨library.plain_text (str "items") (by decide +kernel), listed⟩, ?_⟩
  refine List.forall_mem_cons.mpr ⟨library.plain_field (str "status") (str "ok") (by decide +kernel) (by decide +kernel), ?_⟩
  exact List.forall_mem_singleton.mpr
    ⟨library.plain_text (str "topic") (by decide +kernel), .string _ (library.ascii topic (valid_name_ascii topic known))⟩

theorem log_error_dumped (message : Bytes) (known : message ∈ logErrors) : ∃ text, dump (invalidParams req.id message) = .ok text := by
  have ascii : ∀ c ∈ message, c < 128 := by
    have all : logErrors.all (fun text => text.all (fun c => c < 128)) = true := by decide +kernel
    exact List.all_iff_forall_prop.mp (List.all_eq_true.mp all message known)
  exact error_dumped valid parse dump library req.id (-32602) (str "Invalid params") (some (cstr message)) texts
    (List.all_iff_forall_prop.mp (by decide +kernel))
    (fun _ given => Option.mem_some.mp given ▸ fun c inside => ascii c ((List.takeWhile_prefix _).subset inside))

theorem log_error_shown (possible : (command : Command) → Answer command → Prop) (topic message : Bytes) (known : message ∈ logErrors) :
    (sendInvalidParamsError dump req message).Paths possible (Shows (fun frames items =>
      items = [] ∧ ((∀ item ∈ items, ItemTexts valid item) → ItemsReturned dump req topic items frames))) := by
  obtain ⟨text, dumped⟩ := log_error_dumped valid parse dump library req texts message known
  refine Program.paths_mono _ _ _ ?_ _ (send_shows dump possible (invalidParams req.id message))
  intro steps result shown
  exact ⟨shown.1, fun _ => ⟨_, text, dumped, shown.2 text dumped, .inr ⟨shown.1, message, known, rfl⟩⟩⟩

end

section

variable (valid : Bytes → Prop) (parse : Bytes → Except Failure Json) (dump : Json → Except Failure Bytes) (config : Config)
  (controller : AccessController) (library : JsonLibrary valid parse dump) (req : Request) (texts : (idJson req.id).Texts valid)
  (cache : Cache) (now : Nat) (bits : Int) (topic : Bytes) (eligible : Eligible controller req.params topic)

include eligible

theorem replay_shows :
    (sendCacheToClient dump config req topic).Paths (Serves config cache now bits) (Shows (fun frames items =>
      items = windowItems config cache now req.params topic (subscribeLimit config req.params bits) ∧
        ((∀ item ∈ items, ∃ text, dump (successJson req.id (cacheItemJson item)) = .ok text) →
          List.Forall₂ (ItemReply dump req.id) items frames))) := by
  generalize window : windowItems config cache now req.params topic (subscribeLimit config req.params bits) = replayed
  unfold windowItems sinceIdOf subscribeLimit windowLimit at window
  refine paths_cases _ _ _ _ _ (fun off => ?_) (fun on => ?_)
  · rw [if_pos (by simpa using off)] at window
    exact ⟨window, fun _ => .nil⟩
  · rw [if_neg (by simpa using on)] at window
    refine fetches_then config cache now bits _ _ _ [] _ (since_read config cache now bits req.params eligible.defined eligible.above) ?_
    refine paths_cases _ _ _ _ _ (fun unasked => ?_) (fun asked => ?_)
    · rw [if_pos unasked] at window
      exact ⟨window, fun _ => .nil⟩
    · rw [if_neg asked] at window
      refine fetches_then config cache now bits _ _ _ [] _ (limit_read config cache now bits _ _) ?_
      refine Program.paths_try_catch _ (Shows _) _ _ _ ?_ (fun _ _ shown => shown) ?_
      · refine fetches_then config cache now bits _ _ _ _ _ (look_up_fetches config cache now bits _ _ _ _) ?_
        refine Program.paths_mono _ _ _ ?_ _ (each_shows dump _ req _)
        intro steps result shown
        rw [window] at shown ⊢
        rw [Shows, shown.1, List.append_nil]
        exact ⟨rfl, shown.2⟩
      · intro steps failure shown
        rw [← List.append_nil steps] at shown
        cases failure with
        | thrown what => exact shown
        | undefined => exact shown

include library texts

theorem subscribe_shows :
    (handleSubscribe dump config controller req).Paths (Serves config cache now bits) (Shows (fun frames items =>
      items = windowItems config cache now req.params topic (subscribeLimit config req.params bits) ∧
        ((∀ item ∈ items, ItemTexts valid item) → ItemsReplayed dump req topic items frames))) := by
  have named : req.params.stringOr (str "topic") = topic := by rw [Parameter.stringOr, eligible.named]; rfl
  have present := (valid_name_levels topic eligible.valid).2.1
  obtain ⟨text, dumped⟩ := subscribed_dumped valid parse dump library req texts topic eligible.valid
  rw [handleSubscribe, named]
  refine paths_cases _ _ _ _ _ (fun empty => absurd (List.isEmpty_iff.mp empty) present) (fun _ => ?_)
  refine paths_cases _ _ _ _ _ (fun bad => absurd eligible.valid (by simpa using bad)) (fun _ => ?_)
  refine paths_cases _ _ _ _ _ (fun bad => absurd eligible.allows (by simpa using bad)) (fun _ => ?_)
  refine paths_ask_bind _ _ _ _ (fun _ _ => ?_)
  unfold sendSuccessResponse sendJson
  rw [subscribed] at dumped
  rw [dumped]
  refine paths_ask_bind _ _ (.sendData text .textFrame) _ (fun _ _ => ?_)
  refine Program.paths_mono _ _ _ ?_ _ (replay_shows dump config controller req cache now bits topic eligible)
  intro steps result shown
  refine ⟨shown.1, fun readable => ⟨text, sent steps, dumped, rfl, shown.2 (fun item inside => ?_)⟩⟩
  exact success_dumped valid parse dump library req texts _ (item_texts valid parse dump library item (readable item inside))

theorem eventlog_shows :
    (handleEventlog dump config controller req).Paths (Serves config cache now bits) (Shows (fun frames items =>
      items = windowItems config cache now req.params topic (logLimit config req.params bits) ∧
        ((∀ item ∈ items, ItemTexts valid item) → ItemsReturned dump req topic items frames))) := by
  have named : req.params.stringPair (str "topic") (str "sinceEventId") = (topic, sinceIdOf req.params) := by
    rw [Parameter.stringPair, eligible.named]
    rfl
  have present := (valid_name_levels topic eligible.valid).2.1
  generalize window : windowItems config cache now req.params topic (logLimit config req.params bits) = returned
  unfold windowItems logLimit windowLimit at window
  rw [handleEventlog]
  refine paths_cases _ _ _ _ _ (fun off => ?_) (fun on => ?_)
  · rw [if_pos (by simpa using off)] at window
    rw [← window]
    exact log_error_shown valid parse dump library req texts _ topic _ (by simp [logErrors])
  · rw [if_neg (by simpa using on)] at window
    rw [named]
    refine fetches_then config cache now bits _ _ _ [] _ (since_read config cache now bits req.params eligible.defined eligible.above) ?_
    refine fetches_then config cache now bits _ _ _ [] _ (limit_read config cache now bits _ _) ?_
    refine paths_cases _ _ _ _ _ (fun unasked => ?_) (fun asked => ?_)
    · rw [if_pos unasked] at window
      rw [← window]
      exact log_error_shown valid parse dump library req texts _ topic _ (by simp [logErrors])
    · rw [if_neg asked] at window
      refine paths_cases _ _ _ _ _ (fun empty => absurd (List.isEmpty_iff.mp empty) present) (fun _ => ?_)
      refine paths_cases _ _ _ _ _ (fun bad => absurd eligible.valid (by simpa using bad)) (fun _ => ?_)
      refine paths_cases _ _ _ _ _ (fun bad => absurd eligible.allows (by simpa using bad)) (fun _ => ?_)
      refine fetches_then config cache now bits _ _ _ _ _ (query_fetches config cache now bits _ _ _ _) ?_
      dsimp only
      refine Program.paths_mono _ _ _ ?_ _ (send_shows dump _ _)
      intro steps result shown
      rw [window] at shown ⊢
      rw [Shows, shown.1, List.append_nil]
      refine ⟨rfl, fun readable => ?_⟩
      obtain ⟨text, dumped⟩ := log_dumped valid parse dump library req texts topic eligible.valid returned readable
      exact ⟨_, text, dumped, shown.2 text dumped, .inl rfl⟩

end

section

variable (valid : Bytes → Prop) (parse : Bytes → Except Failure Json) (dump : Json → Except Failure Bytes) (config : Config)
  (controller : AccessController) (library : JsonLibrary valid parse dump) (req : Request) (texts : (idJson req.id).Texts valid) (now : Nat)

include library texts

theorem runs_show (cache : Cache) (bits logBits : Int) (topic : Bytes) (eligible : Eligible controller req.params topic) :
    ∃ steps last logSteps logLast, (handleSubscribe dump config controller req).Takes (Serves config cache now bits) steps last ∧
      (handleEventlog dump config controller req).Takes (Serves config cache now logBits) logSteps logLast ∧
      served steps = windowItems config cache now req.params topic (subscribeLimit config req.params bits) ∧
      served logSteps = windowItems config cache now req.params topic (logLimit config req.params logBits) := by
  obtain ⟨steps, last, taken⟩ := Program.takes_some _ (serves_answers config cache now bits) (handleSubscribe dump config controller req)
  obtain ⟨logSteps, logLast, logTaken⟩ :=
    Program.takes_some _ (serves_answers config cache now logBits) (handleEventlog dump config controller req)
  have shown := Program.paths_takes _ _ _
    (subscribe_shows valid parse dump config controller library req texts cache now bits topic eligible) steps last taken
  have logShown := Program.paths_takes _ _ _
    (eventlog_shows valid parse dump config controller library req texts cache now logBits topic eligible) logSteps logLast logTaken
  exact ⟨steps, last, logSteps, logLast, taken, logTaken, shown.1, logShown.1⟩

end

end Eventhub.Session
