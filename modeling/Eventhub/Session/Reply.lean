import Eventhub.Session.Mediation

set_option autoImplicit false

namespace Eventhub.Session

open Hub

def sends : Command → Bool
  | .write _ => true
  | .sendData _ _ => true
  | _ => false

def sent (steps : List (Sigma Answer)) : List Command := (steps.map Sigma.fst).filter sends

theorem sent_append (first second : List (Sigma Answer)) : sent (first ++ second) = sent first ++ sent second := by
  rw [sent, List.map_append, List.filter_append]
  rfl

theorem sent_silent_append (first second : List (Sigma Answer)) (silent : sent first = []) : sent (first ++ second) = sent second := by
  rw [sent_append, silent, List.nil_append]

theorem sent_quiet (command : Command) (answer : Answer command) (steps : List (Sigma Answer)) (quiet : sends command = false) :
    sent (⟨command, answer⟩ :: steps) = sent steps := by
  rw [sent, List.map_cons, List.filter_cons_of_neg (by simp [quiet])]
  rfl

def Thrown {α : Type} (result : Except Failure α) : Prop := ∀ failure, result = .error failure → ∃ what, failure = .thrown what

-- Redis answers with a value or throws a std::exception.
def Reported : (command : Command) → Answer command → Prop
  | .isRateLimited _ _ _, answer => Thrown answer
  | .incrementLimitCount _ _ _, answer => Thrown answer
  | .cacheMessage _ _ _ _ _, answer => Thrown answer
  | .publishMessage _ _ _ _, answer => Thrown answer
  | .kvGet _, answer => Thrown answer
  | .kvSet _ _ _, answer => Thrown answer
  | .getCacheSince _ _ _ _, answer => ∀ failure, answer.exception = some failure → ∃ what, failure = .thrown what
  | .getCacheSinceId _ _ _ _, answer => ∀ failure, answer.exception = some failure → ∃ what, failure = .thrown what
  | _, _ => True

theorem thrown_ok {α : Type} (value : α) : Thrown (.ok value : Except Failure α) := by
  intro failure equal
  cases equal

theorem thrown_error {α : Type} (what : Bytes) : Thrown (.error (.thrown what) : Except Failure α) := by
  rintro failure ⟨⟩
  exact ⟨what, rfl⟩

theorem thrown_bind {α β : Type} (value : Except Failure α) (next : α → Except Failure β) (first : Thrown value)
    (second : ∀ value, Thrown (next value)) : Thrown (value.bind next) := by
  cases value with
  | ok value => exact second value
  | error failure =>
      obtain ⟨what, rfl⟩ := first failure rfl
      exact thrown_error what

theorem thrown_get_string (value : Json) : Thrown value.getString := by
  cases value with
  | string text => exact thrown_ok text
  | _ => exact thrown_error _

theorem thrown_get (params : Parameter) (key : Bytes) : Thrown (params.get key) := by
  cases params with
  | map fields =>
      dsimp only [Parameter.get]
      cases fields.lookup key with
      | none => exact thrown_error _
      | some value => exact thrown_ok value
  | null => exact thrown_error _
  | array items => exact thrown_error _

theorem thrown_param (params : Parameter) (key : Bytes) : Thrown (params.getString key) :=
  thrown_bind _ _ (thrown_get params key) thrown_get_string

-- What silent commands in front of a program leave as it is.
structure Absorbs {α : Type} (holds : List (Sigma Answer) → Except Failure α → Prop) : Prop where
  before : ∀ first second result, sent first = [] → holds second result → holds (first ++ second) result
  failed : ∀ steps what, sent steps = [] → holds steps (.error (.thrown what))

def Silent {α : Type} (steps : List (Sigma Answer)) (result : Except Failure α) : Prop := sent steps = [] ∧ Thrown result

def Settled {α : Type} (steps : List (Sigma Answer)) (result : Except Failure α) : Prop := sent steps = [] ∧ ∃ value, result = .ok value

theorem settled_silent {α : Type} (program : Handler α) (settled : program.Paths Reported Settled) : program.Paths Reported Silent := by
  refine Program.paths_mono Reported _ _ ?_ program settled
  rintro steps result ⟨quiet, value, rfl⟩
  exact ⟨quiet, thrown_ok value⟩

theorem silent_absorbs (α : Type) : Absorbs (Silent (α := α)) where
  before := fun first second result quiet held => ⟨(sent_silent_append first second quiet).trans held.1, held.2⟩
  failed := by
    intro steps what quiet
    refine ⟨quiet, ?_⟩
    rintro failure ⟨⟩
    exact ⟨what, rfl⟩

theorem silent_then {α β : Type} (holds : List (Sigma Answer) → Except Failure β → Prop) (absorbs : Absorbs holds) (program : Handler α)
    (next : α → Handler β) (first : program.Paths Reported Silent) (rest : ∀ value, (next value).Paths Reported holds) :
    (program >>= next).Paths Reported holds := by
  refine Program.paths_bind Reported Silent holds program next first ?_ ?_
  · rintro steps failure ⟨quiet, thrown⟩
    obtain ⟨what, rfl⟩ := thrown failure rfl
    exact absorbs.failed steps what quiet
  · rintro steps value ⟨quiet, _⟩
    exact Program.paths_mono Reported _ _ (fun more result => absorbs.before steps more result quiet) _ (rest value)

theorem done_then {α β : Type} (holds : List (Sigma Answer) → Except Failure β → Prop) (absorbs : Absorbs holds)
    (value : Except Failure α) (next : α → Handler β) (thrown : Thrown value) (rest : ∀ value, (next value).Paths Reported holds) :
    ((Program.done value : Handler α) >>= next).Paths Reported holds :=
  silent_then holds absorbs _ next ⟨rfl, thrown⟩ rest

theorem ask_then {β : Type} (holds : List (Sigma Answer) → Except Failure β → Prop) (absorbs : Absorbs holds) (command : Command)
    (next : Answer command → Handler β) (quiet : sends command = false)
    (rest : ∀ answer, Reported command answer → (next answer).Paths Reported holds) : (ask command >>= next).Paths Reported holds := by
  refine paths_ask_bind Reported holds command next (fun answer given => ?_)
  refine Program.paths_mono Reported _ _ ?_ _ (rest answer given)
  exact fun steps result => absorbs.before [⟨command, answer⟩] steps result (sent_quiet command answer [] quiet)

theorem ask_done_then {α β : Type} (holds : List (Sigma Answer) → Except Failure β → Prop) (absorbs : Absorbs holds)
    (command : Command) (result : Answer command → Except Failure α) (next : α → Handler β) (quiet : sends command = false)
    (thrown : ∀ answer, Reported command answer → Thrown (result answer)) (rest : ∀ value, (next value).Paths Reported holds) :
    (ask command >>= fun answer => (Program.done (result answer) : Handler α) >>= next).Paths Reported holds :=
  ask_then holds absorbs command _ quiet (fun answer given => done_then holds absorbs _ next (thrown answer given) rest)

theorem paths_ite {α : Type} (holds : List (Sigma Answer) → Except Failure α → Prop) (condition : Prop) [Decidable condition]
    (first second : Handler α) (yes : first.Paths Reported holds) (no : second.Paths Reported holds) :
    (if condition then first else second).Paths Reported holds :=
  paths_cases Reported holds condition first second (fun _ => yes) (fun _ => no)

theorem except_bind_ok {α β : Type} (value : Except Failure α) (next : α → Except Failure β) (result : β)
    (bound : value.bind next = .ok result) : ∃ first, value = .ok first ∧ next first = .ok result := by
  cases value with
  | error failure => cases bound
  | ok first => exact ⟨first, rfl, bound⟩

theorem settled_recovered {α : Type} (value : Except Failure α) (converted : Int → α) (fallback : α) :
    (recovered value converted fallback).Paths Reported Settled := by
  unfold recovered
  split
  · exact ⟨rfl, _, rfl⟩
  · exact ⟨rfl, _, rfl⟩
  · exact fun bits _ => ⟨rfl, _, rfl⟩

theorem settled_relative_since (since : Int) : (calculateRelativeSince since).Paths Reported Settled := by
  refine paths_ite _ _ _ _ ⟨rfl, _, rfl⟩ (paths_ask_bind _ _ _ _ (fun now _ => ?_))
  unfold absolute
  split
  · exact fun magnitude _ => ⟨rfl, _, rfl⟩
  · exact ⟨rfl, _, rfl⟩

theorem settled_since (params : Parameter) : (sinceParam params).Paths Reported Settled := by
  unfold sinceParam
  split
  · exact settled_relative_since _
  · exact ⟨rfl, _, rfl⟩
  · refine paths_ask_bind _ _ _ _ (fun since _ => ?_)
    refine Program.paths_mono Reported _ _ ?_ _ (settled_relative_since (signed64 since))
    rintro steps result ⟨quiet, returned⟩
    exact ⟨(sent_quiet _ _ steps rfl).trans quiet, returned⟩

theorem silent_unsubscribe_topics (controller : AccessController) (topics : List Json) (count : Nat) :
    (unsubscribeTopics controller topics count).Paths Reported Silent := by
  induction topics generalizing count with
  | nil => exact ⟨rfl, thrown_ok count⟩
  | cons element topics ih =>
      refine done_then _ (silent_absorbs _) _ _ (thrown_get_string element) (fun topic => ?_)
      exact paths_ite _ _ _ _ (ih count) (ask_then _ (silent_absorbs _) _ _ rfl (fun _ _ => ih _))

theorem silent_check_rate_limit (controller : AccessController) (topicName : Bytes) :
    (checkRateLimit controller topicName).Paths Reported Silent := by
  refine paths_ite _ _ _ _ ⟨rfl, thrown_ok false⟩ ?_
  split
  · exact ⟨rfl, thrown_ok false⟩
  · refine ask_done_then _ (silent_absorbs _) _ _ _ rfl (fun _ reported => reported) (fun limited => ?_)
    refine paths_ite _ _ _ _ ⟨rfl, thrown_ok true⟩ ?_
    exact ask_done_then _ (silent_absorbs _) _ _ _ rfl (fun _ reported => reported) (fun _ => ⟨rfl, thrown_ok false⟩)

def Carries (id : RpcId) (reply : Json) : Prop := ∃ fields, reply = .object fields ∧ fields.lookup (str "id") = some (idJson id)

theorem success_carries (id : RpcId) (result : Json) : Carries id (successJson id result) := ⟨_, rfl, rfl⟩

theorem error_carries (id : RpcId) (code : Int) (message : Bytes) (data : Option Bytes) : Carries id (errorJson id code message data) :=
  ⟨_, rfl, rfl⟩

section

variable (valid : Bytes → Prop) (parse : Bytes → Except Failure Json) (dump : Json → Except Failure Bytes) (config : Config)
  (controller : AccessController)

def TextReply (id : RpcId) (command : Command) : Prop :=
  ∃ reply text, Carries id reply ∧ dump reply = .ok text ∧ command = .sendData text .textFrame

def Replied (id : RpcId) (steps : List (Sigma Answer)) (result : Except Failure Unit) : Prop :=
  (result = .ok () ∧ ∃ reply, TextReply dump id reply ∧ sent steps = [reply]) ∨ (sent steps = [] ∧ ∃ what, result = .error (.thrown what))

theorem replied_absorbs (id : RpcId) : Absorbs (Replied dump id) where
  before := by
    rintro first second result quiet held
    rw [Replied, sent_silent_append first second quiet]
    exact held
  failed := fun steps what quiet => .inr ⟨quiet, what, rfl⟩

theorem replied_catching (id : RpcId) (body : Handler Unit) (handler : Bytes → Handler Unit)
    (first : body.Paths Reported (Replied dump id)) (second : ∀ what, (handler what).Paths Reported (Replied dump id)) :
    (catching body handler).Paths Reported (Replied dump id) := by
  refine Program.paths_try_catch Reported (Replied dump id) _ body _ first (fun _ _ held => held) ?_
  rintro steps failure (⟨returned, _⟩ | ⟨quiet, what, thrown⟩)
  · cases returned
  · cases thrown
    exact Program.paths_mono Reported _ _ (fun more result => (replied_absorbs dump id).before steps more result quiet) _ (second what)

theorem replied_query (id : RpcId) (topic sinceEventId : Bytes) (since limit : Int) (next : CacheAnswer → Handler Unit)
    (rest : ∀ answer : CacheAnswer, (∀ failure, answer.exception = some failure → ∃ what, failure = .thrown what) →
      (next answer).Paths Reported (Replied dump id)) :
    (queryCache topic sinceEventId since limit >>= next).Paths Reported (Replied dump id) := by
  unfold queryCache
  split
  · exact ask_then _ (replied_absorbs dump id) _ _ rfl rest
  · exact ask_then _ (replied_absorbs dump id) _ _ rfl rest

section

variable (library : JsonLibrary valid parse dump) (req : Request)

include library

theorem replied_send (id : RpcId) (reply : Json) (carries : Carries id reply) : (sendJson dump reply).Paths Reported (Replied dump id) := by
  unfold sendJson
  cases dumped : dump reply with
  | ok text => exact fun _ _ => .inl ⟨rfl, _, ⟨reply, text, carries, dumped, rfl⟩, rfl⟩
  | error failure =>
      obtain ⟨what, rfl⟩ := library.throws reply failure dumped
      exact .inr ⟨rfl, what, rfl⟩

theorem replied_success (result : Json) : (sendSuccessResponse dump req result).Paths Reported (Replied dump req.id) :=
  replied_send valid parse dump library req.id _ (success_carries req.id result)

theorem replied_invalid (message : Bytes) : (sendInvalidParamsError dump req message).Paths Reported (Replied dump req.id) :=
  replied_send valid parse dump library req.id _ (error_carries req.id _ _ _)

theorem replied_unsubscribe : (handleUnsubscribe dump controller req).Paths Reported (Replied dump req.id) := by
  unfold handleUnsubscribe
  split
  · exact silent_then _ (replied_absorbs dump req.id) _ _ (silent_unsubscribe_topics controller _ 0)
      (fun _ => replied_success valid parse dump library req _)
  · exact replied_invalid valid parse dump library req _

theorem replied_unsubscribe_all : (handleUnsubscribeAll dump req).Paths Reported (Replied dump req.id) :=
  ask_then _ (replied_absorbs dump req.id) _ _ rfl (fun _ _ => replied_success valid parse dump library req _)

theorem replied_cache_and_publish (topicName message : Bytes) (timestamp : Int) (ttl : Nat) :
    (cacheAndPublish dump controller req topicName message timestamp ttl).Paths Reported (Replied dump req.id) := by
  refine silent_then _ (replied_absorbs dump req.id) _ _ (silent_check_rate_limit controller topicName) (fun limited => ?_)
  refine paths_ite _ _ _ _ (replied_success valid parse dump library req _) ?_
  refine ask_done_then _ (replied_absorbs dump req.id) _ _ _ rfl (fun _ reported => reported) (fun id => ?_)
  refine paths_ite _ _ _ _ (replied_invalid valid parse dump library req _) ?_
  exact ask_done_then _ (replied_absorbs dump req.id) _ _ _ rfl (fun _ reported => reported)
    (fun _ => replied_success valid parse dump library req _)

theorem replied_publish : (handlePublish dump controller req).Paths Reported (Replied dump req.id) := by
  refine paths_ite _ _ _ _ (replied_invalid valid parse dump library req _) ?_
  refine paths_ite _ _ _ _ (replied_invalid valid parse dump library req _) ?_
  refine paths_ite _ _ _ _ (replied_invalid valid parse dump library req _) ?_
  refine silent_then _ (replied_absorbs dump req.id) _ _ (settled_silent _ (settled_recovered _ _ _)) (fun timestamp => ?_)
  refine silent_then _ (replied_absorbs dump req.id) _ _ (settled_silent _ (settled_recovered _ _ _)) (fun ttl => ?_)
  exact replied_catching dump req.id _ _ (replied_cache_and_publish valid parse dump controller library req _ _ _ _)
    (fun _ => replied_invalid valid parse dump library req _)

theorem replied_list : (handleList dump req).Paths Reported (Replied dump req.id) :=
  ask_then _ (replied_absorbs dump req.id) _ _ rfl (fun _ _ => replied_success valid parse dump library req _)

theorem replied_eventlog : (handleEventlog dump config controller req).Paths Reported (Replied dump req.id) := by
  refine paths_ite _ _ _ _ (replied_invalid valid parse dump library req _) ?_
  refine silent_then _ (replied_absorbs dump req.id) _ _ (settled_silent _ (settled_since req.params)) (fun since => ?_)
  refine silent_then _ (replied_absorbs dump req.id) _ _ (settled_silent _ (settled_recovered _ _ _)) (fun limit => ?_)
  refine paths_ite _ _ _ _ (replied_invalid valid parse dump library req _) ?_
  refine paths_ite _ _ _ _ (replied_invalid valid parse dump library req _) ?_
  refine paths_ite _ _ _ _ (replied_invalid valid parse dump library req _) ?_
  refine paths_ite _ _ _ _ (replied_invalid valid parse dump library req _) ?_
  refine replied_query dump req.id _ _ _ _ _ (fun answer reported => ?_)
  cases thrown : answer.exception with
  | none => exact replied_success valid parse dump library req _
  | some failure =>
      obtain ⟨what, rfl⟩ := reported failure thrown
      exact replied_invalid valid parse dump library req _

theorem replied_kv (body : Handler Unit) (inner : body.Paths Reported (Replied dump req.id)) :
    (kvHandler dump config req body).Paths Reported (Replied dump req.id) :=
  paths_ite _ _ _ _ (replied_invalid valid parse dump library req _)
    (replied_catching dump req.id _ _ inner (fun _ => replied_invalid valid parse dump library req _))

theorem replied_get : (handleGet dump config controller req).Paths Reported (Replied dump req.id) := by
  refine replied_kv valid parse dump config library req _ ?_
  refine done_then _ (replied_absorbs dump req.id) _ _ (thrown_param _ _) (fun key => ?_)
  refine paths_ite _ _ _ _ (replied_invalid valid parse dump library req _) ?_
  exact ask_done_then _ (replied_absorbs dump req.id) _ _ _ rfl (fun _ reported => reported)
    (fun _ => replied_success valid parse dump library req _)

theorem replied_set : (handleSet dump config controller req).Paths Reported (Replied dump req.id) := by
  refine paths_ite _ _ _ _ (replied_invalid valid parse dump library req _) ?_
  refine silent_then _ (replied_absorbs dump req.id) _ _ (settled_silent _ (settled_recovered _ _ _)) (fun ttl => ?_)
  refine replied_catching dump req.id _ _ ?_ (fun _ => replied_invalid valid parse dump library req _)
  refine done_then _ (replied_absorbs dump req.id) _ _ (thrown_param _ _) (fun key => ?_)
  refine done_then _ (replied_absorbs dump req.id) _ _ (thrown_param _ _) (fun value => ?_)
  refine paths_ite _ _ _ _ (replied_invalid valid parse dump library req _) ?_
  exact ask_done_then _ (replied_absorbs dump req.id) _ _ _ rfl (fun _ reported => reported)
    (fun _ => replied_success valid parse dump library req _)

theorem replied_delete : (handleDelete dump config controller req).Paths Reported (Replied dump req.id) := by
  refine replied_kv valid parse dump config library req _ ?_
  refine done_then _ (replied_absorbs dump req.id) _ _ (thrown_param _ _) (fun key => ?_)
  refine paths_ite _ _ _ _ (replied_invalid valid parse dump library req _) ?_
  exact ask_then _ (replied_absorbs dump req.id) _ _ rfl (fun _ _ => replied_success valid parse dump library req _)

theorem replied_ping : (handlePing dump req).Paths Reported (Replied dump req.id) :=
  ask_then _ (replied_absorbs dump req.id) _ _ rfl (fun _ _ => replied_success valid parse dump library req _)

end

def cached : Sigma Answer → Option (List Redis.CacheItem)
  | ⟨.getCacheSince _ _ _ _, answer⟩ => some answer.result
  | ⟨.getCacheSinceId _ _ _ _, answer⟩ => some answer.result
  | _ => none

def ItemReply (id : RpcId) (item : Redis.CacheItem) (command : Command) : Prop :=
  ∃ text, dump (successJson id (cacheItemJson item)) = .ok text ∧ command = .sendData text .textFrame

-- Items from the front of what the query was answered with, in that order.
def Replays (id : RpcId) (steps : List (Sigma Answer)) (replies : List Command) : Prop :=
  replies = [] ∨ ∃ step ∈ steps, ∃ items replayed, cached step = some items ∧ replayed <+: items ∧
    List.Forall₂ (ItemReply dump id) replayed replies

def subscribed (topicName : Bytes) : Json :=
  .object [(str "action", .string (str "subscribe")), (str "status", .string (str "ok")), (str "topic", .string topicName)]

theorem replays_each (library : JsonLibrary valid parse dump) (req : Request) (items : List Redis.CacheItem) :
    (Program.each (fun item => sendSuccessResponse dump req (cacheItemJson item)) items).Paths Reported
      (fun steps result => Thrown result ∧ ∃ replayed, replayed <+: items ∧ List.Forall₂ (ItemReply dump req.id) replayed (sent steps)) := by
  induction items with
  | nil => exact ⟨thrown_ok (), [], List.nil_prefix, .nil⟩
  | cons item items ih =>
      cases dumped : dump (successJson req.id (cacheItemJson item)) with
      | error failure =>
          obtain ⟨what, rfl⟩ := library.throws _ failure dumped
          rw [Program.each, sendSuccessResponse, sendJson, dumped]
          exact ⟨thrown_error what, [], List.nil_prefix, .nil⟩
      | ok text =>
          rw [Program.each, sendSuccessResponse, sendJson, dumped]
          refine paths_ask_bind Reported _ (.sendData text .textFrame) _ (fun answer _ => ?_)
          refine Program.paths_mono Reported _ _ ?_ _ ih
          rintro steps result ⟨thrown, replayed, front, replies⟩
          exact ⟨thrown, item :: replayed, List.cons_prefix_cons.mpr ⟨rfl, front⟩, .cons ⟨text, dumped, rfl⟩ replies⟩

theorem replays_answered (library : JsonLibrary valid parse dump) (req : Request) (step : Sigma Answer) (answer : CacheAnswer)
    (quiet : sends step.1 = false) (queried : cached step = some answer.result)
    (reported : ∀ failure, answer.exception = some failure → ∃ what, failure = .thrown what) :
    ((match answer.exception with
        | some failure => .done (.error failure)
        | none => .done (.ok answer.result) : Handler (List Redis.CacheItem)) >>=
      fun result => Program.each (fun item => sendSuccessResponse dump req (cacheItemJson item)) result).Paths Reported
      (fun steps result => Thrown result ∧ Replays dump req.id (step :: steps) (sent (step :: steps))) := by
  cases thrown : answer.exception with
  | some failure =>
      obtain ⟨what, rfl⟩ := reported failure thrown
      exact ⟨thrown_error what, .inl (sent_quiet step.1 step.2 [] quiet)⟩
  | none =>
      refine Program.paths_mono Reported _ _ ?_ _ (replays_each valid parse dump library req answer.result)
      rintro steps result ⟨thrown, replayed, front, replies⟩
      refine ⟨thrown, .inr ⟨step, List.mem_cons_self, answer.result, replayed, queried, front, ?_⟩⟩
      rw [sent_quiet step.1 step.2 steps quiet]
      exact replies

theorem replays_looked_up (library : JsonLibrary valid parse dump) (req : Request) (topic sinceEventId : Bytes) (since limit : Int) :
    (do
      let result ← lookUpCache topic sinceEventId since limit
      Program.each (fun item => sendSuccessResponse dump req (cacheItemJson item)) result : Handler Unit).Paths Reported
      (fun steps result => Thrown result ∧ Replays dump req.id steps (sent steps)) := by
  unfold lookUpCache queryCache
  split
  · intro answer reported
    exact replays_answered valid parse dump library req ⟨_, answer⟩ answer rfl rfl reported
  · intro answer reported
    exact replays_answered valid parse dump library req ⟨_, answer⟩ answer rfl rfl reported

def ReplayDone (id : RpcId) (steps : List (Sigma Answer)) (result : Except Failure Unit) : Prop :=
  result = .ok () ∧ Replays dump id steps (sent steps)

theorem replays_prepended (id : RpcId) (first second : List (Sigma Answer)) (replies : List Command)
    (replays : Replays dump id second replies) : Replays dump id (first ++ second) replies := by
  rcases replays with none | ⟨step, inside, rest⟩
  · exact .inl none
  · exact .inr ⟨step, List.mem_append_right first inside, rest⟩

theorem replays_cache (library : JsonLibrary valid parse dump) (req : Request) (topic : Bytes) :
    (sendCacheToClient dump config req topic).Paths Reported (ReplayDone dump req.id) := by
  have absorbed : ∀ first second result, sent first = [] → ReplayDone dump req.id second result →
      ReplayDone dump req.id (first ++ second) result := by
    rintro first second result quiet ⟨returned, replays⟩
    rw [ReplayDone, sent_silent_append first second quiet]
    exact ⟨returned, replays_prepended dump req.id first second _ replays⟩
  have settled_then : ∀ {α : Type} (program : Handler α) (next : α → Handler Unit), program.Paths Reported Settled →
      (∀ value, (next value).Paths Reported (ReplayDone dump req.id)) → (program >>= next).Paths Reported (ReplayDone dump req.id) := by
    intro α program next settled rest
    refine Program.paths_bind Reported Settled _ program next settled ?_ ?_
    · rintro steps failure ⟨_, value, returned⟩
      cases returned
    · rintro steps value ⟨quiet, _⟩
      exact Program.paths_mono Reported _ _ (fun more result => absorbed steps more result quiet) _ (rest value)
  refine paths_ite _ _ _ _ ⟨rfl, .inl rfl⟩ ?_
  refine settled_then _ _ (settled_since req.params) (fun since => ?_)
  refine paths_ite _ _ _ _ ⟨rfl, .inl rfl⟩ ?_
  refine settled_then _ _ (settled_recovered _ _ _) (fun limit => ?_)
  refine Program.paths_try_catch Reported _ _ _ _ (replays_looked_up valid parse dump library req _ _ _ _) ?_ ?_
  · rintro steps ⟨⟩ ⟨_, replays⟩
    exact ⟨rfl, replays⟩
  · rintro steps failure ⟨thrown, replays⟩
    obtain ⟨what, rfl⟩ := thrown failure rfl
    refine ⟨rfl, ?_⟩
    rw [List.append_nil]
    exact replays

def SubscribeDone (id : RpcId) (steps : List (Sigma Answer)) (result : Except Failure Unit) : Prop :=
  Replied dump id steps result ∨ (result = .ok () ∧ ∃ topicName text replies, dump (successJson id (subscribed topicName)) = .ok text ∧
    sent steps = .sendData text .textFrame :: replies ∧ Replays dump id steps replies)

theorem subscribe_done (library : JsonLibrary valid parse dump) (req : Request) :
    (handleSubscribe dump config controller req).Paths Reported (SubscribeDone dump req.id) := by
  have refused : ∀ message, (sendInvalidParamsError dump req message).Paths Reported (SubscribeDone dump req.id) := fun message =>
    Program.paths_mono Reported _ _ (fun _ _ => .inl) _ (replied_invalid valid parse dump library req message)
  refine paths_ite _ _ _ _ (refused _) ?_
  refine paths_ite _ _ _ _ (refused _) ?_
  refine paths_ite _ _ _ _ (refused _) ?_
  refine paths_ask_bind Reported _ _ _ (fun _ _ => ?_)
  generalize req.params.stringOr (str "topic") = topicName
  unfold sendSuccessResponse sendJson
  cases dumped : dump (successJson req.id (subscribed topicName)) with
  | error failure =>
      obtain ⟨what, rfl⟩ := library.throws _ failure dumped
      rw [subscribed] at dumped
      rw [dumped]
      exact .inl (.inr ⟨rfl, what, rfl⟩)
  | ok text =>
      have unfolded := dumped
      rw [subscribed] at unfolded
      rw [unfolded]
      refine paths_ask_bind Reported _ _ _ (fun _ _ => ?_)
      refine Program.paths_mono Reported _ _ ?_ _ (replays_cache valid parse dump config library req topicName)
      rintro steps result ⟨returned, replays⟩
      exact .inr ⟨returned, topicName, text, sent steps, dumped, rfl, replays_prepended dump req.id [_, _] steps _ replays⟩

-- What is sent for a request, by the method it names.
def Answered (req : Request) (steps : List (Sigma Answer)) : Prop :=
  if Util.strToLower req.method = str "disconnect" then sent steps = [.sendData [] .closeFrame]
  else ∃ reply replies, TextReply dump req.id reply ∧ sent steps = reply :: replies ∧
    (replies = [] ∨ (Util.strToLower req.method = str "subscribe" ∧
      (∃ topicName text, dump (successJson req.id (subscribed topicName)) = .ok text ∧ reply = .sendData text .textFrame) ∧
      Replays dump req.id steps replies))

def OneReply (request : Except Failure (Option Request)) (steps : List (Sigma Answer)) : Prop :=
  match request with
  | .ok (some req) => Answered dump req steps
  | _ => ∃ reply, TextReply dump .null reply ∧ sent steps = [reply]

def Handled (req : Request) (steps : List (Sigma Answer)) (result : Except Failure Unit) : Prop :=
  (result = .ok () ∧ Answered dump req steps) ∨
    (sent steps = [] ∧ (∃ what, result = .error (.thrown what)) ∧ Util.strToLower req.method ≠ str "disconnect")

theorem handled_behind (req : Request) (step : Sigma Answer) (steps : List (Sigma Answer)) (result : Except Failure Unit)
    (quiet : sends step.1 = false) (handled : Handled dump req steps result) : Handled dump req (step :: steps) result := by
  have same := sent_quiet step.1 step.2 steps quiet
  rcases handled with ⟨returned, answered⟩ | ⟨silent, thrown⟩
  · refine .inl ⟨returned, ?_⟩
    by_cases method : Util.strToLower req.method = str "disconnect"
    · rw [Answered, if_pos method] at answered ⊢
      exact same.trans answered
    · rw [Answered, if_neg method] at answered ⊢
      obtain ⟨reply, replies, text, all, rest⟩ := answered
      refine ⟨reply, replies, text, same.trans all, rest.imp_right ?_⟩
      rintro ⟨subscribes, succeeded, replays⟩
      exact ⟨subscribes, succeeded, replays_prepended dump req.id [step] steps replies replays⟩
  · exact .inr ⟨same.trans silent, thrown⟩

theorem replied_handled (req : Request) (other : Util.strToLower req.method ≠ str "disconnect") (steps : List (Sigma Answer))
    (result : Except Failure Unit) (replied : Replied dump req.id steps result) : Handled dump req steps result := by
  rcases replied with ⟨returned, reply, text, only⟩ | ⟨quiet, thrown⟩
  · refine .inl ⟨returned, ?_⟩
    rw [Answered, if_neg other]
    exact ⟨reply, [], text, only, .inl rfl⟩
  · exact .inr ⟨quiet, thrown, other⟩

theorem subscribe_handled (req : Request) (method : Util.strToLower req.method = str "subscribe") (steps : List (Sigma Answer))
    (result : Except Failure Unit) (done : SubscribeDone dump req.id steps result) : Handled dump req steps result := by
  have other : Util.strToLower req.method ≠ str "disconnect" := by
    rw [method]
    decide +kernel
  rcases done with replied | ⟨returned, topicName, text, replies, dumped, all, replays⟩
  · exact replied_handled dump req other steps result replied
  · refine .inl ⟨returned, ?_⟩
    rw [Answered, if_neg other]
    exact ⟨.sendData text .textFrame, replies, ⟨_, text, success_carries req.id _, dumped, rfl⟩, all,
      .inr ⟨method, ⟨topicName, text, dumped, rfl⟩, replays⟩⟩

theorem disconnect_handled (req : Request) (method : Util.strToLower req.method = str "disconnect") :
    (handleDisconnect req).Paths Reported (Handled dump req) := by
  refine paths_ask_bind Reported _ _ _ (fun _ _ _ _ => .inl ⟨rfl, ?_⟩)
  rw [Answered, if_pos method]
  rfl

theorem handler_handled (library : JsonLibrary valid parse dump) (req : Request) (handler : Request → Handler Unit)
    (found : getHandler dump config controller req.method = .ok handler) : (handler req).Paths Reported (Handled dump req) := by
  have plain : ∀ name (program : Handler Unit), name = Util.strToLower req.method → name ≠ str "disconnect" →
      program.Paths Reported (Replied dump req.id) → program.Paths Reported (Handled dump req) := fun name program same other replied =>
    Program.paths_mono Reported _ _ (replied_handled dump req (same ▸ other)) program replied
  have registered := get_handler_registered dump config controller req.method handler found
  simp only [handlers, List.mem_cons, List.not_mem_nil, or_false, Prod.mk.injEq] at registered
  rcases registered with ⟨name, rfl⟩ | ⟨name, rfl⟩ | ⟨name, rfl⟩ | ⟨name, rfl⟩ | ⟨name, rfl⟩ | ⟨name, rfl⟩ | ⟨name, rfl⟩ |
    ⟨name, rfl⟩ | ⟨name, rfl⟩ | ⟨name, rfl⟩ | ⟨name, rfl⟩
  · exact Program.paths_mono Reported _ _ (subscribe_handled dump req name) _ (subscribe_done valid parse dump config controller library req)
  · exact plain _ _ name.symm (by decide +kernel) (replied_unsubscribe valid parse dump controller library req)
  · exact plain _ _ name.symm (by decide +kernel) (replied_unsubscribe_all valid parse dump library req)
  · exact plain _ _ name.symm (by decide +kernel) (replied_publish valid parse dump controller library req)
  · exact plain _ _ name.symm (by decide +kernel) (replied_list valid parse dump library req)
  · exact plain _ _ name.symm (by decide +kernel) (replied_eventlog valid parse dump config controller library req)
  · exact plain _ _ name.symm (by decide +kernel) (replied_get valid parse dump config controller library req)
  · exact plain _ _ name.symm (by decide +kernel) (replied_set valid parse dump config controller library req)
  · exact plain _ _ name.symm (by decide +kernel) (replied_delete valid parse dump config controller library req)
  · exact plain _ _ name.symm (by decide +kernel) (replied_ping valid parse dump library req)
  · exact disconnect_handled dump req name

theorem unknown_method (methodName : Bytes) (failure : Failure) (unknown : getHandler dump config controller methodName = .error failure) :
    (∃ what, failure = .thrown what) ∧ Util.strToLower methodName ≠ str "disconnect" := by
  unfold getHandler at unknown
  constructor
  · split at unknown
    · cases unknown
    · cases unknown
      exact ⟨_, rfl⟩
  · intro same
    rw [same, show (handlers dump config controller).lookup (str "disconnect") = some handleDisconnect from rfl] at unknown
    cases unknown

theorem id_of_fields (fields : List (Bytes × Json)) (id method : Json) (req : Request)
    (built : Request.ofFields fields id method = .ok req) : idOfJson id = .ok req.id := by
  obtain ⟨value, read, built⟩ := except_bind_ok (idOfJson id) _ _ built
  obtain ⟨version, _, built⟩ := except_bind_ok _ _ _ built
  obtain ⟨name, _, built⟩ := except_bind_ok _ _ _ built
  obtain ⟨params, _, built⟩ := except_bind_ok _ _ _ built
  by_cases refused : version ≠ str "2.0" ∨ name = []
  · rw [if_pos refused] at built
    cases built
  · rw [if_neg refused] at built
    cases built
    exact read

theorem id_json_texts (json : Json) (id : RpcId) (texts : json.Texts valid) (read : idOfJson json = .ok id) : (idJson id).Texts valid := by
  cases texts with
  | null =>
      cases read
      exact .null
  | integer value =>
      cases read
      exact .integer _
  | string text accepted =>
      cases read
      exact .string text accepted
  | _ => cases read

theorem id_texts (json : Json) (req : Request) (texts : json.Texts valid) (request : parseEntity json = .ok (some req)) :
    (idJson req.id).Texts valid := by
  cases texts with
  | object fields names values =>
      cases method : fields.lookup (str "method") with
      | none =>
          rw [parseEntity, method] at request
          cases request
      | some name =>
          cases identified : fields.lookup (str "id") with
          | none =>
              rw [parseEntity, method, identified] at request
              cases request
          | some id =>
              rw [parseEntity, method, identified] at request
              dsimp only at request
              obtain ⟨before, after, split, _⟩ := List.lookup_eq_some_iff.mp identified
              have inside : (str "id", id) ∈ fields := split ▸ List.mem_append_right before List.mem_cons_self
              cases built : Request.ofFields fields id name with
              | error failure =>
                  rw [built] at request
                  cases request
              | ok other =>
                  rw [built] at request
                  cases request
                  exact id_json_texts valid id req.id (values _ inside) (id_of_fields fields id name req built)
  | _ => cases request

theorem object_texts (fields : List (Bytes × Json)) (all : ∀ field ∈ fields, valid field.1 ∧ field.2.Texts valid) :
    (Json.object fields).Texts valid := .object fields (fun field inside => (all field inside).1) (fun field inside => (all field inside).2)

theorem error_dumped (library : JsonLibrary valid parse dump) (id : RpcId) (code : Int) (message : Bytes) (data : Option Bytes)
    (texts : (idJson id).Texts valid) (ascii : ∀ c ∈ message, c < 128) (details : ∀ text ∈ data, ∀ c ∈ text, c < 128) :
    ∃ text, dump (errorJson id code message data) = .ok text := by
  have detailed : ∀ field ∈ (data.map (fun text => (str "data", Json.string text))).toList, valid field.1 ∧ field.2.Texts valid := by
    intro field inside
    obtain ⟨text, given, rfl⟩ := Option.map_eq_some_iff.mp (Option.mem_toList.mp inside)
    exact ⟨library.plain_text (str "data") (by decide +kernel), .string text (library.ascii text (details text given))⟩
  have inner : (Json.object ([(str "code", .integer code)] ++ (data.map (fun text => (str "data", Json.string text))).toList ++
      [(str "message", .string message)])).Texts valid := by
    refine object_texts valid _ (List.forall_mem_append.mpr ⟨List.forall_mem_append.mpr ⟨?_, detailed⟩, ?_⟩)
    · exact List.forall_mem_singleton.mpr ⟨library.plain_text (str "code") (by decide +kernel), .integer code⟩
    · exact List.forall_mem_singleton.mpr
        ⟨library.plain_text (str "message") (by decide +kernel), .string message (library.ascii message ascii)⟩
  refine library.dumped _ (object_texts valid _ (List.forall_mem_cons.mpr ⟨⟨library.plain_text (str "error") (by decide +kernel), inner⟩, ?_⟩))
  refine List.forall_mem_cons.mpr ⟨⟨library.plain_text (str "id") (by decide +kernel), texts⟩, ?_⟩
  exact List.forall_mem_singleton.mpr (library.plain_field (str "jsonrpc") (str "2.0") (by decide +kernel) (by decide +kernel))

theorem invalid_request_replied (library : JsonLibrary valid parse dump) :
    (sendJson dump invalidRequest).Paths Reported
      (fun steps result => result = .ok () ∧ ∃ reply, TextReply dump .null reply ∧ sent steps = [reply]) := by
  have ascii : ∀ c ∈ str "Invalid request", c < 128 := List.all_iff_forall_prop.mp (by decide +kernel)
  obtain ⟨text, dumped⟩ := error_dumped valid parse dump library .null (-32600) (str "Invalid request") (some (str "Invalid request"))
    .null ascii (fun _ given => Option.mem_some.mp given ▸ ascii)
  unfold sendJson invalidRequest
  rw [dumped]
  exact fun _ _ => ⟨rfl, _, ⟨_, text, error_carries .null _ _ _, dumped, rfl⟩, rfl⟩

theorem text_frame_replied (library : JsonLibrary valid parse dump) (data : Bytes) :
    (handleTextFrame dump config controller parse data).Paths Reported
      (fun steps result => result = .ok () ∧ OneReply dump ((parse data).bind parseEntity) steps) := by
  unfold handleTextFrame
  cases entity : (parse data).bind parseEntity with
  | error failure => exact invalid_request_replied valid parse dump library
  | ok request =>
      cases request with
      | none => exact invalid_request_replied valid parse dump library
      | some req =>
          obtain ⟨json, parsed, request⟩ := except_bind_ok _ _ _ entity
          obtain ⟨text, dumped⟩ := error_dumped valid parse dump library req.id (-32601) (str "Method not found") none
            (id_texts valid json req (library.parsed data json parsed) request) (List.all_iff_forall_prop.mp (by decide +kernel))
            (fun _ given => nomatch given)
          refine Program.paths_try_catch Reported (Handled dump req) _ _ _ ?_ ?_ ?_
          · cases found : getHandler dump config controller req.method with
            | error failure =>
                obtain ⟨thrown, other⟩ := unknown_method dump config controller req.method failure found
                exact .inr ⟨rfl, thrown.imp (fun _ same => congrArg Except.error same), other⟩
            | ok handler =>
                refine paths_ask_bind Reported _ _ _ (fun _ _ => ?_)
                refine Program.paths_mono Reported _ _ ?_ _ (handler_handled valid parse dump config controller library req handler found)
                exact fun steps result => handled_behind dump req _ steps result rfl
          · rintro steps ⟨⟩ (⟨_, answered⟩ | ⟨_, ⟨what, thrown⟩, _⟩)
            · exact ⟨rfl, answered⟩
            · cases thrown
          · rintro steps failure (⟨returned, _⟩ | ⟨quiet, ⟨what, thrown⟩, other⟩)
            · cases returned
            · cases thrown
              unfold sendJson methodNotFound
              rw [dumped]
              refine fun _ _ => ⟨rfl, ?_⟩
              dsimp only [OneReply]
              rw [Answered, if_neg other, sent_silent_append _ _ quiet]
              exact ⟨_, [], ⟨_, text, error_carries req.id _ _ _, dumped, rfl⟩, rfl, .inl rfl⟩

end

theorem one_reply (kind : Output.Class) (outside : Outside) (config : Config) (valid : Bytes → Prop)
    (library : JsonLibrary valid outside.parse outside.dump)
    (reported : ∀ (log : List Entry) (command : Command), Reported command (outside.answer log command)) (client : Client) (data : Bytes) :
    ∃ steps : List (Sigma Answer), OneReply outside.dump ((outside.parse data).bind parseEntity) steps ∧
      Program.Given (Client.perform kind outside) client steps ∧
      client.run kind outside (handleTextFrame outside.dump config client.controller outside.parse data) =
        client.performAll kind outside (steps.map Sigma.fst) := by
  have answered : ∀ (client : Client) (command : Command), Reported command (client.answer outside command) := by
    intro client command
    cases command with
    | unsubscribe topicPattern => trivial
    | unsubscribeAll => trivial
    | listSubscriptions => trivial
    | _ => exact reported client.log _
  obtain ⟨steps, result, ⟨rfl, replied⟩, given, ran⟩ := Client.run_paths kind outside Reported answered _ client _
    (text_frame_replied valid outside.parse outside.dump config client.controller library data)
  exact ⟨steps, replied, given, ran⟩

def pingRequest : Json := .object [(str "id", .integer 7), (str "jsonrpc", .string (str "2.0")), (str "method", .string (str "ping"))]

def pinged : Outside := .idle [pingRequest]

theorem idle_reported (command : Command) : Reported command (idleAnswer command) := by
  cases command with
  | isRateLimited topic subject max => exact thrown_ok false
  | incrementLimitCount topic subject interval => exact thrown_ok ()
  | cacheMessage topic payload origin timestamp ttl => exact thrown_ok _
  | publishMessage topic id payload origin => exact thrown_ok ()
  | kvGet key => exact thrown_ok _
  | kvSet key value ttl => exact thrown_ok true
  | getCacheSince topicPattern since limit isPattern =>
      intro failure thrown
      cases thrown
  | getCacheSinceId topicPattern sinceId limit isPattern =>
      intro failure thrown
      cases thrown
  | _ => trivial

theorem ping_replied_once :
    pinged.parse pingRequest.text = .ok pingRequest ∧
    ∃ steps : List (Sigma Answer), OneReply pinged.dump (.ok (some ⟨.integer 7, str "ping", .null⟩)) steps ∧
      Program.Given (Client.perform .connection pinged) (Client.connect sampleConfig sampleParser) steps ∧
      (Client.connect sampleConfig sampleParser).run .connection pinged (handleTextFrame pinged.dump sampleConfig
          (Client.connect sampleConfig sampleParser).controller pinged.parse pingRequest.text) =
        (Client.connect sampleConfig sampleParser).performAll .connection pinged (steps.map Sigma.fst) := by
  have parsed : pinged.parse pingRequest.text = .ok pingRequest := parse_of_text [pingRequest] (List.nodup_singleton _) pingRequest List.mem_cons_self
  have replied := one_reply .connection pinged sampleConfig (fun _ => True) (sample_library [pingRequest]) (fun _ => idle_reported)
    (Client.connect sampleConfig sampleParser) pingRequest.text
  rw [parsed] at replied
  exact ⟨parsed, replied⟩

end Eventhub.Session
