import Eventhub.Hub.Serial
import Eventhub.Session.Reply
import Eventhub.TopicGrammar

set_option autoImplicit false

namespace Eventhub.Session

open Hub

-- The member functions of Connection that commands stand for. order is the one
-- in which unsubscribeAll visits the map.
def memberOf (order : List Bytes) : Command → Option Member
  | .shutdown => some .shutdown
  | .setState newState => some (.setState newState)
  | .subscribe topicPattern id => some (.subscribe topicPattern id)
  | .unsubscribe topicPattern => some (.unsubscribe topicPattern)
  | .unsubscribeAll => some (.unsubscribeAll order)
  | _ => none

def callMember (connection : Nat) (registry : Registry) (member : Member) : Except Fault Registry :=
  match registry.connections connection with
  | none => .ok registry
  | some self => member.run registry connection self

structure Desk where
  registry : Except Fault Registry
  log : List Command

-- What a handler meets besides the registry; it depends on all that happened before.
structure Surroundings where
  order : List Command → List Bytes
  answer : List Command → (command : Command) → Answer command

def topicsIn (connection : Nat) : Except Fault Registry → List Bytes
  | .ok registry =>
      match registry.connections connection with
      | some self => self.subscribedTopics.keys
      | none => []
  | .error _ => []

section

variable (connection : Nat) (around : Surroundings)

def Desk.apply (desk : Desk) (command : Command) : Except Fault Registry :=
  match memberOf (around.order desk.log) command with
  | none => desk.registry
  | some member => desk.registry.bind (fun registry => callMember connection registry member)

def Desk.answer (desk : Desk) : (command : Command) → Answer command
  | .unsubscribe topicPattern => decide (topicPattern ∈ topicsIn connection desk.registry)
  | .unsubscribeAll => (topicsIn connection desk.registry).length
  | .listSubscriptions => topicsIn connection desk.registry
  | command => around.answer desk.log command

def Desk.perform (desk : Desk) (command : Command) : Desk × Answer command :=
  (⟨desk.apply connection around command, desk.log ++ [command]⟩, desk.answer connection around command)

def Desk.performAll (desk : Desk) (commands : List Command) : Desk :=
  commands.foldl (fun desk command => (desk.perform connection around command).1) desk

theorem desk_log (desk : Desk) (commands : List Command) : (desk.performAll connection around commands).log = desk.log ++ commands := by
  induction commands generalizing desk with
  | nil => exact (List.append_nil _).symm
  | cons command commands ih =>
      have later := ih (desk.perform connection around command).1
      rw [Desk.performAll, List.foldl_cons, ← Desk.performAll, later, Desk.perform, List.append_assoc]
      rfl

theorem apply_passive (desk : Desk) (command : Command) (idle : passive command = true) :
    desk.apply connection around command = desk.registry := by
  cases command with
  | shutdown | shutdownAfterFlush | setState | subscribe | unsubscribe | unsubscribeAll => cases idle
  | _ => rfl

end

-- The subscription list of the connection and the TopicManager's map and lists.
def Untouched (connection : Nat) (before : Registry) (after : Except Fault Registry) : Prop :=
  ∃ registry, after = .ok registry ∧ registry.topicList = before.topicList ∧ registry.heap = before.heap ∧
    (registry.connections connection).map Connection.subscribedTopics = (before.connections connection).map Connection.subscribedTopics

def Spared (exposed : List Bytes) (command : Command) : Prop := passive command = true ∨ ∃ topic ∈ exposed, command = .unsubscribe topic

section

variable (connection : Nat) (around : Surroundings)

theorem spared_untouched (registry : Registry) (exposed : List Bytes) (log commands : List Command)
    (absent : ∀ topic ∈ exposed, registry.subscription connection topic = none) (spared : ∀ command ∈ commands, Spared exposed command) :
    (Desk.performAll connection around ⟨.ok registry, log⟩ commands).registry = .ok registry := by
  induction commands generalizing log with
  | nil => rfl
  | cons command commands ih =>
      obtain ⟨first, rest⟩ := List.forall_mem_cons.mp spared
      have same : Desk.apply connection around ⟨.ok registry, log⟩ command = .ok registry := by
        rcases first with idle | ⟨topic, inside, rfl⟩
        · exact apply_passive connection around _ command idle
        · have none := absent topic inside
          change callMember connection registry (.unsubscribe topic) = .ok registry
          rw [callMember]
          cases present : registry.connections connection with
          | none => rfl
          | some self =>
              rw [Registry.subscription, present, Option.bind_some] at none
              simp only [Member.run, Registry.unsubscribe, none, Except.map]
      rw [Desk.performAll, List.foldl_cons, ← Desk.performAll]
      rw [show (Desk.perform connection around ⟨.ok registry, log⟩ command).1 = ⟨.ok registry, log ++ [command]⟩ from
        congrArg (Desk.mk · _) same]
      exact ih (log ++ [command]) rest

def Gone (topic : Bytes) (registry : Except Fault Registry) : Prop :=
  ∀ found, registry = .ok found → found.subscription connection topic = none

theorem forgotten_lookup (registry : Registry) (self : Connection) (topic other : Bytes)
    (gone : other = topic ∨ self.subscribedTopics.lookup other = none) :
    (registry.forget connection self topic).subscription connection other = none := by
  simp only [Registry.forget, Registry.setConnection, Registry.subscription, Function.update_self, Option.bind_some]
  by_cases same : other = topic
  · rw [same, AList.lookup_erase]
  · rw [AList.lookup_erase_ne same]
    exact gone.resolve_left same

theorem unsubscribed_gone (registry : Registry) (topic other : Bytes)
    (gone : other = topic ∨ registry.subscription connection other = none) :
    Gone connection other (callMember connection registry (.unsubscribe topic)) := by
  intro after called
  rw [callMember] at called
  cases present : registry.connections connection with
  | none =>
      rw [present] at called
      cases called
      rw [Registry.subscription, present, Option.bind_none]
  | some self =>
      rw [present] at called
      have lookup : registry.subscription connection other = self.subscribedTopics.lookup other := by
        rw [Registry.subscription, present, Option.bind_some]
      rw [lookup] at gone
      simp only [Member.run, Registry.unsubscribe] at called
      cases found : self.subscribedTopics.lookup topic with
      | none =>
          rw [found] at called
          cases called
          rw [lookup]
          rcases gone with same | none
          · rw [same, found]
          · exact none
      | some subscription =>
          rw [found] at called
          dsimp only at called
          cases drops : registry.dropSubscription connection self topic subscription with
          | error fault =>
              rw [drops] at called
              cases called
          | ok dropped =>
              rw [drops] at called
              cases called
              obtain ⟨erased, pruned, _, _, _, rfl⟩ := drop_parts connection registry _ self topic subscription drops
              exact forgotten_lookup connection pruned self topic other gone

theorem spared_gone (exposed : List Bytes) (desk : Desk) (commands : List Command) (topic : Bytes)
    (spared : ∀ command ∈ commands, Spared exposed command) (gone : Gone connection topic desk.registry) :
    Gone connection topic (desk.performAll connection around commands).registry := by
  induction commands generalizing desk with
  | nil => exact gone
  | cons command commands ih =>
      obtain ⟨first, rest⟩ := List.forall_mem_cons.mp spared
      refine ih (desk.perform connection around command).1 rest ?_
      change Gone connection topic (desk.apply connection around command)
      rcases first with idle | ⟨other, _, rfl⟩
      · rw [apply_passive connection around desk command idle]
        exact gone
      · change Gone connection topic (desk.registry.bind (fun registry => callMember connection registry (.unsubscribe other)))
        cases registry : desk.registry with
        | error fault => exact fun found same => nomatch same
        | ok before => exact unsubscribed_gone connection before other topic (.inr (gone before registry))

theorem removed_gone (exposed : List Bytes) (desk : Desk) (commands : List Command) (topic : Bytes)
    (spared : ∀ command ∈ commands, Spared exposed command) (removed : .unsubscribe topic ∈ commands) :
    Gone connection topic (desk.performAll connection around commands).registry := by
  induction commands generalizing desk with
  | nil => cases removed
  | cons command commands ih =>
      obtain ⟨first, rest⟩ := List.forall_mem_cons.mp spared
      rcases List.mem_cons.mp removed with same | later
      · refine spared_gone connection around exposed (desk.perform connection around command).1 commands topic rest ?_
        rw [← same]
        change Gone connection topic (desk.registry.bind (fun registry => callMember connection registry (.unsubscribe topic)))
        cases desk.registry with
        | error fault => exact fun found same => nomatch same
        | ok before => exact unsubscribed_gone connection before topic topic (.inl rfl)
      · exact ih _ rest later

theorem gone_touched (registry : Registry) (after : Except Fault Registry) (topic : Bytes) (gone : Gone connection topic after)
    (subscribed : registry.subscription connection topic ≠ none) : ¬ Untouched connection registry after := by
  rintro ⟨found, same, _, _, topics⟩
  refine subscribed ((?_ : registry.subscription connection topic = found.subscription connection topic).trans (gone found same))
  have lookup : ∀ other : Registry, other.subscription connection topic =
      ((other.connections connection).map Connection.subscribedTopics).bind (AList.lookup topic) := by
    intro other
    rw [Registry.subscription, Option.bind_map]
    rfl
  rw [lookup, lookup, topics]

end

def isString : Json → Bool
  | .string _ => true
  | _ => false

def removable (controller : AccessController) : Json → Option Bytes
  | .string topic => if isValidTopicOrFilter topic && allowSubscribe controller topic then some topic else none
  | _ => none

-- The topics that unsubscribe gets to before an element throws.
def reached (controller : AccessController) (items : List Json) : List Bytes := (items.takeWhile isString).filterMap (removable controller)

-- Those of a request whose list is cut short by an element that is no string.
def removedEarly (controller : AccessController) : Except Failure (Option Request) → List Bytes
  | .ok (some req) =>
      match req.params with
      | .array items =>
          if Util.strToLower req.method = str "unsubscribe" ∧ items.all isString = false then reached controller items else []
      | _ => []
  | _ => []

theorem unsubscribe_topics_steps (controller : AccessController) (items : List Json) (count : Nat) :
    (unsubscribeTopics controller items count).Paths Reported (fun steps result =>
      steps.map Sigma.fst = (reached controller items).map .unsubscribe ∧
        ((items.all isString = true ∧ ∃ total, result = .ok total) ∨ (items.all isString = false ∧ ∃ what, result = .error (.thrown what)))) := by
  induction items generalizing count with
  | nil => exact ⟨rfl, .inl ⟨rfl, count, rfl⟩⟩
  | cons item items ih =>
      cases item with
      | string topic =>
          by_cases refused : (!isValidTopicOrFilter topic || !allowSubscribe controller topic) = true
          · have skipped : reached controller (.string topic :: items) = reached controller items := by
              rw [← Bool.not_and, Bool.not_eq_true'] at refused
              have none : removable controller (.string topic) = none := if_neg (by rw [refused]; exact Bool.false_ne_true)
              rw [reached, List.takeWhile_cons_of_pos rfl, List.filterMap_cons_none none, reached]
            change (if _ then _ else _ : Handler Nat).Paths Reported _
            rw [if_pos refused, skipped]
            exact ih count
          · have removed : reached controller (.string topic :: items) = topic :: reached controller items := by
              have some : removable controller (.string topic) = some topic := if_pos (by simpa using refused)
              rw [reached, List.takeWhile_cons_of_pos rfl, List.filterMap_cons_some some, reached]
            change (if _ then _ else _ : Handler Nat).Paths Reported _
            rw [if_neg refused, removed]
            refine paths_ask_bind Reported _ _ _ (fun answer _ => ?_)
            refine Program.paths_mono Reported _ _ ?_ _ (ih _)
            rintro steps result ⟨commands, ended⟩
            exact ⟨by rw [List.map_cons, commands, List.map_cons], ended⟩
      | _ => exact ⟨rfl, .inr ⟨rfl, _, rfl⟩⟩

section

variable (valid : Bytes → Prop) (parse : Bytes → Except Failure Json) (dump : Json → Except Failure Bytes) (config : Config)
  (controller : AccessController)

def ErrorReply (command : Command) : Prop :=
  ∃ id code message data text, dump (errorJson id code message data) = .ok text ∧ command = .sendData text .textFrame

-- A result and an error are never the same text.
def RepliesApart : Prop :=
  ∀ id result other code message data text, dump (successJson id result) = .ok text → dump (errorJson other code message data) ≠ .ok text

def Failing (steps : List (Sigma Answer)) : Prop := ∃ command ∈ sent steps, ErrorReply dump command

-- With an error reply, or an exception that leads to one, nothing was changed.
def Careful (steps : List (Sigma Answer)) (result : Except Failure Unit) : Prop :=
  Failing dump steps ∨ (∃ failure, result = .error failure) → ∀ step ∈ steps, passive step.1 = true

theorem careful_quiet (program : Handler Unit) (quiet : program.Uses (Quiet controller)) : program.Paths Reported (Careful dump) := by
  refine Program.paths_mono Reported _ _ ?_ program (Program.uses_paths Reported _ program quiet)
  exact fun steps _ allowed _ step inside => (allowed step inside).2

theorem success_not_error (apart : RepliesApart dump) (id : RpcId) (result : Json) (text : Bytes)
    (dumped : dump (successJson id result) = .ok text) : ¬ ErrorReply dump (.sendData text .textFrame) := by
  rintro ⟨other, code, message, data, same, errored, command⟩
  cases command
  exact apart id result other code message data text dumped errored

theorem unsubscribes_silent (steps : List (Sigma Answer)) (topics : List Bytes) (commands : steps.map Sigma.fst = topics.map .unsubscribe) :
    sent steps = [] := by
  rw [sent, commands, List.filter_eq_nil_iff]
  intro command inside
  obtain ⟨topic, _, rfl⟩ := List.mem_map.mp inside
  exact Bool.false_ne_true

theorem items_not_errors (apart : RepliesApart dump) (id : RpcId) (items : List Redis.CacheItem) (replies : List Command)
    (replied : List.Forall₂ (ItemReply dump id) items replies) : ∀ command ∈ replies, ¬ ErrorReply dump command := by
  induction replied with
  | nil => exact fun command inside => nomatch inside
  | cons reply _ ih =>
      obtain ⟨text, dumped, rfl⟩ := reply
      exact List.forall_mem_cons.mpr ⟨success_not_error dump apart id _ text dumped, ih⟩

theorem replay_not_failing (apart : RepliesApart dump) (id : RpcId) (steps : List (Sigma Answer)) (replies : List Command)
    (replays : Replays dump id steps replies) : ∀ command ∈ replies, ¬ ErrorReply dump command := by
  rcases replays with none | ⟨_, _, _, replayed, _, _, replied⟩
  · rw [none]
    exact fun command inside => nomatch inside
  · exact items_not_errors dump apart id replayed replies replied

theorem careful_disconnect (req : Request) : (handleDisconnect req).Paths Reported (Careful dump) := by
  rintro _ _ _ _ (⟨command, inside, _, _, _, _, _, _, text⟩ | ⟨failure, failed⟩)
  · rw [text] at inside
    cases List.mem_singleton.mp inside
  · cases failed

section

variable (library : JsonLibrary valid parse dump) (req : Request) (texts : (idJson req.id).Texts valid)

include library texts

theorem success_dumped (result : Json) (inner : result.Texts valid) : ∃ text, dump (successJson req.id result) = .ok text := by
  refine library.dumped _ (object_texts valid _ (List.forall_mem_cons.mpr ⟨⟨library.plain_text (str "id") (by decide +kernel), texts⟩, ?_⟩))
  refine List.forall_mem_cons.mpr ⟨library.plain_field (str "jsonrpc") (str "2.0") (by decide +kernel) (by decide +kernel), ?_⟩
  exact List.forall_mem_singleton.mpr ⟨library.plain_text (str "result") (by decide +kernel), inner⟩

theorem subscribed_dumped (topicName : Bytes) (known : isValidTopicOrFilter topicName = true) :
    ∃ text, dump (successJson req.id (subscribed topicName)) = .ok text := by
  refine success_dumped valid parse dump library req texts _ (object_texts valid _ (List.forall_mem_cons.mpr
    ⟨library.plain_field (str "action") (str "subscribe") (by decide +kernel) (by decide +kernel), ?_⟩))
  refine List.forall_mem_cons.mpr ⟨library.plain_field (str "status") (str "ok") (by decide +kernel) (by decide +kernel), ?_⟩
  exact List.forall_mem_singleton.mpr
    ⟨library.plain_text (str "topic") (by decide +kernel), .string _ (library.ascii topicName (valid_name_ascii topicName known))⟩

theorem count_dumped (count : Nat) : ∃ text, dump (successJson req.id (unsubscribeCount count)) = .ok text := by
  refine success_dumped valid parse dump library req texts _ (object_texts valid _ (List.forall_mem_singleton.mpr ⟨?_, .integer _⟩))
  exact library.plain_text (str "unsubscribe_count") (by decide +kernel)

theorem count_sent (apart : RepliesApart dump) (count : Nat) (first : List (Sigma Answer)) (silent : sent first = []) :
    (sendSuccessResponse dump req (unsubscribeCount count)).Paths Reported
      (fun steps result => Careful dump (first ++ steps) result) := by
  obtain ⟨text, dumped⟩ := count_dumped valid parse dump library req texts count
  rw [sendSuccessResponse, sendJson, dumped]
  rintro _ _ (⟨command, inside, error⟩ | ⟨failure, failed⟩)
  · rw [sent_silent_append first _ silent] at inside
    rw [List.mem_singleton.mp inside] at error
    exact absurd error (success_not_error dump apart req.id _ text dumped)
  · cases failed

theorem careful_unsubscribe_all (apart : RepliesApart dump) : (handleUnsubscribeAll dump req).Paths Reported (Careful dump) :=
  paths_ask_bind Reported _ _ _ (fun count _ => count_sent valid parse dump library req texts apart _ [⟨.unsubscribeAll, count⟩] rfl)

theorem careful_unsubscribe (apart : RepliesApart dump) (complete : ∀ items, req.params = .array items → items.all isString = true) :
    (handleUnsubscribe dump controller req).Paths Reported (Careful dump) := by
  unfold handleUnsubscribe
  split
  · rename_i items array
    refine Program.paths_bind Reported _ _ _ _ (unsubscribe_topics_steps controller items 0) ?_ ?_
    · rintro steps failure ⟨_, ⟨_, total, returned⟩ | ⟨cut, _⟩⟩
      · cases returned
      · rw [complete items array] at cut
        cases cut
    · rintro steps count ⟨commands, _⟩
      exact count_sent valid parse dump library req texts apart count steps (unsubscribes_silent steps _ commands)
  · exact careful_quiet dump controller _ (uses_quiet_json dump controller _)

theorem careful_subscribe (apart : RepliesApart dump) : (handleSubscribe dump config controller req).Paths Reported (Careful dump) := by
  have refused : ∀ message, (sendInvalidParamsError dump req message).Paths Reported (Careful dump) :=
    fun message => careful_quiet dump controller _ (uses_quiet_json dump controller _)
  refine paths_ite _ _ _ _ (refused _) ?_
  by_cases known : isValidTopicOrFilter (req.params.stringOr (str "topic")) = true
  · rw [if_neg (by rw [known]; exact Bool.false_ne_true)]
    refine paths_ite _ _ _ _ (refused _) ?_
    refine paths_ask_bind Reported _ _ _ (fun _ _ => ?_)
    obtain ⟨text, dumped⟩ := subscribed_dumped valid parse dump library req texts _ known
    have unfolded := dumped
    rw [subscribed] at unfolded
    rw [sendSuccessResponse, sendJson, unfolded]
    refine paths_ask_bind Reported _ _ _ (fun _ _ => ?_)
    refine Program.paths_mono Reported _ _ ?_ _ (replays_cache valid parse dump config library req _)
    rintro steps result ⟨rfl, replays⟩ (⟨command, inside, error⟩ | ⟨failure, failed⟩)
    · rcases List.mem_cons.mp inside with reply | replayed
      · rw [reply] at error
        exact absurd error (success_not_error dump apart req.id _ text dumped)
      · exact absurd error (replay_not_failing dump apart req.id steps _ replays command replayed)
    · cases failed
  · rw [if_pos (by rw [Bool.eq_false_of_not_eq_true known]; rfl)]
    exact refused _

theorem handler_careful (apart : RepliesApart dump) (handler : Request → Handler Unit)
    (found : getHandler dump config controller req.method = .ok handler)
    (complete : ∀ items, req.params = .array items → Util.strToLower req.method = str "unsubscribe" → items.all isString = true) :
    (handler req).Paths Reported (Careful dump) := by
  have quiet : ∀ program : Handler Unit, program.Uses (Quiet controller) → program.Paths Reported (Careful dump) := careful_quiet dump controller
  have registered := get_handler_registered dump config controller req.method handler found
  simp only [handlers, List.mem_cons, List.not_mem_nil, or_false, Prod.mk.injEq] at registered
  rcases registered with ⟨name, rfl⟩ | ⟨name, rfl⟩ | ⟨name, rfl⟩ | ⟨name, rfl⟩ | ⟨name, rfl⟩ | ⟨name, rfl⟩ | ⟨name, rfl⟩ |
    ⟨name, rfl⟩ | ⟨name, rfl⟩ | ⟨name, rfl⟩ | ⟨name, rfl⟩
  · exact careful_subscribe valid parse dump config controller library req texts apart
  · exact careful_unsubscribe valid parse dump controller library req texts apart (fun items array => complete items array name)
  · exact careful_unsubscribe_all valid parse dump library req texts apart
  · exact quiet _ (uses_publish dump controller req)
  · exact quiet _ (uses_list dump controller req)
  · exact quiet _ (uses_eventlog dump config controller req)
  · exact quiet _ (uses_get dump config controller req)
  · exact quiet _ (uses_set dump config controller req)
  · exact quiet _ (uses_delete dump config controller req)
  · exact quiet _ (uses_ping dump controller req)
  · exact careful_disconnect dump req

theorem not_found_dumped : ∃ text, dump (methodNotFound req.id) = .ok text :=
  error_dumped valid parse dump library req.id (-32601) (str "Method not found") none texts
    (List.all_iff_forall_prop.mp (by decide +kernel)) (fun _ given => nomatch given)

end

-- On the way to an error reply only the exposed topics are unsubscribed from, and all of them are.
def Interrupts (exposed : List Bytes) (steps : List (Sigma Answer)) : Prop :=
  (Failing dump steps → ∀ step ∈ steps, Spared exposed step.1) ∧
    ∀ topic ∈ exposed, Failing dump steps ∧ .unsubscribe topic ∈ steps.map Sigma.fst

theorem careful_interrupts (steps : List (Sigma Answer)) (result : Except Failure Unit) (careful : Careful dump steps result) :
    Interrupts dump [] steps :=
  ⟨fun failing step inside => .inl (careful (.inl failing) step inside), fun _ inside => nomatch inside⟩

def CutShort (req : Request) (items : List Json) : Prop :=
  req.params = .array items ∧ Util.strToLower req.method = str "unsubscribe" ∧ items.all isString = false

theorem cut_removed_early (req : Request) (items : List Json) (cut : CutShort req items) :
    removedEarly controller (.ok (some req)) = reached controller items := by
  obtain ⟨array, method, broken⟩ := cut
  simp only [removedEarly, array]
  exact if_pos ⟨method, broken⟩

theorem whole_removed_early (req : Request) (whole : ∀ items, ¬ CutShort req items) : removedEarly controller (.ok (some req)) = [] := by
  unfold removedEarly
  dsimp only
  split
  · rename_i items array
    exact if_neg (fun both => whole items ⟨array, both.1, both.2⟩)
  · rfl

theorem cut_handler (req : Request) (items : List Json) (cut : CutShort req items) :
    (Program.done (getHandler dump config controller req.method) >>= fun handler => do
        ask (.enter req.method)
        handler req : Handler Unit).Paths Reported
      (fun steps result => steps.map Sigma.fst = .enter req.method :: (reached controller items).map .unsubscribe ∧
        ∃ what, result = .error (.thrown what)) := by
  obtain ⟨array, method, broken⟩ := cut
  have found : getHandler dump config controller req.method = .ok (handleUnsubscribe dump controller) := by
    rw [getHandler, method]
    rfl
  rw [found]
  refine paths_ask_bind Reported _ _ _ (fun _ _ => ?_)
  unfold handleUnsubscribe
  rw [array]
  refine Program.paths_bind Reported _ _ _ _ (unsubscribe_topics_steps controller items 0) ?_ ?_
  · rintro steps failure ⟨commands, ⟨_, total, returned⟩ | ⟨_, what, thrown⟩⟩
    · cases returned
    · cases thrown
      exact ⟨by rw [List.map_cons, commands], what, rfl⟩
  · rintro steps count ⟨_, ⟨complete, _⟩ | ⟨_, what, thrown⟩⟩
    · rw [broken] at complete
      cases complete
    · cases thrown

theorem cut_interrupts (library : JsonLibrary valid parse dump) (req : Request) (texts : (idJson req.id).Texts valid) (items : List Json)
    (cut : CutShort req items) :
    (catching (Program.done (getHandler dump config controller req.method) >>= fun handler => do
        ask (.enter req.method)
        handler req) (fun _ => sendJson dump (methodNotFound req.id)) : Handler Unit).Paths Reported
      (fun steps _ => Interrupts dump (reached controller items) steps) := by
  obtain ⟨text, dumped⟩ := not_found_dumped valid parse dump library req texts
  refine Program.paths_try_catch Reported _ _ _ _ (cut_handler dump config controller req items cut) ?_ ?_
  · rintro steps value ⟨_, what, thrown⟩
    cases thrown
  · rintro steps failure ⟨commands, what, thrown⟩
    cases thrown
    dsimp only
    rw [sendJson, dumped]
    intro answer _
    have all : (steps ++ [(⟨.sendData text .textFrame, answer⟩ : Sigma Answer)]).map Sigma.fst =
        .enter req.method :: (reached controller items).map .unsubscribe ++ [.sendData text .textFrame] := by
      rw [List.map_append, commands]
      rfl
    have failing : Failing dump (steps ++ [⟨.sendData text .textFrame, answer⟩]) := by
      refine ⟨.sendData text .textFrame, ?_, _, _, _, _, text, dumped, rfl⟩
      rw [sent_append]
      exact List.mem_append_right _ List.mem_cons_self
    constructor
    · intro _ step inside
      have command := List.mem_map_of_mem (f := Sigma.fst) inside
      rw [all, List.cons_append, List.mem_cons, List.mem_append, List.mem_map, List.mem_singleton] at command
      rcases command with enters | ⟨topic, exposed, unsubscribes⟩ | replies
      · exact .inl (by rw [enters]; rfl)
      · exact .inr ⟨topic, exposed, unsubscribes.symm⟩
      · exact .inl (by rw [replies]; rfl)
    · intro topic exposed
      refine ⟨failing, ?_⟩
      rw [all]
      exact List.mem_append_left _ (List.mem_cons_of_mem _ (List.mem_map_of_mem exposed))

theorem whole_interrupts (library : JsonLibrary valid parse dump) (apart : RepliesApart dump) (req : Request)
    (texts : (idJson req.id).Texts valid) (whole : ∀ items, ¬ CutShort req items) :
    (catching (Program.done (getHandler dump config controller req.method) >>= fun handler => do
        ask (.enter req.method)
        handler req) (fun _ => sendJson dump (methodNotFound req.id)) : Handler Unit).Paths Reported
      (fun steps _ => Interrupts dump [] steps) := by
  have body : (Program.done (getHandler dump config controller req.method) >>= fun handler => do
      ask (.enter req.method)
      handler req : Handler Unit).Paths Reported (Careful dump) := by
    cases found : getHandler dump config controller req.method with
    | error failure => exact fun _ step inside => nomatch inside
    | ok handler =>
        refine paths_ask_bind Reported _ _ _ (fun _ _ => ?_)
        refine Program.paths_mono Reported _ _ ?_ _ (handler_careful valid parse dump config controller library req texts apart handler found ?_)
        · intro steps result careful failed
          exact List.forall_mem_cons.mpr ⟨rfl, careful failed⟩
        · intro items array method
          exact Bool.eq_true_of_not_eq_false (fun broken => whole items ⟨array, method, broken⟩)
  refine Program.paths_try_catch Reported _ _ _ _ body (fun steps value careful => careful_interrupts dump steps _ careful) ?_
  intro steps failure careful
  have passed := careful (.inr ⟨failure, rfl⟩)
  have closed : ∀ more : List (Sigma Answer), (∀ step ∈ more, Quiet controller step.1) → Interrupts dump [] (steps ++ more) := by
    intro more quiet
    refine careful_interrupts dump _ (.ok ()) (fun _ => List.forall_mem_append.mpr ⟨passed, fun step inside => (quiet step inside).2⟩)
  cases failure with
  | thrown what =>
      refine Program.paths_mono Reported _ _ (fun more _ => closed more) _ (Program.uses_paths Reported _ _ ?_)
      exact uses_quiet_json dump controller _
  | undefined => exact closed [] (fun step inside => nomatch inside)

theorem text_frame_interrupts (library : JsonLibrary valid parse dump) (apart : RepliesApart dump) (data : Bytes) :
    (handleTextFrame dump config controller parse data).Paths Reported
      (fun steps _ => Interrupts dump (removedEarly controller ((parse data).bind parseEntity)) steps) := by
  have refused : (sendJson dump invalidRequest).Paths Reported (fun steps _ => Interrupts dump [] steps) :=
    Program.paths_mono Reported _ _ (careful_interrupts dump) _ (careful_quiet dump controller _ (uses_quiet_json dump controller _))
  unfold handleTextFrame
  cases entity : (parse data).bind parseEntity with
  | error failure => exact refused
  | ok request =>
      cases request with
      | none => exact refused
      | some req =>
          obtain ⟨json, parsed, built⟩ := except_bind_ok _ _ _ entity
          have texts := id_texts valid json req (library.parsed data json parsed) built
          by_cases cut : ∃ items, CutShort req items
          · obtain ⟨items, short⟩ := cut
            rw [cut_removed_early controller req items short]
            exact cut_interrupts valid parse dump config controller library req texts items short
          · have whole := not_exists.mp cut
            rw [whole_removed_early controller req whole]
            exact whole_interrupts valid parse dump config controller library apart req texts whole

theorem error_is_sent (steps : List (Sigma Answer)) : (∃ command ∈ steps.map Sigma.fst, ErrorReply dump command) ↔ Failing dump steps := by
  constructor
  · rintro ⟨command, inside, error⟩
    refine ⟨command, List.mem_filter.mpr ⟨inside, ?_⟩, error⟩
    obtain ⟨_, _, _, _, _, _, rfl⟩ := error
    rfl
  · rintro ⟨command, inside, error⟩
    exact ⟨command, (List.mem_filter.mp inside).1, error⟩

variable (connection : Nat) (around : Surroundings) (registry : Registry) (data : Bytes)

def deskAfter : Desk := ((handleTextFrame dump config controller parse data).run (Desk.perform connection around) ⟨.ok registry, []⟩).1

def FailsUntouched : Prop :=
  (∃ command ∈ (deskAfter parse dump config controller connection around registry data).log, ErrorReply dump command) →
    Untouched connection registry (deskAfter parse dump config controller connection around registry data).registry

theorem desk_after_steps (library : JsonLibrary valid parse dump) (apart : RepliesApart dump)
    (reported : ∀ (log : List Command) (command : Command), Reported command (around.answer log command)) :
    ∃ steps : List (Sigma Answer), Interrupts dump (removedEarly controller ((parse data).bind parseEntity)) steps ∧
      deskAfter parse dump config controller connection around registry data =
        Desk.performAll connection around ⟨.ok registry, []⟩ (steps.map Sigma.fst) := by
  have possible : ∀ (desk : Desk) (command : Command), Reported command (desk.perform connection around command).2 := by
    intro desk command
    cases command with
    | unsubscribe topicPattern => trivial
    | unsubscribeAll => trivial
    | listSubscriptions => trivial
    | _ => exact reported desk.log _
  obtain ⟨steps, interrupts, _, reached⟩ := Program.run_paths Reported (Desk.perform connection around) possible _ _
    (text_frame_interrupts valid parse dump config controller library apart data) ⟨.ok registry, []⟩
  exact ⟨steps, interrupts, reached⟩

theorem interrupted_fails (library : JsonLibrary valid parse dump) (apart : RepliesApart dump)
    (reported : ∀ (log : List Command) (command : Command), Reported command (around.answer log command)) (topic : Bytes)
    (exposed : topic ∈ removedEarly controller ((parse data).bind parseEntity)) :
    ∃ command ∈ (deskAfter parse dump config controller connection around registry data).log, ErrorReply dump command := by
  obtain ⟨steps, ⟨_, removes⟩, after⟩ := desk_after_steps valid parse dump config controller connection around registry data library apart
    reported
  rw [after, desk_log, List.nil_append]
  exact (error_is_sent dump steps).mpr (removes topic exposed).1

theorem interrupted_touched (library : JsonLibrary valid parse dump) (apart : RepliesApart dump)
    (reported : ∀ (log : List Command) (command : Command), Reported command (around.answer log command)) (topic : Bytes)
    (exposed : topic ∈ removedEarly controller ((parse data).bind parseEntity))
    (subscribed : registry.subscription connection topic ≠ none) :
    ¬ Untouched connection registry (deskAfter parse dump config controller connection around registry data).registry := by
  obtain ⟨steps, ⟨spared, removes⟩, after⟩ := desk_after_steps valid parse dump config controller connection around registry data library apart
    reported
  obtain ⟨failing, removed⟩ := removes topic exposed
  rw [after]
  refine gone_touched connection registry _ topic ?_ subscribed
  exact removed_gone connection around _ _ _ topic (List.forall_mem_map.mpr (spared failing)) removed

theorem failed_untouched_iff (library : JsonLibrary valid parse dump) (apart : RepliesApart dump)
    (reported : ∀ (log : List Command) (command : Command), Reported command (around.answer log command)) :
    FailsUntouched parse dump config controller connection around registry data ↔
      ∀ topic ∈ removedEarly controller ((parse data).bind parseEntity), registry.subscription connection topic = none := by
  constructor
  · intro untouched topic exposed
    by_contra subscribed
    exact interrupted_touched valid parse dump config controller connection around registry data library apart reported topic exposed subscribed
      (untouched (interrupted_fails valid parse dump config controller connection around registry data library apart reported topic exposed))
  · rintro absent ⟨command, inside, error⟩
    obtain ⟨steps, ⟨spared, _⟩, after⟩ := desk_after_steps valid parse dump config controller connection around registry data library apart
      reported
    rw [after, desk_log, List.nil_append] at inside
    have failing := (error_is_sent dump steps).mp ⟨command, inside, error⟩
    refine ⟨registry, ?_, rfl, rfl, rfl⟩
    rw [after]
    exact spared_untouched connection around registry _ [] _ absent (List.forall_mem_map.mpr (spared failing))

end

def cutRequest : Json :=
  .object [(str "id", .integer 7), (str "jsonrpc", .string (str "2.0")), (str "method", .string (str "unsubscribe")),
    (str "params", .array [.string (str "a"), .integer 5])]

-- The third byte is the i of id or the e of error.
theorem texts_apart : RepliesApart (fun value => .ok value.text) := by
  intro id result other code message data text success error
  have third : (some 105 : Option UInt8) = some 101 := congrArg (fun text : Bytes => text[2]?) (Except.ok.inj (success.trans error.symm))
  exact absurd third (by decide)

def openController : AccessController := ⟨true, true, [], [], [], []⟩

def idleSurroundings : Surroundings := ⟨fun _ => [], fun _ => idleAnswer⟩

def oneConnection : Registry := Registry.empty.setConnection 0 ⟨.websocket, false, ∅⟩

def subscribedTo (topic : Bytes) : Registry := oneConnection.subscribe 0 ⟨.websocket, false, ∅⟩ topic (.integer 1)

def cutShort (registry : Registry) : Desk :=
  deskAfter (Json.parseOf [cutRequest]) (fun value => .ok value.text) sampleConfig openController 0 idleSurroundings registry cutRequest.text

theorem cut_short_fails (registry : Registry) : ∃ command ∈ (cutShort registry).log, ErrorReply (fun value => .ok value.text) command :=
  interrupted_fails (fun _ => True) _ _ _ _ _ _ registry cutRequest.text (sample_library [cutRequest]) texts_apart (fun _ => idle_reported)
    (str "a") (by decide +kernel)

theorem unknown_topic_untouched :
    (∃ command ∈ (cutShort (subscribedTo (str "b"))).log, ErrorReply (fun value => .ok value.text) command) ∧
      (subscribedTo (str "b")).subscription 0 (str "b") ≠ none ∧
      FailsUntouched (Json.parseOf [cutRequest]) (fun value => .ok value.text) sampleConfig openController 0 idleSurroundings
        (subscribedTo (str "b")) cutRequest.text :=
  ⟨cut_short_fails _, by decide, (failed_untouched_iff (fun _ => True) _ _ _ _ _ _ _ _ (sample_library [cutRequest]) texts_apart
    (fun _ => idle_reported)).mpr (by decide +kernel)⟩

theorem cut_short_unsubscribe_removes :
    (∃ command ∈ (cutShort (subscribedTo (str "a"))).log, ErrorReply (fun value => .ok value.text) command) ∧
      ¬ Untouched 0 (subscribedTo (str "a")) (cutShort (subscribedTo (str "a"))).registry :=
  ⟨cut_short_fails _, interrupted_touched (fun _ => True) _ _ _ _ _ _ _ _ (sample_library [cutRequest]) texts_apart
    (fun _ => idle_reported) (str "a") (by decide +kernel) (by decide)⟩

end Eventhub.Session
