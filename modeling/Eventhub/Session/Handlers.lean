import Eventhub.Session.Http
import Eventhub.Session.Rpc

set_option autoImplicit false

namespace Eventhub.Session

open Hub

-- The access a handler has checked before a command. Hanging up at once is
-- left to disconnect and to the websocket and HTTP handlers themselves.
def Checked (controller : AccessController) : Command → Prop
  | .shutdown => False
  | .setState _ => isAuthenticated controller = true
  | .subscribe topicPattern _ => allowSubscribe controller topicPattern = true
  | .cacheMessage topic _ _ _ _ => isValidTopic topic = true ∧ allowPublish controller topic = true
  | .publishMessage topic _ _ _ => isValidTopic topic = true ∧ allowPublish controller topic = true
  | .getCacheSince topicPattern _ _ _ => allowSubscribe controller topicPattern = true
  | .getCacheSinceId topicPattern _ _ _ => allowSubscribe controller topicPattern = true
  | .kvGet key => allowSubscribe controller key = true
  | .kvSet key _ _ => allowPublish controller key = true
  | .kvDel key => allowPublish controller key = true
  | _ => True

def passive : Command → Bool
  | .shutdown => false
  | .shutdownAfterFlush => false
  | .setState _ => false
  | .subscribe _ _ => false
  | .unsubscribe _ => false
  | .unsubscribeAll => false
  | _ => true

def Quiet (controller : AccessController) (command : Command) : Prop := Checked controller command ∧ passive command = true

section

variable (allowed : Command → Prop)

theorem uses_catching {α : Type} (body : Handler α) (handler : Bytes → Handler α) (first : body.Uses allowed)
    (second : ∀ what, (handler what).Uses allowed) : (catching body handler).Uses allowed := by
  refine Program.uses_try_catch allowed body _ first (fun failure => ?_)
  cases failure with
  | thrown what => exact second what
  | undefined => trivial

theorem uses_ite {α : Type} (condition : Prop) [Decidable condition] (first second : Handler α) (refused : first.Uses allowed)
    (passed : ¬condition → second.Uses allowed) : (if condition then first else second).Uses allowed := by
  by_cases holds : condition
  · rw [if_pos holds]
    exact refused
  · rw [if_neg holds]
    exact passed holds

theorem uses_unless {α : Type} (check : Bool) (refusal rest : Handler α) (refused : refusal.Uses allowed)
    (passed : check = true → rest.Uses allowed) : (if !check then refusal else rest).Uses allowed :=
  uses_ite allowed _ refusal rest refused (fun fails => passed (by simpa using fails))

theorem uses_done_bind {α β : Type} (value : Except Failure α) (next : α → Handler β) (rest : ∀ value, (next value).Uses allowed) :
    ((Program.done value : Handler α) >>= next).Uses allowed := Program.uses_bind allowed _ _ trivial rest

theorem uses_ask_bind {β : Type} (command : Command) (next : Answer command → Handler β) (permitted : allowed command)
    (rest : ∀ answer, (next answer).Uses allowed) : (ask command >>= next).Uses allowed :=
  Program.uses_bind allowed _ _ (Program.uses_perform allowed command permitted) rest

theorem paths_ask_bind {β : Type} (possible : (command : Command) → Answer command → Prop)
    (holds : List (Sigma Answer) → Except Failure β → Prop) (command : Command) (next : Answer command → Handler β)
    (rest : ∀ answer, possible command answer →
      (next answer).Paths possible (fun steps result => holds (⟨command, answer⟩ :: steps) result)) :
    (ask command >>= next).Paths possible holds := rest

theorem paths_cases {α : Type} (possible : (command : Command) → Answer command → Prop)
    (holds : List (Sigma Answer) → Except Failure α → Prop) (condition : Prop) [Decidable condition] (first second : Handler α)
    (yes : condition → first.Paths possible holds) (no : ¬ condition → second.Paths possible holds) :
    (if condition then first else second).Paths possible holds := by
  by_cases taken : condition
  · rw [if_pos taken]
    exact yes taken
  · rw [if_neg taken]
    exact no taken

theorem uses_recovered {α : Type} (value : Except Failure α) (converted : Int → α) (fallback : α) (undefined : allowed .unspecified) :
    (recovered value converted fallback).Uses allowed := by
  unfold recovered
  split
  · trivial
  · trivial
  · exact uses_ask_bind allowed _ _ undefined (fun _ => trivial)

theorem uses_query_cache (topic sinceEventId : Bytes) (since limit : Int)
    (byTime : ∀ isPattern, allowed (.getCacheSince topic since limit isPattern))
    (byId : ∀ isPattern, allowed (.getCacheSinceId topic sinceEventId limit isPattern)) :
    (queryCache topic sinceEventId since limit).Uses allowed := by
  unfold queryCache
  split
  · exact Program.uses_perform allowed _ (byId _)
  · exact Program.uses_perform allowed _ (byTime _)

theorem uses_sending (dump : Json → Except Failure Bytes) (reply : Json) (sending : ∀ text, allowed (.sendData text .textFrame)) :
    (sendJson dump reply).Uses allowed :=
  uses_done_bind allowed _ _ (fun text => Program.uses_perform allowed _ (sending text))

theorem uses_calculate_relative_since (since : Int) (clock : allowed .getTimeSinceEpoch) (undefined : allowed .unspecified) :
    (calculateRelativeSince since).Uses allowed := by
  refine uses_ite _ _ _ _ trivial (fun _ => uses_ask_bind _ _ _ clock (fun _ => ?_))
  refine Program.uses_bind _ _ _ ?_ (fun _ => trivial)
  exact uses_ite _ _ _ _ (Program.uses_perform _ _ undefined) (fun _ => trivial)

theorem uses_since_param (params : Parameter) (clock : allowed .getTimeSinceEpoch) (undefined : allowed .unspecified) :
    (sinceParam params).Uses allowed := by
  unfold sinceParam
  split
  · exact uses_calculate_relative_since allowed _ clock undefined
  · trivial
  · exact uses_ask_bind _ _ _ undefined (fun _ => uses_calculate_relative_since allowed _ clock undefined)

theorem uses_check_rate_limit (controller : AccessController) (topicName : Bytes)
    (limited : ∀ topic subject max, allowed (.isRateLimited topic subject max))
    (counted : ∀ topic subject interval, allowed (.incrementLimitCount topic subject interval)) :
    (checkRateLimit controller topicName).Uses allowed := by
  refine uses_ite _ _ _ _ trivial (fun _ => ?_)
  split
  · trivial
  · refine uses_ask_bind _ _ _ (limited _ _ _) (fun answer => uses_done_bind _ _ _ (fun _ => ?_))
    exact uses_ite _ _ _ _ trivial (fun _ => uses_ask_bind _ _ _ (counted _ _ _) (fun _ => uses_done_bind _ _ _ (fun _ => trivial)))

end

-- The limit of subscribe and eventlog as Redis gets it.
def windowLimit (config : Config) (limit : Int) : Int := Int.bmod (clampLimit config (unsigned64 limit)) (2 ^ 64)

structure ReadsCache (allowed : Command → Prop) (config : Config) (controller : AccessController) : Prop where
  sending : ∀ text, allowed (.sendData text .textFrame)
  clock : allowed .getTimeSinceEpoch
  undefined : allowed .unspecified
  byTime : ∀ topic since limit isPattern, allowSubscribe controller topic = true →
    allowed (.getCacheSince topic since (windowLimit config limit) isPattern)
  byId : ∀ topic sinceId limit isPattern, allowSubscribe controller topic = true →
    allowed (.getCacheSinceId topic sinceId (windowLimit config limit) isPattern)

section

variable (allowed : Command → Prop) (dump : Json → Except Failure Bytes) (config : Config) (controller : AccessController)
  (reads : ReadsCache allowed config controller) (req : Request)

include reads

theorem uses_send_cache (topic : Bytes) (allows : allowSubscribe controller topic = true) :
    (sendCacheToClient dump config req topic).Uses allowed := by
  refine uses_unless _ _ _ _ trivial (fun _ => ?_)
  refine Program.uses_bind _ _ _ (uses_since_param _ req.params reads.clock reads.undefined) (fun since => ?_)
  refine uses_ite _ _ _ _ trivial (fun _ => ?_)
  refine Program.uses_bind _ _ _ (uses_recovered _ _ _ _ reads.undefined) (fun limit => ?_)
  refine uses_catching _ _ _ (Program.uses_bind _ _ _ ?_ (fun result => ?_)) (fun _ => trivial)
  · refine Program.uses_bind _ _ _ (uses_query_cache _ _ _ _ _ (fun _ => reads.byTime _ _ _ _ allows) (fun _ => reads.byId _ _ _ _ allows)) ?_
    intro answer
    split <;> trivial
  · exact Program.uses_each _ _ _ (fun item _ => uses_sending _ dump _ reads.sending)

theorem uses_subscribing (subscribes : ∀ topic id, allowSubscribe controller topic = true → allowed (.subscribe topic id)) :
    (handleSubscribe dump config controller req).Uses allowed := by
  have sends : ∀ reply, (sendJson dump reply).Uses allowed := fun reply => uses_sending _ dump reply reads.sending
  refine uses_ite _ _ _ _ (sends _) (fun _ => ?_)
  refine uses_unless _ _ _ _ (sends _) (fun _ => ?_)
  refine uses_unless _ _ _ _ (sends _) (fun allows => ?_)
  refine uses_ask_bind _ _ _ (subscribes _ _ allows) (fun _ => ?_)
  exact Program.uses_bind _ _ _ (sends _) (fun _ => uses_send_cache allowed dump config controller reads req _ allows)

theorem uses_reading_log : (handleEventlog dump config controller req).Uses allowed := by
  have sends : ∀ reply, (sendJson dump reply).Uses allowed := fun reply => uses_sending _ dump reply reads.sending
  refine uses_unless _ _ _ _ (sends _) (fun _ => ?_)
  refine Program.uses_bind _ _ _ (uses_since_param _ req.params reads.clock reads.undefined) (fun since => ?_)
  refine Program.uses_bind _ _ _ (uses_recovered _ _ _ _ reads.undefined) (fun limit => ?_)
  refine uses_ite _ _ _ _ (sends _) (fun _ => ?_)
  refine uses_ite _ _ _ _ (sends _) (fun _ => ?_)
  refine uses_unless _ _ _ _ (sends _) (fun _ => ?_)
  refine uses_unless _ _ _ _ (sends _) (fun allows => ?_)
  refine Program.uses_bind _ _ _ (uses_query_cache _ _ _ _ _ (fun _ => reads.byTime _ _ _ _ allows) (fun _ => reads.byId _ _ _ _ allows)) ?_
  intro answer
  split
  · exact sends _
  · trivial
  · exact sends _

end

theorem uses_sse_cache (allowed : Command → Prop) (path lastEventId sinceStr : Bytes) (limit : Int)
    (byTime : ∀ since isPattern, allowed (.getCacheSince path since limit isPattern))
    (byId : ∀ sinceId isPattern, allowed (.getCacheSinceId path sinceId limit isPattern)) :
    (sseCache path lastEventId sinceStr limit).Uses allowed := by
  have query : ∀ sinceEventId since, (queryCache path sinceEventId since limit).Uses allowed := fun sinceEventId since =>
    uses_query_cache _ path sinceEventId since limit (byTime _) (byId _)
  unfold sseCache
  split
  · exact Program.uses_bind _ _ _ (query _ _) (fun _ => trivial)
  · split
    · split
      · trivial
      · exact Program.uses_bind _ _ _ (query _ _) (fun _ => trivial)
    · trivial

section

variable (allowed : Command → Prop) (dump : Json → Except Failure Bytes) (config : Config) (controller : AccessController)
  (writes : ∀ data, allowed (.write data))

include writes

theorem uses_responding (response : Http.Response) (closes : allowed .shutdownAfterFlush) : (respondAndClose response).Uses allowed :=
  uses_ask_bind _ _ _ (writes _) (fun _ => Program.uses_perform _ _ closes)

theorem uses_streaming (req : Http.Parser) (closes : allowed .shutdownAfterFlush) (streams : allowed (.setState .sse))
    (subscribes : ∀ topic id, allowSubscribe controller topic = true → allowed (.subscribe topic id))
    (byTime : ∀ topic since limitStr isPattern, allowSubscribe controller topic = true →
      allowed (.getCacheSince topic since (sseLimit config limitStr) isPattern))
    (byId : ∀ topic sinceId limitStr isPattern, allowSubscribe controller topic = true →
      allowed (.getCacheSinceId topic sinceId (sseLimit config limitStr) isPattern)) :
    (handleSse dump config controller req).Uses allowed := by
  have refused : ∀ message statusCode, (sseError dump message statusCode).Uses allowed := fun message statusCode =>
    uses_done_bind _ _ _ (fun _ => uses_responding allowed writes _ closes)
  refine uses_done_bind _ _ _ (fun first => ?_)
  refine uses_ite _ _ _ _ (refused _ _) (fun _ => ?_)
  refine uses_unless _ _ _ _ (refused _ _) (fun allows => ?_)
  refine uses_ask_bind _ _ _ (writes _) (fun _ => ?_)
  refine uses_ask_bind _ _ _ streams (fun _ => ?_)
  refine uses_ask_bind _ _ _ (subscribes _ _ allows) (fun _ => ?_)
  refine Program.uses_bind _ _ _ ?_ (fun result => Program.uses_each _ _ _ (fun item _ => Program.uses_perform _ _ (writes _)))
  exact uses_sse_cache allowed _ _ _ _ (fun _ _ => byTime _ _ _ _ allows) (fun _ _ => byId _ _ _ _ allows)

end

section

variable (dump : Json → Except Failure Bytes) (config : Config) (controller : AccessController)

theorem uses_quiet_json (reply : Json) : (sendJson dump reply).Uses (Quiet controller) :=
  uses_sending _ dump reply (fun _ => ⟨trivial, rfl⟩)

theorem uses_send_json (reply : Json) : (sendJson dump reply).Uses (Checked controller) :=
  uses_sending _ dump reply (fun _ => trivial)

theorem uses_subscribe (req : Request) : (handleSubscribe dump config controller req).Uses (Checked controller) :=
  uses_subscribing _ dump config controller ⟨fun _ => trivial, trivial, trivial, fun _ _ _ _ => id, fun _ _ _ _ => id⟩ req (fun _ _ => id)

theorem uses_unsubscribe_topics (topics : List Json) (count : Nat) :
    (unsubscribeTopics controller topics count).Uses (Checked controller) := by
  induction topics generalizing count with
  | nil => trivial
  | cons element topics ih =>
      refine uses_done_bind _ _ _ (fun topic => ?_)
      exact uses_ite _ _ _ _ (ih count) (fun _ => uses_ask_bind _ _ _ trivial (fun _ => ih _))

theorem uses_unsubscribe (req : Request) : (handleUnsubscribe dump controller req).Uses (Checked controller) := by
  unfold handleUnsubscribe
  split
  · exact Program.uses_bind _ _ _ (uses_unsubscribe_topics controller _ 0) (fun _ => uses_send_json dump controller _)
  · exact uses_send_json dump controller _

theorem uses_unsubscribe_all (req : Request) : (handleUnsubscribeAll dump req).Uses (Checked controller) :=
  uses_ask_bind _ _ _ trivial (fun _ => uses_send_json dump controller _)

theorem uses_cache_and_publish (req : Request) (topicName message : Bytes) (timestamp : Int) (ttl : Nat)
    (permitted : isValidTopic topicName = true ∧ allowPublish controller topicName = true) :
    (cacheAndPublish dump controller req topicName message timestamp ttl).Uses (Quiet controller) := by
  have checked := uses_check_rate_limit (Quiet controller) controller topicName (fun _ _ _ => ⟨trivial, rfl⟩) (fun _ _ _ => ⟨trivial, rfl⟩)
  refine Program.uses_bind _ _ _ checked (fun limited => ?_)
  refine uses_ite _ _ _ _ (uses_quiet_json dump controller _) (fun _ => ?_)
  refine uses_ask_bind _ _ _ ⟨permitted, rfl⟩ (fun answer => uses_done_bind _ _ _ (fun id => ?_))
  refine uses_ite _ _ _ _ (uses_quiet_json dump controller _) (fun _ => ?_)
  exact uses_ask_bind _ _ _ ⟨permitted, rfl⟩ (fun answer => uses_done_bind _ _ _ (fun _ => uses_quiet_json dump controller _))

theorem uses_publish (req : Request) : (handlePublish dump controller req).Uses (Quiet controller) := by
  refine uses_ite _ _ _ _ (uses_quiet_json dump controller _) (fun _ => ?_)
  refine uses_unless _ _ _ _ (uses_quiet_json dump controller _) (fun allows => ?_)
  refine uses_unless _ _ _ _ (uses_quiet_json dump controller _) (fun valid => ?_)
  refine Program.uses_bind _ _ _ (uses_recovered _ _ _ _ ⟨trivial, rfl⟩) (fun timestamp => ?_)
  refine Program.uses_bind _ _ _ (uses_recovered _ _ _ _ ⟨trivial, rfl⟩) (fun ttl => ?_)
  exact uses_catching _ _ _ (uses_cache_and_publish dump controller req _ _ _ _ ⟨valid, allows⟩)
    (fun _ => uses_quiet_json dump controller _)

theorem uses_list (req : Request) : (handleList dump req).Uses (Quiet controller) :=
  uses_ask_bind _ _ _ ⟨trivial, rfl⟩ (fun _ => uses_quiet_json dump controller _)

theorem uses_eventlog (req : Request) : (handleEventlog dump config controller req).Uses (Quiet controller) :=
  uses_reading_log _ dump config controller
    ⟨fun _ => ⟨trivial, rfl⟩, ⟨trivial, rfl⟩, ⟨trivial, rfl⟩, fun _ _ _ _ allows => ⟨allows, rfl⟩, fun _ _ _ _ allows => ⟨allows, rfl⟩⟩ req

theorem uses_kv (req : Request) (body : Handler Unit) (inner : body.Uses (Quiet controller)) :
    (kvHandler dump config req body).Uses (Quiet controller) :=
  uses_unless _ _ _ _ (uses_quiet_json dump controller _)
    (fun _ => uses_catching _ _ _ inner (fun _ => uses_quiet_json dump controller _))

theorem uses_get (req : Request) : (handleGet dump config controller req).Uses (Quiet controller) := by
  refine uses_kv dump config controller req _ (uses_done_bind _ _ _ (fun key => ?_))
  refine uses_unless _ _ _ _ (uses_quiet_json dump controller _) (fun allows => ?_)
  exact uses_ask_bind _ _ _ ⟨allows, rfl⟩ (fun _ => uses_done_bind _ _ _ (fun _ => uses_quiet_json dump controller _))

theorem uses_set (req : Request) : (handleSet dump config controller req).Uses (Quiet controller) := by
  refine uses_unless _ _ _ _ (uses_quiet_json dump controller _) (fun _ => ?_)
  refine Program.uses_bind _ _ _ (uses_recovered _ _ _ _ ⟨trivial, rfl⟩) (fun ttl => ?_)
  refine uses_catching _ _ _ ?_ (fun _ => uses_quiet_json dump controller _)
  refine uses_done_bind _ _ _ (fun key => uses_done_bind _ _ _ (fun value => ?_))
  refine uses_unless _ _ _ _ (uses_quiet_json dump controller _) (fun allows => ?_)
  exact uses_ask_bind _ _ _ ⟨allows, rfl⟩ (fun _ => uses_done_bind _ _ _ (fun _ => uses_quiet_json dump controller _))

theorem uses_delete (req : Request) : (handleDelete dump config controller req).Uses (Quiet controller) := by
  refine uses_kv dump config controller req _ (uses_done_bind _ _ _ (fun key => ?_))
  refine uses_unless _ _ _ _ (uses_quiet_json dump controller _) (fun allows => ?_)
  exact uses_ask_bind _ _ _ ⟨allows, rfl⟩ (fun _ => uses_quiet_json dump controller _)

theorem uses_ping (req : Request) : (handlePing dump req).Uses (Quiet controller) :=
  uses_ask_bind _ _ _ ⟨trivial, rfl⟩ (fun _ => uses_quiet_json dump controller _)

theorem registered_handler (entry : Bytes × (Request → Handler Unit)) (registered : entry ∈ handlers dump config controller) :
    entry = (str "disconnect", handleDisconnect) ∨ ∀ req, (entry.2 req).Uses (Checked controller) := by
  have quiet : ∀ program : Handler Unit, program.Uses (Quiet controller) → program.Uses (Checked controller) :=
    Program.uses_mono _ _ (fun _ => And.left)
  simp only [handlers, List.mem_cons, List.not_mem_nil, or_false] at registered
  rcases registered with rfl | rfl | rfl | rfl | rfl | rfl | rfl | rfl | rfl | rfl | rfl
  · exact .inr (uses_subscribe dump config controller)
  · exact .inr (uses_unsubscribe dump controller)
  · exact .inr (uses_unsubscribe_all dump controller)
  · exact .inr (fun req => quiet _ (uses_publish dump controller req))
  · exact .inr (fun req => quiet _ (uses_list dump controller req))
  · exact .inr (fun req => quiet _ (uses_eventlog dump config controller req))
  · exact .inr (fun req => quiet _ (uses_get dump config controller req))
  · exact .inr (fun req => quiet _ (uses_set dump config controller req))
  · exact .inr (fun req => quiet _ (uses_delete dump config controller req))
  · exact .inr (fun req => quiet _ (uses_ping dump controller req))
  · exact .inl rfl

theorem get_handler_registered (methodName : Bytes) (handler : Request → Handler Unit)
    (found : getHandler dump config controller methodName = .ok handler) :
    (Util.strToLower methodName, handler) ∈ handlers dump config controller := by
  unfold getHandler at found
  split at found
  · rename_i lookup
    cases found
    obtain ⟨before, after, split, _⟩ := List.lookup_eq_some_iff.mp lookup
    rw [split]
    exact List.mem_append_right before List.mem_cons_self
  · cases found

theorem get_handler_cases (methodName : Bytes) (handler : Request → Handler Unit)
    (found : getHandler dump config controller methodName = .ok handler) :
    (Util.strToLower methodName = str "disconnect" ∧ handler = handleDisconnect) ∨
      ∀ req, (handler req).Uses (Checked controller) := by
  rcases registered_handler dump config controller _ (get_handler_registered dump config controller methodName handler found) with same | uses
  · exact .inl ⟨congrArg Prod.fst same, congrArg Prod.snd same⟩
  · exact .inr uses

def disconnects (parse : Bytes → Except Failure Json) (data : Bytes) : Bool :=
  match (parse data).bind parseEntity with
  | .ok (some req) => decide (Util.strToLower req.method = str "disconnect")
  | _ => false

theorem uses_text_frame (allowed : Command → Prop) (parse : Bytes → Except Failure Json) (data : Bytes)
    (wider : ∀ command, Checked controller command → allowed command)
    (leaves : disconnects parse data = true → allowed .shutdown) :
    (handleTextFrame dump config controller parse data).Uses allowed := by
  have sends : ∀ reply, (sendJson dump reply).Uses allowed := fun reply =>
    Program.uses_mono _ _ wider _ (uses_send_json dump controller reply)
  unfold handleTextFrame
  unfold disconnects at leaves
  cases parsed : (parse data).bind parseEntity with
  | error failure => exact sends _
  | ok entity =>
      cases entity with
      | none => exact sends _
      | some req =>
          rw [parsed] at leaves
          refine uses_catching _ _ _ ?_ (fun _ => sends _)
          cases found : getHandler dump config controller req.method with
          | error failure => trivial
          | ok handler =>
              refine uses_ask_bind _ _ _ (wider _ trivial) (fun _ => ?_)
              rcases get_handler_cases dump config controller req.method handler found with ⟨method, rfl⟩ | uses
              · refine uses_ask_bind _ _ _ (wider _ trivial) (fun _ => ?_)
                exact Program.uses_perform _ _ (leaves (decide_eq_true method))
              · exact Program.uses_mono _ _ wider _ (uses req)

-- The callbacks that hang up: a CLOSE frame, an exceeded limit and a request
-- for disconnect.
def hangsUp (parse : Bytes → Except Failure Json) (call : Websocket.ParserCall) : Bool :=
  match call.status with
  | .parserOk =>
      match call.frameType with
      | .closeFrame => true
      | .textFrame => disconnects parse call.data
      | _ => false
  | _ => true

theorem uses_request (allowed : Command → Prop) (parse : Bytes → Except Failure Json) (call : Websocket.ParserCall)
    (wider : ∀ command, Checked controller command → allowed command) (leaves : hangsUp parse call = true → allowed .shutdown) :
    (handleRequest dump config controller parse call).Uses allowed := by
  unfold handleRequest
  unfold hangsUp at leaves
  cases status : call.status with
  | parserOk =>
      rw [status] at leaves
      dsimp only at leaves ⊢
      cases frameType : call.frameType with
      | textFrame =>
          rw [frameType] at leaves
          exact uses_text_frame dump config controller allowed parse call.data wider leaves
      | pingFrame => exact Program.uses_perform _ _ (wider _ trivial)
      | closeFrame =>
          rw [frameType] at leaves
          exact Program.uses_perform _ _ (leaves rfl)
      | continuationFrame => trivial
      | binaryFrame => trivial
      | pongFrame => trivial
  | maxDataFrameSizeExceeded =>
      rw [status] at leaves
      exact uses_ask_bind _ _ _ (wider _ trivial) (fun _ => Program.uses_perform _ _ (leaves rfl))
  | maxControlFrameSizeExceeded =>
      rw [status] at leaves
      exact uses_ask_bind _ _ _ (wider _ trivial) (fun _ => Program.uses_perform _ _ (leaves rfl))

end

section

variable (dump : Json → Except Failure Bytes) (config : Config) (controller : AccessController)

theorem uses_respond_and_close (response : Http.Response) : (respondAndClose response).Uses (Checked controller) :=
  uses_responding _ (fun _ => trivial) response trivial

theorem uses_sse (req : Http.Parser) (authenticated : isAuthenticated controller = true) :
    (handleSse dump config controller req).Uses (Checked controller) :=
  uses_streaming _ dump config controller (fun _ => trivial) req trivial authenticated (fun _ _ => id) (fun _ _ _ _ => id) (fun _ _ _ _ => id)

theorem uses_websocket_handshake (acceptKey : Bytes → Bytes) (req : Http.Parser) (authenticated : isAuthenticated controller = true) :
    (websocketHandshake acceptKey req).Uses (Checked controller) := by
  refine uses_ite _ _ _ _ (uses_respond_and_close controller _) (fun _ => ?_)
  exact uses_ask_bind _ _ _ trivial (fun _ => Program.uses_perform _ _ authenticated)

theorem uses_answer_path (acceptKey : Bytes → Bytes) (verdict : Bool) (req : Http.Parser)
    (authenticated : verdict = true → isAuthenticated controller = true) :
    (answerPath dump config controller acceptKey verdict req).Uses (Checked controller) := by
  refine uses_unless _ _ _ _ (uses_respond_and_close controller _) (fun accepted => ?_)
  split
  · exact uses_unless _ _ _ _ (uses_respond_and_close controller _) (fun _ => uses_sse dump config controller req (authenticated accepted))
  · split
    · exact uses_websocket_handshake controller acceptKey req (authenticated accepted)
    · exact uses_respond_and_close controller _

def CheckedRoute : Route → Prop
  | .answered response => response.Uses (Checked controller)
  | .authenticating _ => True

theorem checked_route (req : Http.Parser) : CheckedRoute controller (routePath config req) := by
  unfold routePath
  dsimp only
  split
  · exact uses_respond_and_close controller _
  split
  · exact uses_respond_and_close controller _
  split
  · exact uses_respond_and_close controller _
  split
  · exact uses_ask_bind _ _ _ trivial (fun _ => uses_respond_and_close controller _)
  split
  · trivial
  split
  · trivial
  split
  · exact uses_respond_and_close controller _
  · trivial

end

end Eventhub.Session
