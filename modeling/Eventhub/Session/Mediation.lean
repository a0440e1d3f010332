import Eventhub.Lib.Transition
import Eventhub.Session.Handlers
import Eventhub.Session.System
import Eventhub.Websocket.Errors

set_option autoImplicit false

namespace Eventhub.Session

open Hub Transition

-- The filter is in that claim of a token that was presented.
def Claimed (log : List Entry) (name filter : Bytes) : Prop :=
  ∃ payload verdict value filters, Entry.authenticated (some payload) verdict ∈ log ∧ payload.lookup name = some value ∧
    value.getStrings = .ok filters ∧ filter ∈ filters

def Grants (log : List Entry) (name topic : Bytes) : Prop :=
  ∃ filter, Claimed log name filter ∧ isFilterMatched filter topic = true

def Accepted (log : List Entry) : Prop := ∃ decoded, Entry.authenticated decoded true ∈ log

def Mediated (log : List Entry) : Entry → Prop
  | .performed (.setState _) => Accepted log
  | .performed (.subscribe topicPattern _) => Grants log (str "read") topicPattern
  | .performed (.cacheMessage topic _ _ _ _) => isValidTopic topic = true ∧ Grants log (str "write") topic
  | .performed (.publishMessage topic _ _ _) => isValidTopic topic = true ∧ Grants log (str "write") topic
  | .performed (.getCacheSince topicPattern _ _ _) => Grants log (str "read") topicPattern
  | .performed (.getCacheSinceId topicPattern _ _ _) => Grants log (str "read") topicPattern
  | .performed (.kvGet key) => Grants log (str "read") key
  | .performed (.kvSet key _ _) => Grants log (str "write") key
  | .performed (.kvDel key) => Grants log (str "write") key
  | _ => True

structure CompletelyMediated (client : Client) : Prop where
  entered : client.state ≠ .http → Accepted client.log
  subscribed : ∀ subscription ∈ client.subscribedTopics, Grants client.log (str "read") subscription.1
  performed : Throughout Mediated client.log

structure Traced (controller : AccessController) (state : ConnectionState) (subscribedTopics : List (Bytes × RpcId))
    (log : List Entry) : Prop where
  enabled : controller.disableAuth = false
  loaded : controller.tokenLoaded = true → Accepted log
  entered : state ≠ .http → controller.tokenLoaded = true
  writes : ∀ filter ∈ controller.publishAcl, Claimed log (str "write") filter
  reads : ∀ filter ∈ controller.subscribeAcl, Claimed log (str "read") filter
  subscribed : ∀ subscription ∈ subscribedTopics, Grants log (str "read") subscription.1
  performed : Throughout Mediated log

def Client.Traced (client : Client) : Prop := Session.Traced client.controller client.state client.subscribedTopics client.log

theorem Traced.token {controller : AccessController} {state : ConnectionState} {subscribedTopics : List (Bytes × RpcId)}
    {log : List Entry} (traced : Traced controller state subscribedTopics log) (authenticated : isAuthenticated controller = true) :
    controller.tokenLoaded = true := by
  rwa [isAuthenticated, traced.enabled] at authenticated

section

variable (log : List Entry) (entry : Entry)

theorem accepted_snoc (accepted : Accepted log) : Accepted (log ++ [entry]) := by
  obtain ⟨decoded, inside⟩ := accepted
  exact ⟨decoded, List.mem_append_left [entry] inside⟩

theorem claimed_snoc (name filter : Bytes) (claimed : Claimed log name filter) : Claimed (log ++ [entry]) name filter := by
  obtain ⟨payload, verdict, value, filters, inside, found⟩ := claimed
  exact ⟨payload, verdict, value, filters, List.mem_append_left [entry] inside, found⟩

theorem grants_snoc (name topic : Bytes) (grants : Grants log name topic) : Grants (log ++ [entry]) name topic := by
  obtain ⟨filter, claimed, matched⟩ := grants
  exact ⟨filter, claimed_snoc log entry name filter claimed, matched⟩

theorem claim_filters_claimed (payload : Claims) (verdict : Bool) (name : Bytes) (filters : List Bytes)
    (read : claimFilters payload name = .ok filters) (filter : Bytes) (inside : filter ∈ filters) :
    Claimed (log ++ [.authenticated (some payload) verdict]) name filter := by
  unfold claimFilters at read
  cases found : payload.lookup name with
  | none =>
      rw [found] at read
      cases read
      cases inside
  | some value =>
      rw [found] at read
      dsimp only at read
      cases strings : value.getStrings with
      | error failure =>
          rw [strings] at read
          cases read
      | ok all =>
          rw [strings] at read
          cases read
          exact ⟨payload, verdict, value, all, List.mem_append_right log List.mem_cons_self, found, strings, List.mem_of_mem_filter inside⟩

end

section

variable (kind : Output.Class) (outside : Outside) (config : Config)

inductive PathTaken (client : Client) : Client → Prop where
  | answered (response : Handler Unit) (checked : response.Uses (Checked client.controller)) :
      PathTaken client (client.run kind outside response)
  | killed (decoded : Option Claims) :
      PathTaken client { client with log := client.log ++ [.authenticated decoded false], alive := false }
  | authenticated (decoded : Option Claims) (controller : AccessController) (verdict : Bool) (response : Handler Unit)
      (done : authenticate client.controller decoded = some (controller, verdict)) (checked : response.Uses (Checked controller)) :
      PathTaken client
        ({ client with controller := controller, log := client.log ++ [Entry.authenticated decoded verdict] }.run kind outside response)

theorem path_taken (client : Client) : PathTaken kind outside client (client.handlePath kind outside config) := by
  unfold Client.handlePath
  have checked := checked_route config client.controller client.httpParser
  split
  · rename_i response answered
    rw [answered] at checked
    exact .answered response checked
  · dsimp only
    split
    · exact .killed _
    · rename_i controller verdict done
      refine .authenticated _ controller verdict _ done ?_
      refine uses_answer_path outside.dump config controller outside.acceptKey verdict client.httpParser (fun accepted => ?_)
      rw [accepted] at done
      exact authenticate_true client.controller controller _ done

theorem apply_controller (client : Client) (command : Command) : (client.apply kind outside command).controller = client.controller := by
  cases command with
  | subscribe topicPattern id =>
      rw [Client.apply]
      split <;> rfl
  | _ => rfl

theorem apply_state (client : Client) (command : Command) :
    (client.apply kind outside command).state = client.state ∨ ∃ newState, command = .setState newState := by
  cases command with
  | setState newState => exact .inr ⟨newState, rfl⟩
  | subscribe topicPattern id =>
      rw [Client.apply]
      split <;> exact .inl rfl
  | _ => exact .inl rfl

theorem apply_subscribed (client : Client) (command : Command) (subscription : Bytes × RpcId)
    (inside : subscription ∈ (client.apply kind outside command).subscribedTopics) :
    subscription ∈ client.subscribedTopics ∨ command = .subscribe subscription.1 subscription.2 := by
  cases command with
  | subscribe topicPattern id =>
      rw [Client.apply] at inside
      split at inside
      · exact .inl inside
      · rcases List.mem_append.mp inside with earlier | fresh
        · exact .inl earlier
        · cases List.mem_singleton.mp fresh
          exact .inr rfl
  | unsubscribe topicPattern => exact .inl (List.mem_of_mem_filter inside)
  | unsubscribeAll => cases inside
  | _ => exact .inl inside

theorem checked_mediated (client : Client) (traced : client.Traced) (command : Command)
    (permitted : Checked client.controller command ∨ command = .shutdown) : Mediated client.log (.performed command) := by
  have publishes : ∀ topic, allowPublish client.controller topic = true → Grants client.log (str "write") topic := fun topic allowed => by
    obtain ⟨filter, inside, matched⟩ := acl_allowed client.controller _ topic traced.enabled allowed
    exact ⟨filter, traced.writes filter inside, matched⟩
  have subscribes : ∀ topic, allowSubscribe client.controller topic = true → Grants client.log (str "read") topic := fun topic allowed => by
    obtain ⟨filter, inside, matched⟩ := acl_allowed client.controller _ topic traced.enabled allowed
    exact ⟨filter, traced.reads filter inside, matched⟩
  rcases permitted with checked | rfl
  · cases command with
    | setState newState => exact traced.loaded (traced.token checked)
    | subscribe topicPattern id => exact subscribes topicPattern checked
    | cacheMessage topic payload origin timestamp ttl => exact ⟨checked.1, publishes topic checked.2⟩
    | publishMessage topic id payload origin => exact ⟨checked.1, publishes topic checked.2⟩
    | getCacheSince topicPattern since limit isPattern => exact subscribes topicPattern checked
    | getCacheSinceId topicPattern sinceId limit isPattern => exact subscribes topicPattern checked
    | kvGet key => exact subscribes key checked
    | kvSet key value ttl => exact publishes key checked
    | kvDel key => exact publishes key checked
    | _ => trivial
  · trivial

theorem traced_perform (client : Client) (traced : client.Traced) (command : Command)
    (permitted : Checked client.controller command ∨ command = .shutdown) : (client.perform kind outside command).1.Traced := by
  have mediated := checked_mediated client traced command permitted
  unfold Client.Traced Client.perform
  dsimp only
  rw [apply_controller]
  refine ⟨traced.enabled, fun loaded => accepted_snoc _ _ (traced.loaded loaded), ?_, ?_, ?_, ?_, ?_⟩
  · intro moved
    rcases apply_state kind outside client command with same | ⟨newState, rfl⟩
    · exact traced.entered (same ▸ moved)
    · rcases permitted with loaded | other
      · exact traced.token loaded
      · cases other
  · exact fun filter inside => claimed_snoc _ _ _ _ (traced.writes filter inside)
  · exact fun filter inside => claimed_snoc _ _ _ _ (traced.reads filter inside)
  · intro subscription inside
    rcases apply_subscribed kind outside client command subscription inside with earlier | rfl
    · exact grants_snoc _ _ _ _ (traced.subscribed subscription earlier)
    · exact grants_snoc _ _ _ _ mediated
  · exact throughout_snoc Mediated client.log _ traced.performed mediated

theorem traced_run (client : Client) (traced : client.Traced) (handler : Handler Unit)
    (uses : handler.Uses (fun command => Checked client.controller command ∨ command = .shutdown)) :
    (client.run kind outside handler).Traced := by
  have kept := Client.run_keeps kind outside _ (fun next => next.Traced ∧ next.controller = client.controller)
    (fun next command before permitted => by
      obtain ⟨traced, same⟩ := before
      rw [← same] at permitted
      exact ⟨traced_perform kind outside next traced command permitted, (apply_controller kind outside next command).trans same⟩)
    (fun _ before => before) client handler ⟨traced, rfl⟩ uses
  exact kept.1

theorem traced_checked (client : Client) (traced : client.Traced) (handler : Handler Unit)
    (uses : handler.Uses (Checked client.controller)) : (client.run kind outside handler).Traced :=
  traced_run kind outside client traced handler (Program.uses_mono _ _ (fun _ => .inl) handler uses)

theorem traced_shutdown (client : Client) (traced : client.Traced) : (client.run kind outside shutdown).Traced :=
  traced_run kind outside client traced shutdown (Program.uses_perform _ _ (.inr rfl))

theorem traced_token (controller after : AccessController) (state : ConnectionState) (subscribedTopics : List (Bytes × RpcId))
    (log : List Entry) (decoded : Option Claims) (verdict : Bool) (traced : Traced controller state subscribedTopics log)
    (enabled : after.disableAuth = controller.disableAuth) (loaded : after.tokenLoaded = (controller.tokenLoaded || verdict))
    (writes : ∀ filter ∈ after.publishAcl,
      filter ∈ controller.publishAcl ∨ Claimed (log ++ [.authenticated decoded verdict]) (str "write") filter)
    (reads : ∀ filter ∈ after.subscribeAcl,
      filter ∈ controller.subscribeAcl ∨ Claimed (log ++ [.authenticated decoded verdict]) (str "read") filter) :
    Traced after state subscribedTopics (log ++ [.authenticated decoded verdict]) where
  enabled := enabled.trans traced.enabled
  loaded := by
    intro now
    rw [loaded] at now
    rcases Bool.or_eq_true_iff.mp now with before | rfl
    · exact accepted_snoc _ _ (traced.loaded before)
    · exact ⟨decoded, List.mem_append_right log List.mem_cons_self⟩
  entered := by
    intro moved
    rw [loaded, traced.entered moved, Bool.true_or]
  writes := by
    intro filter inside
    rcases writes filter inside with earlier | fresh
    · exact claimed_snoc _ _ _ _ (traced.writes filter earlier)
    · exact fresh
  reads := by
    intro filter inside
    rcases reads filter inside with earlier | fresh
    · exact claimed_snoc _ _ _ _ (traced.reads filter earlier)
    · exact fresh
  subscribed := fun subscription inside => grants_snoc _ _ _ _ (traced.subscribed subscription inside)
  performed := throughout_snoc Mediated log _ traced.performed trivial

theorem traced_authenticate (controller after : AccessController) (state : ConnectionState) (subscribedTopics : List (Bytes × RpcId))
    (log : List Entry) (decoded : Option Claims) (verdict : Bool) (traced : Traced controller state subscribedTopics log)
    (authenticated : Authenticated controller decoded after verdict) :
    Traced after state subscribedTopics (log ++ [.authenticated decoded verdict]) := by
  cases authenticated with
  | undecoded =>
      exact traced_token controller controller state subscribedTopics log none false traced rfl (Bool.or_false _).symm
        (fun _ => .inl) (fun _ => .inl)
  | rejected payload write read writes reads =>
      have claimed : ∀ name filters filter, filters = [] ∨ claimFilters payload name = .ok filters → filter ∈ filters →
          Claimed (log ++ [.authenticated (some payload) false]) name filter := by
        intro name filters filter stored inside
        rcases stored with rfl | stored
        · cases inside
        · exact claim_filters_claimed log payload false name filters stored filter inside
      exact traced_token controller _ state subscribedTopics log (some payload) false traced rfl (Bool.or_false _).symm
        (fun filter inside => (List.mem_append.mp inside).imp_right (claimed _ write filter writes))
        (fun filter inside => (List.mem_append.mp inside).imp_right (claimed _ read filter reads))
  | accepted payload write read subject limitConfigs writes reads filters subjects limits =>
      exact traced_token controller _ state subscribedTopics log (some payload) true traced rfl (Bool.or_true _).symm
        (fun filter inside => (List.mem_append.mp inside).imp_right (claim_filters_claimed log payload true _ write writes filter))
        (fun filter inside => (List.mem_append.mp inside).imp_right (claim_filters_claimed log payload true _ read reads filter))

theorem traced_handle_path (client : Client) (traced : client.Traced) : (client.handlePath kind outside config).Traced := by
  have taken := path_taken kind outside config client
  generalize client.handlePath kind outside config = after at taken ⊢
  cases taken with
  | answered response checked => exact traced_checked kind outside client traced response checked
  | killed decoded => exact traced_token _ client.controller _ _ _ _ false traced rfl (Bool.or_false _).symm (fun _ => .inl) (fun _ => .inl)
  | authenticated decoded controller verdict response done checked =>
      have spec := authenticate_spec client.controller controller decoded verdict traced.enabled done
      have next : Client.Traced { client with controller := controller, log := client.log ++ [.authenticated decoded verdict] } :=
        traced_authenticate _ _ _ _ _ _ _ traced spec
      exact traced_checked kind outside _ next response checked

theorem traced_handle_http (client : Client) (traced : client.Traced) (requestState : Http.RequestState) :
    (client.handleHttp kind outside config requestState).Traced := by
  cases requestState with
  | reqIncomplete => exact traced
  | reqOk => exact traced_handle_path kind outside config client traced
  | reqToBig => exact traced_shutdown kind outside client traced
  | reqFailed => exact traced_shutdown kind outside client traced

theorem traced_handle_calls (client : Client) (traced : client.Traced) (calls : List Websocket.ParserCall) :
    (client.handleCalls kind outside config calls).Traced := by
  induction calls generalizing client with
  | nil => exact traced
  | cons call calls ih =>
      rw [Client.handleCalls]
      split
      · exact ih _ (traced_run kind outside client traced _
          (uses_request outside.dump config client.controller _ outside.parse call (fun _ => .inl) (fun _ => .inr rfl)))
      · exact traced

theorem traced_parse_request (client : Client) (traced : client.Traced) (chunk : Bytes) :
    (client.parseRequest kind outside config chunk).Traced := by
  unfold Client.parseRequest
  split
  · apply traced_handle_http
    exact traced
  · apply traced_handle_calls
    exact traced
  · exact traced_shutdown kind outside client traced

theorem traced_step (client : Client) (traced : client.Traced) (event : Event) : (client.step kind outside config event).Traced := by
  unfold Client.step
  split
  · exact traced
  · cases event with
    | read received =>
        dsimp only
        split
        · exact traced
        · cases received with
          | nothing => exact traced
          | failed => exact traced
          | data chunk => exact traced_parse_request kind outside config client traced chunk
    | flushSendBuffer socket => exact traced
    | shutdown => exact traced
    | write data socket => exact traced

theorem traced_events (client : Client) (traced : client.Traced) (events : List Event) :
    (events.foldl (Client.step kind outside config) client).Traced := by
  induction events generalizing client with
  | nil => exact traced
  | cons event events ih => exact ih _ (traced_step kind outside config client traced event)

theorem completely_mediated (websocketParser : Websocket.Parser) (events : List Event) (enabled : config.disableAuth = false) :
    CompletelyMediated (events.foldl (Client.step kind outside config) (Client.connect config websocketParser)) := by
  have start : (Client.connect config websocketParser).Traced :=
    ⟨enabled, fun loaded => Bool.noConfusion loaded, fun moved => absurd rfl moved, fun _ inside => absurd inside List.not_mem_nil,
      fun _ inside => absurd inside List.not_mem_nil, fun _ inside => absurd inside List.not_mem_nil, throughout_nil Mediated⟩
  have traced := traced_events kind outside config _ start events
  exact ⟨fun moved => traced.loaded (traced.entered moved), traced.subscribed, traced.performed⟩

end

def sampleConfig : Config := ⟨false, true, true, true, 100⟩

def sampleParser : Websocket.Parser := .construct Websocket.zeroedParser .textFrame .pingFrame

def streamed : Client :=
  [Event.read (.data (streamRequest (str "/a") readToken))].foldl (Client.step .connection (.idle []) sampleConfig)
    (Client.connect sampleConfig sampleParser)

theorem streamed_mediated :
    streamed.state = .sse ∧ streamed.subscribedTopics = [(str "a", .integer 0)] ∧ CompletelyMediated streamed := by
  have served : streamed.state = .sse ∧ streamed.subscribedTopics = [(str "a", .integer 0)] := by decide +kernel
  exact ⟨served.1, served.2, completely_mediated .connection (.idle []) sampleConfig sampleParser _ rfl⟩

end Eventhub.Session
