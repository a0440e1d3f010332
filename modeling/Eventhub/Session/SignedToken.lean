import Eventhub.Jwt.Signature
import Eventhub.Session.Mediation

set_option autoImplicit false

namespace Eventhub.Session

open Hub Transition

def neededGrant : Command → Option (Bytes × Bytes)
  | .subscribe topicPattern _ => some (str "read", topicPattern)
  | .cacheMessage topic _ _ _ _ => some (str "write", topic)
  | .publishMessage topic _ _ _ => some (str "write", topic)
  | .getCacheSince topicPattern _ _ _ => some (str "read", topicPattern)
  | .getCacheSinceId topicPattern _ _ _ => some (str "read", topicPattern)
  | .kvGet key => some (str "read", key)
  | .kvSet key _ _ => some (str "write", key)
  | .kvDel key => some (str "write", key)
  | _ => none

theorem mediated_grants (log : List Entry) (command : Command) (name topic : Bytes) (mediated : Mediated log (.performed command))
    (needed : neededGrant command = some (name, topic)) : Grants log name topic := by
  cases command with
  | subscribe topicPattern id =>
      cases needed
      exact mediated
  | cacheMessage topic payload origin timestamp ttl =>
      cases needed
      exact mediated.2
  | publishMessage topic id payload origin =>
      cases needed
      exact mediated.2
  | getCacheSince topicPattern since limit isPattern =>
      cases needed
      exact mediated
  | getCacheSinceId topicPattern sinceId limit isPattern =>
      cases needed
      exact mediated
  | kvGet key =>
      cases needed
      exact mediated
  | kvSet key value ttl =>
      cases needed
      exact mediated
  | kvDel key =>
      cases needed
      exact mediated
  | _ => cases needed

section

variable (kind : Output.Class) (outside : Outside) (config : Config)

-- The token that a request in the chunk hands to authenticate.
def Client.presents (client : Client) : Event → Option Bytes
  | .read (.data chunk) =>
      if client.alive = true ∧ client.conn.isShutdown = false ∧ client.state = .http then
        match client.httpParser.parse outside.phrParseRequest chunk with
        | (parser, .reqOk) =>
            match routePath config parser with
            | .authenticating authToken => some authToken
            | .answered _ => none
        | _ => none
      else none
  | _ => none

def Client.presented (client : Client) : List Event → List Bytes
  | [] => []
  | event :: events => (client.presents outside config event).toList ++ (client.step kind outside config event).presented events

-- What has been authenticated since is what became of the tokens.
def LogGrows (client after : Client) (tokens : List Bytes) : Prop :=
  ∀ decoded verdict, Entry.authenticated decoded verdict ∈ after.log →
    Entry.authenticated decoded verdict ∈ client.log ∨
      ∃ token ∈ tokens, ∃ log, decoded = outside.decode log token ∧ (verdict = true → decoded ≠ none)

theorem run_log (client : Client) (handler : Handler Unit) :
    ∃ commands : List Command, (client.run kind outside handler).log = client.log ++ commands.map Entry.performed := by
  induction handler generalizing client with
  | done result => exact ⟨[], by cases result <;> exact (List.append_nil _).symm⟩
  | call command next ih =>
      obtain ⟨commands, later⟩ := ih (client.perform kind outside command).2 (client.perform kind outside command).1
      refine ⟨command :: commands, later.trans ?_⟩
      rw [Client.perform, List.append_assoc]
      rfl

theorem run_grows (client : Client) (handler : Handler Unit) (tokens : List Bytes) :
    LogGrows outside client (client.run kind outside handler) tokens := by
  intro decoded verdict inside
  obtain ⟨commands, same⟩ := run_log kind outside client handler
  rw [same] at inside
  rcases List.mem_append.mp inside with earlier | fresh
  · exact .inl earlier
  · obtain ⟨_, _, other⟩ := List.mem_map.mp fresh
    cases other

theorem grows_trans (first middle last : Client) (tokens : List Bytes) (before : LogGrows outside first middle tokens)
    (after : LogGrows outside middle last tokens) : LogGrows outside first last tokens := by
  intro decoded verdict inside
  rcases after decoded verdict inside with earlier | presented
  · exact before decoded verdict earlier
  · exact .inr presented

theorem handle_calls_grows (client : Client) (calls : List Websocket.ParserCall) (tokens : List Bytes) :
    LogGrows outside client (client.handleCalls kind outside config calls) tokens := by
  induction calls generalizing client with
  | nil => exact fun _ _ => .inl
  | cons call calls ih =>
      rw [Client.handleCalls]
      split
      · exact grows_trans outside _ _ _ tokens (run_grows kind outside client _ tokens) (ih _)
      · exact fun _ _ => .inl

theorem handle_path_grows (client : Client) (enabled : client.controller.disableAuth = false) (tokens : List Bytes)
    (presents : ∀ authToken, routePath config client.httpParser = .authenticating authToken → authToken ∈ tokens) :
    LogGrows outside client (client.handlePath kind outside config) tokens := by
  unfold Client.handlePath
  split
  · exact run_grows kind outside client _ tokens
  · rename_i authToken route
    have fresh : ∀ controller verdict alive, (verdict = true → outside.decode client.log authToken ≠ none) → LogGrows outside client
        { client with
          controller := controller
          log := client.log ++ [.authenticated (outside.decode client.log authToken) verdict]
          alive := alive } tokens := by
      intro controller verdict alive accepted decoded other inside
      rcases List.mem_append.mp inside with earlier | last
      · exact .inl earlier
      · cases List.mem_singleton.mp last
        exact .inr ⟨authToken, presents authToken route, client.log, rfl, accepted⟩
    dsimp only
    split
    · exact fresh client.controller false false (fun refused => Bool.noConfusion refused)
    · rename_i controller verdict done
      refine grows_trans outside _ _ _ tokens (fresh controller verdict client.alive (fun accepted undecoded => ?_))
        (run_grows kind outside _ _ tokens)
      rw [undecoded, accepted] at done
      cases authenticate_spec client.controller controller none true enabled done

theorem parse_request_grows (client : Client) (enabled : client.controller.disableAuth = false) (chunk : Bytes)
    (up : client.alive = true ∧ client.conn.isShutdown = false) :
    LogGrows outside client (client.parseRequest kind outside config chunk)
      (client.presents outside config (.read (.data chunk))).toList := by
  unfold Client.parseRequest
  split
  · rename_i http
    rw [Client.presents, if_pos ⟨up.1, up.2, http⟩]
    generalize client.httpParser.parse outside.phrParseRequest chunk = parsed
    obtain ⟨parser, requestState⟩ := parsed
    cases requestState with
    | reqIncomplete => exact fun _ _ => .inl
    | reqOk =>
        refine handle_path_grows kind outside config { client with httpParser := parser } enabled _ (fun authToken route => ?_)
        dsimp only at route ⊢
        rw [route]
        exact List.mem_singleton.mpr rfl
    | reqToBig => exact run_grows kind outside { client with httpParser := parser } _ _
    | reqFailed => exact run_grows kind outside { client with httpParser := parser } _ _
  · exact handle_calls_grows kind outside config { client with websocketParser := _ } _ _
  · exact run_grows kind outside client _ _

theorem step_grows (client : Client) (enabled : client.controller.disableAuth = false) (event : Event) :
    LogGrows outside client (client.step kind outside config event) (client.presents outside config event).toList := by
  unfold Client.step
  split
  · exact fun _ _ => .inl
  · rename_i alive
    cases event with
    | read received =>
        dsimp only
        split
        · exact fun _ _ => .inl
        · rename_i running
          cases received with
          | nothing => exact fun _ _ => .inl
          | failed => exact fun _ _ => .inl
          | data chunk =>
              exact parse_request_grows kind outside config client enabled chunk (by simpa using And.intro alive running)
    | flushSendBuffer socket => exact fun _ _ => .inl
    | shutdown => exact fun _ _ => .inl
    | write data socket => exact fun _ _ => .inl

theorem events_grow (client : Client) (traced : client.Traced) (events : List Event) :
    LogGrows outside client (events.foldl (Client.step kind outside config) client) (client.presented kind outside config events) := by
  induction events generalizing client with
  | nil => exact fun _ _ => .inl
  | cons event events ih =>
      intro decoded verdict inside
      have next := traced_step kind outside config client traced event
      rcases ih (client.step kind outside config event) next decoded verdict inside with earlier | ⟨token, presented, found⟩
      · rcases step_grows kind outside config client traced.enabled event decoded verdict earlier with before | ⟨token, presented, found⟩
        · exact .inl before
        · exact .inr ⟨token, List.mem_append_left _ presented, found⟩
      · exact .inr ⟨token, List.mem_append_right _ presented, found⟩

-- The client has presented a token with the signature of the secret, in which
-- that claim holds a filter for the topic.
def SignedGrant (host : Jwt.Host) (secret : Bytes) (tokens : List Bytes) (name topic : Bytes) : Prop :=
  ∃ token ∈ tokens, ∃ payload value filters filter, Jwt.Authentic host secret token payload ∧ payload.lookup name = some value ∧
    value.getStrings = .ok filters ∧ filter ∈ filters ∧ isFilterMatched filter topic = true

structure SignedSession (host : Jwt.Host) (secret : Bytes) (tokens : List Bytes) (client : Client) : Prop where
  entered : client.state ≠ .http → ∃ token ∈ tokens, ∃ payload, Jwt.Authentic host secret token payload
  subscribed : ∀ subscription ∈ client.subscribedTopics, SignedGrant host secret tokens (str "read") subscription.1
  performed : ∀ command name topic, Entry.performed command ∈ client.log → neededGrant command = some (name, topic) →
    SignedGrant host secret tokens name topic

theorem signed_session (host : Jwt.Host) (secret : Bytes) (websocketParser : Websocket.Parser) (events : List Event)
    (enabled : config.disableAuth = false)
    (decodes : ∀ log token payload, outside.decode log token = some payload → ∃ moment, Jwt.decodeToken host moment secret token = .ok payload) :
    SignedSession host secret ((Client.connect config websocketParser).presented kind outside config events)
      (events.foldl (Client.step kind outside config) (Client.connect config websocketParser)) := by
  have start : (Client.connect config websocketParser).Traced :=
    ⟨enabled, fun loaded => Bool.noConfusion loaded, fun moved => absurd rfl moved, fun _ inside => absurd inside List.not_mem_nil,
      fun _ inside => absurd inside List.not_mem_nil, fun _ inside => absurd inside List.not_mem_nil, throughout_nil Mediated⟩
  have traced := traced_events kind outside config _ start events
  have grows := events_grow kind outside config (Client.connect config websocketParser) start events
  generalize (Client.connect config websocketParser).presented kind outside config events = tokens at grows ⊢
  generalize events.foldl (Client.step kind outside config) (Client.connect config websocketParser) = client at traced grows ⊢
  -- The payload of every token in the log is signed.
  have signed : ∀ payload verdict, Entry.authenticated (some payload) verdict ∈ client.log →
      ∃ token ∈ tokens, Jwt.Authentic host secret token payload := by
    intro payload verdict inside
    rcases grows (some payload) verdict inside with never | ⟨token, presented, log, decoded, _⟩
    · exact absurd never List.not_mem_nil
    · obtain ⟨moment, accepted⟩ := decodes log token payload decoded.symm
      exact ⟨token, presented, (Jwt.decode_authentic host moment secret token payload accepted).1⟩
  have granted : ∀ log name topic, log ⊆ client.log → Grants log name topic → SignedGrant host secret tokens name topic := by
    rintro log name topic within ⟨filter, ⟨payload, verdict, value, filters, inside, found, strings, member⟩, matched⟩
    obtain ⟨token, presented, authentic⟩ := signed payload verdict (within inside)
    exact ⟨token, presented, payload, value, filters, filter, authentic, found, strings, member, matched⟩
  refine ⟨fun moved => ?_, fun subscription inside => granted client.log _ _ (fun _ => id) (traced.subscribed subscription inside), ?_⟩
  · obtain ⟨decoded, inside⟩ := traced.loaded (traced.entered moved)
    cases decoded with
    | none =>
        rcases grows none true inside with never | ⟨_, _, _, _, accepted⟩
        · exact absurd never List.not_mem_nil
        · exact absurd rfl (accepted rfl)
    | some payload =>
        obtain ⟨token, presented, authentic⟩ := signed payload true inside
        exact ⟨token, presented, payload, authentic⟩
  · intro command name topic inside needed
    obtain ⟨before, after, split⟩ := List.append_of_mem inside
    have mediated := traced.performed before (.performed command) after split
    refine granted before name topic (fun entry earlier => ?_) (mediated_grants before command name topic mediated needed)
    rw [split]
    exact List.mem_append_left _ earlier

end

-- Tokens are decoded by the library, in January 2027.
def verifying : Outside :=
  { Outside.idle [] with
    decode := fun _ token => (Jwt.decodeToken Jwt.sampleHost ⟨1800000000, 1800000000⟩ (str "secret") token).toOption }

def signedEvents : List Event := [.read (.data (streamRequest (str "/a") Jwt.sampleToken))]

theorem verifying_signed_session :
    ∃ client, signedEvents.foldl (Client.step .connection verifying sampleConfig) (Client.connect sampleConfig sampleParser) = client ∧
      client.state = .sse ∧ client.subscribedTopics = [(str "a", .integer 0)] ∧
      SignedSession Jwt.sampleHost (str "secret")
        ((Client.connect sampleConfig sampleParser).presented .connection verifying sampleConfig signedEvents) client := by
  have served : (signedEvents.foldl (Client.step .connection verifying sampleConfig) (Client.connect sampleConfig sampleParser)).state = .sse ∧
      (signedEvents.foldl (Client.step .connection verifying sampleConfig) (Client.connect sampleConfig sampleParser)).subscribedTopics =
        [(str "a", .integer 0)] := by decide +kernel
  refine ⟨_, rfl, served.1, served.2, ?_⟩
  refine signed_session .connection verifying sampleConfig Jwt.sampleHost (str "secret") sampleParser _ rfl (fun log token payload decoded => ?_)
  refine ⟨⟨1800000000, 1800000000⟩, ?_⟩
  change (Jwt.decodeToken Jwt.sampleHost ⟨1800000000, 1800000000⟩ (str "secret") token).toOption = some payload at decoded
  cases result : Jwt.decodeToken Jwt.sampleHost ⟨1800000000, 1800000000⟩ (str "secret") token with
  | error failure =>
      rw [result] at decoded
      cases decoded
  | ok claims =>
      rw [result] at decoded
      cases decoded
      rfl

end Eventhub.Session
