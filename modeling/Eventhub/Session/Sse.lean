import Eventhub.Lib.EventStream
import Eventhub.Session.Mediation

set_option autoImplicit false

namespace Eventhub.Session

open Hub

def eventText (id message : Bytes) : Bytes := str "id: " ++ id ++ [10] ++ str "data: " ++ message ++ [10, 10]

theorem send_event_writes (id message text : Bytes) (written : sendEvent id message = write text) : text = eventText id message := by
  injection written with same _
  injection same with same
  exact same.symm

section

open EventStream

variable (id message : Bytes)

theorem event_lines (plain : ∀ c ∈ id, ¬ LineBreak c) :
    (lines (normalise (eventText id message))).foldl Reader.line Reader.start =
      (lines (dataLabel ++ normalise (message ++ [lf, lf]))).foldl Reader.line ⟨id, [], []⟩ := by
  have split : eventText id message = (idLabel ++ id) ++ (lf :: (dataLabel ++ (message ++ [lf, lf]))) := by
    rw [eventText, show str "id: " = idLabel from rfl, show str "data: " = dataLabel from rfl]
    simp [lf]
  have idPlain : ∀ c ∈ idLabel, ¬ LineBreak c := by decide +kernel
  have head : ∀ c ∈ idLabel ++ id, ¬ LineBreak c := by
    intro c inside
    rcases List.mem_append.mp inside with literal | given
    · exact idPlain c literal
    · exact plain c given
  have label : ∀ c ∈ dataLabel, ¬ LineBreak c := by decide +kernel
  have unbroken : lf ∉ idLabel ++ id := fun inside => head lf inside (.inl rfl)
  rw [split, normalise_plain _ _ head, normalise_lf, normalise_plain _ _ label, lines_first _ _ unbroken, List.foldl_cons, id_line]
  rfl

theorem plain_event (plain : ∀ c ∈ id, ¬ LineBreak c) (unbroken : ∀ c ∈ message, ¬ LineBreak c) :
    events (eventText id message) = [⟨id, normalise message⟩] := by
  have labelled : lf ∉ dataLabel ++ message := by
    intro inside
    rcases List.mem_append.mp inside with literal | given
    · revert literal
      decide
    · exact unbroken lf given (.inl rfl)
  have split : lines (dataLabel ++ normalise (message ++ [lf, lf])) = [dataLabel ++ message, []] := by
    rw [normalise_plain message _ unbroken, ← List.append_assoc, show normalise [lf, lf] = lf :: [lf] from rfl, lines_first _ _ labelled]
    rfl
  have buffered : message ++ [lf] ≠ [] := List.append_ne_nil_of_right_ne_nil _ (List.cons_ne_nil _ _)
  rw [events, event_lines id message plain, split, normalise_self message unbroken, List.foldl_cons, data_line, List.nil_append]
  simp [Reader.line, Reader.dispatch, buffered]

theorem faithful_unbroken (plain : ∀ c ∈ id, ¬ LineBreak c) (faithful : events (eventText id message) = [⟨id, normalise message⟩]) :
    ∀ c ∈ message, ¬ LineBreak c := by
  have broken : lf ∈ normalise (message ++ [lf, lf]) := by
    by_contra unbroken
    exact unbroken_of_normalised _ unbroken lf (by simp) (.inl rfl)
  cases split : lines (normalise (message ++ [lf, lf])) with
  | nil => exact absurd split (lines_nonempty _ broken)
  | cons first others =>
      have content := lines_length (normalise (message ++ [lf, lf]))
      have extended := lines_extended (dataLabel) _ first others (by decide) split
      have bound := lines_size others ⟨id, first ++ [lf], []⟩
      rw [show (Reader.mk id (first ++ [lf]) []).size = first.length + 1 by simp [Reader.size]] at bound
      rw [events, event_lines id message plain, extended, List.foldl_cons, data_line, List.nil_append] at faithful
      have kept : (normalise message).length + 1 ≤ (others.foldl Reader.line ⟨id, first ++ [lf], []⟩).size := by
        rw [Reader.size, faithful]
        simp
      rw [split, normalise, normalised_content, List.filter_append] at content
      rw [List.map_cons, List.sum_cons, List.length_append, show ([lf, lf].filter (fun c => ¬ LineBreak c)).length = 0 by decide] at content
      apply unbroken_of_length
      omega

theorem event_faithful_iff (plain : ∀ c ∈ id, ¬ LineBreak c) (text : Bytes) (written : sendEvent id message = write text) :
    events text = [⟨id, normalise message⟩] ↔ ∀ c ∈ message, ¬ LineBreak c := by
  rw [send_event_writes id message text written]
  exact ⟨faithful_unbroken id message plain, plain_event id message plain⟩

end

theorem field_message_faithful :
    EventStream.events (eventText (str "1-0") (str " data: x")) = [⟨str "1-0", str " data: x"⟩] :=
  (event_faithful_iff (str "1-0") (str " data: x") (by decide +kernel) _ rfl).mpr (by decide +kernel)

theorem blank_line_splits_event :
    sendEvent (str "1-0") (str "x" ++ [10, 10] ++ str "data: y") = write (eventText (str "1-0") (str "x" ++ [10, 10] ++ str "data: y")) ∧
      EventStream.events (eventText (str "1-0") (str "x" ++ [10, 10] ++ str "data: y")) = [⟨str "1-0", str "x"⟩, ⟨str "1-0", str "y"⟩] :=
  ⟨rfl, by decide +kernel⟩

-- What the requests do once the client is subscribed.
def replays : Command → Bool
  | .write _ => true
  | .getCacheSince _ _ _ _ => true
  | .getCacheSinceId _ _ _ _ => true
  | _ => false

inductive SseAnswer : List Command → Prop where
  | error (response : Http.Response) (refusal : 400 ≤ response.statusCode) : SseAnswer [.write response.get, .shutdownAfterFlush]
  | stream (topic head : Bytes) (rest : List Command) (valid : isValidTopicOrFilter topic = true)
      (replayed : ∀ command ∈ rest, replays command = true) :
      SseAnswer (.write head :: .setState .sse :: .subscribe topic (.integer 0) :: rest)

section

variable (valid : Bytes → Prop) (parse : Bytes → Except Failure Json) (dump : Json → Except Failure Bytes) (config : Config)
  (controller : AccessController)

def anyAnswer (command : Command) (_ : Answer command) : Prop := True

def Replayed {α : Type} (steps : List (Sigma Answer)) (result : Except Failure α) : Prop :=
  (∃ value, result = .ok value) ∧ ∀ command ∈ steps.map Sigma.fst, replays command = true

def SseDone (steps : List (Sigma Answer)) (result : Except Failure Unit) : Prop := result = .ok () ∧ SseAnswer (steps.map Sigma.fst)

theorem replayed_query (path sinceEventId : Bytes) (since limit : Int) :
    (do
      let answer ← queryCache path sinceEventId since limit
      .done (.ok answer.result) : Handler (List Redis.CacheItem)).Paths anyAnswer Replayed := by
  unfold queryCache
  split
  · exact fun answer _ => ⟨⟨answer.result, rfl⟩, by simp [replays]⟩
  · exact fun answer _ => ⟨⟨answer.result, rfl⟩, by simp [replays]⟩

theorem replayed_cache (path lastEventId sinceStr : Bytes) (limit : Int) :
    (sseCache path lastEventId sinceStr limit).Paths anyAnswer Replayed := by
  have nothing : Replayed [] (.ok [] : Except Failure (List Redis.CacheItem)) := ⟨⟨[], rfl⟩, by simp⟩
  unfold sseCache
  split
  · exact replayed_query path lastEventId 0 limit
  · split
    · split
      · exact nothing
      · exact replayed_query path [] _ limit
    · exact nothing

theorem replayed_events (items : List Redis.CacheItem) :
    (Program.each (fun item => sendEvent item.id item.message) items).Paths anyAnswer Replayed := by
  refine Program.paths_each anyAnswer Replayed _ items ⟨⟨(), rfl⟩, by simp⟩ ?_ ?_
  · exact fun item _ _ _ => ⟨⟨(), rfl⟩, by simp [replays]⟩
  · rintro first second result ⟨_, earlier⟩ ⟨returned, later⟩
    rw [Replayed, List.map_append]
    exact ⟨returned, List.forall_mem_append.mpr ⟨earlier, later⟩⟩

theorem error_paths (library : JsonLibrary valid parse dump) (message : Bytes) (statusCode : Nat) (ascii : ∀ c ∈ message, c < 128)
    (refusal : 400 ≤ statusCode) : (sseError dump message statusCode).Paths anyAnswer SseDone := by
  have texts : (Json.object [(str "error", .string message)]).Texts valid := by
    refine .object _ (fun field inside => ?_) (fun field inside => ?_)
    · cases List.mem_singleton.mp inside
      exact library.plain_text (str "error") (by decide +kernel)
    · cases List.mem_singleton.mp inside
      exact .string message (library.ascii message ascii)
  obtain ⟨text, dumped⟩ := library.dumped _ texts
  unfold sseError
  rw [dumped]
  exact fun _ _ _ _ => ⟨rfl, .error (.make statusCode [] (text ++ [10])) refusal⟩

theorem subscribe_paths (req : Http.Parser) (path : Bytes) (topic : isValidTopicOrFilter path = true) :
    (sseSubscribe config req path).Paths anyAnswer SseDone := by
  refine paths_ask_bind _ _ _ _ (fun _ _ => ?_)
  refine paths_ask_bind _ _ _ _ (fun _ _ => ?_)
  refine paths_ask_bind _ _ _ _ (fun _ _ => ?_)
  refine Program.paths_bind anyAnswer Replayed _ _ _ (replayed_cache _ _ _ _) ?_ ?_
  · rintro steps failure ⟨⟨_, returned⟩, _⟩
    cases returned
  · rintro steps items ⟨_, queried⟩
    refine Program.paths_mono anyAnswer _ _ ?_ _ (replayed_events items)
    rintro more result ⟨⟨_, rfl⟩, written⟩
    refine ⟨rfl, .stream path _ _ topic ?_⟩
    rw [List.map_append]
    exact List.forall_mem_append.mpr ⟨queried, written⟩

theorem sse_paths (library : JsonLibrary valid parse dump) (req : Http.Parser) (decoded : Util.uriDecode req.path ≠ []) :
    (handleSse dump config controller req).Paths anyAnswer SseDone := by
  unfold handleSse
  cases path : Util.uriDecode req.path with
  | nil => exact absurd path decoded
  | cons first rest =>
      dsimp only [firstAt]
      show Program.Paths anyAnswer SseDone (if _ then _ else _)
      generalize (if first = slash then (first :: rest).tail else first :: rest) = topic
      by_cases unnamed : (topic.isEmpty || !isValidTopicOrFilter topic) = true
      · rw [if_pos unnamed]
        exact error_paths valid parse dump library _ 404 (List.all_iff_forall_prop.mp (by decide +kernel)) (by decide)
      · rw [if_neg unnamed]
        rw [Bool.or_eq_true, not_or, Bool.not_eq_true, Bool.not_eq_true, Bool.not_eq_false'] at unnamed
        by_cases forbidden : (!allowSubscribe controller topic) = true
        · rw [if_pos forbidden]
          exact error_paths valid parse dump library _ 401 (List.all_iff_forall_prop.mp (by decide +kernel)) (by decide)
        · rw [if_neg forbidden]
          exact subscribe_paths config req topic unnamed.2

end

section

variable (kind : Output.Class) (outside : Outside) (config : Config)

def Client.Refused (before after : Client) : Prop :=
  (∃ response : Http.Response, 400 ≤ response.statusCode ∧
    after.log = before.log ++ [.performed (.write response.get), .performed .shutdownAfterFlush]) ∧
    after.state = before.state ∧ after.subscribedTopics = before.subscribedTopics

def Client.Streams (after : Client) : Prop :=
  after.state = .sse ∧ ∃ topic, isValidTopicOrFilter topic = true ∧ after.subscribes topic = true

def Client.SseServed (before after : Client) : Prop := after.alive = true ∧ (before.Refused after ∨ after.Streams)

theorem perform_all_alive (client : Client) (commands : List Command) :
    (client.performAll kind outside commands).alive = client.alive := by
  induction commands generalizing client with
  | nil => rfl
  | cons command commands ih =>
      refine (ih (client.perform kind outside command).1).trans ?_
      cases command with
      | subscribe topicPattern id =>
          dsimp only [Client.perform, Client.apply]
          split <;> rfl
      | _ => rfl

theorem perform_all_replays (client : Client) (commands : List Command) (replayed : ∀ command ∈ commands, replays command = true) :
    (client.performAll kind outside commands).state = client.state ∧
      (client.performAll kind outside commands).subscribedTopics = client.subscribedTopics := by
  induction commands generalizing client with
  | nil => exact ⟨rfl, rfl⟩
  | cons command commands ih =>
      rw [List.forall_mem_cons] at replayed
      have later := ih (client.perform kind outside command).1 replayed.2
      cases command with
      | write data => exact later
      | getCacheSince topicPattern since limit isPattern => exact later
      | getCacheSinceId topicPattern sinceId limit isPattern => exact later
      | _ => exact absurd replayed.1 Bool.false_ne_true

theorem subscribe_performed (client : Client) (topicPattern : Bytes) (id : RpcId) :
    (client.perform kind outside (.subscribe topicPattern id)).1.state = client.state ∧
      (client.perform kind outside (.subscribe topicPattern id)).1.subscribes topicPattern = true := by
  dsimp only [Client.perform, Client.apply]
  by_cases known : client.subscribes topicPattern = true
  · rw [if_pos known]
    exact ⟨rfl, known⟩
  · rw [if_neg known]
    exact ⟨rfl, by simp [Client.subscribes]⟩

theorem answer_served (client : Client) (commands : List Command) (alive : client.alive = true) (answer : SseAnswer commands) :
    client.SseServed (client.performAll kind outside commands) := by
  refine ⟨(perform_all_alive kind outside client commands).trans alive, ?_⟩
  cases answer with
  | error response refusal =>
      exact .inl ⟨⟨response, refusal, perform_all_log kind outside client _⟩, rfl, rfl⟩
  | stream topic head rest valid replayed =>
      obtain ⟨state, topics⟩ := perform_all_replays kind outside
        (client.performAll kind outside [.write head, .setState .sse, .subscribe topic (.integer 0)]) rest replayed
      obtain ⟨kept, subscribed⟩ := subscribe_performed kind outside
        (client.performAll kind outside [.write head, .setState .sse]) topic (.integer 0)
      refine .inr ⟨state.trans kept, topic, valid, ?_⟩
      rw [Client.subscribes, ← subscribed, Client.subscribes]
      exact congrArg (List.any · _) topics

theorem sse_request_served_iff (valid : Bytes → Prop) (library : JsonLibrary valid outside.parse outside.dump) (client : Client)
    (alive : client.alive = true) (req : Http.Parser) :
    client.SseServed (client.run kind outside (handleSse outside.dump config client.controller req)) ↔
      req.path ≠ [] ∧ Util.Escaped req.path := by
  rw [← Util.uri_decode_nonempty]
  constructor
  · rintro ⟨survived, _⟩ empty
    rw [handleSse, empty] at survived
    cases survived
  · intro decoded
    obtain ⟨steps, result, ⟨rfl, answer⟩, _, ran⟩ := Client.run_paths kind outside anyAnswer (fun _ _ => trivial) SseDone client _
      (sse_paths valid outside.parse outside.dump config client.controller library req decoded)
    rw [ran]
    exact answer_served kind outside client (steps.map Sigma.fst) alive answer

end

def requested (path : Bytes) : Http.Parser × Http.RequestState :=
  Http.Parser.reset.parse (Http.phrParseRequest true) (streamRequest path readToken)

def reader : Client :=
  { Client.connect sampleConfig sampleParser with
    controller := ((authenticate (.fresh false) (sampleTokens.lookup readToken)).map Prod.fst).getD (.fresh false) }

theorem stream_request_served :
    (requested (str "/a")).1.path = str "/a" ∧
      (reader.run .connection (.idle []) (handleSse (Outside.idle []).dump sampleConfig reader.controller (requested (str "/a")).1)).state =
        .sse ∧
      reader.SseServed
        (reader.run .connection (.idle []) (handleSse (Outside.idle []).dump sampleConfig reader.controller (requested (str "/a")).1)) := by
  have path : (requested (str "/a")).1.path = str "/a" := by decide +kernel
  refine ⟨path, by decide +kernel, ?_⟩
  refine (sse_request_served_iff .connection (.idle []) sampleConfig (fun _ => True) (sample_library []) reader rfl _).mpr ?_
  rw [path]
  exact ⟨List.cons_ne_nil _ _, .plain 47 _ rfl (.plain 97 _ rfl .nil)⟩

theorem bad_escape_uncaught :
    (requested (str "/%zz")).2 = .reqOk ∧ (requested (str "/%zz")).1.path = str "/%zz" ∧
      (reader.run .connection (.idle [])
        (handleSse (Outside.idle []).dump sampleConfig reader.controller (requested (str "/%zz")).1)).alive = false ∧
      ((Client.connect sampleConfig sampleParser).step .connection (.idle []) sampleConfig
        (.read (.data (streamRequest (str "/%zz") readToken)))).alive = false := by
  decide +kernel

end Eventhub.Session
