import Eventhub.Session.Mediation
import Eventhub.Websocket.Reading

set_option autoImplicit false

namespace Eventhub.Session

open Hub Transition

-- The call of an RPC handler, and what the handlers change.
def executes : Command → Bool
  | .enter _ => true
  | .subscribe _ _ => true
  | .unsubscribe _ => true
  | .unsubscribeAll => true
  | .cacheMessage _ _ _ _ _ => true
  | .publishMessage _ _ _ _ => true
  | .kvSet _ _ _ => true
  | .kvDel _ => true
  | _ => false

def Entry.executed : Entry → Bool
  | .performed command => executes command
  | .authenticated _ _ => false

def QuietSince (earlier later : Client) : Prop := ∃ added, later.log = earlier.log ++ added ∧ ∀ entry ∈ added, entry.executed = false

def isText (call : Websocket.ParserCall) : Bool := call.status = .parserOk && call.frameType = .textFrame

section

variable (kind : Output.Class) (outside : Outside) (config : Config)

-- The client that has read the chunk and handled the first frames in it.
def Client.amid (client : Client) (chunk : Bytes) (handled : Nat) : Client :=
  { client with websocketParser := client.websocketParser.parse chunk }.handleCalls kind outside config
    ((newCalls client.websocketParser chunk).take handled)

-- A frame whose handling leaves the connection shut down is the last that has
-- something executed, in this read and in all later ones.
def HangUpFinal (start : Client) (events : List Event) : Prop :=
  ∀ before chunk after handled, events = before ++ .read (.data chunk) :: after →
    let client := before.foldl (Client.step kind outside config) start
    client.alive = true → client.conn.isShutdown = false → client.state = .websocket →
      (client.amid kind outside config chunk handled).conn.isShutdown = true →
        QuietSince (client.amid kind outside config chunk handled) (events.foldl (Client.step kind outside config) start)

def writeCutOff (log : List Entry) (conn : Output.Connection) (place : Nat) : List Bytes → Bool
  | [] => false
  | data :: rest =>
      conn.cutOff kind (outside.socket log place) data ||
        writeCutOff log (conn.write kind (outside.socket log place) data).1 (place + 1) rest

def Client.cutOff (client : Client) : Command → Bool
  | .write data => writeCutOff kind outside client.log client.conn 0 [data]
  | .sendData data frameType =>
      writeCutOff kind outside client.log client.conn 0 (Websocket.sendData outside.order (outside.stack client.log) data frameType)
  | .shutdownAfterFlush => client.conn.writeBuffer.isEmpty
  | _ => false

-- Something that the handler writes fills the buffer or meets a broken socket.
def Client.answerCutOff (client : Client) : Handler Unit → Bool
  | .done _ => false
  | .call command next =>
      client.cutOff kind outside command ||
        (client.perform kind outside command).1.answerCutOff (next (client.perform kind outside command).2)

-- No text message is complete behind the first frame that hangs up or whose
-- answer is cut off.
def Client.lastWord (client : Client) : List Websocket.ParserCall → Bool
  | [] => true
  | call :: calls =>
      let handler := handleRequest outside.dump config client.controller outside.parse call
      if hangsUp outside.parse call || client.answerCutOff kind outside handler then calls.all (fun later => !isText later)
      else (client.run kind outside handler).lastWord calls

-- A connection that is shut down is not read.
def Parted (client : Client) : Event → Prop
  | .read (.data chunk) =>
      client.conn.isShutdown = false → client.state = .websocket →
        { client with websocketParser := client.websocketParser.parse chunk }.lastWord kind outside config
          (newCalls client.websocketParser chunk) = true
  | _ => True

theorem write_closed (conn : Output.Connection) (socket : Output.Socket) (data : Bytes) (closed : conn.isShutdown = true) :
    (conn.write kind socket data).1 = conn := by
  rw [Output.Connection.write, if_pos closed]

theorem write_all_closed (log : List Entry) (conn : Output.Connection) (place : Nat) (parts : List Bytes)
    (closed : conn.isShutdown = true) : writeAll kind outside log conn place parts = conn := by
  induction parts generalizing place with
  | nil => rfl
  | cons data rest ih =>
      rw [writeAll, write_closed kind conn _ data closed]
      exact ih (place + 1)

theorem perform_closed (client : Client) (command : Command) (closed : client.conn.isShutdown = true) :
    (client.perform kind outside command).1.conn.isShutdown = true := by
  change (client.apply kind outside command).conn.isShutdown = true
  cases command with
  | write data => rwa [Client.apply, write_all_closed kind outside _ _ _ _ closed]
  | sendData data frameType => rwa [Client.apply, write_all_closed kind outside _ _ _ _ closed]
  | shutdown => rfl
  | shutdownAfterFlush =>
      rw [Client.apply, Output.Connection.shutdownAfterFlush]
      split
      · rfl
      · exact closed
  | subscribe topicPattern id =>
      rw [Client.apply]
      split <;> exact closed
  | _ => exact closed

theorem run_closed (client : Client) (handler : Handler Unit) (closed : client.conn.isShutdown = true) :
    (client.run kind outside handler).conn.isShutdown = true :=
  Client.run_keeps kind outside (fun _ => True) (fun client => client.conn.isShutdown = true)
    (fun client command closed _ => perform_closed kind outside client command closed) (fun _ closed => closed) client handler closed
    (Program.uses_all handler)

theorem calls_closed (client : Client) (calls : List Websocket.ParserCall) (closed : client.conn.isShutdown = true) :
    (client.handleCalls kind outside config calls).conn.isShutdown = true := by
  induction calls generalizing client with
  | nil => exact closed
  | cons call calls ih =>
      rw [Client.handleCalls]
      split
      · exact ih _ (run_closed kind outside client _ closed)
      · exact closed

theorem step_closed (client : Client) (event : Event) (closed : client.conn.isShutdown = true) :
    (client.step kind outside config event).conn.isShutdown = true ∧ (client.step kind outside config event).log = client.log := by
  unfold Client.step
  split
  · exact ⟨closed, rfl⟩
  · cases event with
    | read received =>
        dsimp only
        exact ⟨closed, rfl⟩
    | flushSendBuffer socket => exact ⟨((Output.flush_send_buffer kind socket client.conn).closed closed).1, rfl⟩
    | shutdown => exact ⟨rfl, rfl⟩
    | write data socket =>
        dsimp only
        rw [write_closed kind client.conn socket data closed]
        exact ⟨closed, rfl⟩

theorem events_closed (client : Client) (events : List Event) (closed : client.conn.isShutdown = true) :
    (events.foldl (Client.step kind outside config) client).log = client.log := by
  induction events generalizing client with
  | nil => rfl
  | cons event events ih =>
      obtain ⟨still, same⟩ := step_closed kind outside config client event closed
      exact (ih _ still).trans same

theorem quiet_refl (client : Client) : QuietSince client client := ⟨[], (List.append_nil _).symm, fun _ inside => absurd inside List.not_mem_nil⟩

theorem quiet_trans (first middle last : Client) (before : QuietSince first middle) (after : QuietSince middle last) :
    QuietSince first last := by
  obtain ⟨added, grown, harmless⟩ := before
  obtain ⟨more, longer, alsoHarmless⟩ := after
  refine ⟨added ++ more, by rw [longer, grown, List.append_assoc], fun entry inside => ?_⟩
  exact (List.mem_append.mp inside).elim (harmless entry) (alsoHarmless entry)

theorem not_quiet (earlier later : Client) (active : (later.log.drop earlier.log.length).any Entry.executed = true) :
    ¬ QuietSince earlier later := by
  rintro ⟨added, grown, harmless⟩
  rw [grown, List.drop_left, List.any_eq_true] at active
  obtain ⟨entry, inside, executed⟩ := active
  exact Bool.noConfusion ((harmless entry inside).symm.trans executed)

theorem quiet_run (client : Client) (handler : Handler Unit) (uses : handler.Uses (fun command => executes command = false)) :
    QuietSince client (client.run kind outside handler) := by
  refine Client.run_keeps kind outside _ (QuietSince client) (fun later command quiet harmless => ?_) (fun _ quiet => quiet) client handler
    (quiet_refl client) uses
  exact quiet_trans client later _ quiet ⟨[.performed command], rfl, List.forall_mem_singleton.mpr harmless⟩

theorem quiet_call (client : Client) (call : Websocket.ParserCall) (other : isText call = false) :
    QuietSince client (client.run kind outside (handleRequest outside.dump config client.controller outside.parse call)) := by
  refine quiet_run kind outside client _ ?_
  unfold handleRequest
  split
  · rename_i ok
    split
    · rename_i text
      rw [isText, ok, text] at other
      cases other
    · exact Program.uses_perform _ _ rfl
    · exact Program.uses_perform _ _ rfl
    · trivial
  · exact uses_ask_bind _ _ _ rfl (fun _ => Program.uses_perform _ _ rfl)

theorem quiet_calls (client : Client) (calls : List Websocket.ParserCall) (others : ∀ call ∈ calls, isText call = false) :
    QuietSince client (client.handleCalls kind outside config calls) := by
  induction calls generalizing client with
  | nil => exact quiet_refl client
  | cons call calls ih =>
      rw [List.forall_mem_cons] at others
      rw [Client.handleCalls]
      split
      · exact quiet_trans client _ _ (quiet_call kind outside config client call others.1) (ih _ others.2)
      · exact quiet_refl client

theorem open_writes (log : List Entry) (conn : Output.Connection) (place : Nat) (parts : List Bytes) (opened : conn.isShutdown = false)
    (whole : writeCutOff kind outside log conn place parts = false) : (writeAll kind outside log conn place parts).isShutdown = false := by
  induction parts generalizing conn place with
  | nil => exact opened
  | cons data rest ih =>
      obtain ⟨first, later⟩ := Bool.or_eq_false_iff.mp whole
      exact ih _ _ (Output.open_write kind _ conn data opened first) later

theorem open_perform (client : Client) (command : Command) (opened : client.conn.isShutdown = false) (stays : command ≠ .shutdown)
    (whole : client.cutOff kind outside command = false) : (client.perform kind outside command).1.conn.isShutdown = false := by
  change (client.apply kind outside command).conn.isShutdown = false
  cases command with
  | write data => exact open_writes kind outside client.log client.conn 0 _ opened whole
  | sendData data frameType => exact open_writes kind outside client.log client.conn 0 _ opened whole
  | shutdown => exact absurd rfl stays
  | shutdownAfterFlush =>
      have waiting : client.conn.writeBuffer.isEmpty = false := whole
      rw [Client.apply, Output.Connection.shutdownAfterFlush, waiting]
      exact opened
  | subscribe topicPattern id =>
      rw [Client.apply]
      split <;> exact opened
  | _ => exact opened

theorem open_run (client : Client) (handler : Handler Unit) (opened : client.conn.isShutdown = false) (uses : handler.Uses (· ≠ .shutdown))
    (whole : client.answerCutOff kind outside handler = false) : (client.run kind outside handler).conn.isShutdown = false := by
  induction handler generalizing client with
  | done result => cases result <;> exact opened
  | call command next ih =>
      obtain ⟨first, later⟩ := Bool.or_eq_false_iff.mp whole
      exact ih _ _ (open_perform kind outside client command opened uses.1 first) (uses.2 _) later

theorem open_call (client : Client) (call : Websocket.ParserCall) (opened : client.conn.isShutdown = false)
    (stays : hangsUp outside.parse call = false)
    (whole : client.answerCutOff kind outside (handleRequest outside.dump config client.controller outside.parse call) = false) :
    (client.run kind outside (handleRequest outside.dump config client.controller outside.parse call)).conn.isShutdown = false := by
  refine open_run kind outside client _ opened ?_ whole
  refine uses_request outside.dump config client.controller _ outside.parse call (fun command checked => ?_)
    (fun hangs => Bool.noConfusion (stays.symm.trans hangs))
  rintro rfl
  exact checked

-- By the frames that have been handled: the first that shuts the connection
-- down is one behind which the condition allows no text message.
theorem parted_calls (client : Client) (calls : List Websocket.ParserCall) (handled : Nat) (opened : client.conn.isShutdown = false)
    (last : client.lastWord kind outside config calls = true)
    (closed : (client.handleCalls kind outside config (calls.take handled)).conn.isShutdown = true) :
    ∀ call ∈ calls.drop handled, isText call = false := by
  induction calls generalizing client handled with
  | nil =>
      rw [List.drop_nil]
      exact fun _ inside => absurd inside List.not_mem_nil
  | cons call calls ih =>
      cases handled with
      | zero => exact Bool.noConfusion (opened.symm.trans closed)
      | succ handled =>
          rw [List.take_succ_cons, Client.handleCalls] at closed
          rw [Client.lastWord] at last
          split at closed
          · split at last
            · intro later inside
              have other := List.all_eq_true.mp last later (List.mem_of_mem_drop inside)
              simpa using other
            · rename_i whole
              obtain ⟨stays, answered⟩ := Bool.or_eq_false_iff.mp (Bool.eq_false_iff.mpr whole)
              exact ih _ handled (open_call kind outside config client call opened stays answered) last closed
          · exact Bool.noConfusion (opened.symm.trans closed)

theorem handle_calls_append (client : Client) (first second : List Websocket.ParserCall) :
    client.handleCalls kind outside config (first ++ second) =
      (client.handleCalls kind outside config first).handleCalls kind outside config second := by
  induction first generalizing client with
  | nil => rfl
  | cons call calls ih =>
      rw [List.cons_append, Client.handleCalls, Client.handleCalls]
      by_cases alive : client.alive = true
      · rw [if_pos alive, if_pos alive]
        exact ih _
      · rw [if_neg alive, if_neg alive]
        cases second with
        | nil => rfl
        | cons later rest => rw [Client.handleCalls, if_neg alive]

-- The rest of the read behind the frames that have been handled.
theorem step_amid (client : Client) (chunk : Bytes) (handled : Nat) (alive : client.alive = true) (opened : client.conn.isShutdown = false)
    (websocket : client.state = .websocket) :
    client.step kind outside config (.read (.data chunk)) =
      (client.amid kind outside config chunk handled).handleCalls kind outside config
        ((newCalls client.websocketParser chunk).drop handled) := by
  rw [Client.amid, ← handle_calls_append, List.take_append_drop]
  simp only [Client.step, Client.read, Client.parseRequest, alive, opened, websocket, Bool.not_true, Bool.false_eq_true, if_false]

end

theorem run_parser_kept (kind : Output.Class) (outside : Outside) (client : Client) (handler : Handler Unit) :
    (client.run kind outside handler).websocketParser = client.websocketParser := by
  refine Client.run_keeps kind outside (fun _ => True) (fun later => later.websocketParser = client.websocketParser) ?_ (fun _ same => same)
    client handler rfl (Program.uses_all handler)
  intro later command same _
  change (later.apply kind outside command).websocketParser = _
  cases command with
  | subscribe topicPattern id =>
      rw [Client.apply]
      split <;> exact same
  | _ => exact same

theorem path_parser_kept (kind : Output.Class) (outside : Outside) (config : Config) (client : Client) :
    (client.handlePath kind outside config).websocketParser = client.websocketParser := by
  have taken := path_taken kind outside config client
  generalize client.handlePath kind outside config = after at taken ⊢
  cases taken with
  | answered response checked => exact run_parser_kept kind outside _ _
  | killed decoded => rfl
  | authenticated decoded controller verdict response done checked => exact run_parser_kept kind outside _ _

theorem http_parser_kept (kind : Output.Class) (outside : Outside) (config : Config) (client : Client) (chunk : Bytes)
    (http : client.state = .http) :
    (client.step kind outside config (.read (.data chunk))).websocketParser = client.websocketParser := by
  unfold Client.step
  split
  · rfl
  · dsimp only
    split
    · rfl
    · rw [Client.read, Client.parseRequest, http]
      dsimp only
      cases (client.httpParser.parse outside.phrParseRequest chunk).2 with
      | reqIncomplete => rfl
      | reqOk => exact path_parser_kept kind outside config _
      | reqToBig => exact run_parser_kept kind outside _ _
      | reqFailed => exact run_parser_kept kind outside _ _

def publishJson : Json :=
  .object [(str "id", .integer 1), (str "jsonrpc", .string (str "2.0")), (str "method", .string (str "publish")),
    (str "params", .object [(str "message", .string (str "m")), (str "topic", .string (str "a"))])]

def publishFrame : Bytes := [0x81, .ofNat publishJson.text.length] ++ publishJson.text

def closeFrame : Bytes := [0x88, 0x00]

def published (chunks : List Bytes) : List Event := (upgradeRequest writeToken :: chunks).map (fun chunk => .read (.data chunk))

def publisher (chunks : List Bytes) : Client :=
  (published chunks).foldl (Client.step .connection (.idle [publishJson]) sampleConfig) (Client.connect sampleConfig sampleParser)

theorem close_hangs_up (kind : Output.Class) (outside : Outside) (config : Config) (client : Client) (alive : client.alive = true)
    (websocketParser : Websocket.Parser) :
    ({ client with websocketParser := websocketParser }.handleCalls kind outside config [⟨.parserOk, .closeFrame, []⟩]).conn.isShutdown =
      true := by
  rw [Client.handleCalls, if_pos alive]
  rfl

theorem calls_within (turns : Nat) (chunk : Bytes) (calls : List Websocket.ParserCall)
    (within : (Websocket.executeWithin Websocket.parserCallbacks turns ⟨sampleParser.wsParser, sampleParser.data, chunk⟩).map
      (fun done => done.2.data.calls) = some calls) : newCalls sampleParser chunk = calls := by
  obtain ⟨done, executed, same⟩ := Option.map_eq_some_iff.mp within
  rw [newCalls, Websocket.Parser.parse, Websocket.Parser.execute, Websocket.execute_within _ _ _ _ executed]
  exact same

theorem close_calls : newCalls sampleParser closeFrame = [⟨.parserOk, .closeFrame, []⟩] := calls_within 2 _ _ (by decide +kernel)

theorem close_publish_calls : newCalls sampleParser (closeFrame ++ publishFrame) =
    [⟨.parserOk, .closeFrame, []⟩, ⟨.parserOk, .textFrame, publishJson.text⟩] := calls_within 5 _ _ (by decide +kernel)

theorem publisher_upgraded : (publisher []).alive = true ∧ (publisher []).conn.isShutdown = false ∧ (publisher []).state = .websocket := by
  decide +kernel

theorem publisher_nil : publisher [] =
    (Client.connect sampleConfig sampleParser).step .connection (.idle [publishJson]) sampleConfig (.read (.data (upgradeRequest writeToken))) := by
  rw [publisher, published, List.map_cons, List.map_nil, List.foldl_cons, List.foldl_nil]

theorem publisher_parser_fresh : (publisher []).websocketParser = sampleParser := by
  rw [publisher_nil, http_parser_kept _ _ _ _ _ rfl]
  rfl

end Eventhub.Session
