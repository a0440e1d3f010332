import Eventhub.Connection.Stream
import Eventhub.Websocket.RoundTrip

set_option autoImplicit false

namespace Eventhub.Wire

open Output Websocket

def offers : Output.Event → Bytes
  | .write data _ => data
  | _ => []

-- A refused write closes the connection, so nothing is left out in the middle.
structure Offered (world : World) (offered : Bytes) : Prop where
  initial : world.written <+: offered
  whole : world.conn.isShutdown = false → world.written = offered

section

variable {world after : World} {offered : Bytes} (held : Offered world offered)

include held

theorem offered_closed (more : Bytes) (same : after.written = world.written) (closed : after.conn.isShutdown = true) :
    Offered after (offered ++ more) :=
  ⟨same ▸ held.initial.trans (List.prefix_append _ _), fun living => Bool.noConfusion (closed.symm.trans living)⟩

theorem offered_kept (same : after.written = world.written)
    (opened : after.conn.isShutdown = false → world.conn.isShutdown = false) : Offered after (offered ++ []) := by
  rw [List.append_nil]
  exact ⟨same ▸ held.initial, fun living => same.trans (held.whole (opened living))⟩

theorem offered_step (kind : Output.Class) (event : Output.Event) :
    Offered (world.step kind event) (offered ++ offers event) := by
  cases event with
  | write data socket =>
      cases accepts : world.conn.accepts data with
      | false =>
          have closed := (refused_write kind socket world.conn data accepts).1
          exact offered_closed held data (by simp [World.step, accepts]) closed
      | true =>
          have living : world.conn.isShutdown = false := by
            simpa using (Bool.and_eq_true_iff.mp accepts).1
          have appended : (world.step kind (.write data socket)).written = offered ++ data := by
            simp [World.step, accepts, held.whole living]
          exact ⟨appended ▸ List.prefix_refl _, fun _ => appended⟩
  | flushSendBuffer socket =>
      refine offered_kept held rfl (fun living => ?_)
      cases closed : world.conn.isShutdown with
      | false => rfl
      | true => exact Bool.noConfusion (((flush_send_buffer kind socket world.conn).closed closed).1.symm.trans living)
  | shutdownAfterFlush =>
      refine offered_kept held rfl (fun living => ?_)
      change world.conn.shutdownAfterFlush.isShutdown = false at living
      unfold Connection.shutdownAfterFlush at living
      split at living
      · cases living
      · exact living
  | shutdown => exact offered_closed held [] rfl rfl

end

theorem offered_run (kind : Output.Class) (events : List Output.Event) (world : World) (offered : Bytes) (held : Offered world offered)
    (intact : StreamIntact world) :
    Offered (events.foldl (World.step kind) world) (offered ++ events.flatMap offers) ∧
      StreamIntact (events.foldl (World.step kind) world) := by
  induction events generalizing world offered with
  | nil => exact ⟨by simpa using held, intact⟩
  | cons event events ih =>
      rw [List.foldl_cons, List.flatMap_cons, ← List.append_assoc]
      exact ih _ _ (offered_step held kind event) (intact_step kind world event intact)

-- What happens on a connection once the handshake's response is written. A
-- message goes out in one write for each of its fragments, and the socket may
-- answer each of them differently.
inductive Event where
  | sendData (call : SendCall) (sockets : Nat → Socket)
  | flushSendBuffer (socket : Socket)
  | shutdownAfterFlush
  | shutdown

def Event.calls (order : ByteOrder) : Event → List Output.Event
  | .sendData call sockets =>
      (Websocket.sendData order call.stack call.data call.frameType).zipIdx.map (fun entry => .write entry.1 (sockets entry.2))
  | .flushSendBuffer socket => [.flushSendBuffer socket]
  | .shutdownAfterFlush => [.shutdownAfterFlush]
  | .shutdown => [.shutdown]

def Event.sent : Event → List SendCall
  | .sendData call _ => [call]
  | _ => []

def upgraded (kind : Output.Class) (order : ByteOrder) (response : Bytes) (socket : Socket) (events : List Event) : World :=
  (events.flatMap (Event.calls order)).foldl (World.step kind) (World.start.step kind (.write response socket))

def received (world : World) (response : Bytes) : Bytes := world.handedOver.drop response.length

theorem event_offers (order : ByteOrder) (event : Event) :
    (event.calls order).flatMap offers = event.sent.flatMap (SendCall.written order) := by
  cases event with
  | sendData call sockets =>
      have fragments : offers ∘ (fun entry : Bytes × Nat => Output.Event.write entry.1 (sockets entry.2)) = Prod.fst := rfl
      simp only [Event.calls, Event.sent, List.flatMap_singleton, SendCall.written]
      rw [List.flatMap_def, List.map_map, fragments, List.zipIdx_map_fst]
  | flushSendBuffer socket => rfl
  | shutdownAfterFlush => rfl
  | shutdown => rfl

theorem events_offer (order : ByteOrder) (events : List Event) :
    (events.flatMap (Event.calls order)).flatMap offers = (events.flatMap Event.sent).flatMap (SendCall.written order) := by
  simp only [List.flatMap_assoc, event_offers]

section

variable (kind : Output.Class) (order : ByteOrder) (response : Bytes) (socket : Socket) (events : List Event)

theorem upgraded_offered :
    Offered (upgraded kind order response socket events)
        (response ++ (events.flatMap Event.sent).flatMap (SendCall.written order)) ∧
      StreamIntact (upgraded kind order response socket events) := by
  have initial : StreamIntact World.start :=
    ⟨fun _ => rfl, List.nil_prefix, Nat.zero_le _, fun _ waiting => absurd rfl waiting⟩
  have opened : Offered World.start [] := ⟨List.nil_prefix, fun _ => rfl⟩
  rw [← events_offer]
  exact offered_run kind (events.flatMap (Event.calls order)) _ response (offered_step opened kind (.write response socket))
    (intact_step kind World.start (.write response socket) initial)

theorem received_initial :
    received (upgraded kind order response socket events) response <+:
      (events.flatMap Event.sent).flatMap (SendCall.written order) := by
  obtain ⟨offered, intact⟩ := upgraded_offered kind order response socket events
  have whole := (intact.initial.trans offered.initial).drop response.length
  rwa [List.drop_left] at whole

theorem received_whole (living : (upgraded kind order response socket events).conn.isShutdown = false)
    (empty : (upgraded kind order response socket events).conn.writeBuffer = []) :
    received (upgraded kind order response socket events) response =
      (events.flatMap Event.sent).flatMap (SendCall.written order) := by
  obtain ⟨offered, intact⟩ := upgraded_offered kind order response socket events
  have drained := intact.whole living
  rw [empty, List.append_nil, offered.whole living] at drained
  rw [received, drained, List.drop_left]

end

theorem initial_decoded (order : ByteOrder) (calls : List SendCall) (permitted : ∀ call ∈ calls, call.Permitted)
    (lucky : ∀ call ∈ calls, ¬ call.LongTail) (parser : WsParser) (data : Delivery) (buff : Bytes) (state : parser.state = .opcode)
    (ready : parser.Ready) (initial : buff <+: calls.flatMap (SendCall.written order)) :
    (wsParserExecute deliveryCallbacks parser data buff).1 = wsOk ∧
      (wsParserExecute deliveryCallbacks parser data buff).2.data.delivered <+: data.delivered ++ calls.map SendCall.message ∧
      (buff = calls.flatMap (SendCall.written order) →
        (wsParserExecute deliveryCallbacks parser data buff).2.data.delivered = data.delivered ++ calls.map SendCall.message) := by
  obtain ⟨rest, whole⟩ := initial
  obtain ⟨closed, received, _, delivered, decoded⟩ := calls_decoded order calls permitted lucky parser data [] state
  rw [List.append_nil, execute_nil, ← whole, execute_append deliveryCallbacks delivery_streaming parser data buff rest ready] at decoded
  by_cases passed : (wsParserExecute deliveryCallbacks parser data buff).1 = wsOk
  · rw [if_pos passed] at decoded
    have grown := delivered_grows (wsParserExecute deliveryCallbacks parser data buff).2.parser
      (wsParserExecute deliveryCallbacks parser data buff).2.data rest
    refine ⟨passed, ?_, ?_⟩
    · rw [decoded] at grown
      exact delivered ▸ grown
    · intro complete
      have nothing : rest = [] := List.append_right_eq_self.mp (whole.trans complete.symm)
      rw [nothing, execute_nil] at decoded
      rw [← delivered]
      exact congrArg (fun executed => executed.2.data.delivered) decoded
  · rw [if_neg passed] at decoded
    exact absurd (congrArg Prod.fst decoded) passed

theorem initial_parsed (order : ByteOrder) (calls : List SendCall) (permitted : ∀ call ∈ calls, call.Permitted)
    (lucky : ∀ call ∈ calls, ¬ call.LongTail) (allocated : WsParser) (dataType controlType : FrameType) (chunks : List Bytes)
    (initial : chunks.flatten <+: calls.flatMap (SendCall.written order)) :
    ∃ parser data, parseStream (Parser.construct allocated dataType controlType) 0 chunks = .live parser data ∧
      okCalls data.calls <+: calls.map SendCall.message ∧
      (chunks.flatten = calls.flatMap (SendCall.written order) → okCalls data.calls = calls.map SendCall.message) := by
  have parsed := parse_stream_deliver (Parser.construct allocated dataType controlType) 0 chunks
    (construct_ready allocated dataType controlType)
  obtain ⟨passed, delivered, complete⟩ := initial_decoded order calls permitted lucky (Parser.construct allocated dataType controlType).wsParser
    (deliver (Parser.construct allocated dataType controlType).data) chunks.flatten rfl (construct_ready allocated dataType controlType) initial
  rw [runStream] at parsed
  rw [if_pos passed, runStream] at parsed
  cases ended : parseStream (Parser.construct allocated dataType controlType) 0 chunks with
  | failed rc offset data =>
      rw [ended] at parsed
      cases parsed
  | live parser data =>
      rw [ended] at parsed
      obtain ⟨_, reported⟩ := StreamEnd.live.inj parsed
      have calls_eq : okCalls data.calls = _ := congrArg Delivery.delivered reported
      exact ⟨parser, data, rfl, calls_eq ▸ delivered, fun whole => calls_eq.trans (complete whole)⟩

theorem client_reads_sent (kind : Output.Class) (order : ByteOrder) (response : Bytes) (socket : Socket) (events : List Event)
    (permitted : ∀ call ∈ events.flatMap Event.sent, call.Permitted) (lucky : ∀ call ∈ events.flatMap Event.sent, ¬ call.LongTail)
    (allocated : WsParser) (dataType controlType : FrameType) (chunks : List Bytes)
    (arrived : chunks.flatten <+: received (upgraded kind order response socket events) response) :
    ∃ parser data, parseStream (Parser.construct allocated dataType controlType) 0 chunks = .live parser data ∧
      okCalls data.calls <+: (events.flatMap Event.sent).map SendCall.message ∧
      ((upgraded kind order response socket events).conn.isShutdown = false →
        (upgraded kind order response socket events).conn.writeBuffer = [] →
        chunks.flatten = received (upgraded kind order response socket events) response →
        okCalls data.calls = (events.flatMap Event.sent).map SendCall.message) := by
  obtain ⟨parser, data, live, reported, complete⟩ := initial_parsed order (events.flatMap Event.sent) permitted lucky allocated dataType
    controlType chunks (arrived.trans (received_initial kind order response socket events))
  refine ⟨parser, data, live, reported, ?_⟩
  intro living empty whole
  exact complete (whole.trans (received_whole kind order response socket events living empty))

def delayedMessage : List Event :=
  [.sendData ⟨str "hi", .textFrame, fun _ _ => 0⟩ (fun _ => blockedSocket),
    .sendData ⟨[], .pingFrame, fun _ _ => 0⟩ (fun _ => blockedSocket), .flushSendBuffer wideSocket]

theorem delayed_message_read :
    ∃ parser data, parseStream (Parser.construct zeroedParser .textFrame .pingFrame) 0 [[0x81, 2], str "h", str "i" ++ [0x89, 0]] =
        .live parser data ∧
      okCalls data.calls = [(.textFrame, str "hi"), (.pingFrame, [])] := by
  obtain ⟨parser, data, live, _, complete⟩ := client_reads_sent .connection .littleEndian (str "101") wideSocket delayedMessage
    (by simp [delayedMessage, Event.sent, SendCall.Permitted, FrameType.isData, FrameType.isControl, maxDataFrameSize, str]) (by decide)
    zeroedParser .textFrame .pingFrame [[0x81, 2], str "h", str "i" ++ [0x89, 0]] (by decide +kernel)
  exact ⟨parser, data, live, complete (by decide +kernel) (by decide +kernel) (by decide +kernel)⟩

end Eventhub.Wire
