import Eventhub.Websocket.Response

set_option autoImplicit false

namespace Eventhub.Websocket

def RoundTrip (order : ByteOrder) (calls : List SendCall) (parser : Parser) : Prop :=
  let executed := parser.execute (calls.flatMap (SendCall.written order))
  executed.1 = wsOk ∧ executed.2.parser.state = .opcode ∧ okCalls executed.2.data.calls = calls.map SendCall.message

theorem round_trip_delivery (order : ByteOrder) (calls : List SendCall) (parser : Parser) :
    RoundTrip order calls parser ↔
      (wsParserExecute deliveryCallbacks parser.wsParser (deliver parser.data) (calls.flatMap (SendCall.written order))).1 = wsOk ∧
      (wsParserExecute deliveryCallbacks parser.wsParser (deliver parser.data)
        (calls.flatMap (SendCall.written order))).2.parser.state = .opcode ∧
      (wsParserExecute deliveryCallbacks parser.wsParser (deliver parser.data)
        (calls.flatMap (SendCall.written order))).2.data.delivered = calls.map SendCall.message := by
  rw [execute_map parserCallbacks deliveryCallbacks deliver deliver_maps]
  exact Iff.rfl

theorem calls_sequence (calls : List SendCall) (permitted : ∀ call ∈ calls, call.Permitted) :
    FrameSequence none (calls.flatMap SendCall.frames) (calls.map SendCall.message) none := by
  induction calls with
  | nil => exact .done none
  | cons call calls ih =>
      rw [List.forall_mem_cons] at permitted
      exact frame_sequence_append none none none _ _ [call.message] _ (frames_sequence call permitted.1) (ih permitted.2)

theorem calls_written (order : ByteOrder) (calls : List SendCall) (lucky : ∀ call ∈ calls, ¬ call.LongTail) :
    calls.flatMap (SendCall.written order) = (calls.flatMap SendCall.frames).flatMap Frame.serialize := by
  induction calls with
  | nil => rfl
  | cons call calls ih =>
      rw [List.forall_mem_cons] at lucky
      rw [List.flatMap_cons, List.flatMap_cons, List.flatMap_append, written_frames order call lucky.1, ih lucky.2]

theorem permitted_size (call : SendCall) (permitted : call.Permitted) : call.data.length ≤ maxDataFrameSize := by
  cases permitted with
  | inl data => exact Nat.le_of_lt data.2
  | inr control => exact Nat.le_trans control.2 (by decide)

theorem calls_decoded (order : ByteOrder) (calls : List SendCall) (permitted : ∀ call ∈ calls, call.Permitted)
    (lucky : ∀ call ∈ calls, ¬ call.LongTail) (parser : WsParser) (data : Delivery) (rest : Bytes) (state : parser.state = .opcode) :
    ∃ closed received, closed.state = .opcode ∧ received.delivered = data.delivered ++ calls.map SendCall.message ∧
      wsParserExecute deliveryCallbacks parser data (calls.flatMap (SendCall.written order) ++ rest) =
        wsParserExecute deliveryCallbacks closed received rest := by
  have sequence := calls_sequence calls permitted
  have within : ∀ message ∈ calls.map SendCall.message, message.2.length ≤ maxDataFrameSize := by
    intro message inside
    obtain ⟨call, member, rfl⟩ := List.mem_map.mp inside
    exact permitted_size call (permitted call member)
  have fits : ∀ frame ∈ calls.flatMap SendCall.frames, frame.payload.length < 2 ^ 64 := by
    intro frame inside
    have small := (frame_within_message maxDataFrameSize none none _ _ sequence rfl within).1 frame inside
    unfold maxDataFrameSize at small
    omega
  obtain ⟨closed, received, opcode, delivered, _, executed⟩ :=
    frames_decoded none none _ _ sequence fits parser data rest state (by simp [Awaiting])
  rw [calls_written order calls lucky]
  exact ⟨closed, received, opcode, delivered, executed⟩

theorem delivered_grows (parser : WsParser) (data : Delivery) (buff : Bytes) :
    data.delivered <+: (wsParserExecute deliveryCallbacks parser data buff).2.data.delivered := by
  apply execute_keeps deliveryCallbacks (fun later => data.delivered <+: later.delivered)
  · constructor
    · exact fun _ _ kept => kept
    · exact fun _ _ kept => kept
    · intro control _ _ kept
      cases control <;> exact kept
    · intro control _ kept
      cases control <;> exact kept.trans (List.prefix_append _ _)
  · exact List.prefix_refl _

theorem overlong_payload (parser : WsParser) (data : Delivery) (buff whole : Bytes) (frameType : FrameType)
    (others : List Message) (state : parser.state = .payload) (control : parser.control = false) (fin : parser.fin = true)
    (plain : parser.maskFlag = false) (pending : parser.bytesRemaining ≠ 0)
    (long : whole.length < data.dataPayloadBuf.length + parser.bytesRemaining)
    (opcode : (wsParserExecute deliveryCallbacks parser data buff).2.parser.state = .opcode) :
    (wsParserExecute deliveryCallbacks parser data buff).2.data.delivered ≠ data.delivered ++ (frameType, whole) :: others := by
  intro delivered
  by_cases short : buff.length < parser.bytesRemaining
  · have unfinished : (wsParserExecute deliveryCallbacks parser data buff).2.parser.state = .payload := by
      cases buff with
      | nil => rw [execute_nil, state]
      | cons cur rest =>
          rw [execute_cons, ws_turn_payload deliveryCallbacks parser data cur rest state,
            payload_turn_inside deliveryCallbacks delivery_streaming parser data (cur :: rest) short, WsTurn.resume, execute_nil]
          exact (advance_mask_state parser _).trans state
    rw [unfinished] at opcode
    cases opcode
  · have size : parser.bytesRemaining = (buff.take parser.bytesRemaining).length := by
      rw [List.length_take]
      omega
    obtain ⟨closed, _, _, executed⟩ := payload_closed parser data (buff.take parser.bytesRemaining)
      (buff.drop parser.bytesRemaining) state size
    rw [List.take_append_drop, close_if_empty_waits _ _ _ (fun empty => pending empty.2)] at executed
    have grown := delivered_grows closed (finishFrame parser.control parser.fin data
      (unmaskChunk parser (buff.take parser.bytesRemaining))) (buff.drop parser.bytesRemaining)
    rw [← executed, delivered] at grown
    simp only [finishFrame, control, fin, plain, unmaskChunk, WsCallbacks.onPayload, WsCallbacks.onEnd, deliveryCallbacks,
      Bool.or_true, if_true, Bool.false_eq_true, if_false, List.prefix_append_right_inj, List.cons_prefix_cons, Prod.mk.injEq] at grown
    have same := congrArg List.length grown.1.2
    rw [List.length_append, ← size] at same
    omega

theorem last_header (call : SendCall) (count : Nat) (isData : call.frameType.isData = true) (parser : WsParser) (data : Delivery)
    (rest : Bytes) (state : parser.state = .opcode)
    (awaiting : Awaiting (pendingChunks call.data call.frameType count) parser.fragment data) :
    ∃ opened received, opened.state = .length ∧ opened.control = false ∧ opened.fin = true ∧
      received.dataPayloadBuf = call.data.take (count * wsMaxChunkSize) ∧ received.delivered = data.delivered ∧
      wsParserExecute deliveryCallbacks parser data (opcodeByte true (chunkFrameType call.frameType count) :: rest) =
        wsParserExecute deliveryCallbacks opened received rest := by
  cases count with
  | zero =>
      refine ⟨_, _, rfl, rfl, rfl, ?_, ?_, data_header parser data true call.frameType rest state isData⟩
      · simp
      · rfl
  | succ count =>
      obtain ⟨fragment, _, payload⟩ := awaiting _ _ rfl
      exact ⟨_, data, rfl, rfl, rfl, payload, rfl, continuation_header parser data true rest state fragment⟩

theorem store_uint16_length (order : ByteOrder) (value : UInt16) : (storeUInt16 order value).length = 2 := by
  cases order <;> rfl

-- The eight length bytes are two of sz, four of the stack and the first two of
-- the fragment itself.
theorem long_fragment_split (order : ByteOrder) (stack : Fin 4 → UInt8) (fragment : Bytes) (frameType : FrameType)
    (long : 0xFFFF ≤ fragment.length) :
    ∃ lengthBytes, lengthBytes.length = 8 ∧ sendFragment order stack fragment frameType.code true =
      opcodeByte true frameType :: lengthByte false 127 :: (lengthBytes ++ fragment.drop 2) := by
  have first : (0x80 : UInt8) ||| (0xF &&& frameType.code) = opcodeByte true frameType := by cases frameType <;> rfl
  have tiny : ¬ fragment.length < 126 := by omega
  have medium : ¬ fragment.length < 0xFFFF := by omega
  refine ⟨storeUInt16 order (htonl order (UInt16.ofNat fragment.length).toUInt32).toUInt16 ++
    [stack 0, stack 1, stack 2, stack 3] ++ fragment.take 2, ?_, ?_⟩
  · have enough : min 2 fragment.length = 2 := by omega
    simp [store_uint16_length, enough]
  · have eight : lengthByte false 127 = 0x7F := rfl
    simp only [sendFragment, if_true, first, if_neg tiny, if_neg medium, eight, List.append_assoc, List.take_append_drop,
      List.cons_append, List.nil_append]

theorem long_tail_read (order : ByteOrder) (call : SendCall) (permitted : call.Permitted) (long : ¬ call.data.length < wsMaxChunkSize)
    (size : call.lastChunk.length = 0xFFFF) (parser : WsParser) (data : Delivery) (rest : Bytes) (state : parser.state = .opcode) :
    ∃ opened begun length after, opened.control = false ∧ opened.fin = true ∧ opened.maskFlag = false ∧
      begun.dataPayloadBuf = call.data.take ((call.nChunks - 1) * wsMaxChunkSize) ∧ begun.delivered = data.delivered ∧
      ReadLength64 opened begun length after (wsParserExecute deliveryCallbacks parser data (call.written order ++ rest)) := by
  have isData := permitted_short_or_data call permitted long
  have fits : ∀ frame ∈ call.chunkFrames (call.nChunks - 1), frame.payload.length < 2 ^ 64 := by
    intro frame inside
    obtain ⟨i, place, rfl⟩ := List.mem_map.mp inside
    rw [show (chunkFrame call.data call.frameType call.nChunks i).payload = dataChunk call.data call.nChunks i from rfl,
      chunk_size call i (List.mem_range.mp place)]
    decide
  obtain ⟨lengthBytes, eight, fragment⟩ := long_fragment_split order (call.stack (call.nChunks - 1)) call.lastChunk
    (chunkFrameType call.frameType (call.nChunks - 1)) (by omega)
  obtain ⟨closed, received, closedState, delivered, awaiting, chunks⟩ := frames_decoded none _ _ []
    (open_chunks call.data call.frameType call.nChunks (call.nChunks - 1) isData (Nat.le_refl _)) fits parser data
    (opcodeByte true (chunkFrameType call.frameType (call.nChunks - 1)) :: lengthByte false 127 ::
      (lengthBytes ++ (call.lastChunk.drop 2 ++ rest))) state (by simp [Awaiting])
  obtain ⟨opened, begun, openedState, control, fin, payload, kept, header⟩ := last_header call (call.nChunks - 1) isData closed
    received (lengthByte false 127 :: (lengthBytes ++ (call.lastChunk.drop 2 ++ rest))) closedState awaiting
  have length := length_step opened begun false 127 (lengthBytes ++ (call.lastChunk.drop 2 ++ rest)) openedState (by decide)
    (by simp [control])
  rw [close_if_empty_waits _ _ _ (by simp [takeLength, control])] at length
  have executed : wsParserExecute deliveryCallbacks parser data (call.written order ++ rest) =
      wsParserExecute deliveryCallbacks (takeLength { opened with maskFlag := false, maskPos := 0 } 127) begun
        (lengthBytes ++ (call.lastChunk.drop 2 ++ rest)) := by
    rw [written_long order call long, fragment, ← length, ← header, ← chunks]
    simp only [SendCall.chunkFrames, List.append_assoc, List.cons_append]
  rw [executed, ← (List.append_nil data.delivered), ← delivered, ← kept]
  exact ⟨_, begun, _, _, by simp [takeLength, control], by simp [takeLength, control, fin], by simp [takeLength, control], payload, rfl,
    length64_steps _ begun lengthBytes _ (by simp [takeLength, control]) eight⟩

theorem long_tail_breaks (order : ByteOrder) (call : SendCall) (permitted : call.Permitted) (tail : call.LongTail)
    (parser : WsParser) (data : Delivery) (rest : Bytes) (others : List Message) (state : parser.state = .opcode)
    (passed : (wsParserExecute deliveryCallbacks parser data (call.written order ++ rest)).1 = wsOk)
    (opcode : (wsParserExecute deliveryCallbacks parser data (call.written order ++ rest)).2.parser.state = .opcode) :
    (wsParserExecute deliveryCallbacks parser data (call.written order ++ rest)).2.data.delivered ≠
      data.delivered ++ call.message :: others := by
  have long : ¬ call.data.length < wsMaxChunkSize := Nat.not_lt.mpr tail.1
  have size : call.lastChunk.length = 0xFFFF := by
    rw [last_chunk_size call long, tail.2]
    rfl
  obtain ⟨opened, begun, length, after, control, fin, plain, payload, kept, read⟩ :=
    long_tail_read order call permitted long size parser data rest state
  unfold ReadLength64 at read
  split at read
  · rw [read.1] at passed
    cases passed
  · rename_i enough
    have whole : call.data.length = (call.nChunks - 1) * wsMaxChunkSize + 0xFFFF := by
      rw [SendCall.lastChunk, List.length_drop] at size
      omega
    have buffered : begun.dataPayloadBuf.length = (call.nChunks - 1) * wsMaxChunkSize := by
      rw [payload, List.length_take]
      omega
    rw [read] at opcode ⊢
    rw [← kept]
    exact overlong_payload _ begun _ call.data call.frameType others (by simp [bodyState, plain]) control fin plain
      (show length ≠ 0 by omega) (show call.data.length < _ + length by omega) opcode

theorem round_trip_iff (order : ByteOrder) (calls : List SendCall) (permitted : ∀ call ∈ calls, call.Permitted)
    (allocated : WsParser) (dataType controlType : FrameType) :
    RoundTrip order calls (Parser.construct allocated dataType controlType) ↔ ∀ call ∈ calls, ¬ call.LongTail := by
  rw [round_trip_delivery]
  constructor
  · rintro ⟨passed, opcode, delivered⟩
    by_contra unlucky
    cases found : calls.find? (fun call => call.LongTail) with
    | none =>
        rw [List.find?_eq_none] at found
        exact unlucky (by simpa using found)
    | some call =>
        obtain ⟨tail, before, after, rfl, lucky⟩ := List.find?_eq_some_iff_append.mp found
        rw [List.forall_mem_append, List.forall_mem_cons] at permitted
        obtain ⟨closed, received, closedState, prefixed, decoded⟩ := calls_decoded order before permitted.1 (by simpa using lucky)
          (Parser.construct allocated dataType controlType).wsParser (deliver (Parser.construct allocated dataType controlType).data)
          ((call :: after).flatMap (SendCall.written order)) rfl
        rw [List.flatMap_append, decoded, List.flatMap_cons] at passed opcode delivered
        apply long_tail_breaks order call permitted.2.1 (by simpa using tail) closed received
          (after.flatMap (SendCall.written order)) (after.map SendCall.message) closedState passed opcode
        rw [delivered, prefixed]
        simp [Parser.construct, deliver, okCalls]
  · intro lucky
    obtain ⟨closed, received, closedState, delivered, decoded⟩ := calls_decoded order calls permitted lucky
      (Parser.construct allocated dataType controlType).wsParser (deliver (Parser.construct allocated dataType controlType).data)
      [] rfl
    rw [List.append_nil, execute_nil] at decoded
    rw [decoded]
    exact ⟨rfl, closedState, by simpa [Parser.construct, deliver, okCalls] using delivered⟩

theorem text_and_ping_round_trip :
    RoundTrip .littleEndian [⟨[0x68, 0x69], .textFrame, fun _ _ => 0⟩, ⟨[], .pingFrame, fun _ _ => 0⟩]
      (Parser.construct zeroedParser .binaryFrame .closeFrame) := by
  refine (round_trip_iff .littleEndian _ ?_ zeroedParser .binaryFrame .closeFrame).mpr (by decide)
  simp [SendCall.Permitted, FrameType.isData, FrameType.isControl, maxDataFrameSize]

def longTailText : SendCall := ⟨List.replicate 65535 0x61, .textFrame, fun _ _ => 0⟩

theorem long_tail_text_lost :
    longTailText.Permitted ∧ ¬ RoundTrip .littleEndian [longTailText] (Parser.construct zeroedParser .textFrame .pingFrame) := by
  have size : longTailText.data.length = 65535 := List.length_replicate
  have permitted : longTailText.Permitted := .inl ⟨rfl, by rw [size]; decide⟩
  have tail : longTailText.LongTail := by
    rw [SendCall.LongTail, size]
    decide
  refine ⟨permitted, fun trip => ?_⟩
  obtain ⟨passed, opcode, delivered⟩ := (round_trip_delivery _ _ _).mp trip
  exact long_tail_breaks .littleEndian longTailText permitted tail _ _ [] [] rfl passed opcode delivered

end Eventhub.Websocket
