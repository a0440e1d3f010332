import Eventhub.Session.System
import Eventhub.Websocket.Ping

set_option autoImplicit false

namespace Eventhub.Session

open Transition Websocket

-- A PING frame on the wire, with the payload as it is sent.
def pingBytes (key : Option (Fin 4 → UInt8)) (raw : Bytes) : Bytes :=
  match key with
  | none => [0x89, UInt8.ofNat raw.length] ++ raw
  | some key => [0x89, UInt8.ofNat (128 + raw.length), key 0, key 1, key 2, key 3] ++ raw

def unmasked (key : Option (Fin 4 → UInt8)) (raw : Bytes) : Bytes :=
  match key with
  | none => raw
  | some key => unmask key 0 raw

theorem unmasked_length (key : Option (Fin 4 → UInt8)) (raw : Bytes) : (unmasked key raw).length = raw.length := by
  cases key with
  | none => rfl
  | some key => exact unmask_length key 0 raw

theorem mask_unmasked (key : Fin 4 → UInt8) (raw : Bytes) : maskPayload key (unmask key 0 raw) = raw := by
  have same (bytes : Bytes) : unmask key 0 bytes = maskPayload key bytes := by
    have mapped := unmask_eq_map key 0 bytes
    simp only [Nat.zero_add] at mapped
    exact mapped
  rw [same, ← same (maskPayload key raw), unmask_masked]

theorem ping_bytes_serialize (key : Option (Fin 4 → UInt8)) (raw : Bytes) (short : raw.length ≤ 125) :
    pingBytes key raw = (Frame.mk true .pingFrame key (unmasked key raw)).serialize := by
  have tiny : raw.length < 126 := by omega
  have first : opcodeByte true .pingFrame = 0x89 := by decide
  cases key with
  | none => simp [pingBytes, unmasked, Frame.serialize, Frame.body, lengthCode, extendedLength, tiny, lengthByte, first]
  | some key =>
      simp [pingBytes, unmasked, Frame.serialize, Frame.body, lengthCode, extendedLength, unmask_length, tiny, lengthByte, first,
        mask_unmasked]

def pongFrame (payload : Bytes) : Frame := ⟨true, .pongFrame, none, payload⟩

section

variable (kind : Output.Class) (outside : Outside) (config : Config)

theorem pong_written (client : Client) (payload : Bytes) (short : payload.length ≤ 125) :
    client.run kind outside (handleRequest outside.dump config client.controller outside.parse ⟨.parserOk, .pingFrame, payload⟩) =
      { client with
        conn := (client.conn.write kind (outside.socket client.log 0) (pongFrame payload).serialize).1
        log := client.log ++ [.performed (.sendData payload .pongFrame)] } := by
  have chunk : payload.length < wsMaxChunkSize := Nat.lt_of_le_of_lt short (by decide)
  have whole : Websocket.sendData outside.order (outside.stack client.log) payload .pongFrame = [(pongFrame payload).serialize] := by
    rw [Websocket.send_data_short _ _ _ _ chunk, send_fragment_serialize _ _ _ _ _ (by omega)]
    rfl
  have applied : client.apply kind outside (.sendData payload .pongFrame) =
      { client with conn := (client.conn.write kind (outside.socket client.log 0) (pongFrame payload).serialize).1 } := by
    rw [Client.apply, whole]
    rfl
  change { client.apply kind outside (.sendData payload .pongFrame) with
    log := client.log ++ [Entry.performed (.sendData payload .pongFrame)] } = _
  rw [applied]

theorem pong_decodes (allocated : WsParser) (dataType controlType : FrameType) (payload : Bytes) (short : payload.length ≤ 125)
    (chunks : List Bytes) (wire : chunks.flatten = (pongFrame payload).serialize) :
    (parseStream (.construct allocated dataType controlType) 0 chunks).Delivers [(.pongFrame, payload)] := by
  apply parse_delivers_messages allocated dataType controlType [pongFrame payload] [(.pongFrame, payload)]
    (.control none none _ [] [] rfl rfl short (.done none))
  · intro message mem
    rw [List.mem_singleton.mp mem]
    exact Nat.le_trans short (by decide)
  · rw [wire]
    simp

end

-- HandleRequest makes one call of Connection::write, with one whole frame that
-- every receiver decodes to the payload.
def Echoed (payload : Bytes) : Prop :=
  (∀ (kind : Output.Class) (outside : Outside) (config : Config) (client : Client),
    client.run kind outside (handleRequest outside.dump config client.controller outside.parse ⟨.parserOk, .pingFrame, payload⟩) =
      { client with
        conn := (client.conn.write kind (outside.socket client.log 0) (pongFrame payload).serialize).1
        log := client.log ++ [.performed (.sendData payload .pongFrame)] }) ∧
  ∀ (allocated : WsParser) (dataType controlType : FrameType) (chunks : List Bytes), chunks.flatten = (pongFrame payload).serialize →
    (parseStream (.construct allocated dataType controlType) 0 chunks).Delivers [(.pongFrame, payload)]

theorem ping_echoed (allocated : WsParser) (dataType controlType : FrameType) :
    (∀ reads reading, Run (fun before read after => Reading.step before read = some after)
        (.start (.construct allocated dataType controlType)) reads reading →
      reading.run.data.1.controlPayloadBuf.length ≤ 125 ∧
        ∀ call ∈ reading.run.data.1.calls, call.status ≠ .maxControlFrameSizeExceeded) ∧
    ∀ (earlier later raw : Bytes) (key : Option (Fin 4 → UInt8)) (chunks others : List Bytes),
      Boundary (.construct allocated dataType controlType) earlier → raw.length ≤ 125 →
      chunks.flatten = earlier ++ (pingBytes key raw ++ later) → others.flatten = earlier ++ later →
      ((parseStream (.construct allocated dataType controlType) 0 chunks).failure =
          (parseStream (.construct allocated dataType controlType) 0 others).failure ∧
        ∃ after, (parseStream (.construct allocated dataType controlType) 0 chunks).messages =
            okCalls ((Parser.construct allocated dataType controlType).parse earlier).data.calls ++ (.pingFrame, unmasked key raw) :: after ∧
          (parseStream (.construct allocated dataType controlType) 0 others).messages =
            okCalls ((Parser.construct allocated dataType controlType).parse earlier).data.calls ++ after) ∧
      Echoed (unmasked key raw) := by
  constructor
  · intro reads reading run
    have sized : ControlSized reading.run.parser reading.run.data.1 := run_invariant _
      (fun _ reading => ControlSized reading.run.parser reading.run.data.1) _ (start_control_sized allocated dataType controlType)
      (fun _ read before after held taken => read_control_sized before after read held taken) reads reading run
    exact ⟨sized.small, sized.quiet⟩
  · intro earlier later raw key chunks others boundary short whole without
    have size : (unmasked key raw).length ≤ 125 := by rwa [unmasked_length]
    rw [ping_bytes_serialize key raw short] at whole
    constructor
    · exact ping_transparent (.construct allocated dataType controlType) earlier later ⟨true, .pingFrame, key, unmasked key raw⟩ chunks others
        (construct_ready _ _ _) boundary rfl rfl size whole without
    · exact ⟨fun kind outside config client => pong_written kind outside config client _ size,
        fun allocated dataType controlType chunks wire => pong_decodes allocated dataType controlType _ size chunks wire⟩

theorem ping_between_fragments_echoed :
    (parseStream (.construct zeroedParser .textFrame .pingFrame) 0
        [[0x01, 0x01, 0x61, 0x89, 0x81], [0x20, 0x20, 0x20, 0x20, 0x48], [0x80, 0x01, 0x62]]).failure =
      (parseStream (.construct zeroedParser .textFrame .pingFrame) 0 [[0x01, 0x01, 0x61, 0x80, 0x01, 0x62]]).failure ∧
    Echoed [0x68] := by
  have within : (executeWithin parserCallbacks 3 ⟨wsParserInit zeroedParser, ⟨[], [], .textFrame, .pingFrame, []⟩,
      [0x01, 0x01, 0x61]⟩).map (fun done => (done.1, done.2.parser.state)) = some (wsOk, .opcode) := by
    decide +kernel
  obtain ⟨done, executed, same⟩ := Option.map_eq_some_iff.mp within
  have boundary : Boundary (.construct zeroedParser .textFrame .pingFrame) [0x01, 0x01, 0x61] := by
    rw [Boundary, Parser.execute, Parser.construct, execute_within _ _ _ _ executed]
    exact Prod.mk.inj same
  obtain ⟨transparent, echoed⟩ := (ping_echoed zeroedParser .textFrame .pingFrame).2 [0x01, 0x01, 0x61] [0x80, 0x01, 0x62] [0x48]
    (some fun _ => 0x20) [[0x01, 0x01, 0x61, 0x89, 0x81], [0x20, 0x20, 0x20, 0x20, 0x48], [0x80, 0x01, 0x62]]
    [[0x01, 0x01, 0x61, 0x80, 0x01, 0x62]] boundary (by decide) (by decide +kernel) (by decide +kernel)
  exact ⟨transparent.1, echoed⟩

end Eventhub.Session
