import Eventhub.Websocket.Chunking

set_option autoImplicit false

namespace Eventhub.Websocket

-- A frame as RFC 6455 describes it, with its payload before masking.
structure Frame where
  fin : Bool
  frameType : FrameType
  key : Option (Fin 4 → UInt8)
  payload : Bytes

def lengthCode (length : Nat) : Nat := if length < 126 then length else if length < 65536 then 126 else 127

def bigEndian : Nat → Nat → Bytes
  | 0, _ => []
  | count + 1, value => UInt8.ofNat (value / 256 ^ count) :: bigEndian count value

def extendedLength (length : Nat) : Bytes :=
  if length < 126 then [] else if length < 65536 then bigEndian 2 length else bigEndian 8 length

def opcodeByte (fin : Bool) (frameType : FrameType) : UInt8 := (if fin then 0x80 else 0) ||| frameType.code

def lengthByte (masked : Bool) (code : Nat) : UInt8 := UInt8.ofNat ((if masked then 128 else 0) + code)

def maskPayload (key : Fin 4 → UInt8) (payload : Bytes) : Bytes :=
  payload.mapIdx (fun index byte => byte ^^^ key (Fin.ofNat 4 index))

def Frame.body (frame : Frame) : Bytes :=
  match frame.key with
  | none => frame.payload
  | some key => [key 0, key 1, key 2, key 3] ++ maskPayload key frame.payload

def Frame.serialize (frame : Frame) : Bytes :=
  opcodeByte frame.fin frame.frameType :: lengthByte frame.key.isSome (lengthCode frame.payload.length) ::
    (extendedLength frame.payload.length ++ frame.body)

def FrameType.isControl : FrameType → Bool
  | .closeFrame => true
  | .pingFrame => true
  | .pongFrame => true
  | _ => false

def FrameType.isData : FrameType → Bool
  | .textFrame => true
  | .binaryFrame => true
  | _ => false

-- The frames take one unfinished data message to another and complete the
-- messages in the order of their final frames.
inductive FrameSequence : Option Message → List Frame → List Message → Option Message → Prop where
  | done (pending : Option Message) : FrameSequence pending [] [] pending
  | control (pending last : Option Message) (frame : Frame) (frames : List Frame) (messages : List Message)
      (isControl : frame.frameType.isControl = true) (fin : frame.fin = true) (short : frame.payload.length ≤ 125)
      (rest : FrameSequence pending frames messages last) :
      FrameSequence pending (frame :: frames) ((frame.frameType, frame.payload) :: messages) last
  | whole (last : Option Message) (frame : Frame) (frames : List Frame) (messages : List Message)
      (isData : frame.frameType.isData = true) (fin : frame.fin = true) (rest : FrameSequence none frames messages last) :
      FrameSequence none (frame :: frames) ((frame.frameType, frame.payload) :: messages) last
  | start (last : Option Message) (frame : Frame) (frames : List Frame) (messages : List Message)
      (isData : frame.frameType.isData = true) (fin : frame.fin = false)
      (rest : FrameSequence (some (frame.frameType, frame.payload)) frames messages last) :
      FrameSequence none (frame :: frames) messages last
  | more (last : Option Message) (frameType : FrameType) (payload : Bytes) (frame : Frame) (frames : List Frame)
      (messages : List Message) (isContinuation : frame.frameType = .continuationFrame) (fin : frame.fin = false)
      (rest : FrameSequence (some (frameType, payload ++ frame.payload)) frames messages last) :
      FrameSequence (some (frameType, payload)) (frame :: frames) messages last
  | finish (last : Option Message) (frameType : FrameType) (payload : Bytes) (frame : Frame) (frames : List Frame)
      (messages : List Message) (isContinuation : frame.frameType = .continuationFrame) (fin : frame.fin = true)
      (rest : FrameSequence none frames messages last) :
      FrameSequence (some (frameType, payload)) (frame :: frames) ((frameType, payload ++ frame.payload) :: messages) last

theorem frame_sequence_append (pending middle last : Option Message) (first second : List Frame)
    (messages others : List Message) (before : FrameSequence pending first messages middle)
    (after : FrameSequence middle second others last) :
    FrameSequence pending (first ++ second) (messages ++ others) last := by
  induction before with
  | done => exact after
  | control _ _ _ _ _ isControl fin short _ ih => exact .control _ _ _ _ _ isControl fin short (ih after)
  | whole _ _ _ _ isData fin _ ih => exact .whole _ _ _ _ isData fin (ih after)
  | start _ _ _ _ isData fin _ ih => exact .start _ _ _ _ isData fin (ih after)
  | more _ _ _ _ _ _ isContinuation fin _ ih => exact .more _ _ _ _ _ _ isContinuation fin (ih after)
  | finish _ _ _ _ _ _ isContinuation fin _ ih => exact .finish _ _ _ _ _ _ isContinuation fin (ih after)

theorem unmask_eq_map (mask : Fin 4 → UInt8) (maskPos : Nat) (bytes : Bytes) :
    unmask mask (Fin.ofNat 4 maskPos) bytes = bytes.mapIdx (fun index byte => byte ^^^ mask (Fin.ofNat 4 (maskPos + index))) := by
  induction bytes generalizing maskPos with
  | nil => rfl
  | cons byte bytes ih =>
      have shift : Fin.ofNat 4 maskPos + 1 = Fin.ofNat 4 (maskPos + 1) := by
        ext
        simp only [Fin.val_add, Fin.val_ofNat, Fin.val_one]
        omega
      rw [unmask, shift, ih]
      simp [List.mapIdx_cons, Nat.add_assoc, Nat.add_comm 1]

theorem unmask_masked (key : Fin 4 → UInt8) (payload : Bytes) : unmask key 0 (maskPayload key payload) = payload := by
  have start := unmask_eq_map key 0 (maskPayload key payload)
  rw [show (0 : Fin 4) = Fin.ofNat 4 0 from rfl, start, maskPayload, List.mapIdx_mapIdx]
  apply List.ext_getElem
  · simp
  · intro index _ _
    simp

theorem byte_shift_or (value shift : Nat) :
    (value / 256) <<< (8 + shift) ||| (value % 256) <<< shift = value <<< shift := by
  have low : value % 256 < 2 ^ 8 := Nat.mod_lt _ (by decide)
  have whole : (value / 256) <<< 8 ||| value % 256 = value := by
    rw [← Nat.shiftLeft_add_eq_or_of_lt low, Nat.shiftLeft_eq]
    omega
  rw [Nat.shiftLeft_add, ← Nat.shiftLeft_or_distrib, whole]

end Eventhub.Websocket
