import Eventhub.Lib.Memory
import Eventhub.Lib.Transition
import Eventhub.Websocket.WsParser

set_option autoImplicit false

namespace Eventhub.Websocket

-- The values of the enumeration of states, in the five bits of the field.
def WsState.code : WsState → BitVec 5
  | .opcode => 0
  | .length => 1
  | .length16 index => BitVec.ofNat 5 (2 + index.val)
  | .length64 index => BitVec.ofNat 5 (4 + index.val)
  | .mask index => BitVec.ofNat 5 (12 + index.val)
  | .payload => 16

-- ws_parser_t as it is declared. Every value of the two bits of mask_pos is
-- an index of mask, but state has more values than the enumeration.
structure WsFields where
  bytesRemaining : UInt64
  mask : Fin 4 → UInt8
  fragment : Bool
  fin : Bool
  control : Bool
  maskFlag : Bool
  maskPos : Fin 4
  state : BitVec 5

def WsFields.init (allocated : WsFields) : WsFields := { allocated with state := WsState.opcode.code, fragment := false }

inductive Fault where
  | outsideBuffer
  | lenUnderflow
  | remainingUnderflow
deriving DecidableEq

-- ws_parser_execute at the head of its loop: memory is the buffer that was
-- passed, buff the offset the pointer has reached.
structure Machine (σ : Type) where
  parser : WsFields
  data : σ
  memory : Bytes
  buff : Nat
  len : Nat

inductive MachineTurn (σ : Type) where
  | next (m : Machine σ)
  | stop (rc : Int) (m : Machine σ)

namespace Machine

variable {σ : Type}

def load (m : Machine σ) (i : Nat) : Except Fault UInt8 :=
  match m.memory[m.buff + i]? with
  | some byte => .ok byte
  | none => .error .outsideBuffer

def store (m : Machine σ) (i : Nat) (byte : UInt8) : Except Fault (Machine σ) :=
  if m.buff + i < m.memory.length then .ok { m with memory := Memory.overwrite m.memory (m.buff + i) [byte] } else .error .outsideBuffer

-- The bytes a callback may read that is given buff and a length.
def slice (m : Machine σ) (length : Nat) : Except Fault Bytes :=
  if m.buff + length ≤ m.memory.length then .ok ((m.memory.drop m.buff).take length) else .error .outsideBuffer

def advance (m : Machine σ) (count : Nat) : Except Fault (Machine σ) :=
  if count ≤ m.len then .ok { m with buff := m.buff + count, len := m.len - count } else .error .lenUnderflow

def subtractRemaining (m : Machine σ) (count : Nat) : Except Fault (Machine σ) :=
  if count ≤ m.parser.bytesRemaining.toNat then
    .ok { m with parser := { m.parser with bytesRemaining := m.parser.bytesRemaining - UInt64.ofNat count } }
  else .error .remainingUnderflow

def advanceAndBreak (m : Machine σ) : Except Fault (MachineTurn σ) := do return .next (← m.advance 1)

def set (m : Machine σ) (parser : WsFields) : Machine σ := { m with parser := parser }

def call (m : Machine σ) (called : σ × Int) (proceed : Machine σ → Except Fault (MachineTurn σ)) : Except Fault (MachineTurn σ) :=
  if called.2 ≠ 0 then .ok (.stop called.2 { m with data := called.1 }) else proceed { m with data := called.1 }

section

variable (callbacks : WsCallbacks σ)

def endOfPayload (m : Machine σ) : Except Fault (MachineTurn σ) :=
  let ended (m : Machine σ) := Except.ok (MachineTurn.next (m.set { m.parser with state := WsState.opcode.code }))
  if m.parser.control || m.parser.fin then m.call (callbacks.onEnd m.parser.control m.data) ended else ended m

def opcodeCase (m : Machine σ) (cur : UInt8) : Except Fault (MachineTurn σ) :=
  let opcode := cur &&& 0x0f
  let finished := { m.parser with fin := cur &&& 0x80 ≠ 0 }
  let begun (parser : WsFields) (m : Machine σ) := (m.set { parser with state := WsState.length.code }).advanceAndBreak
  if cur &&& 0x70 ≠ 0 then .ok (.stop wsReservedBitsSet m)
  else if opcode = 0 then
    if !finished.fragment then .ok (.stop wsInvalidContinuation (m.set finished))
    else begun { finished with control := false } m
  else if opcode &&& 0x8 ≠ 0 then
    if opcode ≠ wsFramePing ∧ opcode ≠ wsFramePong ∧ opcode ≠ wsFrameClose then .ok (.stop wsInvalidOpcode (m.set finished))
    else if !finished.fin then .ok (.stop wsFragmentedControl (m.set finished))
    else
      let control := { finished with control := true }
      (m.set control).call (callbacks.onControlBegin m.data opcode) (begun control)
  else
    if opcode ≠ wsFrameText ∧ opcode ≠ wsFrameBinary then .ok (.stop wsInvalidOpcode (m.set finished))
    else
      let dataFrame := { finished with control := false, fragment := !finished.fin }
      (m.set dataFrame).call (callbacks.onDataBegin m.data opcode) (begun dataFrame)

def bodyCode (parser : WsFields) : BitVec 5 := if parser.maskFlag then (WsState.mask 0).code else WsState.payload.code

def lengthCase (m : Machine σ) (cur : UInt8) : Except Fault (MachineTurn σ) :=
  let length := cur &&& 0x7f
  let flagged := { m.parser with maskFlag := cur &&& 0x80 ≠ 0, maskPos := 0 }
  let taken (parser : WsFields) : Except Fault (MachineTurn σ) := do
    let m ← (m.set parser).advance 1
    if m.parser.state = WsState.payload.code ∧ m.parser.bytesRemaining = 0 then m.endOfPayload callbacks else return .next m
  if flagged.control then
    if length > 125 then .ok (.stop wsControlTooLong (m.set flagged))
    else taken { flagged with bytesRemaining := length.toUInt64, state := bodyCode flagged }
  else if length < 126 then taken { flagged with bytesRemaining := length.toUInt64, state := bodyCode flagged }
  else if length = 126 then taken { flagged with state := (WsState.length16 0).code }
  else taken { flagged with state := (WsState.length64 0).code }

-- S_LENGTH_16_0 and S_LENGTH_64_0
def firstLengthCase (m : Machine σ) (cur : UInt8) (shift : UInt64) (next : WsState) : Except Fault (MachineTurn σ) :=
  (m.set { m.parser with bytesRemaining := cur.toUInt64 <<< shift, state := next.code }).advanceAndBreak

-- S_LENGTH_64_1 to S_LENGTH_64_6
def middleLengthCase (m : Machine σ) (cur : UInt8) (shift : UInt64) (next : WsState) : Except Fault (MachineTurn σ) :=
  (m.set { m.parser with bytesRemaining := m.parser.bytesRemaining ||| cur.toUInt64 <<< shift, state := next.code }).advanceAndBreak

-- S_LENGTH_16_1 and S_LENGTH_64_7: the state has moved on when the length is refused.
def lastLengthCase (m : Machine σ) (cur : UInt8) (least : UInt64) : Except Fault (MachineTurn σ) :=
  let read := { m.parser with bytesRemaining := m.parser.bytesRemaining ||| cur.toUInt64 <<< 0, state := bodyCode m.parser }
  if read.bytesRemaining < least then .ok (.stop wsNonCanonicalLength (m.set read)) else (m.set read).advanceAndBreak

-- S_MASK_0 to S_MASK_2
def maskCase (m : Machine σ) (cur : UInt8) (index : Fin 4) : Except Fault (MachineTurn σ) :=
  (m.set { m.parser with mask := Function.update m.parser.mask index cur, state := (WsState.mask (index + 1)).code }).advanceAndBreak

def lastMaskCase (m : Machine σ) (cur : UInt8) : Except Fault (MachineTurn σ) := do
  let m ← (m.set { m.parser with mask := Function.update m.parser.mask 3 cur, state := WsState.payload.code }).advance 1
  if m.parser.bytesRemaining = 0 then m.endOfPayload callbacks else return .next m

-- for (size_t i = 0; i < chunk_length; i++), with count turns to go.
def unmaskLoop (m : Machine σ) (i : Nat) : Nat → Except Fault (Machine σ)
  | 0 => .ok m
  | count + 1 => do
      let byte ← m.load i
      let stored ← m.store i (byte ^^^ m.parser.mask m.parser.maskPos)
      (stored.set { m.parser with maskPos := m.parser.maskPos + 1 }).unmaskLoop (i + 1) count

def unmaskChunk (m : Machine σ) (chunkLength : Nat) : Except Fault (Machine σ) :=
  if m.parser.maskFlag then m.unmaskLoop 0 chunkLength else .ok m

def consume (m : Machine σ) (chunkLength : Nat) : Except Fault (MachineTurn σ) := do
  let m ← m.advance chunkLength
  let m ← m.subtractRemaining chunkLength
  if m.parser.bytesRemaining = 0 then m.endOfPayload callbacks else return .next m

def chunkLength (m : Machine σ) : Nat := if m.len > m.parser.bytesRemaining.toNat then m.parser.bytesRemaining.toNat else m.len

def payloadCase (m : Machine σ) : Except Fault (MachineTurn σ) := do
  let unmasked ← m.unmaskChunk m.chunkLength
  let payload ← unmasked.slice m.chunkLength
  unmasked.call (callbacks.onPayload m.parser.control m.data payload) (fun called => called.consume callbacks m.chunkLength)

-- switch (parser->state). A value without a case leaves everything as it is.
def dispatch (m : Machine σ) (cur : UInt8) : Nat → Except Fault (MachineTurn σ)
  | 0 => m.opcodeCase callbacks cur
  | 1 => m.lengthCase callbacks cur
  | 2 => m.firstLengthCase cur 8 (.length16 1)
  | 3 => m.lastLengthCase cur 126
  | 4 => m.firstLengthCase cur 56 (.length64 1)
  | 5 => m.middleLengthCase cur 48 (.length64 2)
  | 6 => m.middleLengthCase cur 40 (.length64 3)
  | 7 => m.middleLengthCase cur 32 (.length64 4)
  | 8 => m.middleLengthCase cur 24 (.length64 5)
  | 9 => m.middleLengthCase cur 16 (.length64 6)
  | 10 => m.middleLengthCase cur 8 (.length64 7)
  | 11 => m.lastLengthCase cur 65536
  | 12 => m.maskCase cur 0
  | 13 => m.maskCase cur 1
  | 14 => m.maskCase cur 2
  | 15 => m.lastMaskCase callbacks cur
  | 16 => m.payloadCase callbacks
  | _ => .ok (.next m)

def turn (m : Machine σ) : Except Fault (MachineTurn σ) :=
  if m.len = 0 then .ok (.stop wsOk m)
  else do
    let cur ← m.load 0
    m.dispatch callbacks cur m.parser.state.toNat

end

end Machine

inductive WsConfig (σ : Type) where
  | running (m : Machine σ)
  | returned (rc : Int) (m : Machine σ)
  | faulted (fault : Fault)

section

variable {σ : Type}

namespace WsConfig

variable (callbacks : WsCallbacks σ)

def start (parser : WsFields) (data : σ) (buffer : Bytes) : WsConfig σ := .running ⟨parser, data, buffer, 0, buffer.length⟩

def ofTurn : Except Fault (MachineTurn σ) → WsConfig σ
  | .ok (.next m) => .running m
  | .ok (.stop rc m) => .returned rc m
  | .error fault => .faulted fault

def step : WsConfig σ → Option (WsConfig σ)
  | .running m => some (ofTurn (m.turn callbacks))
  | .returned _ _ => none
  | .faulted _ => none

def Passes (first config : WsConfig σ) : Prop :=
  Relation.ReflTransGen (fun before after => step callbacks before = some after) first config

-- One of the 17 states, and a pointer that stands len bytes in front of the
-- end of the buffer.
def Safe : WsConfig σ → Prop
  | .running m => m.parser.state.toNat < 17 ∧ m.buff + m.len = m.memory.length
  | .returned _ m => m.parser.state.toNat < 17 ∧ m.buff + m.len = m.memory.length
  | .faulted _ => False

end WsConfig

-- The parsers that calls leave behind, whatever they returned and whatever
-- data and buffers they were given.
inductive Reached (callbacks : WsCallbacks σ) : WsFields → Prop where
  | init (allocated : WsFields) : Reached callbacks allocated.init
  | executed (parser : WsFields) (data : σ) (buffer : Bytes) (rc : Int) (last : Machine σ) (before : Reached callbacks parser)
      (ran : Transition.Halts (WsConfig.step callbacks) (.start parser data buffer) (.returned rc last)) : Reached callbacks last.parser

end

end Eventhub.Websocket
