import Eventhub.Websocket.Decode

set_option autoImplicit false

namespace Eventhub.Websocket

inductive ByteOrder where
  | littleEndian
  | bigEndian
deriving DecidableEq, Repr

-- memcpy of a uint16_t.
def storeUInt16 (order : ByteOrder) (value : UInt16) : Bytes :=
  match order with
  | .littleEndian => [value.toUInt8, (value >>> 8).toUInt8]
  | .bigEndian => [(value >>> 8).toUInt8, value.toUInt8]

def htons (order : ByteOrder) (value : UInt16) : UInt16 :=
  match order with
  | .littleEndian => (value <<< 8) ||| (value >>> 8)
  | .bigEndian => value

def htonl (order : ByteOrder) (value : UInt32) : UInt32 :=
  match order with
  | .littleEndian => (value <<< 24) ||| ((value &&& (0xff00 : UInt32)) <<< 8) ||| ((value >>> 8) &&& (0xff00 : UInt32)) ||| (value >>> 24)
  | .bigEndian => value

def wsMaxChunkSize : Nat := 1 <<< 15

-- stack is what header[4] to header[7] hold when nothing has written them. The
-- last branch narrows htonl's result to the uint16_t sz before it is copied.
def sendFragment (order : ByteOrder) (stack : Fin 4 → UInt8) (fragment : Bytes) (frameType : UInt8) (fin : Bool) : Bytes :=
  let first := (if fin then 0x80 else 0) ||| (0xF &&& frameType)
  if fragment.length < 126 then [first, UInt8.ofNat fragment.length] ++ fragment
  else if fragment.length < 0xFFFF then
    [first, 0x7E] ++ storeUInt16 order (htons order (UInt16.ofNat fragment.length)) ++ fragment
  else
    [first, 0x7F] ++ storeUInt16 order (htonl order (UInt16.ofNat fragment.length).toUInt32).toUInt16 ++
      [stack 0, stack 1, stack 2, stack 3] ++ fragment

def chunkFrameType (frameType : FrameType) (i : Nat) : FrameType := if i = 0 then frameType else .continuationFrame

-- data.substr(i * WS_MAX_CHUNK_SIZE, len)
def dataChunk (data : Bytes) (nChunks i : Nat) : Bytes :=
  if i < nChunks - 1 then (data.drop (i * wsMaxChunkSize)).take wsMaxChunkSize else data.drop (i * wsMaxChunkSize)

structure FragmentCall where
  fragment : Bytes
  frameType : FrameType
  fin : Bool

def chunkCall (data : Bytes) (frameType : FrameType) (nChunks i : Nat) : FragmentCall :=
  ⟨dataChunk data nChunks i, chunkFrameType frameType i, !decide (i < nChunks - 1)⟩

-- The calls of _sendFragment, in order. The unsigned i holds every index: no
-- address space holds a string of 2^47 bytes.
def fragmentCalls (data : Bytes) (frameType : FrameType) : List FragmentCall :=
  if data.length < wsMaxChunkSize then [⟨data, frameType, true⟩]
  else (List.range (data.length / wsMaxChunkSize)).map (chunkCall data frameType (data.length / wsMaxChunkSize))

-- The strings handed to conn->write, in order.
def sendData (order : ByteOrder) (stack : Nat → Fin 4 → UInt8) (data : Bytes) (frameType : FrameType) : List Bytes :=
  (fragmentCalls data frameType).mapIdx (fun i call => sendFragment order (stack i) call.fragment call.frameType.code call.fin)

theorem send_data_short (order : ByteOrder) (stack : Nat → Fin 4 → UInt8) (data : Bytes) (frameType : FrameType)
    (short : data.length < wsMaxChunkSize) : sendData order stack data frameType = [sendFragment order (stack 0) data frameType.code true] := by
  rw [sendData, fragmentCalls, if_pos short]
  rfl

theorem send_data_long (order : ByteOrder) (stack : Nat → Fin 4 → UInt8) (data : Bytes) (frameType : FrameType)
    (long : ¬ data.length < wsMaxChunkSize) :
    sendData order stack data frameType = (List.range (data.length / wsMaxChunkSize)).map (fun i =>
      sendFragment order (stack i) (dataChunk data (data.length / wsMaxChunkSize) i) (chunkFrameType frameType i).code
        (!decide (i < data.length / wsMaxChunkSize - 1))) := by
  rw [sendData, fragmentCalls, if_neg long]
  apply List.ext_getElem
  · simp
  · simp [chunkCall]

structure SendCall where
  data : Bytes
  frameType : FrameType
  stack : Nat → Fin 4 → UInt8

def SendCall.message (call : SendCall) : Message := (call.frameType, call.data)

def SendCall.written (order : ByteOrder) (call : SendCall) : Bytes := (sendData order call.stack call.data call.frameType).flatten

def SendCall.Permitted (call : SendCall) : Prop :=
  (call.frameType.isData = true ∧ call.data.length < maxDataFrameSize) ∨
    (call.frameType.isControl = true ∧ call.data.length ≤ 125)

-- The last fragment of such a message has 65535 bytes.
def SendCall.LongTail (call : SendCall) : Prop :=
  wsMaxChunkSize ≤ call.data.length ∧ call.data.length % wsMaxChunkSize = wsMaxChunkSize - 1

instance (call : SendCall) : Decidable call.LongTail := inferInstanceAs (Decidable (_ ∧ _))

theorem swap16_value (value : UInt16) :
    ((value <<< 8) ||| (value >>> 8)).toNat = value.toNat % 256 * 256 + value.toNat / 256 := by
  have bound := value.toNat_lt
  have high : value.toNat / 256 < 2 ^ 8 := by omega
  have low : value.toNat <<< 8 % 2 ^ 16 = (value.toNat % 256) <<< 8 := by
    simp only [Nat.shiftLeft_eq]
    omega
  simp only [UInt16.toNat_or, UInt16.toNat_shiftLeft, UInt16.toNat_shiftRight]
  rw [show (8 : UInt16).toNat % 16 = 8 from rfl, low, Nat.shiftRight_eq_div_pow, ← Nat.shiftLeft_add_eq_or_of_lt high,
    Nat.shiftLeft_eq]

theorem high_byte_value (value : UInt16) : (value >>> 8).toUInt8.toNat = value.toNat / 256 := by
  have bound := value.toNat_lt
  rw [UInt16.toNat_toUInt8, UInt16.toNat_shiftRight, show (8 : UInt16).toNat % 16 = 8 from rfl, Nat.shiftRight_eq_div_pow]
  omega

theorem htons_stored (order : ByteOrder) (value : UInt16) :
    storeUInt16 order (htons order value) = [(value >>> 8).toUInt8, value.toUInt8] := by
  cases order with
  | bigEndian => rfl
  | littleEndian =>
      have bound := value.toNat_lt
      have high : value.toNat / 256 < 256 := by omega
      have low : ((value <<< 8) ||| (value >>> 8)).toUInt8 = (value >>> 8).toUInt8 := by
        apply UInt8.toNat_inj.mp
        rw [UInt16.toNat_toUInt8, swap16_value, high_byte_value]
        omega
      have top : (((value <<< 8) ||| (value >>> 8)) >>> 8).toUInt8 = value.toUInt8 := by
        apply UInt8.toNat_inj.mp
        rw [high_byte_value, swap16_value, UInt16.toNat_toUInt8]
        omega
      rw [storeUInt16, htons, low, top]

theorem stored_size (order : ByteOrder) (size : Nat) :
    storeUInt16 order (htons order (UInt16.ofNat size)) = bigEndian 2 size := by
  have high : (UInt16.ofNat size >>> 8).toUInt8 = UInt8.ofNat (size / 256 ^ 1) := by
    apply UInt8.toNat_inj.mp
    rw [high_byte_value, UInt16.toNat_ofNat', UInt8.toNat_ofNat']
    omega
  have low : (UInt16.ofNat size).toUInt8 = UInt8.ofNat (size / 256 ^ 0) := by
    apply UInt8.toNat_inj.mp
    simp
  rw [htons_stored, high, low, bigEndian, bigEndian, bigEndian]

theorem send_fragment_serialize (order : ByteOrder) (stack : Fin 4 → UInt8) (fragment : Bytes) (frameType : FrameType) (fin : Bool)
    (short : fragment.length < 0xFFFF) :
    sendFragment order stack fragment frameType.code fin = Frame.serialize ⟨fin, frameType, none, fragment⟩ := by
  have first : (if fin then 0x80 else 0) ||| (0xF &&& frameType.code) = opcodeByte fin frameType := by
    cases fin <;> cases frameType <;> rfl
  by_cases tiny : fragment.length < 126
  · simp [sendFragment, Frame.serialize, Frame.body, first, tiny, lengthByte, lengthCode, extendedLength]
  · have medium : fragment.length < 65536 := by omega
    simp [sendFragment, Frame.serialize, Frame.body, first, tiny, short, medium, lengthByte, lengthCode, extendedLength, stored_size]

def chunkFrame (data : Bytes) (frameType : FrameType) (nChunks i : Nat) : Frame :=
  ⟨!decide (i < nChunks - 1), chunkFrameType frameType i, none, dataChunk data nChunks i⟩

def pendingChunks (data : Bytes) (frameType : FrameType) : Nat → Option Message
  | 0 => none
  | i + 1 => some (frameType, data.take ((i + 1) * wsMaxChunkSize))

theorem open_chunks (data : Bytes) (frameType : FrameType) (nChunks count : Nat) (isData : frameType.isData = true)
    (before : count ≤ nChunks - 1) :
    FrameSequence none ((List.range count).map (chunkFrame data frameType nChunks)) [] (pendingChunks data frameType count) := by
  induction count with
  | zero => exact .done none
  | succ count ih =>
      have inner : count < nChunks - 1 := by omega
      rw [List.range_succ, List.map_append]
      refine frame_sequence_append none _ _ _ _ [] [] (ih (by omega)) ?_
      cases count with
      | zero =>
          refine .start _ _ _ _ isData (by simp [chunkFrame, inner]) ?_
          simpa [chunkFrame, chunkFrameType, dataChunk, inner, pendingChunks] using FrameSequence.done _
      | succ count =>
          refine .more _ _ _ _ _ _ rfl (by simp [chunkFrame, inner]) ?_
          have joined : data.take ((count + 1) * wsMaxChunkSize) ++ (data.drop ((count + 1) * wsMaxChunkSize)).take wsMaxChunkSize =
              data.take ((count + 1 + 1) * wsMaxChunkSize) := by
            rw [Nat.add_mul (count + 1) 1, Nat.one_mul, List.take_add]
          simpa only [chunkFrame, dataChunk, if_pos inner, joined, pendingChunks, List.map_nil] using FrameSequence.done _

theorem last_chunk (data : Bytes) (frameType : FrameType) (nChunks : Nat) (isData : frameType.isData = true) :
    FrameSequence (pendingChunks data frameType (nChunks - 1)) [chunkFrame data frameType nChunks (nChunks - 1)]
      [(frameType, data)] none := by
  have chunk : dataChunk data nChunks (nChunks - 1) = data.drop ((nChunks - 1) * wsMaxChunkSize) := by simp [dataChunk]
  cases previous : nChunks - 1 with
  | zero =>
      have whole : (chunkFrame data frameType nChunks 0).payload = data := by simp [chunkFrame, dataChunk, previous]
      have sequence := FrameSequence.whole none (chunkFrame data frameType nChunks 0) [] [] isData (by simp [chunkFrame, previous])
        (.done none)
      rw [whole] at sequence
      exact sequence
  | succ count =>
      have sequence := FrameSequence.finish none frameType (data.take ((count + 1) * wsMaxChunkSize))
        (chunkFrame data frameType nChunks (count + 1)) [] [] rfl (by simp [chunkFrame, previous]) (.done none)
      rw [previous] at chunk
      rw [show (chunkFrame data frameType nChunks (count + 1)).payload = _ from chunk, List.take_append_drop] at sequence
      exact sequence

def SendCall.nChunks (call : SendCall) : Nat := call.data.length / wsMaxChunkSize

def SendCall.lastChunk (call : SendCall) : Bytes := call.data.drop ((call.nChunks - 1) * wsMaxChunkSize)

def SendCall.chunkFrames (call : SendCall) (count : Nat) : List Frame :=
  (List.range count).map (chunkFrame call.data call.frameType call.nChunks)

def SendCall.frames (call : SendCall) : List Frame :=
  if call.data.length < wsMaxChunkSize then [⟨true, call.frameType, none, call.data⟩]
  else call.chunkFrames (call.nChunks - 1) ++ [chunkFrame call.data call.frameType call.nChunks (call.nChunks - 1)]

theorem permitted_short_or_data (call : SendCall) (permitted : call.Permitted) (long : ¬ call.data.length < wsMaxChunkSize) :
    call.frameType.isData = true := by
  cases permitted with
  | inl data => exact data.1
  | inr control =>
      have short := control.2
      rw [wsMaxChunkSize, show (1 : Nat) <<< 15 = 32768 from rfl] at long
      omega

theorem frames_sequence (call : SendCall) (permitted : call.Permitted) :
    FrameSequence none call.frames [call.message] none := by
  unfold SendCall.frames
  split
  · cases permitted with
    | inl data => exact .whole none _ [] [] data.1 rfl (.done none)
    | inr control => exact .control none none _ [] [] control.1 rfl control.2 (.done none)
  · rename_i long
    have isData := permitted_short_or_data call permitted long
    exact frame_sequence_append none _ none _ _ [] [call.message]
      (open_chunks call.data call.frameType call.nChunks (call.nChunks - 1) isData (Nat.le_refl _))
      (last_chunk call.data call.frameType call.nChunks isData)

theorem chunk_size (call : SendCall) (i : Nat) (inner : i < call.nChunks - 1) :
    (dataChunk call.data call.nChunks i).length = wsMaxChunkSize := by
  have fits : call.nChunks * wsMaxChunkSize ≤ call.data.length := Nat.div_mul_le_self _ _
  have place : (i + 1) * wsMaxChunkSize ≤ call.nChunks * wsMaxChunkSize := Nat.mul_le_mul_right _ (by omega)
  rw [Nat.add_mul, Nat.one_mul] at place
  rw [dataChunk, if_pos inner, List.length_take, List.length_drop]
  omega

theorem last_chunk_size (call : SendCall) (long : ¬ call.data.length < wsMaxChunkSize) :
    call.lastChunk.length = wsMaxChunkSize + call.data.length % wsMaxChunkSize := by
  have positive : 0 < wsMaxChunkSize := by decide
  have some : 1 ≤ call.nChunks := (Nat.one_le_div_iff positive).mpr (by omega)
  have whole := Nat.div_add_mod call.data.length wsMaxChunkSize
  have product : wsMaxChunkSize * (call.data.length / wsMaxChunkSize) =
      (call.nChunks - 1) * wsMaxChunkSize + wsMaxChunkSize := by
    rw [Nat.mul_comm, ← Nat.succ_mul, Nat.succ_eq_add_one, Nat.sub_add_cancel some]
    rfl
  rw [SendCall.lastChunk, List.length_drop]
  omega

theorem written_short (order : ByteOrder) (call : SendCall) (short : call.data.length < wsMaxChunkSize) :
    call.written order = call.frames.flatMap Frame.serialize := by
  have small : call.data.length < 0xFFFF := Nat.lt_trans short (by decide)
  simp [SendCall.written, send_data_short, SendCall.frames, short, send_fragment_serialize order _ _ _ _ small]

theorem written_long (order : ByteOrder) (call : SendCall) (long : ¬ call.data.length < wsMaxChunkSize) :
    call.written order = (call.chunkFrames (call.nChunks - 1)).flatMap Frame.serialize ++
      sendFragment order (call.stack (call.nChunks - 1)) call.lastChunk (chunkFrameType call.frameType (call.nChunks - 1)).code true := by
  have some : 1 ≤ call.nChunks := (Nat.one_le_div_iff (by decide)).mpr (by omega)
  have split : List.range call.nChunks = List.range (call.nChunks - 1) ++ [call.nChunks - 1] := by
    rw [← List.range_succ, Nat.succ_eq_add_one, Nat.sub_add_cancel some]
  have inner : ∀ i ∈ List.range (call.nChunks - 1), sendFragment order (call.stack i) (dataChunk call.data call.nChunks i)
      (chunkFrameType call.frameType i).code (!decide (i < call.nChunks - 1)) =
        (chunkFrame call.data call.frameType call.nChunks i).serialize := by
    intro i inside
    apply send_fragment_serialize
    rw [chunk_size call i (List.mem_range.mp inside)]
    decide
  rw [SendCall.written, send_data_long order _ _ _ long, ← SendCall.nChunks, split, List.map_append, List.flatten_append, List.map_congr_left inner]
  simp [SendCall.chunkFrames, List.flatMap, dataChunk, SendCall.lastChunk, Function.comp_def]

theorem written_frames (order : ByteOrder) (call : SendCall) (lucky : ¬ call.LongTail) :
    call.written order = call.frames.flatMap Frame.serialize := by
  by_cases short : call.data.length < wsMaxChunkSize
  · exact written_short order call short
  · have small : call.lastChunk.length < 0xFFFF := by
      have bound : call.data.length % wsMaxChunkSize < wsMaxChunkSize := Nat.mod_lt _ (by decide)
      have other : call.data.length % wsMaxChunkSize ≠ wsMaxChunkSize - 1 := fun equal => lucky ⟨by omega, equal⟩
      rw [last_chunk_size call short]
      unfold wsMaxChunkSize at *
      omega
    rw [written_long order call short, send_fragment_serialize order _ _ _ _ small, SendCall.frames, if_neg short,
      List.flatMap_append]
    simp [chunkFrame, dataChunk, SendCall.lastChunk]

theorem fragment_present (order : ByteOrder) (stack : Fin 4 → UInt8) (fragment : Bytes) (frameType : UInt8) (fin : Bool) :
    sendFragment order stack fragment frameType fin ≠ [] := by
  unfold sendFragment
  dsimp only
  split
  · exact List.cons_ne_nil _ _
  · split <;> exact List.cons_ne_nil _ _

theorem written_present (order : ByteOrder) (call : SendCall) : call.written order ≠ [] := by
  by_cases short : call.data.length < wsMaxChunkSize
  · rw [SendCall.written, send_data_short order _ _ _ short, List.flatten_singleton]
    exact fragment_present _ _ _ _ _
  · rw [written_long order call short]
    exact List.append_ne_nil_of_right_ne_nil _ (fragment_present _ _ _ _ _)

theorem written_stack_iff (order : ByteOrder) (data : Bytes) (frameType : FrameType) (zeros : Nat → Fin 4 → UInt8) :
    (∀ stack other, SendCall.written order ⟨data, frameType, stack⟩ = SendCall.written order ⟨data, frameType, other⟩) ↔
      ¬ SendCall.LongTail ⟨data, frameType, zeros⟩ := by
  constructor
  · intro same tail
    have long : ¬ data.length < wsMaxChunkSize := Nat.not_lt_of_le tail.1
    have size := last_chunk_size ⟨data, frameType, zeros⟩ long
    rw [show (⟨data, frameType, zeros⟩ : SendCall).data.length % wsMaxChunkSize = wsMaxChunkSize - 1 from tail.2] at size
    have wide : ¬ (SendCall.lastChunk ⟨data, frameType, zeros⟩).length < 0xFFFF := by
      rw [size]
      decide
    have notTiny : ¬ (SendCall.lastChunk ⟨data, frameType, zeros⟩).length < 126 := fun tiny => wide (Nat.lt_trans tiny (by decide))
    have whole := same (fun _ _ => 0) (fun _ _ => 1)
    rw [written_long order _ long, written_long order _ long] at whole
    have last := List.append_cancel_left whole
    change sendFragment order _ (SendCall.lastChunk ⟨data, frameType, zeros⟩) _ _ =
      sendFragment order _ (SendCall.lastChunk ⟨data, frameType, zeros⟩) _ _ at last
    simp only [sendFragment, if_neg notTiny, if_neg wide] at last
    have shown := List.append_cancel_left (List.append_cancel_right last)
    exact absurd (List.cons.inj shown).1 (by decide)
  · intro lucky stack other
    exact (written_frames order ⟨data, frameType, stack⟩ lucky).trans (written_frames order ⟨data, frameType, other⟩ lucky).symm

structure Lossless (data : Bytes) (frameType : FrameType) (calls : List FragmentCall) : Prop where
  present : calls ≠ []
  joined : calls.flatMap FragmentCall.fragment = data
  typed : ∀ i call, calls[i]? = some call → call.frameType = if i = 0 then frameType else .continuationFrame
  finished : ∀ i call, calls[i]? = some call → (call.fin = true ↔ i + 1 = calls.length)
  full : ∀ i call, calls[i]? = some call → i + 1 < calls.length → call.fragment.length = wsMaxChunkSize
  last : ∀ i call, calls[i]? = some call → i + 1 = calls.length → call.fragment.length < 2 * wsMaxChunkSize

theorem single_call_lossless (data : Bytes) (frameType : FrameType) (short : data.length < wsMaxChunkSize) :
    Lossless data frameType [⟨data, frameType, true⟩] := by
  have only : ∀ (i : Nat) (call : FragmentCall), [⟨data, frameType, true⟩][i]? = some call → i = 0 ∧ call = ⟨data, frameType, true⟩ := by
    intro i call found
    obtain ⟨inside, same⟩ := List.getElem?_eq_some_iff.mp found
    cases Nat.lt_one_iff.mp inside
    exact ⟨rfl, same.symm⟩
  constructor
  · exact List.cons_ne_nil _ _
  · exact List.flatMap_singleton _ _
  · intro i call found
    obtain ⟨rfl, rfl⟩ := only i call found
    rfl
  · intro i call found
    obtain ⟨rfl, rfl⟩ := only i call found
    exact ⟨fun _ => rfl, fun _ => rfl⟩
  · intro i call found before
    obtain ⟨rfl, rfl⟩ := only i call found
    exact absurd before (Nat.lt_irrefl 1)
  · intro i call found _
    obtain ⟨rfl, rfl⟩ := only i call found
    exact Nat.lt_of_lt_of_le short (Nat.le_mul_of_pos_left _ (by decide))

theorem chunks_joined (data : Bytes) (nChunks count : Nat) (before : count ≤ nChunks - 1) :
    (List.range count).flatMap (dataChunk data nChunks) = data.take (count * wsMaxChunkSize) := by
  induction count with
  | zero => rw [Nat.zero_mul, List.take_zero, List.range_zero, List.flatMap_nil]
  | succ count ih =>
      have inner : count < nChunks - 1 := by omega
      rw [List.range_succ, List.flatMap_append, ih (by omega), List.flatMap_singleton, dataChunk, if_pos inner, Nat.add_mul, Nat.one_mul,
        List.take_add]

theorem all_chunks_joined (data : Bytes) (nChunks : Nat) (some : 1 ≤ nChunks) :
    (List.range nChunks).flatMap (dataChunk data nChunks) = data := by
  have split : List.range nChunks = List.range (nChunks - 1) ++ [nChunks - 1] := by
    rw [← List.range_succ, Nat.succ_eq_add_one, Nat.sub_add_cancel some]
  rw [split, List.flatMap_append, chunks_joined data nChunks (nChunks - 1) (Nat.le_refl _), List.flatMap_singleton, dataChunk,
    if_neg (Nat.lt_irrefl _), List.take_append_drop]

theorem chunk_call_at (data : Bytes) (frameType : FrameType) (nChunks i : Nat) (call : FragmentCall)
    (found : ((List.range nChunks).map (chunkCall data frameType nChunks))[i]? = some call) :
    i < nChunks ∧ call = chunkCall data frameType nChunks i := by
  rw [List.getElem?_map] at found
  obtain ⟨place, inside, same⟩ := Option.map_eq_some_iff.mp found
  obtain ⟨below, equal⟩ := List.getElem?_eq_some_iff.mp inside
  rw [List.getElem_range] at equal
  rw [List.length_range] at below
  cases equal
  exact ⟨below, same.symm⟩

theorem fragment_calls_lossless (data : Bytes) (frameType : FrameType) : Lossless data frameType (fragmentCalls data frameType) := by
  by_cases short : data.length < wsMaxChunkSize
  · rw [fragmentCalls, if_pos short]
    exact single_call_lossless data frameType short
  · have positive : 0 < wsMaxChunkSize := by decide
    have some : 1 ≤ data.length / wsMaxChunkSize := (Nat.one_le_div_iff positive).mpr (Nat.le_of_not_lt short)
    have remainder : data.length % wsMaxChunkSize < wsMaxChunkSize := Nat.mod_lt _ positive
    have size := last_chunk_size ⟨data, frameType, fun _ _ => 0⟩ short
    have inner := chunk_size ⟨data, frameType, fun _ _ => 0⟩
    rw [fragmentCalls, if_neg short]
    dsimp only [SendCall.lastChunk, SendCall.nChunks] at size inner
    generalize data.length / wsMaxChunkSize = nChunks at some size inner ⊢
    have count : ((List.range nChunks).map (chunkCall data frameType nChunks)).length = nChunks := by
      rw [List.length_map, List.length_range]
    constructor
    · intro empty
      rw [empty, List.length_nil] at count
      omega
    · rw [List.flatMap_map]
      exact all_chunks_joined data nChunks some
    · intro i call found
      rw [(chunk_call_at data frameType nChunks i call found).2]
      rfl
    · intro i call found
      obtain ⟨below, rfl⟩ := chunk_call_at data frameType nChunks i call found
      rw [count, chunkCall, Bool.not_eq_true', decide_eq_false_iff_not]
      omega
    · intro i call found before
      obtain ⟨below, rfl⟩ := chunk_call_at data frameType nChunks i call found
      rw [count] at before
      exact inner i (by omega)
    · intro i call found final
      obtain ⟨below, rfl⟩ := chunk_call_at data frameType nChunks i call found
      rw [count] at final
      have place : i = nChunks - 1 := by omega
      rw [place, chunkCall, dataChunk, if_neg (Nat.lt_irrefl _), size]
      omega

theorem fragments_lossless (order : ByteOrder) (stack : Nat → Fin 4 → UInt8) (data : Bytes) (frameType : FrameType) :
    ∃ calls, sendData order stack data frameType =
        calls.mapIdx (fun i call => sendFragment order (stack i) call.fragment call.frameType.code call.fin) ∧
      Lossless data frameType calls :=
  ⟨fragmentCalls data frameType, rfl, fragment_calls_lossless data frameType⟩

end Eventhub.Websocket
