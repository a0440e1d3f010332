import Eventhub.Websocket.Machine

set_option autoImplicit false

namespace Eventhub.Websocket

theorem state_defined (state : WsState) : state.code.toNat < 17 := by
  cases state with
  | opcode => decide
  | length => decide
  | length16 index =>
      revert index
      decide
  | length64 index =>
      revert index
      decide
  | mask index =>
      revert index
      decide
  | payload => decide

theorem code_payload (state : WsState) : state.code = WsState.payload.code ↔ state = .payload := by
  cases state with
  | opcode => decide
  | length => decide
  | length16 index =>
      revert index
      decide
  | length64 index =>
      revert index
      decide
  | mask index =>
      revert index
      decide
  | payload => decide

section

variable {σ : Type}

def WsFields.view (fields : WsFields) (state : WsState) : WsParser :=
  ⟨fields.bytesRemaining.toNat, fields.mask, fields.fragment, fields.fin, fields.control, fields.maskFlag, fields.maskPos, state⟩

structure Machine.At (m : Machine σ) (state : WsState) : Prop where
  code : m.parser.state = state.code
  inside : m.buff + m.len = m.memory.length

-- What a turn of the machine does, in terms of the bytes that are left. The
-- buffer that an error return leaves behind is not read again.
inductive Agrees : Except Fault (MachineTurn σ) → WsTurn σ → Prop where
  | next (m : Machine σ) (state : WsState) (kept : m.At state) :
      Agrees (.ok (.next m)) (.next ⟨m.parser.view state, m.data, m.memory.drop m.buff⟩)
  | stop (rc : Int) (m : Machine σ) (state : WsState) (buff : Bytes) (kept : m.At state) :
      Agrees (.ok (.stop rc m)) (.stop rc ⟨m.parser.view state, m.data, buff⟩)

theorem ite_agrees {condition other : Prop} [Decidable condition] [Decidable other] {left right : Except Fault (MachineTurn σ)}
    {first second : WsTurn σ} (same : condition ↔ other) (yes : condition → Agrees left first)
    (no : ¬ condition → Agrees right second) : Agrees (if condition then left else right) (if other then first else second) := by
  by_cases holds : condition
  · rw [if_pos holds, if_pos (same.mp holds)]
    exact yes holds
  · rw [if_neg holds, if_neg (fun given => holds (same.mpr given))]
    exact no holds

theorem advance_agrees (m : Machine σ) (state : WsState) (kept : m.At state) (left : m.len ≠ 0) :
    Agrees m.advanceAndBreak (.next ⟨m.parser.view state, m.data, m.memory.drop (m.buff + 1)⟩) := by
  have room : 1 ≤ m.len := by omega
  have inside := kept.inside
  have stepped : m.advanceAndBreak = .ok (.next { m with buff := m.buff + 1, len := m.len - 1 }) := by
    rw [Machine.advanceAndBreak, Machine.advance, if_pos room]
    rfl
  rw [stepped]
  exact .next _ state ⟨kept.code, show m.buff + 1 + (m.len - 1) = m.memory.length by omega⟩

theorem call_agrees (m : Machine σ) (state : WsState) (kept : m.At state) (called : σ × Int) (buff : Bytes)
    (proceed : Machine σ → Except Fault (MachineTurn σ)) (continued : σ → WsTurn σ)
    (same : ∀ data, Agrees (proceed { m with data := data }) (continued data)) :
    Agrees (m.call called proceed) (checkRc called (m.parser.view state) buff continued) := by
  by_cases zero : called.2 = 0
  · rw [Machine.call, if_neg (not_not_intro zero), checkRc, if_pos zero]
    exact same called.1
  · rw [Machine.call, if_pos zero, checkRc, if_neg zero]
    exact .stop called.2 _ state buff ⟨kept.code, kept.inside⟩

theorem to_nat_shifted (cur : UInt8) (shift : UInt64) (amount : Nat) (given : shift.toNat = amount) (small : amount ≤ 56) :
    (cur.toUInt64 <<< shift).toNat = cur.toNat <<< amount := by
  have fits : cur.toNat <<< amount < 2 ^ 64 := by
    calc
      cur.toNat <<< amount = cur.toNat * 2 ^ amount := Nat.shiftLeft_eq _ _
      _ ≤ cur.toNat * 2 ^ 56 := Nat.mul_le_mul_left _ (Nat.pow_le_pow_right (by decide) small)
      _ < 2 ^ 8 * 2 ^ 56 := Nat.mul_lt_mul_of_pos_right (UInt8.toNat_lt cur) (by decide)
      _ = 2 ^ 64 := by decide
  have inRange : amount < 64 := by omega
  rw [UInt64.toNat_shiftLeft, UInt8.toNat_toUInt64, given, Nat.mod_eq_of_lt inRange, Nat.mod_eq_of_lt fits]

theorem to_nat_assembled (remaining : UInt64) (cur : UInt8) (shift : UInt64) (amount : Nat) (given : shift.toNat = amount)
    (small : amount ≤ 56) : (remaining ||| cur.toUInt64 <<< shift).toNat = remaining.toNat ||| cur.toNat <<< amount := by
  rw [UInt64.toNat_or, to_nat_shifted cur shift amount given small]

theorem body_code (fields : WsFields) (state : WsState) : Machine.bodyCode fields = (bodyState (fields.view state)).code := by
  unfold Machine.bodyCode bodyState
  cases masked : fields.maskFlag with
  | false => simp [WsFields.view, masked]
  | true => simp [WsFields.view, masked]

theorem mask_pos_successor (maskPos : Fin 4) (count : Nat) : maskPos + 1 + Fin.ofNat 4 count = maskPos + Fin.ofNat 4 (count + 1) := by
  ext
  simp only [Fin.val_add, Fin.val_ofNat, Fin.val_one]
  omega

theorem unmask_loop_overwrites (m : Machine σ) (i count : Nat) (fits : m.buff + i + count ≤ m.memory.length) :
    m.unmaskLoop i count = .ok { m with
      memory := Memory.overwrite m.memory (m.buff + i) (unmask m.parser.mask m.parser.maskPos ((m.memory.drop (m.buff + i)).take count))
      parser := { m.parser with maskPos := m.parser.maskPos + Fin.ofNat 4 count } } := by
  induction count generalizing m i with
  | zero =>
      rw [Machine.unmaskLoop, List.take_zero, unmask, Memory.overwrite_nil]
      simp
  | succ count ih =>
      have inside : m.buff + i < m.memory.length := by omega
      let byte := m.memory[m.buff + i] ^^^ m.parser.mask m.parser.maskPos
      have loaded : m.load i = .ok m.memory[m.buff + i] := by rw [Machine.load, List.getElem?_eq_getElem inside]
      have stored : m.store i byte = .ok { m with memory := Memory.overwrite m.memory (m.buff + i) [byte] } := if_pos inside
      let next : Machine σ := Machine.set { m with memory := Memory.overwrite m.memory (m.buff + i) [byte] }
        { m.parser with maskPos := m.parser.maskPos + 1 }
      have stepped : m.unmaskLoop i (count + 1) = next.unmaskLoop (i + 1) count := by
        rw [Machine.unmaskLoop, loaded]
        change (m.store i byte >>= _) = _
        rw [stored]
        rfl
      have room : m.buff + i + [byte].length ≤ m.memory.length := inside
      have size := Memory.overwrite_length m.memory [byte] (m.buff + i) room
      have behind : (Memory.overwrite m.memory (m.buff + i) [byte]).drop (m.buff + (i + 1)) = m.memory.drop (m.buff + i + 1) :=
        Memory.overwrite_behind m.memory [byte] (m.buff + i) room
      have joined (bytes : Bytes) : Memory.overwrite (Memory.overwrite m.memory (m.buff + i) [byte]) (m.buff + (i + 1)) bytes =
          Memory.overwrite m.memory (m.buff + i) (byte :: bytes) := Memory.overwrite_append m.memory [byte] bytes (m.buff + i) room
      have later : next.buff + (i + 1) + count ≤ next.memory.length := by
        change m.buff + (i + 1) + count ≤ (Memory.overwrite m.memory (m.buff + i) [byte]).length
        omega
      rw [stepped, ih next (i + 1) later, List.drop_eq_getElem_cons inside, List.take_succ_cons, unmask]
      simp only [next, Machine.set, behind, joined, mask_pos_successor]
      rfl

theorem unmask_loop_chunk (m : Machine σ) (state : WsState) (count : Nat) (fits : m.buff + count ≤ m.memory.length) :
    ∃ parser memory, m.unmaskChunk count = .ok ⟨parser, m.data, memory, m.buff, m.len⟩ ∧
      parser.view state = advanceMask (m.parser.view state) count ∧ parser.state = m.parser.state ∧
      parser.bytesRemaining = m.parser.bytesRemaining ∧ memory.length = m.memory.length ∧
      (memory.drop m.buff).take count = unmaskChunk (m.parser.view state) ((m.memory.drop m.buff).take count) ∧
      memory.drop (m.buff + count) = m.memory.drop (m.buff + count) := by
  by_cases masked : m.parser.maskFlag = true
  · let bytes := unmask m.parser.mask m.parser.maskPos ((m.memory.drop m.buff).take count)
    have length : bytes.length = count := by
      rw [unmask_length, List.length_take, List.length_drop]
      omega
    have room : m.buff + bytes.length ≤ m.memory.length := by rwa [length]
    refine ⟨{ m.parser with maskPos := m.parser.maskPos + Fin.ofNat 4 count }, Memory.overwrite m.memory m.buff bytes, ?_, ?_, rfl, rfl,
      Memory.overwrite_length _ _ _ room, ?_, ?_⟩
    · rw [Machine.unmaskChunk, if_pos masked]
      exact unmask_loop_overwrites m 0 count fits
    · exact (if_pos masked).symm
    · rw [Memory.overwrite_drop _ _ _ room, List.take_left' length]
      exact (if_pos masked).symm
    · have behind := Memory.overwrite_behind _ _ _ room
      rwa [length] at behind
  · exact ⟨m.parser, m.memory, if_neg masked, (if_neg masked).symm, rfl, rfl, rfl, (if_neg masked).symm, rfl⟩

section

variable (callbacks : WsCallbacks σ)

theorem end_of_payload_agrees (m : Machine σ) (state : WsState) (kept : m.At state) :
    Agrees (m.endOfPayload callbacks) (endOfPayload callbacks (m.parser.view state) m.data (m.memory.drop m.buff)) := by
  have ended (data : σ) : Agrees (.ok (.next (Machine.set { m with data := data } { m.parser with state := WsState.opcode.code })))
      (.next ⟨{ m.parser.view state with state := .opcode }, data, m.memory.drop m.buff⟩) := .next _ .opcode ⟨rfl, kept.inside⟩
  exact ite_agrees Iff.rfl
    (fun _ => call_agrees m state kept (callbacks.onEnd m.parser.control m.data) _ _ _ ended) (fun _ => ended m.data)

theorem close_agrees (m : Machine σ) (state : WsState) (kept : m.At state) (condition : Prop) [Decidable condition]
    (empty : condition ↔ state = .payload ∧ m.parser.bytesRemaining.toNat = 0) :
    Agrees (if condition then m.endOfPayload callbacks else .ok (.next m))
      (closeIfEmpty callbacks (m.parser.view state) m.data (m.memory.drop m.buff)) :=
  ite_agrees empty (fun _ => end_of_payload_agrees callbacks m state kept) (fun _ => .next m state kept)

theorem consume_agrees (m : Machine σ) (count : Nat) (kept : m.At .payload) (inLen : count ≤ m.len)
    (inRemaining : count ≤ m.parser.bytesRemaining.toNat) :
    Agrees (m.consume callbacks count)
      (closeIfEmpty callbacks { m.parser.view .payload with bytesRemaining := m.parser.bytesRemaining.toNat - count } m.data
        (m.memory.drop (m.buff + count))) := by
  have inside := kept.inside
  have word : (UInt64.ofNat count).toNat = count :=
    UInt64.toNat_ofNat_of_lt' (Nat.lt_of_le_of_lt inRemaining (UInt64.toNat_lt_size _))
  have subtracted : (m.parser.bytesRemaining - UInt64.ofNat count).toNat = m.parser.bytesRemaining.toNat - count := by
    rw [UInt64.toNat_sub_of_le _ _ (UInt64.le_iff_toNat_le.mpr (by rwa [word])), word]
  let last : Machine σ := ⟨{ m.parser with bytesRemaining := m.parser.bytesRemaining - UInt64.ofNat count }, m.data, m.memory,
    m.buff + count, m.len - count⟩
  have stepped : m.consume callbacks count =
      if last.parser.bytesRemaining = 0 then last.endOfPayload callbacks else .ok (.next last) := by
    rw [Machine.consume, Machine.advance, if_pos inLen]
    change (Machine.subtractRemaining ⟨m.parser, m.data, m.memory, m.buff + count, m.len - count⟩ count >>= _) = _
    rw [Machine.subtractRemaining, if_pos inRemaining]
    rfl
  rw [stepped, ← subtracted]
  refine close_agrees callbacks last .payload ⟨kept.code, show m.buff + count + (m.len - count) = m.memory.length by omega⟩ _ ?_
  rw [← UInt64.toNat_inj]
  exact ⟨fun zero => ⟨rfl, zero⟩, fun both => both.2⟩

theorem payload_agrees (m : Machine σ) (kept : m.At .payload) :
    Agrees (m.payloadCase callbacks) (payloadTurn callbacks (m.parser.view .payload) m.data (m.memory.drop m.buff)) := by
  have inside := kept.inside
  have size : (m.memory.drop m.buff).length = m.len := by
    rw [List.length_drop]
    omega
  have chunk : m.chunkLength = min m.len m.parser.bytesRemaining.toNat := by
    rw [Machine.chunkLength]
    split <;> omega
  obtain ⟨parser, memory, unmasked, advanced, state, remaining, length, payload, behind⟩ :=
    unmask_loop_chunk m .payload m.chunkLength (by omega)
  have sliced : Machine.slice ⟨parser, m.data, memory, m.buff, m.len⟩ m.chunkLength = .ok ((memory.drop m.buff).take m.chunkLength) :=
    if_pos (show m.buff + m.chunkLength ≤ memory.length by omega)
  have stepped : m.payloadCase callbacks = Machine.call ⟨parser, m.data, memory, m.buff, m.len⟩
      (callbacks.onPayload m.parser.control m.data ((memory.drop m.buff).take m.chunkLength))
      (fun called => called.consume callbacks m.chunkLength) := by
    rw [Machine.payloadCase, unmasked]
    change (Machine.slice ⟨parser, m.data, memory, m.buff, m.len⟩ m.chunkLength >>= _) = _
    rw [sliced]
    rfl
  have same : min (m.memory.drop m.buff).length (m.parser.view .payload).bytesRemaining = m.chunkLength := by rw [size, chunk]; rfl
  rw [stepped, payload]
  simp only [payloadTurn, same, ← advanced, List.drop_drop, ← behind]
  refine call_agrees ⟨parser, m.data, memory, m.buff, m.len⟩ .payload ⟨state.trans kept.code, inside.trans length.symm⟩ _ _ _ _ ?_
  intro data
  have consumed := consume_agrees callbacks ⟨parser, data, memory, m.buff, m.len⟩ m.chunkLength
    ⟨state.trans kept.code, inside.trans length.symm⟩ (show m.chunkLength ≤ m.len by omega)
    (show m.chunkLength ≤ parser.bytesRemaining.toNat by rw [remaining]; omega)
  rw [remaining] at consumed
  exact consumed

section

variable (m : Machine σ) (cur : UInt8) (left : m.len ≠ 0)

include left

theorem opcode_agrees (kept : m.At .opcode) :
    Agrees (m.opcodeCase callbacks cur) (opcodeTurn callbacks (m.parser.view .opcode) m.data cur (m.memory.drop (m.buff + 1))) := by
  have begun (parser : WsFields) (data : σ) :
      Agrees (Machine.set { m with data := data } { parser with state := WsState.length.code }).advanceAndBreak
        (.next ⟨parser.view .length, data, m.memory.drop (m.buff + 1)⟩) :=
    advance_agrees (Machine.set { m with data := data } { parser with state := WsState.length.code }) .length ⟨rfl, kept.inside⟩ left
  have called (parser : WsFields) (same : parser.state = m.parser.state) (called : σ × Int) (buff : Bytes) :
      Agrees ((m.set parser).call called (fun m => (m.set { parser with state := WsState.length.code }).advanceAndBreak))
        (checkRc called (parser.view .opcode) buff (fun data => .next ⟨parser.view .length, data, m.memory.drop (m.buff + 1)⟩)) :=
    call_agrees (m.set parser) .opcode ⟨same.trans kept.code, kept.inside⟩ called buff _ _ (begun parser)
  have stopped (rc : Int) (fin : Bool) (buff : Bytes) : Agrees (.ok (.stop rc (m.set { m.parser with fin := fin })))
      (.stop rc ⟨{ m.parser.view .opcode with fin := fin }, m.data, buff⟩) := .stop rc _ .opcode buff ⟨kept.code, kept.inside⟩
  refine ite_agrees Iff.rfl (fun _ => .stop _ m .opcode _ kept) (fun _ => ?_)
  refine ite_agrees Iff.rfl (fun _ => ?_) (fun _ => ?_)
  · exact ite_agrees Iff.rfl (fun _ => stopped _ _ _) (fun _ => begun _ m.data)
  · refine ite_agrees Iff.rfl (fun _ => ?_) (fun _ => ?_)
    · refine ite_agrees Iff.rfl (fun _ => stopped _ _ _) (fun _ => ?_)
      refine ite_agrees Iff.rfl (fun _ => stopped _ _ _) (fun _ => ?_)
      exact called { m.parser with fin := cur &&& 0x80 ≠ 0, control := true } rfl _ _
    · refine ite_agrees Iff.rfl (fun _ => stopped _ _ _) (fun _ => ?_)
      exact called { m.parser with fin := cur &&& 0x80 ≠ 0, control := false, fragment := !decide (cur &&& 0x80 ≠ 0) } rfl _ _

theorem advance_close_agrees (parser : WsFields) (state : WsState) (inside : m.buff + m.len = m.memory.length)
    (code : parser.state = state.code) (condition : Machine σ → Prop) [∀ m, Decidable (condition m)]
    (empty : ∀ m : Machine σ, m.parser = parser → (condition m ↔ state = .payload ∧ parser.bytesRemaining.toNat = 0)) :
    Agrees (do
        let m ← (m.set parser).advance 1
        if condition m then m.endOfPayload callbacks else return .next m)
      (closeIfEmpty callbacks (parser.view state) m.data (m.memory.drop (m.buff + 1))) := by
  have room : 1 ≤ m.len := by omega
  have stepped : (m.set parser).advance 1 = .ok { m.set parser with buff := m.buff + 1, len := m.len - 1 } := if_pos room
  rw [stepped]
  exact close_agrees callbacks { m.set parser with buff := m.buff + 1, len := m.len - 1 } state
    ⟨code, show m.buff + 1 + (m.len - 1) = m.memory.length by omega⟩ _ (empty _ rfl)

theorem length_agrees (kept : m.At .length) :
    Agrees (m.lengthCase callbacks cur) (lengthTurn callbacks (m.parser.view .length) m.data cur (m.memory.drop (m.buff + 1))) := by
  have empty (parser : WsFields) (state : WsState) (code : parser.state = state.code) (m : Machine σ) (same : m.parser = parser) :
      (m.parser.state = WsState.payload.code ∧ m.parser.bytesRemaining = 0) ↔
        state = .payload ∧ parser.bytesRemaining.toNat = 0 := by
    rw [same, code, code_payload, ← UInt64.toNat_inj]
    rfl
  have taken (parser : WsFields) (state : WsState) (code : parser.state = state.code) :=
    advance_close_agrees callbacks m left parser state kept.inside code _ (empty parser state code)
  have read : (cur &&& 0x7f).toUInt64.toNat = (cur &&& 0x7f).toNat := UInt8.toNat_toUInt64 _
  simp only [Machine.lengthCase, lengthTurn, takeLength]
  by_cases control : m.parser.control = true
  · rw [if_pos control]
    refine ite_agrees ?_ (fun _ => .stop _ _ .length _ ⟨kept.code, kept.inside⟩) (fun _ => ?_)
    · rw [gt_iff_lt, UInt8.lt_iff_toNat_lt]
      exact ⟨fun longer => ⟨control, longer⟩, fun both => both.2⟩
    · rw [if_pos (.inl control), ← read]
      exact taken _ _ (body_code _ .length)
  · have other : ¬ ((m.parser.view .length).control = true ∧ (cur &&& 0x7f).toNat > 125) := fun both => control both.1
    rw [if_neg control, if_neg other]
    by_cases short : cur &&& 0x7f < 126
    · rw [if_pos short, if_pos (.inr (UInt8.lt_iff_toNat_lt.mp short)), ← read]
      exact taken _ _ (body_code _ .length)
    · have long : ¬ ((m.parser.view .length).control = true ∨ (cur &&& 0x7f).toNat < 126) :=
        fun given => given.elim control (fun below => short (UInt8.lt_iff_toNat_lt.mpr below))
      rw [if_neg short, if_neg long]
      have size : (cur &&& 0x7f).toNat = 126 ↔ cur &&& 0x7f = 126 := ⟨fun same => UInt8.toNat_inj.mp same, congrArg UInt8.toNat⟩
      by_cases medium : cur &&& 0x7f = 126
      · rw [if_pos medium, if_pos (size.mpr medium)]
        exact taken _ (.length16 0) rfl
      · rw [if_neg medium, if_neg (fun given => medium (size.mp given))]
        exact taken _ (.length64 0) rfl

theorem first_length_agrees (state next : WsState) (kept : m.At state) (shift : UInt64) (amount : Nat) (given : shift.toNat = amount)
    (small : amount ≤ 56) : Agrees (m.firstLengthCase cur shift next)
      (.next ⟨{ m.parser.view state with bytesRemaining := cur.toNat <<< amount, state := next }, m.data,
        m.memory.drop (m.buff + 1)⟩) := by
  rw [← to_nat_shifted cur shift amount given small]
  exact advance_agrees (m.set _) next ⟨rfl, kept.inside⟩ left

theorem middle_length_agrees (index : Fin 8) (kept : m.At (.length64 index)) (first : index ≠ 0) (last : index ≠ 7) (shift : UInt64)
    (amount : shift.toNat = 56 - 8 * index.val) : Agrees (m.middleLengthCase cur shift (.length64 (index + 1)))
    (length64Turn (m.parser.view (.length64 index)) m.data index cur (m.memory.drop (m.buff + 1))) := by
  have assembled : (m.parser.view (.length64 index)).bytesRemaining ||| cur.toNat <<< (56 - 8 * index.val) =
      (m.parser.bytesRemaining ||| cur.toUInt64 <<< shift).toNat := (to_nat_assembled _ cur shift _ amount (by omega)).symm
  simp only [length64Turn, if_neg first, if_pos last, assembled]
  exact advance_agrees (m.set _) (.length64 (index + 1)) ⟨rfl, kept.inside⟩ left

theorem last_length_agrees (state : WsState) (kept : m.At state) (least : UInt64) (read : WsParser)
    (assembled : read = { m.parser.view state with
      bytesRemaining := m.parser.bytesRemaining.toNat ||| cur.toNat, state := bodyState (m.parser.view state) }) :
    Agrees (m.lastLengthCase cur least)
      (if read.bytesRemaining < least.toNat then .stop wsNonCanonicalLength ⟨read, m.data, cur :: m.memory.drop (m.buff + 1)⟩
        else .next ⟨read, m.data, m.memory.drop (m.buff + 1)⟩) := by
  have length : (m.parser.bytesRemaining ||| cur.toUInt64 <<< 0).toNat = m.parser.bytesRemaining.toNat ||| cur.toNat :=
    to_nat_assembled _ cur 0 0 rfl (by decide)
  have same : read = WsFields.view { m.parser with
      bytesRemaining := m.parser.bytesRemaining ||| cur.toUInt64 <<< 0, state := Machine.bodyCode m.parser }
        (bodyState (m.parser.view state)) := by
    rw [assembled, ← length]
    rfl
  have code := body_code m.parser state
  rw [same]
  exact ite_agrees UInt64.lt_iff_toNat_lt (fun _ => .stop _ (m.set _) _ _ ⟨code, kept.inside⟩)
    (fun _ => advance_agrees (m.set _) _ ⟨code, kept.inside⟩ left)

theorem mask_agrees (index : Fin 4) (kept : m.At (.mask index)) (last : index ≠ 3) : Agrees (m.maskCase cur index)
    (maskTurn callbacks (m.parser.view (.mask index)) m.data index cur (m.memory.drop (m.buff + 1))) := by
  rw [maskTurn, if_pos last]
  exact advance_agrees (m.set _) (.mask (index + 1)) ⟨rfl, kept.inside⟩ left

theorem last_mask_agrees (kept : m.At (.mask 3)) : Agrees (m.lastMaskCase callbacks cur)
    (maskTurn callbacks (m.parser.view (.mask 3)) m.data 3 cur (m.memory.drop (m.buff + 1))) := by
  rw [maskTurn, if_neg (not_not_intro rfl)]
  refine advance_close_agrees callbacks m left _ .payload kept.inside rfl (fun m => m.parser.bytesRemaining = 0) ?_
  intro m same
  rw [same, ← UInt64.toNat_inj]
  exact ⟨fun zero => ⟨rfl, zero⟩, fun both => both.2⟩

theorem length16_agrees (index : Fin 2) (kept : m.At (.length16 index)) :
    Agrees (m.dispatch callbacks cur (WsState.length16 index).code.toNat)
      (length16Turn (m.parser.view (.length16 index)) m.data index cur (m.memory.drop (m.buff + 1))) := by
  fin_cases index
  · exact first_length_agrees m cur left (.length16 0) (.length16 1) kept 8 8 rfl (by decide)
  · exact last_length_agrees m cur left (.length16 1) kept 126 _ rfl

theorem length64_agrees (index : Fin 8) (kept : m.At (.length64 index)) :
    Agrees (m.dispatch callbacks cur (WsState.length64 index).code.toNat)
      (length64Turn (m.parser.view (.length64 index)) m.data index cur (m.memory.drop (m.buff + 1))) := by
  fin_cases index
  · exact first_length_agrees m cur left (.length64 0) (.length64 1) kept 56 56 rfl (by decide)
  · exact middle_length_agrees m cur left 1 kept (by decide) (by decide) 48 rfl
  · exact middle_length_agrees m cur left 2 kept (by decide) (by decide) 40 rfl
  · exact middle_length_agrees m cur left 3 kept (by decide) (by decide) 32 rfl
  · exact middle_length_agrees m cur left 4 kept (by decide) (by decide) 24 rfl
  · exact middle_length_agrees m cur left 5 kept (by decide) (by decide) 16 rfl
  · exact middle_length_agrees m cur left 6 kept (by decide) (by decide) 8 rfl
  · exact last_length_agrees m cur left (.length64 7) kept 65536 _ rfl

theorem mask_index_agrees (index : Fin 4) (kept : m.At (.mask index)) :
    Agrees (m.dispatch callbacks cur (WsState.mask index).code.toNat)
      (maskTurn callbacks (m.parser.view (.mask index)) m.data index cur (m.memory.drop (m.buff + 1))) := by
  fin_cases index
  · exact mask_agrees callbacks m cur left 0 kept (by decide)
  · exact mask_agrees callbacks m cur left 1 kept (by decide)
  · exact mask_agrees callbacks m cur left 2 kept (by decide)
  · exact last_mask_agrees callbacks m cur left kept

theorem dispatch_agrees (state : WsState) (kept : m.At state) (bytes : m.memory.drop m.buff = cur :: m.memory.drop (m.buff + 1)) :
    Agrees (m.dispatch callbacks cur m.parser.state.toNat)
      (wsTurn callbacks (m.parser.view state) m.data cur (m.memory.drop (m.buff + 1))) := by
  rw [kept.code]
  cases state with
  | opcode => exact opcode_agrees callbacks m cur left kept
  | length => exact length_agrees callbacks m cur left kept
  | length16 index => exact length16_agrees callbacks m cur left index kept
  | length64 index => exact length64_agrees callbacks m cur left index kept
  | mask index => exact mask_index_agrees callbacks m cur left index kept
  | payload =>
      rw [ws_turn_payload callbacks _ _ _ _ rfl, ← bytes]
      exact payload_agrees callbacks m kept

end

theorem turn_agrees (m : Machine σ) (state : WsState) (kept : m.At state) (cur : UInt8) (rest : Bytes)
    (bytes : m.memory.drop m.buff = cur :: rest) :
    Agrees (m.turn callbacks) (wsTurn callbacks (m.parser.view state) m.data cur rest) := by
  have inside := kept.inside
  have size := congrArg List.length bytes
  rw [List.length_drop, List.length_cons] at size
  have left : m.len ≠ 0 := by omega
  have bound : m.buff < m.memory.length := by omega
  have opened := List.drop_eq_getElem_cons bound
  obtain ⟨head, tail⟩ := List.cons.inj (bytes.symm.trans opened)
  have loaded : m.load 0 = .ok cur := by
    rw [Machine.load, Nat.add_zero, List.getElem?_eq_getElem bound, head]
  rw [Machine.turn, if_neg left, loaded, tail]
  exact dispatch_agrees callbacks m cur left state kept (by rw [opened, head])

theorem turn_ended (m : Machine σ) (state : WsState) (kept : m.At state) (bytes : m.memory.drop m.buff = []) :
    m.turn callbacks = .ok (.stop wsOk m) := by
  have inside := kept.inside
  have size := congrArg List.length bytes
  rw [List.length_drop, List.length_nil] at size
  exact if_pos (by omega)

end

def WsConfig.Kept : WsConfig σ → Prop
  | .running m => ∃ state, m.At state
  | .returned _ m => ∃ state, m.At state
  | .faulted _ => False

theorem kept_safe (config : WsConfig σ) (kept : config.Kept) : config.Safe := by
  cases config with
  | running m =>
      obtain ⟨state, code, inside⟩ := kept
      exact ⟨code ▸ state_defined state, inside⟩
  | returned rc m =>
      obtain ⟨state, code, inside⟩ := kept
      exact ⟨code ▸ state_defined state, inside⟩
  | faulted fault => exact kept

theorem agrees_kept (result : Except Fault (MachineTurn σ)) (turn : WsTurn σ) (agrees : Agrees result turn) :
    (WsConfig.ofTurn result).Kept := by
  cases agrees with
  | next m state kept => exact ⟨state, kept⟩
  | stop rc m state buff kept => exact ⟨state, kept⟩

section

variable (callbacks : WsCallbacks σ)

theorem step_kept (before after : WsConfig σ) (taken : before.step callbacks = some after) (kept : before.Kept) : after.Kept := by
  cases before with
  | running m =>
      obtain ⟨state, there⟩ := kept
      cases taken
      cases bytes : m.memory.drop m.buff with
      | nil =>
          rw [turn_ended callbacks m state there bytes]
          exact ⟨state, there⟩
      | cons cur rest => exact agrees_kept _ _ (turn_agrees callbacks m state there cur rest bytes)
  | returned rc m => cases taken
  | faulted fault => cases taken

theorem reached_defined (parser : WsFields) (reached : Reached callbacks parser) : ∃ state : WsState, parser.state = state.code := by
  induction reached with
  | init allocated => exact ⟨.opcode, rfl⟩
  | executed parser data buffer rc last before ran ih =>
      obtain ⟨state, code⟩ := ih
      have initially : (WsConfig.start parser data buffer).Kept := ⟨state, code, Nat.zero_add _⟩
      obtain ⟨final, kept⟩ := Transition.halts_invariant _ WsConfig.Kept (step_kept callbacks) _ _ ran initially
      exact ⟨final, kept.code⟩

theorem machine_executes (parser : WsParser) (data : σ) (buff : Bytes) (m : Machine σ) (state : WsState) (kept : m.At state)
    (view : m.parser.view state = parser) (same : m.data = data) (bytes : m.memory.drop m.buff = buff) :
    ∃ last final, Transition.Halts (WsConfig.step callbacks) (.running m) (.returned (wsParserExecute callbacks parser data buff).1 last) ∧
      last.At final ∧ last.parser.view final = (wsParserExecute callbacks parser data buff).2.parser ∧
      last.data = (wsParserExecute callbacks parser data buff).2.data := by
  fun_induction wsParserExecute callbacks parser data buff generalizing m state with
  | case1 parser data =>
      have ended := turn_ended callbacks m state kept bytes
      refine ⟨m, state, .turned _ _ _ ?_ (.left _ rfl), kept, view, same⟩
      rw [WsConfig.step, ended]
      rfl
  | case2 parser data cur rest run turned ih =>
      have agrees := turn_agrees callbacks m state kept cur rest bytes
      rw [view, same, turned] at agrees
      generalize outcome : m.turn callbacks = result at agrees
      cases agrees with
      | next after following keptAfter =>
          obtain ⟨last, final, halts, facts⟩ := ih after following keptAfter rfl rfl rfl
          exact ⟨last, final, .turned _ _ _ (by rw [WsConfig.step, outcome]; rfl) halts, facts⟩
  | case3 parser data cur rest rc run turned =>
      have agrees := turn_agrees callbacks m state kept cur rest bytes
      rw [view, same, turned] at agrees
      generalize outcome : m.turn callbacks = result at agrees
      cases agrees with
      | stop _ after following left keptAfter =>
          exact ⟨after, following, .turned _ _ _ (by rw [WsConfig.step, outcome]; rfl) (.left _ rfl), keptAfter, rfl, rfl⟩

-- No turn faults, so neither counter is ever made smaller than zero and no
-- byte outside the buffer is touched.
theorem execute_safe (parser : WsFields) (reached : Reached callbacks parser) (data : σ) (buffer : Bytes) :
    (∃ rc last, Transition.Halts (WsConfig.step callbacks) (.start parser data buffer) (.returned rc last)) ∧
      ∀ config, WsConfig.Passes callbacks (.start parser data buffer) config → config.Safe := by
  obtain ⟨state, code⟩ := reached_defined callbacks parser reached
  have kept : Machine.At ⟨parser, data, buffer, 0, buffer.length⟩ state := ⟨code, Nat.zero_add _⟩
  constructor
  · obtain ⟨last, final, halts, _⟩ := machine_executes callbacks _ _ _ _ state kept rfl rfl rfl
    exact ⟨_, last, halts⟩
  · intro config passed
    apply kept_safe
    induction passed with
    | refl => exact ⟨state, kept⟩
    | tail _ taken ih => exact step_kept callbacks _ _ taken ih

end

def silentCallbacks : WsCallbacks Unit :=
  ⟨fun _ _ => ((), 0), fun _ _ => ((), 0), fun _ => ((), 0), fun _ _ => ((), 0), fun _ _ => ((), 0), fun _ => ((), 0)⟩

def refusedParser : WsFields := ⟨0, fun _ => 0, false, true, false, false, 0, 16⟩

theorem refused_reached : Reached silentCallbacks refusedParser :=
  .executed _ () [0x81, 0x7e, 0, 0] wsNonCanonicalLength ⟨refusedParser, (), [0x81, 0x7e, 0, 0], 3, 1⟩
    (.init ⟨0, fun _ => 0, false, false, false, false, 0, 0⟩)
    (.turned _ _ _ rfl (.turned _ _ _ rfl (.turned _ _ _ rfl (.turned _ _ _ rfl (.left _ rfl)))))

theorem refused_execute_safe :
    (∃ rc last, Transition.Halts (WsConfig.step silentCallbacks) (.start refusedParser () [0x81, 0]) (.returned rc last)) ∧
      ∀ config, WsConfig.Passes silentCallbacks (.start refusedParser () [0x81, 0]) config → config.Safe :=
  execute_safe silentCallbacks refusedParser refused_reached () [0x81, 0]

end

end Eventhub.Websocket
