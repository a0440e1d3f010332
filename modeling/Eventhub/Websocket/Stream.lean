import Eventhub.Websocket.Parser

set_option autoImplicit false

namespace Eventhub.Websocket

section

variable {σ τ : Type}

def WsRun.map (f : σ → τ) (run : WsRun σ) : WsRun τ := ⟨run.parser, f run.data, run.buff⟩

def WsTurn.map (f : σ → τ) : WsTurn σ → WsTurn τ
  | .next run => .next (run.map f)
  | .stop rc run => .stop rc (run.map f)

structure CallbackMap (source : WsCallbacks σ) (target : WsCallbacks τ) (f : σ → τ) : Prop where
  dataBegin : ∀ data opcode, target.onDataBegin (f data) opcode = (source.onDataBegin data opcode).map f id
  dataPayload : ∀ data payload, target.onDataPayload (f data) payload = (source.onDataPayload data payload).map f id
  dataEnd : ∀ data, target.onDataEnd (f data) = (source.onDataEnd data).map f id
  controlBegin : ∀ data opcode, target.onControlBegin (f data) opcode = (source.onControlBegin data opcode).map f id
  controlPayload : ∀ data payload,
    target.onControlPayload (f data) payload = (source.onControlPayload data payload).map f id
  controlEnd : ∀ data, target.onControlEnd (f data) = (source.onControlEnd data).map f id

theorem check_rc_map (f : σ → τ) (called : σ × Int) (parser : WsParser) (buff : Bytes) (proceed : σ → WsTurn σ)
    (mapped : τ → WsTurn τ) (same : ∀ data, mapped (f data) = (proceed data).map f) :
    checkRc (called.map f id) parser buff mapped = (checkRc called parser buff proceed).map f := by
  unfold checkRc
  by_cases zero : called.2 = 0
  · simp [zero, same]
  · simp [zero, WsTurn.map, WsRun.map]

variable (source : WsCallbacks σ) (target : WsCallbacks τ) (f : σ → τ)

theorem end_of_payload_map (maps : CallbackMap source target f) (parser : WsParser) (data : σ) (buff : Bytes) :
    endOfPayload target parser (f data) buff = (endOfPayload source parser data buff).map f := by
  have called : target.onEnd parser.control (f data) = (source.onEnd parser.control data).map f id := by
    unfold WsCallbacks.onEnd
    split
    · exact maps.controlEnd data
    · exact maps.dataEnd data
  unfold endOfPayload
  split
  · rw [called]
    exact check_rc_map f _ _ _ _ _ (fun _ => rfl)
  · rfl

theorem close_if_empty_map (maps : CallbackMap source target f) (parser : WsParser) (data : σ) (buff : Bytes) :
    closeIfEmpty target parser (f data) buff = (closeIfEmpty source parser data buff).map f := by
  unfold closeIfEmpty
  split
  · exact end_of_payload_map source target f maps parser data buff
  · rfl

theorem ws_turn_map (maps : CallbackMap source target f) (parser : WsParser) (data : σ) (cur : UInt8) (rest : Bytes) :
    wsTurn target parser (f data) cur rest = (wsTurn source parser data cur rest).map f := by
  unfold wsTurn
  cases parser.state with
  | opcode =>
      simp only [opcodeTurn, maps.controlBegin, maps.dataBegin]
      split_ifs
      all_goals first
        | rfl
        | exact check_rc_map f _ _ _ _ _ (fun _ => rfl)
  | length =>
      simp only [lengthTurn, close_if_empty_map source target f maps]
      split <;> rfl
  | length16 index =>
      simp only [length16Turn]
      split_ifs <;> rfl
  | length64 index =>
      simp only [length64Turn]
      split_ifs <;> rfl
  | mask index =>
      simp only [maskTurn, close_if_empty_map source target f maps]
      split <;> rfl
  | payload =>
      have called (payload : Bytes) : target.onPayload parser.control (f data) payload =
          (source.onPayload parser.control data payload).map f id := by
        unfold WsCallbacks.onPayload
        split
        · exact maps.controlPayload data payload
        · exact maps.dataPayload data payload
      simp only [payloadTurn, called]
      exact check_rc_map f _ _ _ _ _ (fun data => close_if_empty_map source target f maps _ data _)

theorem execute_map (maps : CallbackMap source target f) (parser : WsParser) (data : σ) (buff : Bytes) :
    wsParserExecute target parser (f data) buff =
      ((wsParserExecute source parser data buff).1, (wsParserExecute source parser data buff).2.map f) := by
  fun_induction wsParserExecute source parser data buff with
  | case1 parser data => exact execute_nil target parser (f data)
  | case2 parser data cur rest run turned ih =>
      have mapped := ws_turn_map source target f maps parser data cur rest
      rw [turned] at mapped
      rw [execute_next target parser (f data) cur rest _ mapped]
      exact ih
  | case3 parser data cur rest rc run turned =>
      have mapped := ws_turn_map source target f maps parser data cur rest
      rw [turned] at mapped
      exact execute_stop target parser (f data) cur rest rc _ mapped

end

section

variable {σ : Type} (callbacks : WsCallbacks σ)

-- The law of a callback set that only sees the concatenation of the payload
-- pieces of a frame.
structure Streaming : Prop where
  accepts : ∀ control data payload, (callbacks.onPayload control data payload).2 = 0
  joins : ∀ control data first second, callbacks.onPayload control (callbacks.onPayload control data first).1 second =
    callbacks.onPayload control data (first ++ second)

def WsParser.Ready (parser : WsParser) : Prop := parser.state = .payload → parser.bytesRemaining ≠ 0

def WsTurn.append (more : Bytes) : WsTurn σ → WsTurn σ
  | .next run => .next { run with buff := run.buff ++ more }
  | .stop rc run => .stop rc { run with buff := run.buff ++ more }

theorem ws_turn_ready (parser : WsParser) (data : σ) (cur : UInt8) (rest : Bytes) :
    (wsTurn callbacks parser data cur rest).Holds (fun run => run.parser.Ready) (fun rc _ => rc ≠ 0) := by
  have closes (parser : WsParser) (data : σ) (buff : Bytes) :
      (closeIfEmpty callbacks parser data buff).Holds (fun run => run.parser.Ready) (fun rc _ => rc ≠ 0) := by
    apply close_if_empty_holds
    · intro data state
      cases state
    · exact fun rc data nonzero => nonzero
    · exact fun unfinished state empty => unfinished ⟨state, empty⟩
  unfold wsTurn
  cases parser.state with
  | opcode =>
      simp only [opcodeTurn]
      split_ifs
      all_goals first
        | (intro state; cases state)
        | exact (by decide : (_ : Int) ≠ 0)
        | exact check_rc_holds _ _ _ _ _ _ (fun _ state => by cases state) (fun nonzero => nonzero)
  | length =>
      simp only [lengthTurn]
      split
      · exact (by decide : wsControlTooLong ≠ 0)
      · exact closes _ _ _
  | length16 index =>
      simp only [length16Turn]
      split_ifs with first short
      · intro state
        cases state
      · exact (by decide : wsNonCanonicalLength ≠ 0)
      · intro _ empty
        exact short (Nat.lt_of_le_of_lt (Nat.le_of_eq empty) (by decide))
  | length64 index =>
      simp only [length64Turn]
      split_ifs with first middle short
      · intro state
        cases state
      · intro state
        cases state
      · exact (by decide : wsNonCanonicalLength ≠ 0)
      · intro _ empty
        exact short (Nat.lt_of_le_of_lt (Nat.le_of_eq empty) (by decide))
  | mask index =>
      simp only [maskTurn]
      split
      · intro state
        cases state
      · exact closes _ _ _
  | payload =>
      simp only [payloadTurn]
      exact check_rc_holds _ _ _ _ _ _ (fun _ => closes _ _ _) (fun nonzero => nonzero)

theorem check_rc_append (called : σ × Int) (parser : WsParser) (buff more : Bytes) (proceed longer : σ → WsTurn σ)
    (same : ∀ data, longer data = (proceed data).append more) :
    checkRc called parser (buff ++ more) longer = (checkRc called parser buff proceed).append more := by
  unfold checkRc
  split
  · exact same called.1
  · rfl

theorem close_if_empty_append (parser : WsParser) (data : σ) (buff more : Bytes) :
    closeIfEmpty callbacks parser data (buff ++ more) = (closeIfEmpty callbacks parser data buff).append more := by
  unfold closeIfEmpty endOfPayload
  split_ifs
  · exact check_rc_append _ _ _ _ _ _ (fun _ => rfl)
  · rfl
  · rfl

theorem ws_turn_append (parser : WsParser) (data : σ) (cur : UInt8) (rest more : Bytes)
    (enough : parser.state = .payload → parser.bytesRemaining ≤ (cur :: rest).length) :
    wsTurn callbacks parser data cur (rest ++ more) = (wsTurn callbacks parser data cur rest).append more := by
  unfold wsTurn
  cases state : parser.state with
  | opcode =>
      simp only [opcodeTurn]
      split_ifs
      all_goals first
        | rfl
        | exact check_rc_append _ _ (cur :: rest) more _ _ (fun _ => rfl)
  | length =>
      simp only [lengthTurn, close_if_empty_append]
      split <;> rfl
  | length16 index =>
      simp only [length16Turn]
      split_ifs <;> rfl
  | length64 index =>
      simp only [length64Turn]
      split_ifs <;> rfl
  | mask index =>
      simp only [maskTurn, close_if_empty_append]
      split <;> rfl
  | payload =>
      have room := enough state
      have whole : min (cur :: (rest ++ more)).length parser.bytesRemaining = parser.bytesRemaining := by
        simp only [List.length_cons, List.length_append] at room ⊢
        omega
      have part : min (cur :: rest).length parser.bytesRemaining = parser.bytesRemaining := by omega
      simp only [payloadTurn, whole, part]
      rw [← List.cons_append, List.take_append_of_le_length room, List.drop_append_of_le_length room]
      exact check_rc_append _ _ (cur :: rest) more _ _ (fun data => close_if_empty_append callbacks _ data _ _)

theorem unmask_append (mask : Fin 4 → UInt8) (maskPos : Fin 4) (first second : Bytes) :
    unmask mask maskPos (first ++ second) =
      unmask mask maskPos first ++ unmask mask (maskPos + Fin.ofNat 4 first.length) second := by
  induction first generalizing maskPos with
  | nil => simp [unmask]
  | cons byte first ih =>
      have shift : maskPos + 1 + Fin.ofNat 4 first.length = maskPos + Fin.ofNat 4 (byte :: first).length := by
        ext
        simp only [Fin.val_add, Fin.val_ofNat, List.length_cons, Fin.val_one]
        omega
      simp only [List.cons_append, unmask, ih, shift]

theorem unmask_chunk_append (parser : WsParser) (first second : Bytes) :
    unmaskChunk parser (first ++ second) =
      unmaskChunk parser first ++ unmaskChunk (advanceMask parser first.length) second := by
  unfold unmaskChunk advanceMask
  cases masked : parser.maskFlag with
  | false => simp [masked]
  | true => simp [unmask_append]

theorem advance_mask_add (parser : WsParser) (first second : Nat) (remaining : Nat) :
    advanceMask { advanceMask parser first with bytesRemaining := remaining } second =
      { advanceMask parser (first + second) with bytesRemaining := remaining } := by
  unfold advanceMask
  cases masked : parser.maskFlag with
  | false => simp [masked]
  | true =>
      simp only [if_true, WsParser.mk.injEq, true_and, and_true]
      ext
      simp only [Fin.val_add, Fin.val_ofNat]
      omega

theorem advance_mask_fields (parser : WsParser) (count : Nat) :
    (advanceMask parser count).maskFlag = parser.maskFlag ∧ (advanceMask parser count).control = parser.control ∧
      (advanceMask parser count).bytesRemaining = parser.bytesRemaining := by
  unfold advanceMask
  split <;> exact ⟨rfl, rfl, rfl⟩

def midPayload (parser : WsParser) (count : Nat) : WsParser :=
  { advanceMask parser count with bytesRemaining := parser.bytesRemaining - count }

theorem payload_turn_inside (streaming : Streaming callbacks) (parser : WsParser) (data : σ) (buff : Bytes)
    (short : buff.length < parser.bytesRemaining) :
    payloadTurn callbacks parser data buff =
      .next ⟨midPayload parser buff.length, (callbacks.onPayload parser.control data (unmaskChunk parser buff)).1, []⟩ := by
  have chunk : min buff.length parser.bytesRemaining = buff.length := by omega
  have waiting : parser.bytesRemaining - buff.length ≠ 0 := by omega
  simp [payloadTurn, chunk, checkRc, streaming.accepts, closeIfEmpty, waiting, midPayload]

theorem payload_turn_split (streaming : Streaming callbacks) (parser : WsParser) (data : σ) (first second : Bytes)
    (short : first.length < parser.bytesRemaining) :
    payloadTurn callbacks parser data (first ++ second) =
      payloadTurn callbacks (midPayload parser first.length)
        (callbacks.onPayload parser.control data (unmaskChunk parser first)).1 second := by
  obtain ⟨_, control, _⟩ := advance_mask_fields parser first.length
  have outer : min (first ++ second).length parser.bytesRemaining =
      first.length + min second.length (parser.bytesRemaining - first.length) := by
    rw [List.length_append]
    omega
  have inner : (midPayload parser first.length).bytesRemaining = parser.bytesRemaining - first.length := rfl
  have unmasked (bytes : Bytes) : unmaskChunk (midPayload parser first.length) bytes =
      unmaskChunk (advanceMask parser first.length) bytes := rfl
  have controls : (midPayload parser first.length).control = parser.control := control
  have rest : parser.bytesRemaining - (first.length + min second.length (parser.bytesRemaining - first.length)) =
      parser.bytesRemaining - first.length - min second.length (parser.bytesRemaining - first.length) := by omega
  unfold payloadTurn
  simp only [outer, inner, controls, unmasked, rest, streaming.joins, ← unmask_chunk_append, List.take_length_add_append,
    List.drop_length_add_append, checkRc, streaming.accepts, if_true]
  rw [midPayload, advance_mask_add]

theorem execute_append (streaming : Streaming callbacks) (parser : WsParser) (data : σ) (first second : Bytes)
    (ready : parser.Ready) :
    wsParserExecute callbacks parser data (first ++ second) =
      if (wsParserExecute callbacks parser data first).1 = wsOk then
        wsParserExecute callbacks (wsParserExecute callbacks parser data first).2.parser
          (wsParserExecute callbacks parser data first).2.data second
      else ((wsParserExecute callbacks parser data first).1,
        { (wsParserExecute callbacks parser data first).2 with
          buff := (wsParserExecute callbacks parser data first).2.buff ++ second }) := by
  fun_induction wsParserExecute callbacks parser data first with
  | case1 parser data => simp [wsOk]
  | case2 parser data cur rest run turned ih =>
      have held := ws_turn_ready callbacks parser data cur rest
      rw [turned] at held
      by_cases enough : parser.state = .payload → parser.bytesRemaining ≤ (cur :: rest).length
      · have appended := ws_turn_append callbacks parser data cur rest second enough
        rw [turned] at appended
        rw [List.cons_append, execute_next callbacks parser data cur _ _ appended]
        exact ih held
      · -- the first buffer ends inside a payload
        obtain ⟨state, short⟩ := Classical.not_imp.mp enough
        have within : (cur :: rest).length < parser.bytesRemaining := Nat.lt_of_not_le short
        have inside := payload_turn_inside callbacks streaming parser data (cur :: rest) within
        rw [← ws_turn_payload callbacks parser data cur rest state, turned] at inside
        cases inside
        simp only [execute_nil, if_true]
        cases second with
        | nil => rw [List.append_nil, execute_next callbacks parser data cur rest _ turned, execute_nil]
        | cons byte second =>
            have middle : (midPayload parser (cur :: rest).length).state = .payload := by
              simpa only [midPayload] using (advance_mask_state parser _).trans state
            apply execute_same_turn
            rw [ws_turn_payload _ _ _ _ _ state, ws_turn_payload _ _ _ _ _ middle]
            exact payload_turn_split callbacks streaming parser data (cur :: rest) (byte :: second) within
  | case3 parser data cur rest rc run turned =>
      have held := ws_turn_ready callbacks parser data cur rest
      rw [turned] at held
      have enough : parser.state = .payload → parser.bytesRemaining ≤ (cur :: rest).length := by
        intro state
        by_contra short
        have inside := payload_turn_inside callbacks streaming parser data (cur :: rest) (Nat.lt_of_not_le short)
        rw [← ws_turn_payload callbacks parser data cur rest state, turned] at inside
        cases inside
      have appended := ws_turn_append callbacks parser data cur rest second enough
      rw [turned] at appended
      have nonzero : ¬ rc = wsOk := held
      rw [if_neg nonzero, List.cons_append, execute_stop callbacks parser data cur _ rc _ appended]

theorem execute_ready (parser : WsParser) (data : σ) (buff : Bytes) (ready : parser.Ready)
    (passed : (wsParserExecute callbacks parser data buff).1 = wsOk) :
    (wsParserExecute callbacks parser data buff).2.parser.Ready := by
  have held := execute_holds callbacks (fun run => run.parser.Ready) (fun rc _ => rc ≠ 0)
    (fun parser data cur rest _ => ws_turn_ready callbacks parser data cur rest) parser data buff ready
  rcases held with ⟨_, _, after⟩ | failed
  · exact after
  · exact absurd passed failed

theorem ws_turn_suffix (parser : WsParser) (data : σ) (cur : UInt8) (rest : Bytes) :
    (wsTurn callbacks parser data cur rest).Holds (fun run => run.buff <:+ cur :: rest) (fun _ run => run.buff <:+ cur :: rest) := by
  have advanced : rest <:+ cur :: rest := List.suffix_cons cur rest
  have closes (parser : WsParser) (data : σ) (buff : Bytes) (suffix : buff <:+ cur :: rest) :
      (closeIfEmpty callbacks parser data buff).Holds (fun run => run.buff <:+ cur :: rest) (fun _ run => run.buff <:+ cur :: rest) :=
    close_if_empty_holds _ _ _ _ _ _ (fun _ => suffix) (fun _ _ _ => suffix) (fun _ => suffix)
  unfold wsTurn
  cases parser.state with
  | opcode =>
      simp only [opcodeTurn]
      split_ifs
      all_goals first
        | exact advanced
        | exact List.suffix_rfl
        | exact check_rc_holds _ _ _ _ _ _ (fun _ => advanced) (fun _ => List.suffix_rfl)
  | length =>
      simp only [lengthTurn]
      split
      · exact List.suffix_rfl
      · exact closes _ _ _ advanced
  | length16 index =>
      simp only [length16Turn]
      split_ifs
      all_goals first | exact advanced | exact List.suffix_rfl
  | length64 index =>
      simp only [length64Turn]
      split_ifs
      all_goals first | exact advanced | exact List.suffix_rfl
  | mask index =>
      simp only [maskTurn]
      split
      · exact advanced
      · exact closes _ _ _ advanced
  | payload =>
      simp only [payloadTurn]
      exact check_rc_holds _ _ _ _ _ _ (fun _ => closes _ _ _ (List.drop_suffix _ _)) (fun _ => List.suffix_rfl)

theorem execute_suffix (parser : WsParser) (data : σ) (buff : Bytes) :
    (wsParserExecute callbacks parser data buff).2.buff <:+ buff := by
  have held := execute_holds callbacks (fun run => run.buff <:+ buff) (fun _ run => run.buff <:+ buff) ?_ parser data buff List.suffix_rfl
  · rcases held with ⟨_, _, after⟩ | after
    · exact after
    · exact after
  · intro parser data cur rest before
    have step := ws_turn_suffix callbacks parser data cur rest
    cases turned : wsTurn callbacks parser data cur rest with
    | next run =>
        rw [turned] at step
        exact List.IsSuffix.trans step before
    | stop rc run =>
        rw [turned] at step
        exact List.IsSuffix.trans step before

end

section

variable {σ τ : Type}

-- The end of a run of parse calls: still live, or stopped at the first
-- protocol error with its code and its offset in the whole stream.
structure KeptBy (callbacks : WsCallbacks σ) (keep : σ → Prop) : Prop where
  dataBegin : ∀ data opcode, keep data → keep (callbacks.onDataBegin data opcode).1
  controlBegin : ∀ data opcode, keep data → keep (callbacks.onControlBegin data opcode).1
  payload : ∀ control data bytes, keep data → keep (callbacks.onPayload control data bytes).1
  ends : ∀ control data, keep data → keep (callbacks.onEnd control data).1

theorem close_if_empty_keeps (callbacks : WsCallbacks σ) (keep : σ → Prop) (kept : KeptBy callbacks keep) (parser : WsParser)
    (data : σ) (buff : Bytes) (start : keep data) :
    (closeIfEmpty callbacks parser data buff).Holds (fun run => keep run.data) (fun _ run => keep run.data) := by
  unfold closeIfEmpty endOfPayload
  split_ifs
  · exact check_rc_holds _ _ _ _ _ _ (fun _ => kept.ends _ _ start) (fun _ => kept.ends _ _ start)
  · exact start
  · exact start

theorem ws_turn_keeps (callbacks : WsCallbacks σ) (keep : σ → Prop) (kept : KeptBy callbacks keep) (parser : WsParser) (data : σ)
    (cur : UInt8) (rest : Bytes) (start : keep data) :
    (wsTurn callbacks parser data cur rest).Holds (fun run => keep run.data) (fun _ run => keep run.data) := by
  unfold wsTurn
  cases parser.state with
  | opcode =>
      simp only [opcodeTurn]
      split_ifs
      all_goals first
        | exact start
        | exact check_rc_holds _ _ _ _ _ _ (fun _ => kept.controlBegin _ _ start) (fun _ => kept.controlBegin _ _ start)
        | exact check_rc_holds _ _ _ _ _ _ (fun _ => kept.dataBegin _ _ start) (fun _ => kept.dataBegin _ _ start)
  | length =>
      simp only [lengthTurn]
      split
      · exact start
      · exact close_if_empty_keeps callbacks keep kept _ _ _ start
  | length16 index =>
      simp only [length16Turn]
      split_ifs <;> exact start
  | length64 index =>
      simp only [length64Turn]
      split_ifs <;> exact start
  | mask index =>
      simp only [maskTurn]
      split
      · exact start
      · exact close_if_empty_keeps callbacks keep kept _ _ _ start
  | payload =>
      simp only [payloadTurn]
      apply check_rc_holds
      · intro _
        exact close_if_empty_keeps callbacks keep kept _ _ _ (kept.payload _ _ _ start)
      · intro _
        exact kept.payload _ _ _ start

theorem execute_keeps (callbacks : WsCallbacks σ) (keep : σ → Prop) (kept : KeptBy callbacks keep) (parser : WsParser) (data : σ)
    (buff : Bytes) (start : keep data) : keep (wsParserExecute callbacks parser data buff).2.data := by
  have held := execute_holds callbacks (fun run => keep run.data) (fun _ run => keep run.data)
    (fun parser data cur rest before => ws_turn_keeps callbacks keep kept parser data cur rest before) parser data buff start
  cases held with
  | inl finished => exact finished.2.2
  | inr stopped => exact stopped

inductive StreamEnd (σ : Type) where
  | live (parser : WsParser) (data : σ)
  | failed (rc : Int) (offset : Nat) (data : σ)

def StreamEnd.map (f : σ → τ) : StreamEnd σ → StreamEnd τ
  | .live parser data => .live parser (f data)
  | .failed rc offset data => .failed rc offset (f data)

def runStream (callbacks : WsCallbacks σ) (parser : WsParser) (data : σ) (offset : Nat) : List Bytes → StreamEnd σ
  | [] => .live parser data
  | chunk :: chunks =>
      let executed := wsParserExecute callbacks parser data chunk
      if executed.1 = wsOk then
        runStream callbacks executed.2.parser executed.2.data (offset + chunk.length) chunks
      else .failed executed.1 (offset + (chunk.length - executed.2.buff.length)) executed.2.data

theorem run_stream_map (source : WsCallbacks σ) (target : WsCallbacks τ) (f : σ → τ) (maps : CallbackMap source target f)
    (parser : WsParser) (data : σ) (offset : Nat) (chunks : List Bytes) :
    runStream target parser (f data) offset chunks = (runStream source parser data offset chunks).map f := by
  induction chunks generalizing parser data offset with
  | nil => rfl
  | cons chunk chunks ih =>
      simp only [runStream, execute_map source target f maps]
      split
      · exact ih _ _ _
      · rfl

theorem run_stream_flatten (callbacks : WsCallbacks σ) (streaming : Streaming callbacks) (parser : WsParser) (data : σ)
    (offset : Nat) (chunks : List Bytes) (ready : parser.Ready) :
    runStream callbacks parser data offset chunks = runStream callbacks parser data offset [chunks.flatten] := by
  induction chunks generalizing parser data offset with
  | nil => simp [runStream, execute_nil]
  | cons chunk chunks ih =>
      have joined := execute_append callbacks streaming parser data chunk chunks.flatten ready
      simp only [runStream, List.flatten_cons, joined]
      by_cases passed : (wsParserExecute callbacks parser data chunk).1 = wsOk
      · rw [if_pos passed, if_pos passed, ih _ _ _ (execute_ready callbacks parser data chunk ready passed)]
        simp only [runStream]
        split
        · rfl
        · have shorter := (execute_suffix callbacks (wsParserExecute callbacks parser data chunk).2.parser
            (wsParserExecute callbacks parser data chunk).2.data chunks.flatten).length_le
          congr 1
          rw [List.length_append]
          omega
      · rw [if_neg passed, if_neg passed, if_neg passed]
        congr 1
        simp only [List.length_append]
        omega

end

def zeroedParser : WsParser := ⟨0, fun _ => 0, false, false, false, false, 0, .opcode⟩

end Eventhub.Websocket
