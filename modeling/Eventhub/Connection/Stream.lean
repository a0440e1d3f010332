import Eventhub.Connection.Output

set_option autoImplicit false

namespace Eventhub.Output

open Transition

-- A connection, the bytes the socket has taken, the data of all writes that
-- were accepted, and whether shutdownAfterFlush has been called.
structure World where
  conn : Connection
  handedOver : Bytes
  written : Bytes
  asked : Bool

def World.start : World := ⟨Connection.accepted, [], [], false⟩

inductive Event where
  | write (data : Bytes) (socket : Socket)
  | flushSendBuffer (socket : Socket)
  | shutdownAfterFlush
  | shutdown

def World.step (kind : Class) (world : World) : Event → World
  | .write data socket =>
      { world with
        conn := (world.conn.write kind socket data).1
        handedOver := world.handedOver ++ world.conn.handed kind socket data
        written := if world.conn.accepts data then world.written ++ data else world.written }
  | .flushSendBuffer socket =>
      { world with
        conn := (kind.flushSendBuffer socket world.conn).1
        handedOver := world.handedOver ++ kind.handed socket world.conn }
  | .shutdownAfterFlush => { world with conn := world.conn.shutdownAfterFlush, asked := true }
  | .shutdown => { world with conn := world.conn.shutdown }

structure StreamIntact (world : World) : Prop where
  whole : world.conn.isShutdown = false → world.handedOver ++ world.conn.writeBuffer = world.written
  initial : world.handedOver <+: world.written
  bounded : world.conn.writeBuffer.length ≤ netWriteBufferMax
  armed : world.conn.isShutdown = false → world.conn.writeBuffer ≠ [] → world.conn.epollOut = true

theorem shutdown_intact (world : World) (intact : StreamIntact world) (conn : Connection) (closed : conn.isShutdown = true)
    (shorter : conn.writeBuffer.length ≤ world.conn.writeBuffer.length) (asked : Bool) :
    StreamIntact { world with conn := conn, asked := asked } :=
  ⟨fun living => Bool.noConfusion (closed.symm.trans living), intact.initial,
    Nat.le_trans shorter intact.bounded, fun living => Bool.noConfusion (closed.symm.trans living)⟩

theorem flushed_intact (world : World) (buffered after : Connection) (taken written : Bytes) (flushes : Flushes buffered after taken)
    (whole : buffered.isShutdown = false → world.handedOver ++ buffered.writeBuffer = written) (initial : world.handedOver <+: written)
    (bounded : buffered.writeBuffer.length ≤ netWriteBufferMax) :
    StreamIntact { world with conn := after, handedOver := world.handedOver ++ taken, written := written } := by
  have split := flushes.handed
  refine ⟨fun living => ?_, ?_, ?_, flushes.armed⟩
  · cases closed : buffered.isShutdown with
    | false =>
        rw [List.append_assoc, ← split]
        exact whole closed
    | true => exact Bool.noConfusion ((flushes.closed closed).1.symm.trans living)
  · cases closed : buffered.isShutdown with
    | false =>
        rw [← whole closed, split, ← List.append_assoc]
        exact List.prefix_append _ _
    | true => rwa [(flushes.closed closed).2, List.append_nil]
  · have shorter := congrArg List.length split
    rw [List.length_append] at shorter
    dsimp only
    omega

theorem intact_step (kind : Class) (world : World) (event : Event) (intact : StreamIntact world) : StreamIntact (world.step kind event) := by
  cases event with
  | write data socket =>
      cases accepts : world.conn.accepts data with
      | true =>
          rw [World.step, if_pos accepts]
          obtain ⟨living, fits⟩ := Bool.and_eq_true_iff.mp accepts
          simp only [Bool.not_eq_true', decide_eq_false_iff_not, Nat.not_lt] at living fits
          refine flushed_intact world { world.conn with writeBuffer := world.conn.writeBuffer ++ data } _ _ (world.written ++ data)
            (accepted_write kind socket world.conn data accepts) (fun living => ?_) ?_ ?_
          · rw [← List.append_assoc, intact.whole living]
          · exact intact.initial.trans (List.prefix_append _ _)
          · rwa [List.length_append]
      | false =>
          obtain ⟨closed, shorter⟩ := refused_write kind socket world.conn data accepts
          simp only [World.step, Connection.handed, accepts, List.append_nil, Bool.false_eq_true, if_false]
          exact shutdown_intact world intact _ closed shorter world.asked
  | flushSendBuffer socket =>
      exact flushed_intact world world.conn _ _ world.written (flush_send_buffer kind socket world.conn) intact.whole intact.initial
        intact.bounded
  | shutdownAfterFlush =>
      by_cases empty : world.conn.writeBuffer.isEmpty = true
      · rw [World.step, Connection.shutdownAfterFlush, if_pos empty]
        exact shutdown_intact world intact world.conn.shutdown rfl (Nat.le_refl _) true
      · rw [World.step, Connection.shutdownAfterFlush, if_neg empty]
        exact ⟨intact.whole, intact.initial, intact.bounded, intact.armed⟩
  | shutdown => exact shutdown_intact world intact world.conn.shutdown rfl (Nat.le_refl _) world.asked

theorem stream_intact (kind : Class) (events : List Event) : StreamIntact (events.foldl (World.step kind) World.start) := by
  induction events using List.reverseRecOn with
  | nil => exact ⟨fun _ => rfl, List.nil_prefix, Nat.zero_le _, fun _ waiting => absurd rfl waiting⟩
  | append_singleton events event ih =>
      rw [List.foldl_append]
      exact intact_step kind _ event ih

def lastPacket (socket : Socket) (buffer : Bytes) : Bool :=
  decide (buffer.length ≤ netReadBufferSize ∧ (socket buffer).taken = buffer)

-- SSLConnection::flushSendBuffer does not look at _is_shutdown_after_flush, so
-- nothing may empty its buffer once the flag is set.
def Lingers (kind : Class) (world : World) (event : Event) : Prop :=
  kind = .connection ∨ world.conn.isShutdown = true ∨ world.conn.isShutdownAfterFlush = false ∨
    match event with
    | .write data socket => lastPacket socket (world.conn.writeBuffer ++ data) = false
    | .flushSendBuffer socket => lastPacket socket world.conn.writeBuffer = false
    | _ => True

instance (kind : Class) (world : World) (event : Event) : Decidable (Lingers kind world event) := by
  unfold Lingers
  cases event <;> infer_instance

def LingersStep (kind : Class) (before : World) (event : Event) (after : World) : Prop :=
  Lingers kind before event ∧ before.step kind event = after

theorem connection_closes (socket : Socket) (conn : Connection) (asked : conn.isShutdownAfterFlush = true)
    (waiting : conn.writeBuffer ≠ []) :
    (conn.flushSendBuffer socket).1.isShutdown = true ∨ (conn.flushSendBuffer socket).1.writeBuffer ≠ [] := by
  unfold Connection.flushSendBuffer
  by_cases done : (conn.writeBuffer.isEmpty || conn.isShutdown) = true
  · rw [if_pos done]
    exact (Bool.or_eq_true_iff.mp done).symm.imp_right (fun empty => absurd (List.isEmpty_iff.mp empty) waiting)
  · have kept := (write_out_flushes socket conn (Bool.or_eq_false_iff.mp (Bool.eq_false_of_not_eq_true done)).2).requested
    rw [if_neg done]
    dsimp only
    rw [kept, asked, Bool.and_true]
    split
    · exact .inl rfl
    · rename_i left
      exact .inr (fun empty => left (List.isEmpty_iff.mpr empty))

theorem ssl_connection_lingers (ssl : Socket) (conn : Connection) (waiting : conn.writeBuffer ≠ [])
    (lingers : conn.isShutdown = true ∨ lastPacket ssl conn.writeBuffer = false) :
    (SSLConnection.flushSendBuffer ssl conn).1.isShutdown = true ∨ (SSLConnection.flushSendBuffer ssl conn).1.writeBuffer ≠ [] := by
  by_cases done : (conn.writeBuffer.isEmpty || conn.isShutdown) = true
  · rw [SSLConnection.flushSendBuffer, if_pos done]
    exact (Bool.or_eq_true_iff.mp done).symm.imp_right (fun empty => absurd (List.isEmpty_iff.mp empty) waiting)
  · have living := (Bool.or_eq_false_iff.mp (Bool.eq_false_of_not_eq_true done)).2
    have last := of_decide_eq_false (lingers.resolve_left (by rw [living]; exact Bool.false_ne_true))
    refine .inr (fun empty => ?_)
    have handed := (flush_ssl_connection ssl conn done).handed
    rw [empty, List.append_nil] at handed
    by_cases large : conn.writeBuffer.length > netReadBufferSize
    · have cut : SSLConnection.packet conn = conn.writeBuffer.take netReadBufferSize := if_pos large
      have short := taken_length (ssl (SSLConnection.packet conn))
      rw [← handed, cut, List.length_take] at short
      omega
    · have whole : SSLConnection.packet conn = conn.writeBuffer := if_neg large
      rw [whole] at handed
      exact last ⟨Nat.not_lt.mp large, handed.symm⟩

theorem closing_flush (kind : Class) (socket : Socket) (conn : Connection) (asked : conn.isShutdownAfterFlush = true)
    (waiting : conn.writeBuffer ≠ [])
    (lingers : kind = .connection ∨ conn.isShutdown = true ∨ lastPacket socket conn.writeBuffer = false) :
    (kind.flushSendBuffer socket conn).1.isShutdown = true ∨ (kind.flushSendBuffer socket conn).1.writeBuffer ≠ [] := by
  cases kind with
  | connection => exact connection_closes socket conn asked waiting
  | sslConnection => exact ssl_connection_lingers socket conn waiting (lingers.resolve_left (by simp))

def Closing (conn : Connection) : Prop := conn.isShutdown = true ∨ (conn.isShutdownAfterFlush = true ∧ conn.writeBuffer ≠ [])

theorem shutdown_closing (conn : Connection) : Closing conn.shutdownAfterFlush := by
  unfold Connection.shutdownAfterFlush
  split
  · exact .inl rfl
  · rename_i waiting
    exact .inr ⟨rfl, fun empty => waiting (List.isEmpty_iff.mpr empty)⟩

theorem flushed_closing (kind : Class) (socket : Socket) (conn : Connection) (closing : Closing conn)
    (lingers : kind = .connection ∨ conn.isShutdown = true ∨ lastPacket socket conn.writeBuffer = false) :
    Closing (kind.flushSendBuffer socket conn).1 := by
  have flushes := flush_send_buffer kind socket conn
  rcases closing with closed | ⟨asked, waiting⟩
  · exact .inl (flushes.closed closed).1
  · rcases closing_flush kind socket conn asked waiting lingers with closed | left
    · exact .inl closed
    · exact .inr ⟨flushes.requested.trans asked, left⟩

theorem written_closing (kind : Class) (socket : Socket) (conn : Connection) (data : Bytes) (closing : Closing conn)
    (lingers : kind = .connection ∨ conn.isShutdown = true ∨ lastPacket socket (conn.writeBuffer ++ data) = false) :
    Closing (conn.write kind socket data).1 := by
  cases accepts : conn.accepts data with
  | false => exact .inl (refused_write kind socket conn data accepts).1
  | true =>
      obtain ⟨living, fits⟩ := Bool.and_eq_true_iff.mp accepts
      have unclosed : conn.isShutdown = false := by simpa using living
      rcases closing with closed | ⟨asked, waiting⟩
      · exact Bool.noConfusion (unclosed.symm.trans closed)
      · have longer : conn.writeBuffer ++ data ≠ [] := fun empty => waiting (List.append_eq_nil_iff.mp empty).1
        unfold Connection.write
        rw [if_neg (by simpa using living), if_neg (by simpa using fits)]
        dsimp only
        rw [if_pos (by simpa using longer)]
        exact flushed_closing kind socket _ (.inr ⟨asked, longer⟩) lingers

theorem closing_step (kind : Class) (world : World) (event : Event) (closing : world.asked = true → Closing world.conn)
    (lingers : Lingers kind world event) : (world.step kind event).asked = true → Closing (world.step kind event).conn := by
  have flagged : ∀ rest, Closing world.conn → (kind = .connection ∨ world.conn.isShutdown = true ∨
      world.conn.isShutdownAfterFlush = false ∨ rest) → kind = .connection ∨ world.conn.isShutdown = true ∨ rest := by
    intro rest closing lingers
    rcases closing with closed | ⟨asked, _⟩
    · exact .inr (.inl closed)
    · exact lingers.imp_right (fun lingers => lingers.imp_right (fun lingers => lingers.resolve_left (by rw [asked]; simp)))
  intro asked
  cases event with
  | write data socket => exact written_closing kind socket world.conn data (closing asked) (flagged _ (closing asked) lingers)
  | flushSendBuffer socket => exact flushed_closing kind socket world.conn (closing asked) (flagged _ (closing asked) lingers)
  | shutdownAfterFlush => exact shutdown_closing world.conn
  | shutdown => exact .inl rfl

theorem shutdown_after_flush (kind : Class) (events : List Event) (world : World)
    (run : Run (LingersStep kind) World.start events world) :
    ¬ (world.asked = true ∧ world.conn.writeBuffer = [] ∧ world.conn.isShutdown = false) := by
  have closing : world.asked = true → Closing world.conn := by
    apply run_invariant (LingersStep kind) (fun _ world => world.asked = true → Closing world.conn) World.start _ _ events world run
    · exact fun asked => Bool.noConfusion asked
    · intro _ event middle last closing taken
      obtain ⟨lingers, rfl⟩ := taken
      exact closing_step kind middle event closing lingers
  intro ⟨asked, empty, living⟩
  rcases closing asked with closed | ⟨_, waiting⟩
  · exact Bool.noConfusion (living.symm.trans closed)
  · exact waiting empty

def wideSocket : Socket := fun data => if positive : 1 ≤ data.length then .wrote data.length positive (Nat.le_refl _) else .wouldBlock

def blockedSocket : Socket := fun _ => .wouldBlock

def blockedResponse : List Event := [.write (str "400") blockedSocket, .shutdownAfterFlush, .flushSendBuffer blockedSocket]

def drainedResponse : List Event := blockedResponse ++ [.flushSendBuffer wideSocket]

theorem pending_response_closes :
    (blockedResponse.foldl (World.step .sslConnection) World.start).conn.writeBuffer = str "400" ∧
    ¬ ((blockedResponse.foldl (World.step .sslConnection) World.start).asked = true ∧
      (blockedResponse.foldl (World.step .sslConnection) World.start).conn.writeBuffer = [] ∧
      (blockedResponse.foldl (World.step .sslConnection) World.start).conn.isShutdown = false) := by
  refine ⟨by decide, ?_⟩
  exact shutdown_after_flush .sslConnection blockedResponse _ (guarded_run _ (Lingers .sslConnection) _ _ (by decide))

theorem ssl_response_lingers :
    (drainedResponse.foldl (World.step .sslConnection) World.start).asked = true ∧
    (drainedResponse.foldl (World.step .sslConnection) World.start).conn.writeBuffer = [] ∧
    (drainedResponse.foldl (World.step .sslConnection) World.start).conn.isShutdown = false := by
  decide

end Eventhub.Output
