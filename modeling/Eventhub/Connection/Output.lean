import Eventhub.Bytes
import Eventhub.Lib.Transition

set_option autoImplicit false

namespace Eventhub.Output

def netReadBufferSize : Nat := 512
def netWriteBufferMax : Nat := (1024 * 1000) * 8

-- What one call of ::write or SSL_write makes of the bytes it is given. A
-- non-positive result is told apart by errno and SSL_get_error only.
inductive Outcome (data : Bytes) where
  | wrote (count : Nat) (positive : 1 ≤ count) (within : count ≤ data.length)
  | wouldBlock
  | fatal

def Outcome.taken {data : Bytes} : Outcome data → Bytes
  | .wrote count _ _ => data.take count
  | _ => []

theorem taken_length {data : Bytes} (outcome : Outcome data) : outcome.taken.length ≤ data.length := by
  cases outcome with
  | wrote count positive within => exact List.length_take_le' _ _
  | wouldBlock => exact Nat.zero_le _
  | fatal => exact Nat.zero_le _

abbrev Socket := (data : Bytes) → Outcome data

-- The part of a Connection that sending needs. The worker's epoll descriptor
-- is a valid one, since addToEpoll has succeeded.
structure Connection where
  writeBuffer : Bytes
  epollOut : Bool
  isShutdown : Bool
  isShutdownAfterFlush : Bool

def Connection.accepted : Connection := ⟨[], false, false, false⟩

def Connection.enableEpollOut (conn : Connection) : Connection := { conn with epollOut := true }
def Connection.disableEpollOut (conn : Connection) : Connection := { conn with epollOut := false }
def Connection.shutdown (conn : Connection) : Connection := { conn with isShutdown := true }

def Connection.pruneWriteBuffer (conn : Connection) (bytes : Nat) : Connection :=
  if conn.writeBuffer.length < 1 then conn
  else if bytes ≥ conn.writeBuffer.length then { conn with writeBuffer := [] }
  else { conn with writeBuffer := conn.writeBuffer.drop bytes }

-- The call of ::write and what follows from its result.
def Connection.writeOut (socket : Socket) (conn : Connection) : Connection × Nat :=
  match socket conn.writeBuffer with
  | .fatal => (conn.shutdown, 0)
  | .wouldBlock => (conn.enableEpollOut, 0)
  | .wrote ret _ _ =>
      if ret < conn.writeBuffer.length then ((conn.pruneWriteBuffer ret).enableEpollOut, ret)
      else ({ conn.disableEpollOut with writeBuffer := [] }, ret)

-- The second component is ret, the number of bytes handed over.
def Connection.flushSendBuffer (socket : Socket) (conn : Connection) : Connection × Nat :=
  if conn.writeBuffer.isEmpty || conn.isShutdown then (conn.disableEpollOut, 0)
  else
    let flushed := conn.writeOut socket
    if flushed.1.writeBuffer.isEmpty && flushed.1.isShutdownAfterFlush then (flushed.1.shutdown, flushed.2) else flushed

namespace SSLConnection

def toggleEpollOut (conn : Connection) : Connection :=
  if conn.writeBuffer.isEmpty then conn.disableEpollOut else conn.enableEpollOut

-- The first pcktSize bytes of the buffer.
def packet (conn : Connection) : Bytes :=
  if conn.writeBuffer.length > netReadBufferSize then conn.writeBuffer.take netReadBufferSize else conn.writeBuffer

def flushSendBuffer (ssl : Socket) (conn : Connection) : Connection × Nat :=
  if conn.writeBuffer.isEmpty || conn.isShutdown then (conn.disableEpollOut, 0)
  else
    match ssl (packet conn) with
    | .fatal => (conn.shutdown, 0)
    | .wouldBlock => (toggleEpollOut conn, 0)
    | .wrote ret _ _ => (toggleEpollOut (conn.pruneWriteBuffer ret), ret)

end SSLConnection

-- flushSendBuffer is virtual, everything else is inherited.
inductive Class where
  | connection
  | sslConnection
deriving DecidableEq

def Class.flushSendBuffer : Class → Socket → Connection → Connection × Nat
  | .connection => Connection.flushSendBuffer
  | .sslConnection => SSLConnection.flushSendBuffer

def Connection.accepts (conn : Connection) (data : Bytes) : Bool :=
  !conn.isShutdown && !decide (conn.writeBuffer.length + data.length > netWriteBufferMax)

def Connection.write (kind : Class) (socket : Socket) (conn : Connection) (data : Bytes) : Connection × Nat :=
  if conn.isShutdown then (conn, 0)
  else if conn.writeBuffer.length + data.length > netWriteBufferMax then ({ conn with writeBuffer := [] }.shutdown, 0)
  else
    let appended := { conn with writeBuffer := conn.writeBuffer ++ data }
    if !appended.writeBuffer.isEmpty then kind.flushSendBuffer socket appended else (appended, 0)

def Connection.shutdownAfterFlush (conn : Connection) : Connection :=
  if conn.writeBuffer.isEmpty then conn.shutdown else { conn with isShutdownAfterFlush := true }

def Class.handed (kind : Class) (socket : Socket) (conn : Connection) : Bytes :=
  if conn.writeBuffer.isEmpty || conn.isShutdown then []
  else
    match kind with
    | .connection => (socket conn.writeBuffer).taken
    | .sslConnection => (socket (SSLConnection.packet conn)).taken

def Connection.handed (kind : Class) (socket : Socket) (conn : Connection) (data : Bytes) : Bytes :=
  if conn.accepts data then kind.handed socket { conn with writeBuffer := conn.writeBuffer ++ data } else []

structure Flushes (before after : Connection) (taken : Bytes) : Prop where
  handed : before.writeBuffer = taken ++ after.writeBuffer
  closed : before.isShutdown = true → after.isShutdown = true ∧ taken = []
  armed : after.isShutdown = false → after.writeBuffer ≠ [] → after.epollOut = true
  requested : after.isShutdownAfterFlush = before.isShutdownAfterFlush

theorem prune_write_buffer (conn : Connection) (bytes : Nat) :
    conn.pruneWriteBuffer bytes = { conn with writeBuffer := conn.writeBuffer.drop bytes } := by
  unfold Connection.pruneWriteBuffer
  split
  · rename_i short
    have empty : conn.writeBuffer = [] := List.length_eq_zero_iff.mp (by omega)
    rw [empty, List.drop_nil, ← empty]
  · split
    · rename_i whole
      rw [List.drop_eq_nil_of_le whole]
    · rfl

theorem idle_flush (before after : Connection) (buffer : after.writeBuffer = before.writeBuffer)
    (closed : before.isShutdown = true → after.isShutdown = true)
    (armed : after.isShutdown = false → after.writeBuffer ≠ [] → after.epollOut = true)
    (requested : after.isShutdownAfterFlush = before.isShutdownAfterFlush) : Flushes before after [] :=
  ⟨by rw [buffer, List.nil_append], fun already => ⟨closed already, rfl⟩, armed, requested⟩

theorem disarmed_flush (conn : Connection) (done : (conn.writeBuffer.isEmpty || conn.isShutdown) = true) :
    Flushes conn conn.disableEpollOut [] := by
  refine idle_flush conn conn.disableEpollOut rfl (fun already => already) (fun living waiting => ?_) rfl
  rcases Bool.or_eq_true_iff.mp done with empty | already
  · exact absurd (List.isEmpty_iff.mp empty) waiting
  · rw [Connection.disableEpollOut, already] at living
    cases living

theorem shutdown_flushes (before after : Connection) (taken : Bytes) (flushes : Flushes before after taken) :
    Flushes before after.shutdown taken :=
  ⟨flushes.handed, fun already => ⟨rfl, (flushes.closed already).2⟩, fun living => Bool.noConfusion living, flushes.requested⟩

theorem fatal_flush (conn : Connection) : Flushes conn conn.shutdown [] :=
  idle_flush conn conn.shutdown rfl (fun _ => rfl) (fun living => Bool.noConfusion living) rfl

theorem pruned_flush (conn : Connection) (ret : Nat) (living : conn.isShutdown = false) (epollOut : Bool)
    (armed : conn.writeBuffer.drop ret ≠ [] → epollOut = true) :
    Flushes conn { conn with writeBuffer := conn.writeBuffer.drop ret, epollOut := epollOut } (conn.writeBuffer.take ret) :=
  ⟨(List.take_append_drop ret conn.writeBuffer).symm, fun already => absurd (living.symm.trans already) Bool.false_ne_true,
    fun _ waiting => armed waiting, rfl⟩

theorem write_out_flushes (socket : Socket) (conn : Connection) (living : conn.isShutdown = false) :
    Flushes conn (conn.writeOut socket).1 (socket conn.writeBuffer).taken := by
  unfold Connection.writeOut
  cases socket conn.writeBuffer with
  | fatal => exact fatal_flush conn
  | wouldBlock => exact idle_flush conn conn.enableEpollOut rfl (fun already => already) (fun _ _ => rfl) rfl
  | wrote ret positive within =>
      dsimp only [Outcome.taken]
      split
      · rw [prune_write_buffer]
        exact pruned_flush conn ret living true (fun _ => rfl)
      · rename_i whole
        have nothing : conn.writeBuffer.drop ret = [] := List.drop_eq_nil_of_le (Nat.not_lt.mp whole)
        have pruned := pruned_flush conn ret living false (fun left => absurd nothing left)
        rwa [nothing] at pruned

theorem flush_connection (socket : Socket) (conn : Connection) (opened : ¬ (conn.writeBuffer.isEmpty || conn.isShutdown) = true) :
    Flushes conn (conn.flushSendBuffer socket).1 (socket conn.writeBuffer).taken := by
  have flushes := write_out_flushes socket conn (Bool.or_eq_false_iff.mp (Bool.eq_false_of_not_eq_true opened)).2
  rw [Connection.flushSendBuffer, if_neg opened]
  dsimp only
  split
  · exact shutdown_flushes conn _ _ flushes
  · exact flushes

theorem toggled_flush (conn : Connection) (ret : Nat) (living : conn.isShutdown = false) :
    Flushes conn (SSLConnection.toggleEpollOut { conn with writeBuffer := conn.writeBuffer.drop ret }) (conn.writeBuffer.take ret) := by
  unfold SSLConnection.toggleEpollOut
  split
  · rename_i nothing
    exact pruned_flush conn ret living false (fun left => absurd (List.isEmpty_iff.mp nothing) left)
  · exact pruned_flush conn ret living true (fun _ => rfl)

theorem packet_take (conn : Connection) (ret : Nat) (within : ret ≤ (SSLConnection.packet conn).length) :
    (SSLConnection.packet conn).take ret = conn.writeBuffer.take ret := by
  rw [SSLConnection.packet] at within ⊢
  split at within
  · rename_i large
    rw [List.length_take] at within
    rw [if_pos large, List.take_take, Nat.min_eq_left (by omega)]
  · rename_i small
    rw [if_neg small]

theorem flush_ssl_connection (ssl : Socket) (conn : Connection) (opened : ¬ (conn.writeBuffer.isEmpty || conn.isShutdown) = true) :
    Flushes conn (SSLConnection.flushSendBuffer ssl conn).1 (ssl (SSLConnection.packet conn)).taken := by
  have living := (Bool.or_eq_false_iff.mp (Bool.eq_false_of_not_eq_true opened)).2
  rw [SSLConnection.flushSendBuffer, if_neg opened]
  cases ssl (SSLConnection.packet conn) with
  | fatal => exact fatal_flush conn
  | wouldBlock => exact toggled_flush conn 0 living
  | wrote ret positive within =>
      dsimp only [Outcome.taken]
      rw [prune_write_buffer, packet_take conn ret within]
      exact toggled_flush conn ret living

theorem nothing_flushed (kind : Class) (socket : Socket) (conn : Connection) (done : (conn.writeBuffer.isEmpty || conn.isShutdown) = true) :
    kind.flushSendBuffer socket conn = (conn.disableEpollOut, 0) := by
  cases kind with
  | connection => rw [Class.flushSendBuffer, Connection.flushSendBuffer, if_pos done]
  | sslConnection => rw [Class.flushSendBuffer, SSLConnection.flushSendBuffer, if_pos done]

theorem flush_send_buffer (kind : Class) (socket : Socket) (conn : Connection) :
    Flushes conn (kind.flushSendBuffer socket conn).1 (kind.handed socket conn) := by
  unfold Class.handed
  by_cases done : (conn.writeBuffer.isEmpty || conn.isShutdown) = true
  · rw [if_pos done, nothing_flushed kind socket conn done]
    exact disarmed_flush conn done
  · rw [if_neg done]
    cases kind with
    | connection => exact flush_connection socket conn done
    | sslConnection => exact flush_ssl_connection socket conn done

theorem refused_write (kind : Class) (socket : Socket) (conn : Connection) (data : Bytes) (refused : conn.accepts data = false) :
    (conn.write kind socket data).1.isShutdown = true ∧
      (conn.write kind socket data).1.writeBuffer.length ≤ conn.writeBuffer.length := by
  unfold Connection.write
  by_cases already : conn.isShutdown = true
  · rw [if_pos already]
    exact ⟨already, Nat.le_refl _⟩
  · have overflow : conn.writeBuffer.length + data.length > netWriteBufferMax := by
      simpa [Connection.accepts, already] using refused
    rw [if_neg already, if_pos overflow]
    exact ⟨rfl, Nat.zero_le _⟩

theorem accepted_write (kind : Class) (socket : Socket) (conn : Connection) (data : Bytes) (accepted : conn.accepts data = true) :
    Flushes { conn with writeBuffer := conn.writeBuffer ++ data } (conn.write kind socket data).1 (conn.handed kind socket data) := by
  obtain ⟨living, fits⟩ := Bool.and_eq_true_iff.mp accepted
  rw [Connection.write, if_neg (by simpa using living), if_neg (by simpa using fits), Connection.handed, if_pos accepted]
  dsimp only
  split
  · exact flush_send_buffer kind socket _
  · rename_i empty
    unfold Class.handed
    rw [if_pos (by simpa using Or.inl empty)]
    refine idle_flush _ _ rfl (fun already => already) (fun _ waiting => absurd ?_ waiting) rfl
    simpa using empty

def Outcome.isFatal {data : Bytes} : Outcome data → Bool
  | .fatal => true
  | _ => false

def Class.cutsOff (kind : Class) (socket : Socket) (conn : Connection) : Bool :=
  match kind with
  | .connection =>
      (socket conn.writeBuffer).isFatal || (conn.isShutdownAfterFlush && decide ((socket conn.writeBuffer).taken = conn.writeBuffer))
  | .sslConnection => (socket (SSLConnection.packet conn)).isFatal

def Connection.cutOff (kind : Class) (socket : Socket) (conn : Connection) (data : Bytes) : Bool :=
  decide (conn.writeBuffer.length + data.length > netWriteBufferMax) ||
    kind.cutsOff socket { conn with writeBuffer := conn.writeBuffer ++ data }

theorem open_write_out (socket : Socket) (conn : Connection) (opened : conn.isShutdown = false)
    (whole : (socket conn.writeBuffer).isFatal = false) : (conn.writeOut socket).1.isShutdown = false := by
  unfold Connection.writeOut
  cases outcome : socket conn.writeBuffer with
  | fatal =>
      rw [outcome] at whole
      cases whole
  | wouldBlock => exact opened
  | wrote ret positive within =>
      dsimp only
      rw [prune_write_buffer]
      split <;> exact opened

theorem open_connection_flush (socket : Socket) (conn : Connection) (opened : conn.isShutdown = false)
    (waiting : ¬ (conn.writeBuffer.isEmpty || conn.isShutdown) = true) (whole : Class.connection.cutsOff socket conn = false) :
    (conn.flushSendBuffer socket).1.isShutdown = false := by
  obtain ⟨working, stays⟩ := Bool.or_eq_false_iff.mp whole
  have flushes := write_out_flushes socket conn opened
  rw [Connection.flushSendBuffer, if_neg waiting]
  dsimp only
  rw [if_neg]
  · exact open_write_out socket conn opened working
  · intro drained
    obtain ⟨empty, asked⟩ := Bool.and_eq_true_iff.mp drained
    have all := flushes.handed
    rw [List.isEmpty_iff.mp empty, List.append_nil] at all
    rw [← flushes.requested, asked, ← all, decide_eq_true rfl] at stays
    cases stays

theorem open_ssl_flush (ssl : Socket) (conn : Connection) (opened : conn.isShutdown = false)
    (waiting : ¬ (conn.writeBuffer.isEmpty || conn.isShutdown) = true) (whole : (ssl (SSLConnection.packet conn)).isFatal = false) :
    (SSLConnection.flushSendBuffer ssl conn).1.isShutdown = false := by
  have toggled : ∀ conn : Connection, (SSLConnection.toggleEpollOut conn).isShutdown = conn.isShutdown := by
    intro conn
    unfold SSLConnection.toggleEpollOut
    split <;> rfl
  rw [SSLConnection.flushSendBuffer, if_neg waiting]
  cases outcome : ssl (SSLConnection.packet conn) with
  | fatal =>
      rw [outcome] at whole
      cases whole
  | wouldBlock => exact (toggled conn).trans opened
  | wrote ret positive within =>
      dsimp only
      rw [toggled, prune_write_buffer]
      exact opened

theorem open_flush (kind : Class) (socket : Socket) (conn : Connection) (opened : conn.isShutdown = false)
    (whole : kind.cutsOff socket conn = false) : (kind.flushSendBuffer socket conn).1.isShutdown = false := by
  by_cases done : (conn.writeBuffer.isEmpty || conn.isShutdown) = true
  · rwa [nothing_flushed kind socket conn done]
  · cases kind with
    | connection => exact open_connection_flush socket conn opened done whole
    | sslConnection => exact open_ssl_flush socket conn opened done whole

theorem open_write (kind : Class) (socket : Socket) (conn : Connection) (data : Bytes) (opened : conn.isShutdown = false)
    (whole : conn.cutOff kind socket data = false) : (conn.write kind socket data).1.isShutdown = false := by
  obtain ⟨fits, flushed⟩ := Bool.or_eq_false_iff.mp whole
  rw [Connection.write, if_neg (by rw [opened]; exact Bool.false_ne_true), if_neg (of_decide_eq_false fits)]
  dsimp only
  split
  · exact open_flush kind socket _ opened flushed
  · exact opened

end Eventhub.Output
