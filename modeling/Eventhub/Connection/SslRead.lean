import Eventhub.Connection.Output
import Eventhub.Lib.Memory
import Eventhub.Websocket.Parser

set_option autoImplicit false

namespace Eventhub.SslRead

open Output (netReadBufferSize)
open Websocket (maxDataFrameSize)

def sslMaxHandshakeRetry : Nat := 5

-- std::vector<char>: the cells it owns, of which the first size are its elements.
structure Buffer where
  cells : Bytes
  size : Nat
  within : size ≤ cells.length

namespace Buffer

def capacity (buffer : Buffer) : Nat := buffer.cells.length

def clear (buffer : Buffer) : Buffer := ⟨buffer.cells, 0, Nat.zero_le _⟩

end Buffer

-- What an allocation of count cells gives: any number that suffices, with any content.
structure Block (count : Nat) where
  cells : Bytes
  enough : count ≤ cells.length

-- resize(count): the elements are kept, new ones are zero.
def Buffer.resized (buffer : Buffer) (count : Nat) (cells : Bytes) : Bytes :=
  buffer.cells.take buffer.size ++ (List.replicate (count - buffer.size) 0 ++ cells.drop (max buffer.size count))

theorem resized_length (buffer : Buffer) (count : Nat) (cells : Bytes) (enough : max buffer.size count ≤ cells.length) :
    (buffer.resized count cells).length = cells.length := by
  have := buffer.within
  rw [Buffer.resized, List.length_append, List.length_append, List.length_take_of_le buffer.within, List.length_replicate, List.length_drop]
  omega

def Buffer.resize (buffer : Buffer) (count : Nat) (block : Block count) : Buffer :=
  if small : count ≤ buffer.capacity then
    ⟨buffer.resized count buffer.cells, count, by rwa [resized_length buffer count _ (max_le buffer.within small)]⟩
  else
    ⟨buffer.resized count block.cells, count, by
      have := buffer.within
      have := block.enough
      rw [Buffer.capacity] at small
      rw [resized_length buffer count _ (by omega)]
      exact block.enough⟩

theorem resize_capacity (buffer : Buffer) (count : Nat) (block : Block count) : count ≤ (buffer.resize count block).capacity :=
  (buffer.resize count block).within.trans' (by rw [Buffer.resize]; split <;> rfl)

-- Why the loop is left other than by a result of SSL_read.
inductive Stop where
  | exceeded
  | fault

-- memcpy and SSL_read write to data() + offset, whatever size is.
def Buffer.store (buffer : Buffer) (offset : Nat) (bytes : Bytes) : Except Stop Buffer :=
  if fits : offset + bytes.length ≤ buffer.capacity then
    .ok ⟨Memory.overwrite buffer.cells offset bytes, buffer.size, by
      rw [Memory.overwrite_length _ _ _ fits]
      exact buffer.within⟩
  else .error .fault

def Buffer.load (buffer : Buffer) (count : Nat) : Except Stop Bytes :=
  if count ≤ buffer.capacity then .ok (buffer.cells.take count) else .error .fault

structure Connection where
  readBuffer : Buffer
  isShutdown : Bool
  sslHandshakeRetries : Nat

def Connection.shutdown (conn : Connection) : Connection := { conn with isShutdown := true }

-- What SSL_accept makes of the handshake.
inductive Accept where
  | accepted
  | wantMore
  | failed

def Connection.handshake (ret : Accept) (conn : Connection) : Connection :=
  if conn.sslHandshakeRetries ≥ sslMaxHandshakeRetry then conn.shutdown
  else
    match ret with
    | .failed => conn.shutdown
    | _ => { conn with sslHandshakeRetries := conn.sslHandshakeRetries + 1 }

structure Chunk where
  bytes : Bytes
  some : 1 ≤ bytes.length
  few : bytes.length ≤ netReadBufferSize

def joined (chunks : List Chunk) : Bytes := (chunks.map Chunk.bytes).flatten

@[simp] theorem joined_nil : joined [] = [] := rfl

theorem joined_cons (chunk : Chunk) (chunks : List Chunk) : joined (chunk :: chunks) = chunk.bytes ++ joined chunks := rfl

inductive SslError where
  | zeroReturn
  | syscall
  | wantRead
  | wantWrite
  | ssl

structure Region where
  offset : Nat
  length : Nat
  capacity : Nat

inductive Ending where
  | fault
  | shutdown (buffer : Buffer)
  | parseRequest (bytesRead : Nat) (buffer : Buffer)

def grow (allocate : (count : Nat) → Block count) (buffer : Buffer) (bytesRead : Nat) : Except Stop Buffer :=
  if bytesRead + netReadBufferSize > buffer.capacity then
    let newCapacity := buffer.capacity + netReadBufferSize
    if newCapacity > maxDataFrameSize + netReadBufferSize then .error .exceeded
    else do
      let retain ← buffer.load bytesRead
      (buffer.resize newCapacity (allocate newCapacity)).store 0 retain
  else .ok buffer

section

variable (allocate : (turn count : Nat) → Block count) (err : SslError)

def readLoop (turn : Nat) (buffer : Buffer) (bytesRead : Nat) (chunks : List Chunk) : List Region × Ending :=
  match grow (allocate turn) buffer bytesRead with
  | .error .fault => ([], .fault)
  | .error .exceeded => ([], .shutdown buffer)
  | .ok buffer =>
      let region : Region := ⟨bytesRead, netReadBufferSize, buffer.capacity⟩
      match chunks with
      | [] =>
          match err with
          | .zeroReturn => ([region], .shutdown buffer)
          | .syscall => ([region], .shutdown buffer)
          | _ => ([region], .parseRequest bytesRead buffer)
      | chunk :: chunks =>
          match buffer.store bytesRead chunk.bytes with
          | .error _ => ([region], .fault)
          | .ok buffer =>
              let later := readLoop (turn + 1) buffer (bytesRead + chunk.bytes.length) chunks
              (region :: later.1, later.2)

structure Reading where
  conn : Connection
  regions : List Region
  requests : List (Nat × Buffer)
  fault : Bool

-- requests are the calls of _parseRequest, each with the buffer it finds.
def read (initFinished : Bool) (accept : Accept) (chunks : List Chunk) (conn : Connection) : Reading :=
  let cleared := { conn with readBuffer := conn.readBuffer.clear }
  if cleared.isShutdown then ⟨cleared, [], [], false⟩
  else if !initFinished then ⟨cleared.handshake accept, [], [], false⟩
  else
    match readLoop allocate err 0 cleared.readBuffer 0 chunks with
    | (regions, .fault) => ⟨cleared, regions, [], true⟩
    | (regions, .shutdown buffer) => ⟨{ cleared.shutdown with readBuffer := buffer }, regions, [], false⟩
    | (regions, .parseRequest bytesRead buffer) => ⟨{ cleared with readBuffer := buffer }, regions, [(bytesRead, buffer)], false⟩

end

structure Holds (buffer : Buffer) (bytesRead : Nat) (bytes : Bytes) : Prop where
  counted : bytesRead = bytes.length
  room : bytesRead ≤ buffer.capacity
  front : buffer.cells.take bytesRead = bytes

theorem cleared_holds (buffer : Buffer) : Holds buffer.clear 0 [] := ⟨rfl, Nat.zero_le _, List.take_zero⟩

theorem store_holds (buffer : Buffer) (bytesRead : Nat) (before bytes : Bytes) (holds : Holds buffer bytesRead before)
    (fits : bytesRead + bytes.length ≤ buffer.capacity) :
    ∃ stored, buffer.store bytesRead bytes = .ok stored ∧ stored.capacity = buffer.capacity ∧
      Holds stored (bytesRead + bytes.length) (before ++ bytes) := by
  have same : (Memory.overwrite buffer.cells bytesRead bytes).length = buffer.capacity := Memory.overwrite_length _ _ _ fits
  refine ⟨_, dif_pos fits, same, ?_, ?_, ?_⟩
  · rw [List.length_append, holds.counted]
  · rw [Buffer.capacity, same]
    exact fits
  · rw [Memory.overwrite_take _ _ _ fits, holds.front]

theorem grow_holds (allocate : (count : Nat) → Block count) (buffer : Buffer) (bytesRead : Nat) (bytes : Bytes)
    (holds : Holds buffer bytesRead bytes) :
    (grow allocate buffer bytesRead = .error .exceeded ∧ maxDataFrameSize < bytesRead + netReadBufferSize) ∨
      ∃ grown, grow allocate buffer bytesRead = .ok grown ∧ Holds grown bytesRead bytes ∧ bytesRead + netReadBufferSize ≤ grown.capacity := by
  by_cases short : bytesRead + netReadBufferSize > buffer.capacity
  · by_cases large : buffer.capacity + netReadBufferSize > maxDataFrameSize + netReadBufferSize
    · exact .inl ⟨by rw [grow, if_pos short]; exact if_pos large, by omega⟩
    · have wide := resize_capacity buffer _ (allocate (buffer.capacity + netReadBufferSize))
      have room := holds.room
      have fits : 0 + bytes.length ≤ (buffer.resize _ (allocate (buffer.capacity + netReadBufferSize))).capacity := by
        have := holds.counted
        omega
      obtain ⟨grown, stored, same, kept⟩ := store_holds _ 0 [] bytes ⟨rfl, Nat.zero_le _, List.take_zero⟩ fits
      rw [Nat.zero_add, ← holds.counted, List.nil_append] at kept
      refine .inr ⟨grown, ?_, kept, by omega⟩
      rw [grow, if_pos short]
      simp only [if_neg large, Buffer.load, if_pos room, holds.front, bind, Except.bind, stored]
  · exact .inr ⟨buffer, if_neg short, holds, by omega⟩

section

variable (allocate : (turn count : Nat) → Block count) (err : SslError)

def Region.Inside (region : Region) : Prop := region.offset + region.length ≤ region.capacity

theorem read_loop_exceeded (turn : Nat) (buffer : Buffer) (bytesRead : Nat) (chunks : List Chunk)
    (exceeded : grow (allocate turn) buffer bytesRead = .error .exceeded) :
    readLoop allocate err turn buffer bytesRead chunks = ([], .shutdown buffer) := by
  rw [readLoop.eq_def, exceeded]

theorem read_loop_holds (blocked : err = .wantRead ∨ err = .wantWrite) (chunks : List Chunk) (turn : Nat) (buffer : Buffer) (bytesRead : Nat)
    (before : Bytes) (holds : Holds buffer bytesRead before) :
    (∀ region ∈ (readLoop allocate err turn buffer bytesRead chunks).1, region.Inside) ∧
      ((∃ left front, (readLoop allocate err turn buffer bytesRead chunks).2 = .shutdown left ∧ front <+: chunks ∧
          maxDataFrameSize < (before ++ joined front).length + netReadBufferSize) ∨
        ∃ count left, (readLoop allocate err turn buffer bytesRead chunks).2 = .parseRequest count left ∧
          Holds left count (before ++ joined chunks)) := by
  induction chunks generalizing turn buffer bytesRead before with
  | nil =>
      rcases grow_holds (allocate turn) buffer bytesRead before holds with ⟨exceeded, large⟩ | ⟨grown, done, kept, room⟩
      · rw [read_loop_exceeded allocate err turn buffer bytesRead [] exceeded]
        exact ⟨by simp, .inl ⟨buffer, [], rfl, List.nil_prefix, by rwa [joined_nil, List.append_nil, ← holds.counted]⟩⟩
      · have inside : Region.Inside ⟨bytesRead, netReadBufferSize, grown.capacity⟩ := room
        have all : Holds grown bytesRead (before ++ joined []) := by rwa [joined_nil, List.append_nil]
        rw [readLoop, done]
        rcases blocked with rfl | rfl
        · exact ⟨by simpa using inside, .inr ⟨bytesRead, grown, rfl, all⟩⟩
        · exact ⟨by simpa using inside, .inr ⟨bytesRead, grown, rfl, all⟩⟩
  | cons chunk chunks ih =>
      rcases grow_holds (allocate turn) buffer bytesRead before holds with ⟨exceeded, large⟩ | ⟨grown, done, kept, room⟩
      · rw [read_loop_exceeded allocate err turn buffer bytesRead _ exceeded]
        exact ⟨by simp, .inl ⟨buffer, [], rfl, List.nil_prefix, by rwa [joined_nil, List.append_nil, ← holds.counted]⟩⟩
      · have inside : Region.Inside ⟨bytesRead, netReadBufferSize, grown.capacity⟩ := room
        have few := chunk.few
        obtain ⟨stored, wrote, _, longer⟩ := store_holds grown bytesRead before chunk.bytes kept (by omega)
        obtain ⟨regions, ending⟩ := ih (turn + 1) stored (bytesRead + chunk.bytes.length) (before ++ chunk.bytes) longer
        simp only [List.append_assoc, ← joined_cons] at ending
        rw [readLoop, done]
        simp only [wrote]
        refine ⟨List.forall_mem_cons.mpr ⟨inside, regions⟩, ?_⟩
        rcases ending with ⟨left, front, shut, begins, large⟩ | parsed
        · exact .inl ⟨left, chunk :: front, shut, List.cons_prefix_cons.mpr ⟨rfl, begins⟩, large⟩
        · exact .inr parsed

theorem tls_read_assembles (accept : Accept) (chunks : List Chunk) (conn : Connection) (running : conn.isShutdown = false)
    (blocked : err = .wantRead ∨ err = .wantWrite) :
    let reading := read allocate err true accept chunks conn
    reading.fault = false ∧ (∀ region ∈ reading.regions, region.Inside) ∧
      ((reading.conn.isShutdown = true ∧ reading.requests = [] ∧
          ∃ front, front <+: chunks ∧ maxDataFrameSize < (joined front).length + netReadBufferSize) ∨
        (reading.conn.isShutdown = false ∧ ∃ bytesRead buffer, reading.requests = [(bytesRead, buffer)] ∧
          bytesRead = (joined chunks).length ∧ bytesRead ≤ buffer.capacity ∧ buffer.cells.take bytesRead = joined chunks)) := by
  obtain ⟨inside, ended⟩ := read_loop_holds allocate err blocked chunks 0 conn.readBuffer.clear 0 [] (cleared_holds conn.readBuffer)
  cases looped : readLoop allocate err 0 conn.readBuffer.clear 0 chunks with
  | mk regions ending =>
      rw [looped] at inside ended
      simp only [read, running, Bool.false_eq_true, if_false, Bool.not_true, looped]
      rcases ended with ⟨left, front, rfl, begins, large⟩ | ⟨count, left, rfl, held⟩
      · exact ⟨rfl, inside, .inl ⟨rfl, rfl, front, begins, large⟩⟩
      · exact ⟨rfl, inside, .inr ⟨rfl, count, left, rfl, held.counted, held.room, held.front⟩⟩

end

theorem second_read_appended :
    let allocate : (turn count : Nat) → Block count := fun _ count => ⟨List.replicate count 9, List.length_replicate.ge⟩
    let conn : Connection := ⟨⟨[], 0, Nat.le_refl 0⟩, false, 1⟩
    let chunks : List Chunk := [⟨[1, 2], by decide, by decide⟩, ⟨[3], by decide, by decide⟩]
    ∃ bytesRead buffer, (read allocate .wantRead true .accepted chunks conn).requests = [(bytesRead, buffer)] ∧
      buffer.cells.take bytesRead = [1, 2, 3] := by
  intro allocate conn chunks
  obtain ⟨_, _, ⟨_, _, front, begins, large⟩ | ⟨_, bytesRead, buffer, called, _, _, front⟩⟩ :=
    tls_read_assembles allocate .wantRead .accepted chunks conn rfl (.inl rfl)
  · have few : (joined front).length ≤ 3 := (begins.map Chunk.bytes).flatten.length_le
    rw [maxDataFrameSize, netReadBufferSize] at large
    omega
  · exact ⟨bytesRead, buffer, called, front⟩

end Eventhub.SslRead
