set_option autoImplicit false

namespace BufWriter

-- A connection. Each Write takes the next fault: with one it sends that many
-- bytes at most and fails, without one it sends everything.
structure Socket where
  sent : List UInt8
  faults : List (Option Nat)

structure Written where
  socket : Socket
  count : Nat
  done : Bool

def Socket.write (socket : Socket) (data : List UInt8) : Written :=
  match socket.faults with
  | some count :: faults => ⟨⟨socket.sent ++ data.take count, faults⟩, min count data.length, false⟩
  | none :: faults => ⟨⟨socket.sent ++ data, faults⟩, data.length, true⟩
  | [] => ⟨⟨socket.sent ++ data, []⟩, data.length, true⟩

-- bufio.Writer: the first error stays and fails every later call.
structure Writer where
  socket : Socket
  buffered : List UInt8
  failed : Bool

def size : Nat := 4096

def newWriter (socket : Socket) : Writer := ⟨socket, [], false⟩

abbrev Op := Writer → Writer × Bool

def flush : Op := fun writer =>
  if writer.failed then (writer, false)
  else if writer.buffered = [] then (writer, true)
  else
    let written := writer.socket.write writer.buffered
    (⟨written.socket, writer.buffered.drop written.count, !written.done⟩, written.done)

def writeByte (byte : UInt8) : Op := fun writer =>
  if writer.failed then (writer, false)
  else if size ≤ writer.buffered.length then
    let room := flush writer
    if room.2 then ({ room.1 with buffered := room.1.buffered ++ [byte] }, true) else room
  else ({ writer with buffered := writer.buffered ++ [byte] }, true)

-- The turn of Write's loop with an empty buffer: what does not fit goes to the
-- connection directly.
def writeEmpty (data : List UInt8) : Op := fun writer =>
  if data.length ≤ size then ({ writer with buffered := data }, true)
  else
    let written := writer.socket.write data
    (⟨written.socket, [], !written.done⟩, written.done)

-- The loop fills and flushes a buffer that holds something; it is empty then,
-- so the second turn is the last.
def write (data : List UInt8) : Op := fun writer =>
  let room := size - writer.buffered.length
  if writer.failed then (writer, false)
  else if data.length ≤ room then ({ writer with buffered := writer.buffered ++ data }, true)
  else if writer.buffered = [] then writeEmpty data writer
  else
    let flushed := flush { writer with buffered := writer.buffered ++ data.take room }
    if flushed.2 then writeEmpty (data.drop room) flushed.1 else flushed

def andThen (first second : Op) : Op := fun writer =>
  let next := first writer
  if next.2 then second next.1 else next

def pending (writer : Writer) : List UInt8 := writer.socket.sent ++ writer.buffered

def Emits (op : Op) (bytes : List UInt8) : Prop :=
  ∀ writer, (op writer).2 = true → (op writer).1.failed = false ∧ pending (op writer).1 = pending writer ++ bytes

-- What a call that fails leaves behind: the error stays, and the connection has
-- had no more than a first part of the bytes.
structure Sticky (op : Op) (bytes : List UInt8) : Prop where
  stuck : ∀ writer, writer.failed = true → op writer = (writer, false)
  breaks : ∀ writer, (op writer).2 = false →
    (op writer).1.failed = true ∧ (op writer).1.socket.sent <+: pending writer ++ bytes

theorem socket_write_ok (socket : Socket) (data : List UInt8) (done : (socket.write data).done = true) :
    (socket.write data).socket.sent = socket.sent ++ data ∧ (socket.write data).count = data.length := by
  unfold Socket.write at done ⊢
  split at done
  · cases done
  · exact ⟨rfl, rfl⟩
  · exact ⟨rfl, rfl⟩

theorem flush_ok (writer : Writer) (done : (flush writer).2 = true) :
    (flush writer).1.failed = false ∧ (flush writer).1.buffered = [] ∧
      (flush writer).1.socket.sent = writer.socket.sent ++ writer.buffered := by
  unfold flush at done ⊢
  by_cases failed : writer.failed = true
  · simp [failed] at done
  · by_cases empty : writer.buffered = []
    · simp [failed, empty]
    · simp only [failed, empty, if_false, Bool.false_eq_true] at done ⊢
      obtain ⟨sent, count⟩ := socket_write_ok writer.socket writer.buffered done
      exact ⟨by simp [done], by simp [count], sent⟩

theorem flush_emits : Emits flush [] := by
  intro writer done
  obtain ⟨healthy, empty, sent⟩ := flush_ok writer done
  exact ⟨healthy, by simp [pending, empty, sent]⟩

theorem write_byte_emits (byte : UInt8) : Emits (writeByte byte) [byte] := by
  intro writer done
  unfold writeByte at done ⊢
  by_cases failed : writer.failed = true
  · simp [failed] at done
  · by_cases full : size ≤ writer.buffered.length
    · simp only [failed, full, if_true, if_false, Bool.false_eq_true] at done ⊢
      by_cases flushed : (flush writer).2 = true
      · obtain ⟨healthy, kept⟩ := flush_emits writer flushed
        simp only [flushed, if_true, pending, List.append_nil] at kept ⊢
        exact ⟨healthy, by rw [← List.append_assoc, kept]⟩
      · simp [flushed] at done
    · simp only [failed, full, if_false, Bool.false_eq_true, pending, List.append_assoc, and_true]

theorem write_empty_emits (data : List UInt8) (writer : Writer) (healthy : writer.failed = false)
    (empty : writer.buffered = []) (done : (writeEmpty data writer).2 = true) :
    (writeEmpty data writer).1.failed = false ∧ pending (writeEmpty data writer).1 = pending writer ++ data := by
  unfold writeEmpty at done ⊢
  by_cases fits : data.length ≤ size
  · simp [fits, healthy, pending, empty]
  · simp only [fits, if_false] at done ⊢
    obtain ⟨sent, _⟩ := socket_write_ok writer.socket data done
    simp [done, pending, sent, empty]

theorem write_emits (data : List UInt8) : Emits (write data) data := by
  intro writer done
  unfold write at done ⊢
  by_cases failed : writer.failed = true
  · simp [failed] at done
  · have healthy := Bool.eq_false_iff.mpr failed
    by_cases fits : data.length ≤ size - writer.buffered.length
    · simp [healthy, fits, pending]
    · by_cases empty : writer.buffered = []
      · simp only [healthy, if_false, Bool.false_eq_true, if_neg fits, if_pos empty] at done ⊢
        exact write_empty_emits data writer healthy empty done
      · simp only [healthy, fits, empty, if_false, Bool.false_eq_true] at done ⊢
        split at done
        · rename_i flushed
          obtain ⟨sound, drained, sent⟩ := flush_ok _ flushed
          obtain ⟨kept, whole⟩ := write_empty_emits _ _ sound drained done
          rw [if_pos flushed]
          refine ⟨kept, ?_⟩
          rw [whole]
          simp only [pending, drained, sent, List.append_nil, List.append_assoc, List.take_append_drop]
        · rename_i broken
          exact absurd done broken

theorem and_then_emits (first second : Op) (left right : List UInt8) (firstEmits : Emits first left)
    (secondEmits : Emits second right) : Emits (andThen first second) (left ++ right) := by
  intro writer done
  unfold andThen at done ⊢
  by_cases passed : (first writer).2 = true
  · simp only [passed, if_true] at done ⊢
    obtain ⟨_, before⟩ := firstEmits writer passed
    obtain ⟨healthy, after⟩ := secondEmits (first writer).1 done
    exact ⟨healthy, by rw [after, before, List.append_assoc]⟩
  · simp [passed] at done

theorem socket_write_sent (socket : Socket) (data : List UInt8) :
    (socket.write data).socket.sent <+: socket.sent ++ data := by
  unfold Socket.write
  split
  · exact List.prefix_append_right_inj _ |>.mpr (List.take_prefix _ _)
  · exact List.prefix_refl _
  · exact List.prefix_refl _

theorem flush_sticky : Sticky flush [] := by
  refine ⟨?_, ?_⟩
  · intro writer failed
    simp [flush, failed]
  · intro writer broken
    rw [List.append_nil]
    by_cases failed : writer.failed = true
    · simp [flush, failed, pending]
    · by_cases empty : writer.buffered = []
      · simp [flush, failed, empty] at broken
      · simp only [flush, failed, empty, if_false, Bool.false_eq_true] at broken ⊢
        exact ⟨by simp [broken], socket_write_sent writer.socket writer.buffered⟩

theorem write_byte_sticky (byte : UInt8) : Sticky (writeByte byte) [byte] := by
  refine ⟨?_, ?_⟩
  · intro writer failed
    simp [writeByte, failed]
  · intro writer broken
    by_cases failed : writer.failed = true
    · simp [writeByte, failed, pending]
    · by_cases full : size ≤ writer.buffered.length
      · simp only [writeByte, failed, full, if_true, if_false, Bool.false_eq_true] at broken ⊢
        by_cases flushed : (flush writer).2 = true
        · simp [flushed] at broken
        · obtain ⟨stays, sent⟩ := flush_sticky.breaks writer (Bool.eq_false_iff.mpr flushed)
          rw [List.append_nil] at sent
          rw [if_neg flushed]
          exact ⟨stays, sent.trans (List.prefix_append _ _)⟩
      · simp [writeByte, failed, full] at broken

theorem write_empty_breaks (data : List UInt8) (writer : Writer) (broken : (writeEmpty data writer).2 = false) :
    (writeEmpty data writer).1.failed = true ∧ (writeEmpty data writer).1.socket.sent <+: writer.socket.sent ++ data := by
  unfold writeEmpty at broken ⊢
  by_cases fits : data.length ≤ size
  · simp [fits] at broken
  · simp only [fits, if_false] at broken ⊢
    exact ⟨by simp [broken], socket_write_sent writer.socket data⟩

theorem write_sticky (data : List UInt8) : Sticky (write data) data := by
  refine ⟨?_, ?_⟩
  · intro writer failed
    simp [write, failed]
  · intro writer broken
    by_cases failed : writer.failed = true
    · simp [write, failed, pending]
    · by_cases fits : data.length ≤ size - writer.buffered.length
      · simp [write, failed, fits] at broken
      · by_cases empty : writer.buffered = []
        · simp only [write, failed, if_false, Bool.false_eq_true, if_neg fits, if_pos empty] at broken ⊢
          obtain ⟨stays, sent⟩ := write_empty_breaks data writer broken
          exact ⟨stays, by simpa [pending, empty] using sent⟩
        · simp only [write, failed, fits, empty, if_false, Bool.false_eq_true] at broken ⊢
          split at broken
          · rename_i flushed
            obtain ⟨_, _, drained⟩ := flush_ok _ flushed
            obtain ⟨stays, sent⟩ := write_empty_breaks _ _ broken
            rw [if_pos flushed]
            refine ⟨stays, ?_⟩
            rw [drained] at sent
            simpa [pending] using sent
          · rename_i halted
            obtain ⟨stays, sent⟩ := flush_sticky.breaks _ broken
            rw [if_neg halted]
            refine ⟨stays, sent.trans ?_⟩
            simp only [pending, List.append_nil, List.append_assoc, List.prefix_append_right_inj, List.take_prefix]

theorem and_then_sticky (first second : Op) (left right : List UInt8) (emits : Emits first left)
    (firstSticky : Sticky first left) (secondSticky : Sticky second right) :
    Sticky (andThen first second) (left ++ right) := by
  refine ⟨?_, ?_⟩
  · intro writer failed
    simp [andThen, firstSticky.stuck writer failed]
  · intro writer broken
    unfold andThen at broken ⊢
    by_cases passed : (first writer).2 = true
    · simp only [passed, if_true] at broken ⊢
      obtain ⟨_, before⟩ := emits writer passed
      obtain ⟨stays, sent⟩ := secondSticky.breaks (first writer).1 broken
      rw [before, List.append_assoc] at sent
      exact ⟨stays, sent⟩
    · simp only [passed, if_false, Bool.false_eq_true] at broken ⊢
      obtain ⟨stays, sent⟩ := firstSticky.breaks writer (Bool.eq_false_iff.mpr passed)
      refine ⟨stays, sent.trans ?_⟩
      rw [← List.append_assoc]
      exact List.prefix_append _ _

theorem and_then_assoc (first second third : Op) :
    andThen first (andThen second third) = andThen (andThen first second) third := by
  funext writer
  by_cases passed : (first writer).2 = true
  · simp [andThen, passed]
  · simp [andThen, passed]

theorem and_then_flush (op : Op) (bytes : List UInt8) (emits : Emits op bytes) (writer : Writer)
    (done : (andThen op flush writer).2 = true) :
    (andThen op flush writer).1.buffered = [] ∧ (andThen op flush writer).1.socket.sent = pending writer ++ bytes := by
  unfold andThen at done ⊢
  by_cases passed : (op writer).2 = true
  · simp only [passed, if_true] at done ⊢
    obtain ⟨_, empty, sent⟩ := flush_ok (op writer).1 done
    obtain ⟨_, whole⟩ := emits writer passed
    exact ⟨empty, sent.trans whole⟩
  · simp [passed] at done

-- A writer without an error over a connection without faults, and calls that
-- always return nil on it.
def Steady (writer : Writer) : Prop := writer.failed = false ∧ writer.socket.faults = []

def Completes (op : Op) : Prop := ∀ writer, Steady writer → (op writer).2 = true ∧ Steady (op writer).1

theorem new_writer_steady (socket : Socket) (faultless : socket.faults = []) : Steady (newWriter socket) := ⟨rfl, faultless⟩

theorem socket_write_completes (socket : Socket) (data : List UInt8) (faultless : socket.faults = []) :
    (socket.write data).done = true ∧ (socket.write data).socket.faults = [] := by
  simp [Socket.write, faultless]

theorem flush_completes : Completes flush := by
  intro writer steady
  obtain ⟨healthy, faultless⟩ := steady
  by_cases empty : writer.buffered = []
  · simp [flush, healthy, empty, Steady, faultless]
  · obtain ⟨done, left⟩ := socket_write_completes writer.socket writer.buffered faultless
    simp [flush, healthy, empty, Steady, done, left]

theorem write_byte_completes (byte : UInt8) : Completes (writeByte byte) := by
  intro writer steady
  by_cases full : size ≤ writer.buffered.length
  · obtain ⟨flushed, healthy, faultless⟩ := flush_completes writer steady
    simp [writeByte, steady.1, full, flushed, Steady, healthy, faultless]
  · simp [writeByte, steady.1, full, Steady, steady.2]

theorem write_empty_completes (data : List UInt8) : Completes (writeEmpty data) := by
  intro writer steady
  by_cases fits : data.length ≤ size
  · simp [writeEmpty, fits, Steady, steady.1, steady.2]
  · obtain ⟨done, left⟩ := socket_write_completes writer.socket data steady.2
    simp [writeEmpty, fits, Steady, done, left]

theorem write_completes (data : List UInt8) : Completes (write data) := by
  intro writer steady
  by_cases fits : data.length ≤ size - writer.buffered.length
  · simp [write, steady.1, fits, Steady, steady.2]
  · by_cases empty : writer.buffered = []
    · simp only [write, steady.1, if_false, Bool.false_eq_true, if_neg fits, if_pos empty]
      exact write_empty_completes data writer steady
    · simp only [write, steady.1, fits, empty, if_false, Bool.false_eq_true]
      obtain ⟨flushed, kept⟩ := flush_completes ⟨writer.socket, writer.buffered ++ data.take (size - writer.buffered.length), false⟩
        ⟨rfl, steady.2⟩
      rw [if_pos flushed]
      exact write_empty_completes _ _ kept

theorem and_then_completes (first second : Op) (firstCompletes : Completes first) (secondCompletes : Completes second) :
    Completes (andThen first second) := by
  intro writer steady
  obtain ⟨passed, kept⟩ := firstCompletes writer steady
  rw [andThen, if_pos passed]
  exact secondCompletes _ kept

end BufWriter
