import WarpStream.WstRoundTrip

set_option autoImplicit false

namespace WarpStream

open BufWriter

def WriteCall.oversized : WriteCall → Bool
  | .message _ _ => false
  | .control _ data => decide (125 < data.length)

-- muw makes the calls on a connection a sequence; each is kept with whether it returned nil.
def makeCalls (masking : Bool) : List WriteCall → Writer → Writer × List (WriteCall × Bool)
  | [], writer => (writer, [])
  | call :: later, writer =>
      let written := call.op masking writer
      let after := makeCalls masking later written.1
      (after.1, (call, written.2) :: after.2)

def returnedNil (returned : List (WriteCall × Bool)) : List Frame :=
  returned.filterMap fun entry => if entry.2 then some entry.1.frame else none

def framesWithin (calls : List WriteCall) : List Frame := (calls.filter fun call => !call.oversized).map WriteCall.frame

theorem call_message_op (masking : Bool) (call : WriteCall) (fits : call.oversized = false) :
    call.op masking = writeMessage masking call.frame.opcode call.frame.payload := by
  cases call with
  | message messageType data => rfl
  | control messageType data => exact write_control_short masking messageType data (Nat.not_lt.mp (of_decide_eq_false fits))

theorem call_fits (masking : Bool) (call : WriteCall) (writer : Writer) (steady : Steady writer) (fits : call.oversized = false) :
    (call.op masking writer).2 = true ∧ Steady (call.op masking writer).1 ∧ (call.op masking writer).1.buffered = [] ∧
      (call.op masking writer).1.socket.sent = pending writer ++ encodeFrame masking call.frame.opcode call.frame.payload := by
  rw [call_message_op masking call fits]
  obtain ⟨done, kept⟩ := write_message_completes masking call.frame.opcode call.frame.payload writer steady
  obtain ⟨drained, sent⟩ := write_message_flushes masking call.frame.opcode call.frame.payload writer done
  exact ⟨done, kept, drained, sent⟩

theorem write_control_long (masking : Bool) (messageType : Nat) (data : List UInt8) (writer : Writer) (steady : Steady writer)
    (long : 125 < data.length) :
    writeControl masking messageType data writer = ((writeByte (0x80 ||| UInt8.ofNat messageType) writer).1, false) := by
  obtain ⟨done, _⟩ := write_byte_completes (0x80 ||| UInt8.ofNat messageType) writer steady
  rw [writeControl, andThen, if_pos done, if_pos long]

theorem write_byte_buffers (byte : UInt8) (writer : Writer) (steady : Steady writer) :
    (writer.buffered.length < size → (writeByte byte writer).1.socket.sent = writer.socket.sent ∧
      (writeByte byte writer).1.buffered.length = writer.buffered.length + 1) ∧
    (size ≤ writer.buffered.length → (writeByte byte writer).1.buffered.length = 1) := by
  constructor
  · intro room
    simp [writeByte, steady.1, Nat.not_le.mpr room]
  · intro full
    obtain ⟨flushed, _⟩ := flush_completes writer steady
    obtain ⟨_, drained, _⟩ := flush_ok writer flushed
    simp [writeByte, steady.1, full, flushed, drained]

-- What a call over the limit does: its first byte joins the buffer, which a full
-- buffer makes room for.
structure Strayed (masking : Bool) (call : WriteCall) (writer : Writer) : Prop where
  refused : (call.op masking writer).2 = false
  steady : Steady (call.op masking writer).1
  grown : (pending (call.op masking writer).1).length = (pending writer).length + 1
  kept : writer.buffered.length < size → (call.op masking writer).1.socket.sent = writer.socket.sent ∧
    (call.op masking writer).1.buffered.length = writer.buffered.length + 1
  emptied : size ≤ writer.buffered.length → (call.op masking writer).1.buffered.length = 1

theorem call_strays (masking : Bool) (call : WriteCall) (writer : Writer) (steady : Steady writer)
    (long : call.oversized = true) : Strayed masking call writer := by
  cases call with
  | message messageType data => cases long
  | control messageType data =>
      have written := write_control_long masking messageType data writer steady (of_decide_eq_true long)
      obtain ⟨done, kept⟩ := write_byte_completes (0x80 ||| UInt8.ofNat messageType) writer steady
      obtain ⟨_, whole⟩ := write_byte_emits (0x80 ||| UInt8.ofNat messageType) writer done
      obtain ⟨room, full⟩ := write_byte_buffers (0x80 ||| UInt8.ofNat messageType) writer steady
      constructor <;> simp only [WriteCall.op, written]
      · exact kept
      · rw [whole, List.length_append]
        rfl
      · exact room
      · exact full

theorem make_calls_cons (masking : Bool) (call : WriteCall) (later : List WriteCall) (writer : Writer) :
    (makeCalls masking (call :: later) writer).1 = (makeCalls masking later (call.op masking writer).1).1 := rfl

theorem make_calls_steady (masking : Bool) (calls : List WriteCall) (writer : Writer) (steady : Steady writer) :
    returnedNil (makeCalls masking calls writer).2 = framesWithin calls ∧
      (pending (makeCalls masking calls writer).1).length =
        (pending writer).length + (encodeAll masking (framesWithin calls)).length + calls.countP WriteCall.oversized := by
  induction calls generalizing writer with
  | nil => exact ⟨rfl, rfl⟩
  | cons call later ih =>
      cases size : call.oversized with
      | false =>
          obtain ⟨done, kept, drained, sent⟩ := call_fits masking call writer steady size
          obtain ⟨returned, length⟩ := ih _ kept
          have here : framesWithin (call :: later) = call.frame :: framesWithin later := by simp [framesWithin, size]
          have whole : pending (call.op masking writer).1 =
              pending writer ++ encodeFrame masking call.frame.opcode call.frame.payload := by
            rw [← sent, pending, drained, List.append_nil]
          rw [here]
          constructor
          · simpa [makeCalls, returnedNil, done] using returned
          · rw [make_calls_cons, length, whole, encode_all_cons, List.countP_cons_of_neg (by simp [size])]
            simp only [List.length_append]
            omega
      | true =>
          have strayed := call_strays masking call writer steady size
          obtain ⟨returned, length⟩ := ih _ strayed.steady
          have here : framesWithin (call :: later) = framesWithin later := by simp [framesWithin, size]
          rw [here]
          constructor
          · simpa [makeCalls, returnedNil, strayed.refused] using returned
          · rw [make_calls_cons, length, strayed.grown, List.countP_cons_of_pos size]
            omega

theorem make_calls_buffered (masking : Bool) (calls : List WriteCall) (writer : Writer) (steady : Steady writer) :
    (makeCalls masking calls writer).1.buffered.length ≤ writer.buffered.length + calls.countP WriteCall.oversized := by
  induction calls generalizing writer with
  | nil => exact Nat.le_refl _
  | cons call later ih =>
      cases long : call.oversized with
      | false =>
          obtain ⟨_, kept, drained, _⟩ := call_fits masking call writer steady long
          have bound := ih _ kept
          rw [drained, List.length_nil] at bound
          rw [make_calls_cons, List.countP_cons_of_neg (by simp [long])]
          omega
      | true =>
          have strayed := call_strays masking call writer steady long
          have bound := ih _ strayed.steady
          rw [make_calls_cons, List.countP_cons_of_pos long]
          by_cases room : writer.buffered.length < size
          · have grown := (strayed.kept room).2
            omega
          · have emptied := strayed.emptied (Nat.le_of_not_lt room)
            omega

-- Calls that return nil, then calls over the limit that the buffer still holds.
structure Tidy (held : Nat) (calls good bad : List WriteCall) : Prop where
  parts : calls = good ++ bad
  fit : ∀ call ∈ good, call.oversized = false
  exceed : ∀ call ∈ bad, call.oversized = true
  room : held + bad.length ≤ size

-- Every byte left behind is still in the buffer only when no flush came behind it.
theorem tidy_of_held (masking : Bool) (calls : List WriteCall) (writer : Writer) (steady : Steady writer)
    (room : writer.buffered.length ≤ size)
    (held : (makeCalls masking calls writer).1.buffered.length = writer.buffered.length + calls.countP WriteCall.oversized) :
    ∃ good bad, Tidy writer.buffered.length calls good bad ∧ (good ≠ [] → writer.buffered = []) := by
  induction calls generalizing writer with
  | nil => exact ⟨[], [], ⟨rfl, by simp, by simp, room⟩, fun some => absurd rfl some⟩
  | cons call later ih =>
      cases long : call.oversized with
      | false =>
          obtain ⟨_, kept, drained, _⟩ := call_fits masking call writer steady long
          have bound := make_calls_buffered masking later _ kept
          rw [make_calls_cons, List.countP_cons_of_neg (by simp [long])] at held
          rw [drained, List.length_nil] at bound
          have empty : writer.buffered = [] := List.eq_nil_of_length_eq_zero (by omega)
          rw [empty, List.length_nil] at held ⊢
          have rest := ih _ kept (by rw [drained]; exact Nat.zero_le _) (by rw [drained]; exact held)
          rw [drained] at rest
          obtain ⟨good, bad, tidy, _⟩ := rest
          refine ⟨call :: good, bad, ⟨by rw [tidy.parts, List.cons_append], ?_, tidy.exceed, tidy.room⟩, fun _ => rfl⟩
          exact List.forall_mem_cons.mpr ⟨long, tidy.fit⟩
      | true =>
          have strayed := call_strays masking call writer steady long
          have bound := make_calls_buffered masking later _ strayed.steady
          rw [make_calls_cons, List.countP_cons_of_pos long] at held
          by_cases free : writer.buffered.length < size
          · have grown := (strayed.kept free).2
            obtain ⟨good, bad, tidy, drained⟩ := ih _ strayed.steady (by omega) (by omega)
            have none : good = [] := by
              by_contra some
              rw [drained some] at grown
              cases grown
            have roomy := tidy.room
            refine ⟨[], call :: bad, ⟨by rw [tidy.parts, none]; rfl, by simp, ?_, ?_⟩, fun some => absurd rfl some⟩
            · exact List.forall_mem_cons.mpr ⟨long, tidy.exceed⟩
            · rw [List.length_cons]
              omega
          · have emptied := strayed.emptied (Nat.le_of_not_lt free)
            have full : size ≤ writer.buffered.length := Nat.le_of_not_lt free
            have large : size = 4096 := rfl
            omega

theorem make_calls_append (masking : Bool) (first second : List WriteCall) (writer : Writer) :
    (makeCalls masking (first ++ second) writer).1 = (makeCalls masking second (makeCalls masking first writer).1).1 := by
  induction first generalizing writer with
  | nil => rfl
  | cons call later ih =>
      rw [List.cons_append, make_calls_cons, make_calls_cons]
      exact ih _

theorem good_calls_sent (masking : Bool) (calls : List WriteCall) (writer : Writer) (steady : Steady writer)
    (drained : writer.buffered = []) (fit : ∀ call ∈ calls, call.oversized = false) :
    Steady (makeCalls masking calls writer).1 ∧ (makeCalls masking calls writer).1.buffered = [] ∧
      (makeCalls masking calls writer).1.socket.sent = writer.socket.sent ++ encodeAll masking (framesWithin calls) := by
  induction calls generalizing writer with
  | nil => exact ⟨steady, drained, (List.append_nil _).symm⟩
  | cons call later ih =>
      obtain ⟨here, rest⟩ := List.forall_mem_cons.mp fit
      obtain ⟨_, kept, emptied, sent⟩ := call_fits masking call writer steady here
      obtain ⟨still, empty, whole⟩ := ih _ kept emptied rest
      have frames : framesWithin (call :: later) = call.frame :: framesWithin later := by simp [framesWithin, here]
      refine ⟨still, empty, ?_⟩
      rw [make_calls_cons, whole, sent, frames, encode_all_cons, pending, drained, List.append_nil, List.append_assoc]

theorem bad_calls_held (masking : Bool) (calls : List WriteCall) (writer : Writer) (steady : Steady writer)
    (exceed : ∀ call ∈ calls, call.oversized = true) (room : writer.buffered.length + calls.length ≤ size) :
    (makeCalls masking calls writer).1.socket.sent = writer.socket.sent := by
  induction calls generalizing writer with
  | nil => rfl
  | cons call later ih =>
      obtain ⟨here, rest⟩ := List.forall_mem_cons.mp exceed
      have strayed := call_strays masking call writer steady here
      rw [List.length_cons] at room
      obtain ⟨same, grown⟩ := strayed.kept (by omega)
      rw [make_calls_cons, ih _ strayed.steady rest (by omega), same]

theorem frames_within_append (first second : List WriteCall) : framesWithin (first ++ second) = framesWithin first ++ framesWithin second := by
  simp [framesWithin]

theorem frames_within_oversized (calls : List WriteCall) (exceed : ∀ call ∈ calls, call.oversized = true) : framesWithin calls = [] := by
  have none : (calls.filter fun call => !call.oversized) = [] := by
    apply List.filter_eq_nil_iff.mpr
    intro call member
    simp [exceed call member]
  rw [framesWithin, none, List.map_nil]

theorem sent_encodings_iff_tidy (masking : Bool) (sent : List UInt8) (calls : List WriteCall) :
    (makeCalls masking calls (newWriter ⟨sent, []⟩)).1.socket.sent =
        sent ++ encodeAll masking (returnedNil (makeCalls masking calls (newWriter ⟨sent, []⟩)).2) ↔
      ∃ good bad, calls = good ++ bad ∧ (∀ call ∈ good, call.oversized = false) ∧ (∀ call ∈ bad, call.oversized = true) ∧
        bad.length ≤ size := by
  have steady : Steady (newWriter ⟨sent, []⟩) := new_writer_steady _ rfl
  obtain ⟨returned, length⟩ := make_calls_steady masking calls _ steady
  rw [returned]
  constructor
  · intro clean
    have held : (makeCalls masking calls (newWriter ⟨sent, []⟩)).1.buffered.length =
        (newWriter ⟨sent, []⟩).buffered.length + calls.countP WriteCall.oversized := by
      simp only [pending, newWriter, List.append_nil, List.length_append, List.length_nil] at length ⊢
      have lengths := congrArg List.length clean
      simp only [newWriter, List.length_append] at lengths
      omega
    obtain ⟨good, bad, tidy, _⟩ := tidy_of_held masking calls _ steady (Nat.zero_le _) held
    have room := tidy.room
    exact ⟨good, bad, tidy.parts, tidy.fit, tidy.exceed, Nat.le_trans (Nat.le_add_left _ _) room⟩
  · intro tidy
    obtain ⟨good, bad, parts, fit, exceed, room⟩ := tidy
    obtain ⟨kept, drained, whole⟩ := good_calls_sent masking good _ steady rfl fit
    have behind := bad_calls_held masking bad _ kept exceed (by rw [drained, List.length_nil]; omega)
    rw [parts, make_calls_append, behind, whole, frames_within_append, frames_within_oversized bad exceed, List.append_nil]
    rfl

-- A ping of 126 bytes is refused, and its first byte goes out before the next message.
theorem refused_control_reaches_peer :
    let made := makeCalls false [.control pingMessage (List.replicate 126 0), .message 2 [7]] (newWriter ⟨[], []⟩)
    made.2.map Prod.snd = [false, true] ∧ made.1.socket.sent = [0x89, 0x82, 1, 7] ∧
      encodeAll false (returnedNil made.2) = [0x82, 1, 7] := by
  decide +kernel

end WarpStream
