import WarpStream.Pipe

set_option autoImplicit false

namespace WarpStream

open ByteReader

def continuationFrame : Nat := 0

-- A frame of RFC 6455 without extensions.
structure RfcFrame where
  fin : Bool
  opcode : Nat
  key : Option (List UInt8)
  payload : List UInt8
  nibble : opcode < 16
  keyed : ∀ bytes ∈ key, bytes.length = 4
  bounded : payload.length < 2 ^ 63

def RfcFrame.first (frame : RfcFrame) : UInt8 := (if frame.fin then 0x80 else 0) ||| UInt8.ofNat frame.opcode

def RfcFrame.bytes (frame : RfcFrame) : List UInt8 := frameBytes frame.first frame.key frame.payload

def RfcFrame.plain (frame : RfcFrame) : Frame := ⟨frame.opcode, frame.payload⟩

def RfcFrame.isData (frame : RfcFrame) : Bool :=
  frame.opcode = continuationFrame || frame.opcode = textMessage || frame.opcode = binaryMessage

structure RfcFrame.IsControl (frame : RfcFrame) : Prop where
  fin : frame.fin = true
  short : frame.payload.length ≤ 125

-- Whole messages in fragments; within says that a message has begun and not ended.
-- Controls stand anywhere, and a close frame may end the stream between messages.
inductive RfcStream : (within : Bool) → List RfcFrame → Prop where
  | finish : RfcStream false []
  | close (frame : RfcFrame) (opcode : frame.opcode = closeMessage) (control : frame.IsControl) : RfcStream false [frame]
  | control (within : Bool) (frame : RfcFrame) (left : List RfcFrame)
      (opcode : frame.opcode = pingMessage ∨ frame.opcode = pongMessage) (control : frame.IsControl)
      (rest : RfcStream within left) : RfcStream within (frame :: left)
  | start (frame : RfcFrame) (left : List RfcFrame) (opcode : frame.opcode = textMessage ∨ frame.opcode = binaryMessage)
      (rest : RfcStream (!frame.fin) left) : RfcStream false (frame :: left)
  | resume (frame : RfcFrame) (left : List RfcFrame) (opcode : frame.opcode = continuationFrame)
      (rest : RfcStream (!frame.fin) left) : RfcStream true (frame :: left)

def encodeStream (frames : List RfcFrame) : List UInt8 := frames.flatMap RfcFrame.bytes

def messageBytes (frames : List RfcFrame) : List UInt8 :=
  frames.flatMap fun frame => if frame.isData then frame.payload else []

theorem from_web_socket_fault (function : PipeFunction) (handlers : Handlers) (input rest : List UInt8)
    (fault : Fault ReadError) (found : readFrame input = .error (fault, rest)) : fromWebSocket function handlers input = [] := by
  have read := read_message_fault handlers input rest fault found
  rw [fromWebSocket, read_all_fault handlers input _ fault read rfl]
  rfl

theorem returned_again (handlers : Handlers) (frame : Frame) (input rest : List UInt8)
    (again : readMessage handlers input = (readMessage handlers rest).called frame) :
    returnedMessages (readAll handlers input) = returnedMessages (readAll handlers rest) := by
  cases outcome : (readMessage handlers rest).outcome with
  | error fault =>
      rw [read_all_fault handlers input _ fault again outcome, read_all_fault handlers rest _ fault rfl outcome]
      simp [returnedMessages, ReadResult.message, ReadResult.called, outcome]
  | ok message =>
      rw [read_all_message handlers input _ message again outcome, read_all_message handlers rest _ message rfl outcome]
      simp [returnedMessages, ReadResult.message, ReadResult.called, outcome]

theorem from_web_socket_frame (function : PipeFunction) (handlers : Handlers) (input rest : List UInt8) (frame : Frame)
    (found : readFrame input = .ok (frame, rest)) :
    fromWebSocket function handlers input =
      match received handlers frame with
      | .again => fromWebSocket function handlers rest
      | .message => function.forwarded frame ++ fromWebSocket function handlers rest
      | _ => [] := by
  have read := read_message_frame handlers input rest frame found
  rw [deliver_received] at read
  unfold fromWebSocket
  cases turn : received handlers frame with
  | again =>
      rw [turn] at read
      rw [returned_again handlers frame input rest read]
  | message =>
      rw [turn] at read
      rw [read_all_message handlers input _ frame read rfl]
      rfl
  | eof =>
      rw [turn] at read
      rw [read_all_fault handlers input _ _ read rfl]
      rfl
  | handler text =>
      rw [turn] at read
      rw [read_all_fault handlers input _ _ read rfl]
      rfl

theorem rfc_first (frame : RfcFrame) : (frame.first &&& 0x0F).toNat = frame.opcode := by
  have all : ∀ fin : Bool, ∀ opcode < 16, (((if fin then 0x80 else 0) ||| UInt8.ofNat opcode) &&& 0x0F).toNat = opcode := by decide
  exact all frame.fin frame.opcode frame.nibble

theorem rfc_read (frame : RfcFrame) (rest : List UInt8) (bounded : frame.payload.length ≤ maxPayload) :
    readFrame (frame.bytes ++ rest) = .ok (frame.plain, rest) := by
  have read := reads_frame_bytes frame.first frame.key frame.payload frame.keyed bounded rest
  rwa [rfc_first] at read

-- The frame by frame account of the loop: an oversized frame or a close frame ends it, and a
-- continuation frame is of no type that it writes.
def delivered (function : PipeFunction) : List RfcFrame → List UInt8
  | [] => []
  | frame :: left =>
      if maxPayload < frame.payload.length ∨ frame.opcode = closeMessage then []
      else function.forwarded frame.plain ++ delivered function left

theorem pipe_forwards (frame : RfcFrame) :
    pipe.forwarded frame.plain = if frame.opcode = binaryMessage ∨ frame.opcode = textMessage then frame.payload else [] := by
  simp only [PipeFunction.forwarded, pipe, RfcFrame.plain, List.mem_cons, List.not_mem_nil, or_false]

theorem control_skipped (frame : RfcFrame) (control : frame.opcode = pingMessage ∨ frame.opcode = pongMessage) :
    pipe.forwarded frame.plain = [] ∧ frame.isData = false ∧ frame.opcode ≠ closeMessage ∧ frame.opcode ≠ continuationFrame := by
  rw [pipe_forwards, RfcFrame.isData]
  rcases control with ping | pong
  · simp [ping, pingMessage, closeMessage, binaryMessage, textMessage, continuationFrame]
  · simp [pong, pongMessage, closeMessage, binaryMessage, textMessage, continuationFrame]

theorem received_silent (handlers : Handlers) (frame : Frame) (silent : handlers.silent) :
    received handlers frame =
      if frame.opcode = pingMessage ∨ frame.opcode = pongMessage then .again
      else if frame.opcode = closeMessage then .eof
      else .message := by
  rw [received, (silent frame.payload).1, (silent frame.payload).2]
  by_cases ping : frame.opcode = pingMessage
  · rw [if_pos ping, if_pos (.inl ping)]
  · by_cases pong : frame.opcode = pongMessage
    · rw [if_neg ping, if_pos pong, if_pos (.inr pong)]
    · have other : ¬ (frame.opcode = pingMessage ∨ frame.opcode = pongMessage) := fun control => control.elim ping pong
      rw [if_neg ping, if_neg pong, if_neg other]

theorem from_web_socket_delivered (handlers : Handlers) (frames : List RfcFrame) (silent : handlers.silent) :
    fromWebSocket pipe handlers (encodeStream frames) = delivered pipe frames := by
  induction frames with
  | nil => exact from_web_socket_fault pipe handlers [] [] .eof rfl
  | cons frame left ih =>
      change fromWebSocket pipe handlers (frame.bytes ++ encodeStream left) = _
      by_cases long : maxPayload < frame.payload.length
      · rw [delivered, if_pos (.inl long)]
        exact from_web_socket_fault pipe handlers _ _ _
          (frame_too_long frame.first frame.key frame.payload (encodeStream left) frame.keyed frame.bounded long)
      · have turn : received handlers frame.plain =
            if frame.opcode = pingMessage ∨ frame.opcode = pongMessage then .again
            else if frame.opcode = closeMessage then .eof
            else .message := received_silent handlers frame.plain silent
        rw [from_web_socket_frame pipe handlers _ _ frame.plain (rfc_read frame _ (Nat.le_of_not_lt long)), turn, delivered, ih]
        by_cases control : frame.opcode = pingMessage ∨ frame.opcode = pongMessage
        · obtain ⟨skipped, _, notClose, _⟩ := control_skipped frame control
          rw [if_pos control, if_neg (fun ends => ends.elim long notClose), skipped, List.nil_append]
        · by_cases close : frame.opcode = closeMessage
          · rw [if_neg control, if_pos close, if_pos (.inr close)]
          · rw [if_neg control, if_neg close, if_neg (fun ends => ends.elim long close)]

theorem message_bytes_cons (frame : RfcFrame) (left : List RfcFrame) :
    messageBytes (frame :: left) = (if frame.isData then frame.payload else []) ++ messageBytes left := rfl

theorem delivered_length (frames : List RfcFrame) : (delivered pipe frames).length ≤ (messageBytes frames).length := by
  induction frames with
  | nil => exact Nat.le_refl _
  | cons frame left ih =>
      rw [delivered, message_bytes_cons]
      split
      · exact Nat.zero_le _
      · rw [pipe_forwards]
        have part : (if frame.opcode = binaryMessage ∨ frame.opcode = textMessage then frame.payload else []).length ≤
            (if frame.isData then frame.payload else []).length := by
          split
          · rename_i written
            have data : frame.isData = true := by
              rcases written with binary | text
              · simp [RfcFrame.isData, binary]
              · simp [RfcFrame.isData, text]
            exact Nat.le_of_eq (by rw [if_pos data])
          · exact Nat.zero_le _
        simp only [List.length_append]
        omega

def RfcFrame.CarriedWhole (frame : RfcFrame) : Prop :=
  (frame.opcode = continuationFrame → frame.payload = []) ∧ frame.payload.length ≤ maxPayload

theorem control_whole (frame : RfcFrame) (control : frame.IsControl) (other : frame.opcode ≠ continuationFrame) :
    ¬ maxPayload < frame.payload.length ∧ frame.CarriedWhole := by
  have bounded : frame.payload.length ≤ maxPayload := Nat.le_trans control.short (by decide)
  exact ⟨Nat.not_lt.mpr bounded, fun same => absurd same other, bounded⟩

-- The bytes of an oversized frame reach nobody, and they are not none.
theorem oversized_lost (frame : RfcFrame) (left : List RfcFrame) (data : frame.isData = true)
    (long : maxPayload < frame.payload.length) :
    (delivered pipe (frame :: left) = messageBytes (frame :: left) ↔ ∀ other ∈ frame :: left, other.CarriedWhole) := by
  constructor
  · intro same
    have lengths := congrArg List.length same
    rw [delivered, if_pos (.inl long), message_bytes_cons, if_pos data, List.length_append, List.length_nil] at lengths
    omega
  · intro whole
    exact absurd (whole frame (.head left)).2 (Nat.not_le.mpr long)

theorem start_whole (frame : RfcFrame) (left : List RfcFrame)
    (opcode : frame.opcode = textMessage ∨ frame.opcode = binaryMessage)
    (behind : delivered pipe left = messageBytes left ↔ ∀ other ∈ left, other.CarriedWhole) :
    delivered pipe (frame :: left) = messageBytes (frame :: left) ↔ ∀ other ∈ frame :: left, other.CarriedWhole := by
  obtain ⟨data, written, notClose, other⟩ : frame.isData = true ∧ pipe.forwarded frame.plain = frame.payload ∧
      frame.opcode ≠ closeMessage ∧ frame.opcode ≠ continuationFrame := by
    rw [pipe_forwards, RfcFrame.isData]
    rcases opcode with text | binary
    · simp [text, closeMessage, binaryMessage, textMessage, continuationFrame]
    · simp [binary, closeMessage, binaryMessage, textMessage, continuationFrame]
  by_cases long : maxPayload < frame.payload.length
  · exact oversized_lost frame left data long
  · have whole : frame.CarriedWhole := ⟨fun same => absurd same other, Nat.le_of_not_lt long⟩
    rw [delivered, if_neg (fun ends => ends.elim long notClose), written, message_bytes_cons, if_pos data,
      List.append_cancel_left_eq, behind, List.forall_mem_cons]
    simp only [whole, true_and]

theorem resume_whole (frame : RfcFrame) (left : List RfcFrame) (opcode : frame.opcode = continuationFrame)
    (behind : delivered pipe left = messageBytes left ↔ ∀ other ∈ left, other.CarriedWhole) :
    delivered pipe (frame :: left) = messageBytes (frame :: left) ↔ ∀ other ∈ frame :: left, other.CarriedWhole := by
  have data : frame.isData = true := by simp [RfcFrame.isData, opcode]
  obtain ⟨dropped, notClose⟩ : pipe.forwarded frame.plain = [] ∧ frame.opcode ≠ closeMessage := by
    rw [pipe_forwards, opcode]
    simp [closeMessage, binaryMessage, textMessage, continuationFrame]
  by_cases long : maxPayload < frame.payload.length
  · exact oversized_lost frame left data long
  · rw [delivered, if_neg (fun ends => ends.elim long notClose), dropped, message_bytes_cons, if_pos data, List.nil_append,
      List.forall_mem_cons, ← behind]
    constructor
    · intro same
      -- What follows cannot make up for the bytes that are missing here.
      have lengths := congrArg List.length same
      have later := delivered_length left
      rw [List.length_append] at lengths
      have empty : frame.payload = [] := List.eq_nil_of_length_eq_zero (by omega)
      rw [empty, List.nil_append] at same
      exact ⟨⟨fun _ => empty, Nat.le_of_not_lt long⟩, same⟩
    · intro parts
      rw [parts.1.1 opcode, List.nil_append]
      exact parts.2

theorem delivered_whole (within : Bool) (frames : List RfcFrame) (stream : RfcStream within frames) :
    delivered pipe frames = messageBytes frames ↔ ∀ frame ∈ frames, frame.CarriedWhole := by
  induction stream with
  | finish => simp [delivered, messageBytes]
  | close frame opcode control =>
      have other : frame.opcode ≠ continuationFrame := by
        rw [opcode]
        decide
      have silent : frame.isData = false := by
        rw [RfcFrame.isData, opcode]
        decide
      have whole := (control_whole frame control other).2
      simp [delivered, opcode, silent, messageBytes, whole]
  | control within frame left opcode control _ ih =>
      obtain ⟨skipped, silent, notClose, other⟩ := control_skipped frame opcode
      obtain ⟨short, whole⟩ := control_whole frame control other
      rw [delivered, if_neg (fun ends => ends.elim short notClose), skipped, message_bytes_cons, silent, List.forall_mem_cons]
      simp only [Bool.false_eq_true, if_false, List.nil_append, whole, true_and]
      exact ih
  | start frame left opcode _ ih => exact start_whole frame left opcode ih
  | resume frame left opcode _ ih => exact resume_whole frame left opcode ih

theorem fragmented_messages_delivered (handlers : Handlers) (frames : List RfcFrame) (silent : handlers.silent)
    (stream : RfcStream false frames) :
    fromWebSocket pipe handlers (encodeStream frames) = messageBytes frames ↔
      (∀ frame ∈ frames, frame.opcode = continuationFrame → frame.payload = []) ∧
        ∀ frame ∈ frames, frame.payload.length ≤ maxPayload := by
  rw [from_web_socket_delivered handlers frames silent, delivered_whole false frames stream]
  exact ⟨fun whole => ⟨fun frame member => (whole frame member).1, fun frame member => (whole frame member).2⟩,
    fun parts frame member => ⟨parts.1 frame member, parts.2 frame member⟩⟩

def helloPing : RfcFrame := ⟨true, pingMessage, none, [7], by decide, nofun, by decide⟩

def helloWhole : RfcFrame := ⟨true, textMessage, some [1, 2, 3, 4], [104, 105], by decide, by simp, by decide⟩

theorem fragmented_messages_delivered_whole :
    RfcStream false [helloPing, helloWhole] ∧
      fromWebSocket pipe noHandlers (encodeStream [helloPing, helloWhole]) = messageBytes [helloPing, helloWhole] := by
  have stream : RfcStream false [helloPing, helloWhole] :=
    .control false helloPing _ (.inl rfl) ⟨rfl, by decide⟩ (.start helloWhole [] (.inl rfl) .finish)
  refine ⟨stream, (fragmented_messages_delivered noHandlers _ (fun _ => ⟨rfl, rfl⟩) stream).mpr ⟨?_, by decide⟩⟩
  decide

def helloStart : RfcFrame := ⟨false, textMessage, none, [104], by decide, nofun, by decide⟩

def helloEnd : RfcFrame := ⟨true, continuationFrame, some [1, 2, 3, 4], [105], by decide, by simp, by decide⟩

theorem continuation_frame_dropped :
    RfcStream false [helloStart, helloEnd] ∧ messageBytes [helloStart, helloEnd] = [104, 105] ∧
      fromWebSocket pipe noHandlers (encodeStream [helloStart, helloEnd]) = [104] := by
  refine ⟨.start helloStart _ (.inl rfl) (.resume helloEnd [] rfl .finish), by decide, ?_⟩
  exact (from_web_socket_delivered noHandlers _ (fun _ => ⟨rfl, rfl⟩)).trans (by decide)

end WarpStream
