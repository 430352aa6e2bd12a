import WarpStream.WstConn

set_option autoImplicit false

namespace WarpStream

open BufWriter ByteReader Transition

def isControl (frame : Frame) : Bool := decide (frame.opcode = pingMessage ∨ frame.opcode = pongMessage)

def isClose (frame : Frame) : Bool := decide (frame.opcode = closeMessage)

def encodeAll (masking : Bool) (frames : List Frame) : List UInt8 :=
  frames.flatMap fun frame => encodeFrame masking frame.opcode frame.payload

def Frame.fits (frame : Frame) : Prop := frame.opcode < 16 ∧ frame.payload.length ≤ maxPayload

-- Frames and the calls of ReadMessage that account for them: each call hands the
-- controls before a message to the handlers, returns the message and leaves the
-- bytes of the frames behind it; a close frame or the end of the stream is EOF.
inductive ReadsFrames (masking : Bool) : List Frame → List ReadResult → Prop where
  | message (controls : List Frame) (message : Frame) (left : List Frame) (later : List ReadResult)
      (control : ∀ frame ∈ controls, isControl frame = true) (data : isControl message = false ∧ isClose message = false)
      (rest : ReadsFrames masking left later) :
      ReadsFrames masking (controls ++ message :: left) (⟨controls, .ok message, encodeAll masking left⟩ :: later)
  | close (controls : List Frame) (close : Frame) (left : List Frame) (control : ∀ frame ∈ controls, isControl frame = true)
      (closes : isClose close = true) :
      ReadsFrames masking (controls ++ close :: left) [⟨controls, .error .eof, encodeAll masking left⟩]
  | finish (controls : List Frame) (control : ∀ frame ∈ controls, isControl frame = true) :
      ReadsFrames masking controls [⟨controls, .error .eof, []⟩]

def untilClose (frames : List Frame) : List Frame := frames.takeWhile fun frame => !isClose frame

def ReadResult.message (result : ReadResult) : Option Frame :=
  match result.outcome with
  | .ok frame => some frame
  | .error _ => none

def returnedMessages (results : List ReadResult) : List Frame := results.filterMap ReadResult.message

def handlerCalls (results : List ReadResult) : List Frame := results.flatMap (·.calls)

theorem control_not_close (frame : Frame) (control : isControl frame = true) : isClose frame = false := by
  apply decide_eq_false
  intro close
  rcases of_decide_eq_true control with ping | pong
  · cases close.symm.trans ping
  · cases close.symm.trans pong

theorem until_close_controls (controls left : List Frame) (control : ∀ frame ∈ controls, isControl frame = true) :
    untilClose (controls ++ left) = controls ++ untilClose left := by
  unfold untilClose
  rw [List.takeWhile_append_of_pos]
  intro frame member
  simp [control_not_close frame (control frame member)]

theorem controls_filter (controls : List Frame) (control : ∀ frame ∈ controls, isControl frame = true) :
    controls.filter isControl = controls ∧ controls.filter (fun frame => !isControl frame) = [] := by
  constructor
  · exact List.filter_eq_self.mpr control
  · apply List.filter_eq_nil_iff.mpr
    intro frame member
    simp [control frame member]

theorem reads_frames_messages (masking : Bool) (frames : List Frame) (results : List ReadResult)
    (reads : ReadsFrames masking frames results) :
    returnedMessages results = (untilClose frames).filter (fun frame => !isControl frame) ∧
      handlerCalls results = (untilClose frames).filter isControl := by
  induction reads with
  | message controls message left later control data _ ih =>
      obtain ⟨kept, dropped⟩ := controls_filter controls control
      rw [until_close_controls controls _ control]
      have opened : untilClose (message :: left) = message :: untilClose left := by simp [untilClose, data.2]
      simp only [returnedMessages, handlerCalls] at ih ⊢
      simp [opened, List.filter_append, kept, dropped, data.1, ReadResult.message, ih]
  | close controls close left control closes =>
      obtain ⟨kept, dropped⟩ := controls_filter controls control
      rw [until_close_controls controls _ control]
      simp [untilClose, closes, kept, dropped, returnedMessages, handlerCalls, ReadResult.message]
  | finish controls control =>
      obtain ⟨kept, dropped⟩ := controls_filter controls control
      have whole := until_close_controls controls [] control
      simp only [List.append_nil] at whole
      rw [whole]
      simp [untilClose, kept, dropped, returnedMessages, handlerCalls, ReadResult.message]

theorem encode_all_cons (masking : Bool) (frame : Frame) (left : List Frame) :
    encodeAll masking (frame :: left) = encodeFrame masking frame.opcode frame.payload ++ encodeAll masking left := rfl

theorem read_frame_encoded (masking : Bool) (frame : Frame) (left : List Frame) (fits : frame.fits) :
    readFrame (encodeAll masking (frame :: left)) = .ok (frame, encodeAll masking left) := by
  rw [encode_all_cons]
  exact reads_frame masking frame.opcode frame.payload fits.1 fits.2 (encodeAll masking left)

theorem deliver_control (handlers : Handlers) (frame : Frame) (rest : List UInt8) (later : ReadResult) (silent : handlers.silent)
    (control : isControl frame = true) : deliver handlers frame rest later = later.called frame := by
  obtain ⟨ping, pong⟩ := silent frame.payload
  rcases of_decide_eq_true control with nine | ten
  · rw [deliver, if_pos nine, ping]
  · have other : frame.opcode ≠ pingMessage := by
      rw [ten]
      decide
    rw [deliver, if_neg other, if_pos ten, pong]

theorem deliver_other (handlers : Handlers) (frame : Frame) (rest : List UInt8) (later : ReadResult)
    (other : isControl frame = false) :
    deliver handlers frame rest later = ⟨[], if isClose frame then .error .eof else .ok frame, rest⟩ := by
  have opcode := of_decide_eq_false other
  rw [deliver, if_neg (fun ping => opcode (.inl ping)), if_neg (fun pong => opcode (.inr pong))]
  by_cases close : frame.opcode = closeMessage
  · simp [isClose, close]
  · simp [isClose, close]

theorem read_message_controls (handlers : Handlers) (masking : Bool) (controls left : List Frame) (silent : handlers.silent)
    (fits : ∀ frame ∈ controls, frame.fits) (control : ∀ frame ∈ controls, isControl frame = true) :
    readMessage handlers (encodeAll masking (controls ++ left)) =
      { readMessage handlers (encodeAll masking left) with
        calls := controls ++ (readMessage handlers (encodeAll masking left)).calls } := by
  induction controls with
  | nil => rfl
  | cons frame controls ih =>
      have first := read_frame_encoded masking frame (controls ++ left) (fits frame (.head controls))
      have later := ih (fun other member => fits other (.tail frame member)) (fun other member => control other (.tail frame member))
      rw [List.cons_append, read_message_frame handlers _ _ frame first, later,
        deliver_control handlers frame _ _ silent (control frame (.head controls))]
      rfl

theorem read_all_fault (handlers : Handlers) (input : List UInt8) (result : ReadResult) (fault : Fault ReadError)
    (read : readMessage handlers input = result) (failed : result.outcome = .error fault) : readAll handlers input = [result] := by
  subst read
  rw [readAll]
  split
  · rfl
  · rename_i message ok
    cases ok.symm.trans failed

theorem read_all_message (handlers : Handlers) (input : List UInt8) (result : ReadResult) (message : Frame)
    (read : readMessage handlers input = result) (ok : result.outcome = .ok message) :
    readAll handlers input = result :: readAll handlers result.rest := by
  subst read
  rw [readAll]
  split
  · rename_i fault failed
    cases failed.symm.trans ok
  · rfl

theorem read_message_finish (handlers : Handlers) (masking : Bool) (controls : List Frame) (silent : handlers.silent)
    (fits : ∀ frame ∈ controls, frame.fits) (control : ∀ frame ∈ controls, isControl frame = true) :
    readMessage handlers (encodeAll masking controls) = ⟨controls, .error .eof, []⟩ := by
  have read := read_message_controls handlers masking controls [] silent fits control
  rw [List.append_nil] at read
  rw [read, read_message_fault handlers (encodeAll masking []) [] .eof rfl, List.append_nil]

theorem read_message_next (handlers : Handlers) (masking : Bool) (controls : List Frame) (next : Frame) (left : List Frame)
    (silent : handlers.silent) (fits : ∀ frame ∈ controls ++ next :: left, frame.fits)
    (control : ∀ frame ∈ controls, isControl frame = true) (other : isControl next = false) :
    readMessage handlers (encodeAll masking (controls ++ next :: left)) =
      ⟨controls, if isClose next then .error .eof else .ok next, encodeAll masking left⟩ := by
  have first := read_frame_encoded masking next left (fits next (by simp))
  rw [read_message_controls handlers masking controls (next :: left) silent (fun frame member => fits frame (by simp [member]))
    control, read_message_frame handlers _ _ next first, deliver_other handlers next _ _ other, List.append_nil]

theorem read_all_frames (handlers : Handlers) (masking : Bool) (controls frames : List Frame) (silent : handlers.silent)
    (fits : ∀ frame ∈ controls ++ frames, frame.fits) (control : ∀ frame ∈ controls, isControl frame = true) :
    ReadsFrames masking (controls ++ frames) (readAll handlers (encodeAll masking (controls ++ frames))) := by
  -- The controls already seen stand in front: a control joins them, and any other
  -- frame ends a ReadMessage.
  induction frames generalizing controls with
  | nil =>
      rw [List.append_nil] at fits ⊢
      have read := read_message_finish handlers masking controls silent fits control
      rw [read_all_fault handlers _ _ .eof read rfl]
      exact .finish controls control
  | cons next left ih =>
      cases kind : isControl next with
      | true =>
          rw [List.append_cons] at fits ⊢
          apply ih (controls ++ [next]) fits
          intro frame member
          rcases List.mem_append.mp member with earlier | last
          · exact control frame earlier
          · rw [List.mem_singleton.mp last]
            exact kind
      | false =>
          have read := read_message_next handlers masking controls next left silent fits control kind
          cases closes : isClose next with
          | true =>
              rw [closes] at read
              rw [read_all_fault handlers _ _ .eof read rfl]
              exact .close controls next left control closes
          | false =>
              rw [closes] at read
              rw [read_all_message handlers _ _ next read rfl]
              have later := ih [] (fun frame member => fits frame (by simp_all)) (by simp)
              exact .message controls next left _ control ⟨kind, closes⟩ later

structure WstSound (masking : Bool) (conn : WstConn) : Prop where
  mode : conn.masking = masking
  pending : ∀ goroutine, ∀ call ∈ conn.programs goroutine, call.frame.fits
  fits : ∀ entry ∈ conn.returned, entry.1.frame.fits
  sent : (∀ entry ∈ conn.returned, entry.2 = true) →
    conn.writer.buffered = [] ∧ conn.writer.socket.sent = encodeAll masking (conn.returned.map fun entry => entry.1.frame)

theorem call_sends (masking : Bool) (call : WriteCall) (writer : Writer) (drained : writer.buffered = [])
    (done : (call.op masking writer).2 = true) :
    (call.op masking writer).1.buffered = [] ∧
      (call.op masking writer).1.socket.sent =
        writer.socket.sent ++ encodeFrame masking call.frame.opcode call.frame.payload := by
  cases call with
  | message messageType data => exact write_message_sends masking messageType data writer drained done
  | control messageType data =>
      obtain ⟨_, same⟩ := write_control_ok masking messageType data writer done
      simp only [WriteCall.op, WriteCall.frame, same] at done ⊢
      exact write_message_sends masking messageType data writer drained done

theorem wst_step_sound (masking : Bool) (conn : WstConn) (goroutine : Nat) (next : WstConn) (sound : WstSound masking conn)
    (stepped : connStep conn goroutine = some next) : WstSound masking next := by
  obtain ⟨call, later, moved⟩ := conn_step_moved conn goroutine next stepped
  have own : call ∈ conn.programs goroutine := by
    rw [moved.current]
    exact .head later
  refine ⟨moved.masking.trans sound.mode, ?_, ?_, ?_⟩
  · intro other pending member
    exact sound.pending other pending (conn_moved_pending conn goroutine call later next moved other pending member)
  · rw [moved.returned]
    intro entry member
    rcases List.mem_append.mp member with earlier | last
    · exact sound.fits entry earlier
    · rw [List.mem_singleton.mp last]
      exact sound.pending goroutine call own
  · rw [moved.returned, moved.writer]
    intro successful
    obtain ⟨drained, sent⟩ := sound.sent fun entry member => successful entry (List.mem_append_left _ member)
    have done := successful (call, (call.op conn.masking conn.writer).2) (by simp)
    obtain ⟨empty, whole⟩ := call_sends conn.masking call conn.writer drained done
    refine ⟨empty, whole.trans ?_⟩
    rw [sent, sound.mode]
    simp [encodeAll]

theorem wst_round_trip (handlers : Handlers) (masking : Bool) (faults : List (Option Nat)) (programs : Nat → List WriteCall)
    (events : List Nat) (last : WstConn) (silent : handlers.silent)
    (fits : ∀ goroutine, ∀ call ∈ programs goroutine, call.frame.fits)
    (ran : run connStep (newConn ⟨[], faults⟩ masking programs) events = some last)
    (successful : ∀ entry ∈ last.returned, entry.2 = true) :
    let frames := last.returned.map fun entry => entry.1.frame
    let results := readAll handlers last.writer.socket.sent
    ReadsFrames masking frames results ∧
      returnedMessages results = (untilClose frames).filter (fun frame => !isControl frame) ∧
      handlerCalls results = (untilClose frames).filter isControl := by
  have sound : WstSound masking last := by
    apply run_preserves connStep (WstSound masking) (wst_step_sound masking) _ last events _ ran
    exact ⟨rfl, fits, by simp [newConn], fun _ => ⟨rfl, rfl⟩⟩
  obtain ⟨_, sent⟩ := sound.sent successful
  have reads := read_all_frames handlers masking [] (last.returned.map fun entry => entry.1.frame) silent
    (by
      intro frame member
      obtain ⟨entry, inReturned, same⟩ := List.mem_map.mp member
      rw [← same]
      exact sound.fits entry inReturned)
    (by simp)
  rw [List.nil_append, ← sent] at reads
  exact ⟨reads, reads_frames_messages masking _ _ reads⟩

def noHandlers : Handlers := ⟨fun _ => none, fun _ => none⟩

def pingAndHello : Nat → List WriteCall
  | 0 => [.message 2 [104, 105]]
  | 1 => [.control 9 [1]]
  | _ => []

theorem wst_round_trip_hello :
    ∃ last, run connStep (newConn ⟨[], []⟩ true pingAndHello) [1, 0] = some last ∧
      returnedMessages (readAll noHandlers last.writer.socket.sent) = [⟨2, [104, 105]⟩] ∧
      handlerCalls (readAll noHandlers last.writer.socket.sent) = [⟨9, [1]⟩] := by
  refine ⟨_, rfl, ?_⟩
  have fits : ∀ goroutine, ∀ call ∈ pingAndHello goroutine, call.frame.fits := by
    intro goroutine call member
    match goroutine with
    | 0 =>
        rw [List.mem_singleton.mp member]
        exact ⟨by decide, by decide⟩
    | 1 =>
        rw [List.mem_singleton.mp member]
        exact ⟨by decide, by decide⟩
    | _ + 2 => cases member
  obtain ⟨_, messages, calls⟩ := wst_round_trip noHandlers true [] pingAndHello [1, 0] _ (fun _ => ⟨rfl, rfl⟩) fits rfl (by decide)
  exact ⟨messages.trans (by decide), calls.trans (by decide)⟩

end WarpStream
