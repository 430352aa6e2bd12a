import WarpStream.Pipe

set_option autoImplicit false

namespace WarpStream

open BufWriter ByteReader Transition

def WriteCall.wellFormed : WriteCall → Bool
  | .message messageType data => messageType < 16 && data.length ≤ maxPayload
  | .control messageType data => messageType < 16 && data.length ≤ 125

-- The stream against the frames handed to a writer that had not failed: the last one
-- may have gone out in part.
structure StreamOf (masking : Bool) (writer : Writer) (frames : List Frame) : Prop where
  fits : ∀ frame ∈ frames, frame.fits
  sent : writer.socket.sent <+: encodeAll masking frames
  whole : writer.failed = false → writer.buffered = [] ∧ writer.socket.sent = encodeAll masking frames

theorem call_message (masking : Bool) (call : WriteCall) (wellFormed : call.wellFormed = true) :
    call.frame.fits ∧ call.op masking = writeMessage masking call.frame.opcode call.frame.payload := by
  cases call with
  | message messageType data =>
      simp only [WriteCall.wellFormed, Bool.and_eq_true, decide_eq_true_eq] at wellFormed
      exact ⟨wellFormed, rfl⟩
  | control messageType data =>
      simp only [WriteCall.wellFormed, Bool.and_eq_true, decide_eq_true_eq] at wellFormed
      refine ⟨⟨wellFormed.1, ?_⟩, write_control_short masking messageType data wellFormed.2⟩
      exact Nat.le_trans wellFormed.2 (by decide)

theorem encode_all_append (masking : Bool) (first second : List Frame) :
    encodeAll masking (first ++ second) = encodeAll masking first ++ encodeAll masking second := List.flatMap_append

theorem stream_call_failed (masking : Bool) (writer : Writer) (call : WriteCall) (wellFormed : call.wellFormed = true)
    (failed : writer.failed = true) : call.op masking writer = (writer, false) := by
  rw [(call_message masking call wellFormed).2]
  exact (write_message_sticky masking call.frame.opcode call.frame.payload).stuck writer failed

theorem stream_call (masking : Bool) (writer : Writer) (frames : List Frame) (call : WriteCall)
    (stream : StreamOf masking writer frames) (wellFormed : call.wellFormed = true) (healthy : writer.failed = false) :
    StreamOf masking (call.op masking writer).1 (frames ++ [call.frame]) := by
  obtain ⟨fits, same⟩ := call_message masking call wellFormed
  obtain ⟨drained, sent⟩ := stream.whole healthy
  have allFit : ∀ frame ∈ frames ++ [call.frame], frame.fits := by
    intro frame member
    rcases List.mem_append.mp member with earlier | last
    · exact stream.fits frame earlier
    · rw [List.mem_singleton.mp last]
      exact fits
  have extended : writer.socket.sent ++ encodeFrame masking call.frame.opcode call.frame.payload =
      encodeAll masking (frames ++ [call.frame]) := by
    rw [sent, encode_all_append, encode_all_cons]
    simp [encodeAll]
  cases done : (call.op masking writer).2 with
  | true =>
      obtain ⟨empty, whole⟩ := call_sends masking call writer drained done
      rw [extended] at whole
      exact ⟨allFit, ⟨[], (List.append_nil _).trans whole⟩, fun _ => ⟨empty, whole⟩⟩
  | false =>
      rw [same] at done ⊢
      obtain ⟨broken, part⟩ := (write_message_sticky masking call.frame.opcode call.frame.payload).breaks writer done
      rw [pending, drained, List.append_nil, extended] at part
      refine ⟨allFit, part, ?_⟩
      intro sound
      cases broken.symm.trans sound

-- The bytes that have arrived begin the encoding of the frames still to take, so a
-- frame read from them is the first of these.
theorem stream_next_frame (masking : Bool) (writer : Writer) (frames taken left : List Frame) (consumed : Nat) (frame : Frame)
    (rest : List UInt8) (stream : StreamOf masking writer frames) (split : frames = taken ++ left)
    (count : consumed = (encodeAll masking taken).length)
    (found : readFrame (writer.socket.sent.drop consumed) = .ok (frame, rest)) :
    ∃ later, left = frame :: later ∧ writer.socket.sent.length - rest.length = (encodeAll masking (taken ++ [frame])).length := by
  obtain ⟨more, whole⟩ := stream.sent
  rw [split, encode_all_append] at whole
  have within : consumed ≤ writer.socket.sent.length := by
    have progress := progress_frame _ frame rest found
    rw [List.length_drop] at progress
    omega
  have arrived : writer.socket.sent.drop consumed ++ more = encodeAll masking left := by
    rw [← List.drop_append_of_le_length within, whole, count, List.drop_left]
  have read := stable_frame _ frame rest more found
  rw [arrived] at read
  cases rest' : left with
  | nil =>
      rw [rest'] at read
      cases read
  | cons first later =>
      have fits : first.fits := stream.fits first (by simp [split, rest'])
      rw [rest', read_frame_encoded masking first later fits] at read
      obtain ⟨same, behind⟩ := Prod.mk.inj (Except.ok.inj read)
      refine ⟨later, by rw [same], ?_⟩
      have sizes := congrArg List.length whole
      have tail := congrArg List.length behind
      rw [rest', encode_all_cons] at sizes
      rw [encode_all_append, ← same, encode_all_cons]
      simp only [List.length_append] at sizes tail ⊢
      simp only [encodeAll, List.flatMap_nil, List.length_nil] at *
      omega

-- What the frames of a stream carry to the far connection.
def carried (far : PipeFunction) (frames : List Frame) : List UInt8 :=
  (untilClose frames).flatMap far.forwarded

theorem carried_open (far : PipeFunction) (frames more : List Frame) (opened : frames.any isClose = false) :
    carried far (frames ++ more) = carried far frames ++ carried far more := by
  have none : ∀ frame ∈ frames, (!isClose frame) = true := by simpa using opened
  have self : frames.takeWhile (fun frame => !isClose frame) = frames := by
    have whole := @List.takeWhile_append_of_pos _ _ frames [] none
    simpa using whole
  unfold carried untilClose
  rw [List.takeWhile_append_of_pos none, self, List.flatMap_append]

theorem carried_closed (far : PipeFunction) (frames more : List Frame) (closed : frames.any isClose = true) :
    carried far (frames ++ more) = carried far frames := by
  induction frames with
  | nil => cases closed
  | cons frame frames ih =>
      unfold carried untilClose at ih ⊢
      cases close : isClose frame with
      | true => simp [close]
      | false =>
          simp only [List.any_cons, close, Bool.false_or] at closed
          simp only [List.cons_append, List.takeWhile_cons, close, Bool.not_false, if_true, List.flatMap_cons, ih closed]

theorem carried_single (far : PipeFunction) (frame : Frame) :
    carried far [frame] = if isClose frame then [] else far.forwarded frame := by
  cases close : isClose frame <;> simp [carried, untilClose, close]

theorem carried_prefix (far : PipeFunction) (frames more : List Frame) : carried far frames <+: carried far (frames ++ more) := by
  cases closed : frames.any isClose with
  | true => exact ⟨[], (List.append_nil _).trans (carried_closed far frames more closed).symm⟩
  | false =>
      rw [carried_open far frames more closed]
      exact List.prefix_append _ _

-- What the two ends agree on.
structure PipeFunction.Joins (near far : PipeFunction) : Prop where
  size : near.bufferSize ≤ maxPayload
  opcode : near.sends < 16
  message : isClose ⟨near.sends, []⟩ = false
  forwarded : near.sends ∈ far.forwards
  plain : ∀ frame, frame.opcode ∈ far.forwards → isControl frame = false ∧ isClose frame = false
  farewell : near.farewell.wellFormed = true ∧ isClose near.farewell.frame = true

structure NearSound (near far : PipeFunction) (tunnel : Piped) (frames : List Frame) : Prop where
  part : carried far frames <+: tunnel.read
  closed : frames.any isClose = true → tunnel.near = .returned ∧ carried far frames = tunnel.read
  reading : tunnel.writer.failed = false → tunnel.near = .reading ∨ tunnel.near = .closing → carried far frames = tunnel.read
  writing : ∀ chunk, tunnel.near = .writing chunk →
    chunk.length ≤ near.bufferSize ∧ (tunnel.writer.failed = false → carried far frames ++ chunk = tunnel.read)

inductive FarAt (far : PipeFunction) (taken : List Frame) (written : List UInt8) : FromWebSocket → Prop where
  | reading (opened : taken.any isClose = false) (all : written = carried far taken) : FarAt far taken written .reading
  | writing (payload : List UInt8) (opened : taken.any isClose = false) (all : written ++ payload = carried far taken) :
      FarAt far taken written (.writing payload)
  | closed (closed : taken.any isClose = true) (all : written = carried far taken) : FarAt far taken written .closed
  | failed (part : written <+: carried far taken) : FarAt far taken written .failed

structure FarSound (far : PipeFunction) (tunnel : Piped) (frames taken left : List Frame) : Prop where
  split : frames = taken ++ left
  consumed : tunnel.consumed = (encodeAll tunnel.masking taken).length
  place : FarAt far taken tunnel.target.sent tunnel.far

structure PipeSound (near far : PipeFunction) (tunnel : Piped) (frames taken left : List Frame) : Prop where
  stream : StreamOf tunnel.masking tunnel.writer frames
  nearSound : NearSound near far tunnel frames
  farSound : FarSound far tunnel frames taken left

def PipeInvariant (near far : PipeFunction) (tunnel : Piped) : Prop := ∃ frames taken left, PipeSound near far tunnel frames taken left

section

variable (near far : PipeFunction) (tunnel : Piped) (frames taken left : List Frame)

theorem any_close_append (frame : Frame) : (frames ++ [frame]).any isClose = (frames.any isClose || isClose frame) := by simp

theorem read_sound (chunk : List UInt8) (failed : Bool) (sound : PipeSound near far tunnel frames taken left)
    (reading : tunnel.near = .reading) (bounded : chunk.length ≤ near.bufferSize) :
    PipeInvariant near far { tunnel with read := tunnel.read ++ chunk, near := toWebSocketRead chunk failed } := by
  refine ⟨frames, taken, left, sound.stream, ?_, sound.farSound.split, sound.farSound.consumed, sound.farSound.place⟩
  refine ⟨sound.nearSound.part.trans (List.prefix_append _ _), ?_, ?_, ?_⟩
  · intro closed
    cases reading.symm.trans (sound.nearSound.closed closed).1
  · intro healthy waits
    have before := sound.nearSound.reading healthy (.inl reading)
    by_cases empty : chunk = []
    · rw [empty, List.append_nil]
      exact before
    · simp [toWebSocketRead, empty] at waits
  · intro sending writes
    by_cases empty : chunk = []
    · cases failed <;> simp [toWebSocketRead, empty] at writes
    · have same : chunk = sending := by simpa [toWebSocketRead, empty] using writes
      rw [← same]
      refine ⟨bounded, fun healthy => ?_⟩
      rw [sound.nearSound.reading healthy (.inl reading)]

theorem not_returned_open (sound : PipeSound near far tunnel frames taken left) (running : tunnel.near ≠ .returned) :
    frames.any isClose = false := by
  apply Bool.eq_false_iff.mpr
  intro closed
  exact running (sound.nearSound.closed closed).1

-- A call on a writer that has failed sends nothing; on any other it adds its frame.
theorem call_sound (call : WriteCall) (pc : ToWebSocket) (sound : PipeSound near far tunnel frames taken left)
    (wellFormed : call.wellFormed = true)
    (stuck : tunnel.writer.failed = true → NearSound near far { tunnel with near := pc } frames)
    (grown : tunnel.writer.failed = false →
      NearSound near far { tunnel with writer := (call.op tunnel.masking tunnel.writer).1, near := pc } (frames ++ [call.frame])) :
    PipeInvariant near far { tunnel with writer := (call.op tunnel.masking tunnel.writer).1, near := pc } := by
  have split := sound.farSound.split
  cases failed : tunnel.writer.failed with
  | true =>
      rw [stream_call_failed tunnel.masking tunnel.writer call wellFormed failed]
      exact ⟨frames, taken, left, sound.stream, stuck failed, split, sound.farSound.consumed, sound.farSound.place⟩
  | false =>
      have stream := stream_call tunnel.masking tunnel.writer frames call sound.stream wellFormed failed
      refine ⟨frames ++ [call.frame], taken, left ++ [call.frame], stream, grown failed, ?_, sound.farSound.consumed,
        sound.farSound.place⟩
      rw [split, List.append_assoc]

theorem send_sound (joins : near.Joins far) (chunk : List UInt8) (sound : PipeSound near far tunnel frames taken left)
    (writing : tunnel.near = .writing chunk) :
    PipeInvariant near far { tunnel with
      writer := ((WriteCall.message near.sends chunk).op tunnel.masking tunnel.writer).1
      near := toWebSocketWritten ((WriteCall.message near.sends chunk).op tunnel.masking tunnel.writer).2 } := by
  obtain ⟨bounded, ready⟩ := sound.nearSound.writing chunk writing
  have wellFormed : (WriteCall.message near.sends chunk).wellFormed = true := by
    simp only [WriteCall.wellFormed, Bool.and_eq_true, decide_eq_true_eq]
    exact ⟨joins.opcode, Nat.le_trans bounded joins.size⟩
  have opened : frames.any isClose = false :=
    not_returned_open near far tunnel frames taken left sound (by simp [writing])
  have notWriting : ∀ done sending, toWebSocketWritten done ≠ .writing sending := by
    intro done sending
    cases done <;> simp [toWebSocketWritten]
  refine call_sound near far tunnel frames taken left _ _ sound wellFormed ?_ ?_
  · intro failed
    refine ⟨sound.nearSound.part, ?_, ?_, ?_⟩
    · intro closed
      cases opened.symm.trans closed
    · intro healthy
      cases failed.symm.trans healthy
    · intro sending writes
      exact absurd writes (notWriting _ sending)
  · intro healthy
    have all : carried far (frames ++ [⟨near.sends, chunk⟩]) = tunnel.read := by
      rw [carried_open far frames _ opened, ← ready healthy]
      have plain : isClose ⟨near.sends, chunk⟩ = false := joins.message
      simp [carried_single, plain, PipeFunction.forwarded, joins.forwarded]
    refine ⟨⟨[], (List.append_nil _).trans all⟩, ?_, fun _ _ => all, ?_⟩
    · intro closed
      rw [any_close_append, opened, Bool.false_or] at closed
      cases closed.symm.trans joins.message
    · intro sending writes
      exact absurd writes (notWriting _ sending)

theorem farewell_sound (joins : near.Joins far) (sound : PipeSound near far tunnel frames taken left)
    (closing : tunnel.near = .closing) :
    PipeInvariant near far { tunnel with
      writer := (near.farewell.op tunnel.masking tunnel.writer).1
      near := .returned } := by
  have opened : frames.any isClose = false :=
    not_returned_open near far tunnel frames taken left sound (by simp [closing])
  refine call_sound near far tunnel frames taken left near.farewell .returned sound joins.farewell.1 ?_ ?_
  · intro _
    refine ⟨sound.nearSound.part, ?_, ?_, nofun⟩
    · intro closed
      cases opened.symm.trans closed
    · rintro _ (reading | closing)
      · cases reading
      · cases closing
  · intro healthy
    have all : carried far (frames ++ [near.farewell.frame]) = tunnel.read := by
      rw [carried_open far frames _ opened, sound.nearSound.reading healthy (.inr closing)]
      simp [carried_single, joins.farewell.2]
    exact ⟨⟨[], (List.append_nil _).trans all⟩, fun _ => ⟨rfl, all⟩, fun _ _ => all, nofun⟩

theorem ping_pong_call (call : WriteCall) (pingPong : call.isPingPong = true) :
    call.wellFormed = true ∧ isControl call.frame = true := by
  simp only [WriteCall.isPingPong, Bool.and_eq_true] at pingPong
  refine ⟨?_, pingPong.1⟩
  have opcode : call.frame.opcode < 16 := by
    rcases of_decide_eq_true pingPong.1 with ping | pong
    · rw [ping]
      decide
    · rw [pong]
      decide
  cases call with
  | message messageType data =>
      simp only [WriteCall.wellFormed, Bool.and_eq_true]
      exact ⟨decide_eq_true opcode, pingPong.2⟩
  | control messageType data =>
      simp only [WriteCall.wellFormed, Bool.and_eq_true]
      exact ⟨decide_eq_true opcode, pingPong.2⟩

theorem carried_control (joins : near.Joins far) (frame : Frame) (control : isControl frame = true) :
    carried far (frames ++ [frame]) = carried far frames := by
  have ignored : frame.opcode ∉ far.forwards := by
    intro forwarded
    cases control.symm.trans (joins.plain frame forwarded).1
  cases closed : frames.any isClose with
  | true => exact carried_closed far frames _ closed
  | false =>
      rw [carried_open far frames _ closed]
      simp [carried_single, control_not_close frame control, PipeFunction.forwarded, ignored]

theorem control_sound (joins : near.Joins far) (call : WriteCall) (sound : PipeSound near far tunnel frames taken left)
    (pingPong : call.isPingPong = true) :
    PipeInvariant near far { tunnel with writer := (call.op tunnel.masking tunnel.writer).1 } := by
  obtain ⟨wellFormed, control⟩ := ping_pong_call call pingPong
  refine call_sound near far tunnel frames taken left call tunnel.near sound wellFormed (fun _ => sound.nearSound) ?_
  intro healthy
  have same := carried_control near far frames joins call.frame control
  refine ⟨by rw [same]; exact sound.nearSound.part, ?_, ?_, ?_⟩
  · rw [any_close_append, control_not_close call.frame control, Bool.or_false, same]
    exact sound.nearSound.closed
  · rw [same]
    exact fun _ => sound.nearSound.reading healthy
  · intro chunk writing
    obtain ⟨bounded, ready⟩ := sound.nearSound.writing chunk writing
    rw [same]
    exact ⟨bounded, fun _ => ready healthy⟩

theorem far_received (joins : near.Joins far) (handlers : Handlers) (frame : Frame) (written : List UInt8)
    (opened : taken.any isClose = false) (all : written = carried far taken) :
    FarAt far (taken ++ [frame]) written (fromWebSocketReceived far frame (received handlers frame)) := by
  have grown := carried_open far taken [frame] opened
  have stays : isClose frame = false → (taken ++ [frame]).any isClose = false := by
    intro other
    rw [any_close_append, opened, other, Bool.or_false]
  have ignored : isControl frame = true → FarAt far (taken ++ [frame]) written .reading := by
    intro control
    exact .reading (stays (control_not_close frame control)) (by rw [all, carried_control near far taken joins frame control])
  have failed : FarAt far (taken ++ [frame]) written .failed := by
    apply FarAt.failed
    rw [all]
    exact carried_prefix far taken [frame]
  unfold received
  by_cases ping : frame.opcode = pingMessage
  · rw [if_pos ping]
    cases handlers.ping frame.payload with
    | some text => exact failed
    | none => exact ignored (decide_eq_true (.inl ping))
  · rw [if_neg ping]
    by_cases pong : frame.opcode = pongMessage
    · rw [if_pos pong]
      cases handlers.pong frame.payload with
      | some text => exact failed
      | none => exact ignored (decide_eq_true (.inr pong))
    · rw [if_neg pong]
      by_cases close : frame.opcode = closeMessage
      · have closes : isClose frame = true := decide_eq_true close
        rw [if_pos close]
        refine .closed ?_ ?_
        · rw [any_close_append, closes, Bool.or_true]
        · rw [grown, all]
          simp [carried_single, closes]
      · have other : isClose frame = false := decide_eq_false close
        rw [if_neg close]
        by_cases forwarded : frame.opcode ∈ far.forwards
        · simp only [fromWebSocketReceived, if_pos forwarded]
          refine .writing frame.payload (stays other) ?_
          rw [grown, all]
          simp [carried_single, other, PipeFunction.forwarded, forwarded]
        · simp only [fromWebSocketReceived, if_neg forwarded]
          refine .reading (stays other) ?_
          rw [grown, all]
          simp [carried_single, other, PipeFunction.forwarded, forwarded]

-- The far end does not touch what the near end relies on.
theorem far_moves (consumed : Nat) (pc : FromWebSocket) (target : Socket) (seen later : List Frame)
    (sound : PipeSound near far tunnel frames taken left) (split : frames = seen ++ later)
    (count : consumed = (encodeAll tunnel.masking seen).length) (place : FarAt far seen target.sent pc) :
    PipeInvariant near far { tunnel with consumed := consumed, far := pc, target := target } := by
  have nearSound := sound.nearSound
  exact ⟨frames, seen, later, sound.stream, ⟨nearSound.part, nearSound.closed, nearSound.reading, nearSound.writing⟩, split, count, place⟩

theorem far_reading (sound : PipeSound near far tunnel frames taken left) (reading : tunnel.far = .reading) :
    taken.any isClose = false ∧ tunnel.target.sent = carried far taken := by
  have place := sound.farSound.place
  rw [reading] at place
  cases place with
  | reading opened all => exact ⟨opened, all⟩

theorem receive_sound (joins : near.Joins far) (handlers : Handlers) (frame : Frame) (rest : List UInt8)
    (sound : PipeSound near far tunnel frames taken left) (reading : tunnel.far = .reading)
    (found : readFrame (tunnel.writer.socket.sent.drop tunnel.consumed) = .ok (frame, rest)) :
    PipeInvariant near far { tunnel with
      consumed := tunnel.writer.socket.sent.length - rest.length
      far := fromWebSocketReceived far frame (received handlers frame) } := by
  obtain ⟨later, first, consumed⟩ := stream_next_frame tunnel.masking tunnel.writer frames taken left tunnel.consumed frame rest
    sound.stream sound.farSound.split sound.farSound.consumed found
  obtain ⟨opened, all⟩ := far_reading near far tunnel frames taken left sound reading
  have split : frames = taken ++ [frame] ++ later := by
    rw [sound.farSound.split, first, List.append_assoc]
    rfl
  exact far_moves near far tunnel frames taken left _ _ tunnel.target (taken ++ [frame]) later sound split consumed
    (far_received near far taken joins handlers frame tunnel.target.sent opened all)

theorem far_failed_sound (sound : PipeSound near far tunnel frames taken left) (reading : tunnel.far = .reading) :
    PipeInvariant near far { tunnel with far := .failed } := by
  obtain ⟨_, all⟩ := far_reading near far tunnel frames taken left sound reading
  exact far_moves near far tunnel frames taken left tunnel.consumed .failed tunnel.target taken left sound sound.farSound.split
    sound.farSound.consumed (.failed ⟨[], (List.append_nil _).trans all⟩)

theorem write_sound (payload : List UInt8) (sound : PipeSound near far tunnel frames taken left)
    (writing : tunnel.far = .writing payload) :
    PipeInvariant near far { tunnel with
      target := (tunnel.target.write payload).socket
      far := fromWebSocketWritten (tunnel.target.write payload).done } := by
  have place := sound.farSound.place
  rw [writing] at place
  cases place with
  | writing _ opened all =>
      apply far_moves near far tunnel frames taken left tunnel.consumed _ _ taken left sound sound.farSound.split
        sound.farSound.consumed
      cases done : (tunnel.target.write payload).done with
      | true =>
          refine .reading opened ?_
          rw [(socket_write_ok tunnel.target payload done).1, all]
      | false =>
          apply FarAt.failed
          rw [← all]
          exact socket_write_sent tunnel.target payload

theorem pipe_step_sound (joins : near.Joins far) (handlers : Handlers) (event : PipeEvent) (next : Piped)
    (invariant : PipeInvariant near far tunnel) (stepped : pipeStep near far handlers tunnel event = some next) :
    PipeInvariant near far next := by
  obtain ⟨frames, taken, left, sound⟩ := invariant
  cases event with
  | read chunk failed =>
      obtain ⟨⟨reading, bounded⟩, moved⟩ := Option.ite_none_right_eq_some.mp stepped
      cases moved
      exact read_sound near far tunnel frames taken left chunk failed sound reading bounded
  | send =>
      simp only [pipeStep] at stepped
      split at stepped
      · rename_i chunk writing
        cases stepped
        exact send_sound near far tunnel frames taken left joins chunk sound writing
      · cases stepped
  | farewell =>
      obtain ⟨closing, moved⟩ := Option.ite_none_right_eq_some.mp stepped
      cases moved
      exact farewell_sound near far tunnel frames taken left joins sound closing
  | control call =>
      obtain ⟨pingPong, moved⟩ := Option.ite_none_right_eq_some.mp stepped
      cases moved
      exact control_sound near far tunnel frames taken left joins call sound pingPong
  | receive =>
      obtain ⟨reading, receiving⟩ := Option.ite_none_right_eq_some.mp stepped
      split at receiving
      · rename_i frame rest found
        cases receiving
        exact receive_sound near far tunnel frames taken left joins handlers frame rest sound reading found
      · cases receiving
        exact far_failed_sound near far tunnel frames taken left sound reading
      · cases receiving
  | write =>
      simp only [pipeStep] at stepped
      split at stepped
      · rename_i payload writing
        cases stepped
        exact write_sound near far tunnel frames taken left payload sound writing
      · cases stepped
  | lost =>
      obtain ⟨reading, moved⟩ := Option.ite_none_right_eq_some.mp stepped
      cases moved
      exact far_failed_sound near far tunnel frames taken left sound reading

theorem far_at_part (written : List UInt8) (pc : FromWebSocket) (place : FarAt far taken written pc) :
    written <+: carried far taken := by
  cases place with
  | reading _ all => exact ⟨[], (List.append_nil _).trans all⟩
  | writing payload _ all => exact ⟨payload, all⟩
  | closed _ all => exact ⟨[], (List.append_nil _).trans all⟩
  | failed part => exact part

theorem pipe_invariant_delivers (invariant : PipeInvariant near far tunnel) :
    tunnel.target.sent <+: tunnel.read ∧ (tunnel.far = .closed → tunnel.target.sent = tunnel.read) := by
  obtain ⟨frames, taken, left, sound⟩ := invariant
  have place := sound.farSound.place
  refine ⟨?_, ?_⟩
  · have grows := carried_prefix far taken left
    rw [← sound.farSound.split] at grows
    exact ((far_at_part far taken _ _ place).trans grows).trans sound.nearSound.part
  · intro closed
    rw [closed] at place
    cases place with
    | closed closes all =>
        have same := carried_closed far taken left closes
        rw [← sound.farSound.split] at same
        have sent : frames.any isClose = true := by
          rw [sound.farSound.split, List.any_append, closes, Bool.true_or]
        rw [all, ← same, (sound.nearSound.closed sent).2]

end

theorem new_piped_sound (near far : PipeFunction) (masking : Bool) (stream target : List (Option Nat)) :
    PipeInvariant near far (newPiped masking stream target) := by
  refine ⟨[], [], [], ⟨by simp, ⟨[], rfl⟩, fun _ => ⟨rfl, rfl⟩⟩, ⟨⟨[], rfl⟩, nofun, fun _ _ => rfl, nofun⟩, rfl, rfl, ?_⟩
  exact .reading rfl rfl

theorem pipe_joins : pipe.Joins pipe := by
  refine ⟨by decide, by decide, by decide, by decide, ?_, by decide⟩
  intro frame forwarded
  simp only [pipe, List.mem_cons, List.not_mem_nil, or_false] at forwarded
  rcases forwarded with binary | text
  · simp [isControl, isClose, binary, binaryMessage, pingMessage, pongMessage, closeMessage]
  · simp [isControl, isClose, text, textMessage, pingMessage, pongMessage, closeMessage]

theorem pipe_rw_is_pipe : pipeRW = pipe := rfl

theorem pipe_byte_fidelity (near far : PipeFunction) (handlers : Handlers) (masking : Bool) (stream target : List (Option Nat))
    (events : List PipeEvent) (last : Piped) (nearPipe : near = pipe ∨ near = pipeRW) (farPipe : far = pipe ∨ far = pipeRW)
    (ran : run (pipeStep near far handlers) (newPiped masking stream target) events = some last) :
    last.target.sent <+: last.read ∧ (last.far = .closed → last.target.sent = last.read) := by
  have joins : near.Joins far := by
    rw [pipe_rw_is_pipe, or_self] at nearPipe farPipe
    rw [nearPipe, farPipe]
    exact pipe_joins
  apply pipe_invariant_delivers near far last
  exact run_preserves (pipeStep near far handlers) (PipeInvariant near far)
    (fun tunnel event next => pipe_step_sound near far tunnel joins handlers event next)
    _ last events (new_piped_sound near far masking stream target) ran

def pingedHello : List PipeEvent :=
  [.read [104] false, .control (.control pingMessage [7]), .send, .receive, .read [105] true, .receive, .send, .write, .read [] true,
    .farewell, .receive, .write, .receive]

theorem pipe_byte_fidelity_hello :
    ∃ last, run (pipeStep pipe pipeRW noHandlers) (newPiped true [] []) pingedHello = some last ∧ last.read = [104, 105] ∧
      last.target.sent = last.read := by
  refine ⟨_, rfl, by decide, ?_⟩
  exact (pipe_byte_fidelity pipe pipeRW noHandlers true [] [] pingedHello _ (.inl rfl) (.inr rfl) rfl).2 (by decide)

end WarpStream
