import WarpStream.WstRoundTrip

set_option autoImplicit false

namespace WarpStream

open ByteReader

-- A well-formed frame as it stands on the wire: any flags, any length form that holds
-- the length, a masking key of four bytes or none.
structure WireFrame where
  first : UInt8
  form : LengthForm
  key : Option (List UInt8)
  wire : List UInt8
  keyed : ∀ bytes ∈ key, bytes.length = 4
  fits : wire.length ≤ form.limit
  bounded : wire.length ≤ maxPayload

def WireFrame.bytes (frame : WireFrame) : List UInt8 :=
  frame.first :: (frame.form.bytes frame.key.isSome frame.wire.length ++ (frame.key.getD [] ++ frame.wire))

def WireFrame.content (frame : WireFrame) : Frame := ⟨(frame.first &&& 0x0F).toNat, unmask frame.key frame.wire⟩

def wireBytes (frames : List WireFrame) : List UInt8 := frames.flatMap WireFrame.bytes

theorem reads_wire_frame (frame : WireFrame) : Reads readFrame frame.bytes frame.content :=
  reads_frame_form frame.first frame.form frame.key frame.wire frame.keyed frame.fits frame.bounded

theorem second_byte_parts (second : UInt8) :
    second = maskBit (decide (second &&& 0x80 ≠ 0)) ||| UInt8.ofNat (second &&& 0x7F).toNat := by
  have all : ∀ value < 256, UInt8.ofNat value =
      maskBit (decide (UInt8.ofNat value &&& 0x80 ≠ 0)) ||| UInt8.ofNat (UInt8.ofNat value &&& 0x7F).toNat := by decide +kernel
  have here := all second.toNat second.toNat_lt
  rwa [UInt8.ofNat_toNat] at here

theorem low_bits_lt (second : UInt8) : (second &&& 0x7F).toNat < 128 := by
  have all : ∀ value < 256, (UInt8.ofNat value &&& 0x7F).toNat < 128 := by decide +kernel
  have here := all second.toNat second.toNat_lt
  rwa [UInt8.ofNat_toNat] at here

-- The signed reading is the number itself exactly below the sign bit.
theorem signed_length (value : Nat) (small : value < 2 ^ 64) (positive : 0 ≤ (BitVec.ofNat 64 value).toInt) :
    (BitVec.ofNat 64 value).toInt = value ∧ value < 2 ^ 63 := by
  rw [BitVec.toInt_eq_toNat_cond, BitVec.toNat_ofNat, Nat.mod_eq_of_lt small] at positive ⊢
  split at positive <;> omega

theorem read_length_form (second : UInt8) (input rest : List UInt8) (length : Int)
    (read : readLength second input = .ok (length, rest)) (positive : 0 ≤ length) :
    ∃ (form : LengthForm) (count : Nat), length = count ∧ count ≤ form.limit ∧
      second :: input = form.bytes (decide (second &&& 0x80 ≠ 0)) count ++ rest := by
  have parts := second_byte_parts second
  unfold readLength at read
  by_cases two : (second &&& 0x7F).toNat = 126
  · rw [if_pos two] at read
    rw [two] at parts
    obtain ⟨bytes, whole, width, value⟩ := full_then_ok 2 (fun bytes => (BigEndian.decode bytes : Int)) input rest length read
    obtain ⟨small, same⟩ := BigEndian.decode_width 2 bytes width
    refine ⟨.medium, BigEndian.decode bytes, value, Nat.le_of_lt_succ small, ?_⟩
    rw [LengthForm.bytes, same, whole]
    exact congrArg (· :: (bytes ++ rest)) parts
  · rw [if_neg two] at read
    by_cases eight : (second &&& 0x7F).toNat = 127
    · rw [if_pos eight] at read
      rw [eight] at parts
      obtain ⟨bytes, whole, width, value⟩ := full_then_ok 8
        (fun bytes => (BitVec.ofNat 64 (BigEndian.decode bytes)).toInt) input rest length read
      obtain ⟨small, same⟩ := BigEndian.decode_width 8 bytes width
      rw [value] at positive ⊢
      obtain ⟨unsigned, bounded⟩ := signed_length (BigEndian.decode bytes) small positive
      refine ⟨.long, BigEndian.decode bytes, unsigned, Nat.le_sub_one_of_lt bounded, ?_⟩
      rw [LengthForm.bytes, same, whole]
      exact congrArg (· :: (bytes ++ rest)) parts
    · rw [if_neg eight] at read
      have low := low_bits_lt second
      obtain ⟨value, left⟩ := Prod.mk.inj (Except.ok.inj read)
      have small : (second &&& 0x7F).toNat ≤ 125 := by omega
      refine ⟨.short, (second &&& 0x7F).toNat, value.symm, small, ?_⟩
      rw [← left]
      exact congrArg (· :: input) parts

theorem read_mask_key_form (second : UInt8) (input rest : List UInt8) (key : Option (List UInt8))
    (read : readMaskKey second input = .ok (key, rest)) :
    input = key.getD [] ++ rest ∧ (∀ bytes ∈ key, bytes.length = 4) ∧ key.isSome = decide (second &&& 0x80 ≠ 0) := by
  unfold readMaskKey at read
  by_cases masked : second &&& 0x80 ≠ 0
  · rw [if_pos masked] at read
    obtain ⟨bytes, whole, length, value⟩ := full_then_ok 4 some input rest key read
    subst value
    refine ⟨whole, ?_, (decide_eq_true masked).symm⟩
    intro other same
    cases same
    exact length
  · rw [if_neg masked] at read
    cases read
    exact ⟨rfl, by simp, (decide_eq_false masked).symm⟩

theorem read_payload_form (length : Int) (input payload rest : List UInt8)
    (read : readPayload length input = .ok (payload, rest)) :
    0 ≤ length ∧ length ≤ maxPayload ∧ input = payload ++ rest ∧ length = payload.length := by
  unfold readPayload at read
  split at read
  · cases read
  · rename_i within
    obtain ⟨whole, count⟩ := (read_full_iff _ _ _ _).mp read
    refine ⟨by omega, by omega, whole, ?_⟩
    rw [count]
    omega

theorem read_frame_iff (input rest : List UInt8) (frame : Frame) :
    readFrame input = .ok (frame, rest) ↔ ∃ wire : WireFrame, input = wire.bytes ++ rest ∧ frame = wire.content := by
  constructor
  · intro read
    obtain ⟨first, afterFirst, readFirst, read⟩ := bind_ok _ _ _ _ read
    obtain ⟨second, afterSecond, readSecond, read⟩ := bind_ok _ _ _ _ read
    obtain ⟨length, afterLength, readsLength, read⟩ := bind_ok _ _ _ _ read
    obtain ⟨key, afterKey, readsKey, read⟩ := bind_ok _ _ _ _ read
    obtain ⟨payload, afterPayload, readsPayload, read⟩ := bind_ok _ _ _ _ read
    cases read
    obtain ⟨positive, bounded, tail, size⟩ := read_payload_form length afterKey payload rest readsPayload
    obtain ⟨middle, keyed, masked⟩ := read_mask_key_form second afterLength afterKey key readsKey
    obtain ⟨form, count, same, fits, head⟩ := read_length_form second afterSecond afterLength length readsLength positive
    have counted : count = payload.length := by omega
    subst counted
    refine ⟨⟨first, form, key, payload, keyed, fits, by omega⟩, ?_, rfl⟩
    rw [(read_byte_iff input afterFirst first).mp readFirst, (read_byte_iff afterFirst afterSecond second).mp readSecond, head,
      middle, tail, WireFrame.bytes, masked]
    simp only [List.cons_append, List.append_assoc]
  · intro parts
    obtain ⟨wire, whole, same⟩ := parts
    rw [whole, same]
    exact reads_wire_frame wire rest

-- The size asked of make for a length that the header states; the check comes first.
def payloadBuffer (length : Int) : Option Int := if length < 0 ∨ (maxPayload : Int) < length then none else some length

structure Header where
  first : UInt8
  length : Int
  key : Option (List UInt8)

def readHeader : Reader ReadError Header := do
  let first ← readByte
  let second ← readByte
  let length ← readLength second
  let key ← readMaskKey second
  return ⟨first, length, key⟩

def readBody (header : Header) : Reader ReadError Frame := do
  let payload ← readPayload header.length
  return ⟨(header.first &&& 0x0F).toNat, unmask header.key payload⟩

theorem read_frame_parts : readFrame = readHeader >>= readBody := by
  simp only [readHeader, bind_assoc]
  rfl

-- What a turn of the loop asks of make: the header is read before.
def requestedBuffer (turn : List UInt8) : Option Int :=
  match readHeader turn with
  | .ok (header, _) => payloadBuffer header.length
  | .error _ => none

theorem requested_buffer_frame (turn rest : List UInt8) (frame : Frame) (read : readFrame turn = .ok (frame, rest)) :
    requestedBuffer turn = some (frame.payload.length : Int) := by
  rw [read_frame_parts] at read
  obtain ⟨header, behind, found, read⟩ := bind_ok _ _ _ _ read
  obtain ⟨payload, left, readsPayload, read⟩ := bind_ok _ _ _ _ read
  obtain ⟨positive, bounded, _, length⟩ := read_payload_form header.length behind payload left readsPayload
  cases read
  have within : ¬ (header.length < 0 ∨ (maxPayload : Int) < header.length) := by omega
  simp only [requestedBuffer, found, payloadBuffer, if_neg within, unmask_length]
  exact congrArg some length

def goesOn (handlers : Handlers) (frame : Frame) : Bool :=
  decide ((frame.opcode = pingMessage ∧ handlers.ping frame.payload = none) ∨
    (frame.opcode = pongMessage ∧ handlers.pong frame.payload = none))

theorem frame_shrinks (input rest : List UInt8) (frame : Frame) (found : readFrame input = .ok (frame, rest)) :
    rest.length < input.length := by
  have progress := progress_frame input frame rest found
  omega

-- The unread bytes before each turn of ReadMessage's loop.
def loopTurns (handlers : Handlers) (input : List UInt8) : List (List UInt8) :=
  match found : readFrame input with
  | .error _ => [input]
  | .ok (frame, rest) =>
      have : rest.length < input.length := frame_shrinks input rest frame found
      input :: if goesOn handlers frame then loopTurns handlers rest else []
termination_by input.length

theorem loop_turns_fault (handlers : Handlers) (input : List UInt8) (fault : Fault ReadError × List UInt8)
    (found : readFrame input = .error fault) : loopTurns handlers input = [input] := by
  rw [loopTurns]
  split
  · rfl
  · rename_i frame rest first
    cases first.symm.trans found

theorem loop_turns_frame (handlers : Handlers) (input rest : List UInt8) (frame : Frame)
    (found : readFrame input = .ok (frame, rest)) :
    loopTurns handlers input = input :: if goesOn handlers frame then loopTurns handlers rest else [] := by
  rw [loopTurns]
  split
  · rename_i fault first
    cases first.symm.trans found
  · rename_i other left first
    cases first.symm.trans found
    rfl

theorem silent_goes_on (handlers : Handlers) (frame : Frame) (silent : handlers.silent) : goesOn handlers frame = isControl frame := by
  obtain ⟨ping, pong⟩ := silent frame.payload
  simp [goesOn, isControl, ping, pong]

-- One turn for each frame handed to a handler, and the one that returns.
theorem loop_turns_calls (handlers : Handlers) (input : List UInt8) (silent : handlers.silent) :
    (loopTurns handlers input).length = (readMessage handlers input).calls.length + 1 ∧
      2 * (loopTurns handlers input).length ≤ input.length + 2 := by
  induction size : input.length using Nat.strongRecOn generalizing input with
  | ind count ih =>
      cases found : readFrame input with
      | error fault =>
          rw [loop_turns_fault handlers input fault found, read_message_fault handlers input fault.2 fault.1 found]
          exact ⟨rfl, by simp⟩
      | ok result =>
          obtain ⟨frame, rest⟩ := result
          have progress := progress_frame input frame rest found
          rw [loop_turns_frame handlers input rest frame found, read_message_frame handlers input rest frame found,
            silent_goes_on handlers frame silent]
          cases control : isControl frame with
          | true =>
              obtain ⟨turns, bound⟩ := ih rest.length (by omega) rest rfl
              rw [deliver_control handlers frame rest _ silent control]
              simp only [if_true, List.length_cons, ReadResult.called, turns] at bound ⊢
              exact ⟨trivial, by omega⟩
          | false =>
              rw [deliver_other handlers frame rest _ control]
              exact ⟨rfl, by simp⟩

theorem turn_consumes (turn : List UInt8) (enough : 2 ≤ turn.length) : (left (readFrame turn)).length + 2 ≤ turn.length := by
  have length : ∀ second, Shrinks (readLength second) := by
    intro second
    unfold readLength
    split
    · exact shrinks_bind _ _ (shrinks_full 2) fun _ => shrinks_pure _
    · split
      · exact shrinks_bind _ _ (shrinks_full 8) fun _ => shrinks_pure _
      · exact shrinks_pure _
  have key : ∀ second, Shrinks (readMaskKey second) := by
    intro second
    unfold readMaskKey
    split
    · exact shrinks_bind _ _ (shrinks_full 4) fun _ => shrinks_pure _
    · exact shrinks_pure _
  have payload : ∀ length, Shrinks (readPayload length) := by
    intro length
    unfold readPayload
    split
    · exact shrinks_fail _
    · exact shrinks_full _
  match turn, enough with
  | first :: second :: rest, _ =>
      have behind := shrinks_bind _ _ (length second) fun length => shrinks_bind _ _ (key second) fun key =>
        shrinks_bind _ _ (payload length) fun payload => shrinks_pure (Frame.mk (first &&& 0x0F).toNat (unmask key payload))
      exact Nat.add_le_add_right (behind rest) 2

theorem requested_within (turn : List UInt8) (size : Int) (requested : requestedBuffer turn = some size) :
    0 ≤ size ∧ size ≤ maxPayload := by
  unfold requestedBuffer at requested
  split at requested
  · rename_i header rest found
    unfold payloadBuffer at requested
    split at requested
    · cases requested
    · cases requested
      omega
  · cases requested

def WireFrame.control (frame : WireFrame) : Prop := isControl frame.content = true

def WireFrame.message (frame : WireFrame) : Prop :=
  frame.content.opcode ≠ closeMessage ∧ frame.content.opcode ≠ pingMessage ∧ frame.content.opcode ≠ pongMessage

theorem message_kind (frame : Frame) :
    (frame.opcode ≠ closeMessage ∧ frame.opcode ≠ pingMessage ∧ frame.opcode ≠ pongMessage) ↔
      isControl frame = false ∧ isClose frame = false := by
  simp only [isControl, isClose, decide_eq_false_iff_not, not_or]
  exact and_comm

theorem accepted_frames (handlers : Handlers) (controls : List WireFrame) (frame : WireFrame) (rest : List UInt8)
    (silent : handlers.silent) (control : ∀ wire ∈ controls, wire.control) (message : frame.message) :
    readMessage handlers (wireBytes controls ++ (frame.bytes ++ rest)) = ⟨controls.map WireFrame.content, .ok frame.content, rest⟩ := by
  induction controls with
  | nil =>
      obtain ⟨other, stays⟩ := (message_kind frame.content).mp message
      have first := reads_wire_frame frame rest
      rw [wireBytes, List.flatMap_nil, List.nil_append, read_message_frame handlers _ _ _ first,
        deliver_other handlers _ _ _ other, stays]
      rfl
  | cons wire controls ih =>
      obtain ⟨here, later⟩ := List.forall_mem_cons.mp control
      have first := reads_wire_frame wire (wireBytes controls ++ (frame.bytes ++ rest))
      have parts : wireBytes (wire :: controls) ++ (frame.bytes ++ rest) =
          wire.bytes ++ (wireBytes controls ++ (frame.bytes ++ rest)) := List.append_assoc ..
      rw [parts, read_message_frame handlers _ _ _ first, deliver_control handlers _ _ _ silent here, ih later]
      rfl

theorem accepted_only (handlers : Handlers) (input : List UInt8) (found : Frame) (silent : handlers.silent)
    (ok : (readMessage handlers input).outcome = .ok found) :
    ∃ (controls : List WireFrame) (frame : WireFrame),
      input = wireBytes controls ++ (frame.bytes ++ (readMessage handlers input).rest) ∧ (∀ wire ∈ controls, wire.control) ∧
        frame.message ∧ frame.content = found := by
  induction size : input.length using Nat.strongRecOn generalizing input with
  | ind count ih =>
      cases read : readFrame input with
      | error fault =>
          rw [read_message_fault handlers input fault.2 fault.1 read] at ok
          cases ok
      | ok result =>
          obtain ⟨next, rest⟩ := result
          have progress := progress_frame input next rest read
          obtain ⟨wire, whole, same⟩ := (read_frame_iff input rest next).mp read
          rw [read_message_frame handlers input rest next read] at ok ⊢
          cases control : isControl next with
          | true =>
              rw [deliver_control handlers next rest _ silent control] at ok ⊢
              obtain ⟨controls, frame, behind, kinds, message, content⟩ := ih rest.length (by omega) rest ok rfl
              refine ⟨wire :: controls, frame, ?_, List.forall_mem_cons.mpr ⟨?_, kinds⟩, message, content⟩
              · have parts : wireBytes (wire :: controls) = wire.bytes ++ wireBytes controls := rfl
                rw [whole, parts, List.append_assoc]
                exact congrArg (wire.bytes ++ ·) behind
              · rw [WireFrame.control, ← same]
                exact control
          | false =>
              rw [deliver_other handlers next rest _ control] at ok ⊢
              cases close : isClose next with
              | true =>
                  rw [close] at ok
                  cases ok
              | false =>
                  rw [close] at ok
                  have message := (message_kind next).mpr ⟨control, close⟩
                  refine ⟨[], wire, whole, by simp, ?_, ?_⟩
                  · rw [same] at message
                    exact message
                  · rw [← same]
                    exact Except.ok.inj ok

-- A frame cut short is an error: what could be read from the part could be read from
-- the whole, with the missing bytes behind it.
theorem cut_frame_fault (handlers : Handlers) (frame : WireFrame) (part missing : List UInt8)
    (whole : part ++ missing = frame.bytes) (cut : missing ≠ []) :
    ∃ fault, (readMessage handlers part).outcome = .error fault := by
  cases read : readFrame part with
  | error fault => exact ⟨fault.1, by rw [read_message_fault handlers part fault.2 fault.1 read]⟩
  | ok result =>
      obtain ⟨found, rest⟩ := result
      have longer := stable_frame part found rest missing read
      have entire := reads_wire_frame frame []
      rw [List.append_nil, ← whole, longer] at entire
      have none := (Prod.mk.inj (Except.ok.inj entire)).2
      exact absurd (List.append_eq_nil_iff.mp none).2 cut

theorem read_message_accepts_grammar (handlers : Handlers) (input : List UInt8) (silent : handlers.silent) :
    ((loopTurns handlers input).length = (readMessage handlers input).calls.length + 1 ∧
      2 * (loopTurns handlers input).length ≤ input.length + 2) ∧
    (∀ turn ∈ loopTurns handlers input,
      (2 ≤ turn.length → (left (readFrame turn)).length + 2 ≤ turn.length) ∧
        ∀ size ∈ requestedBuffer turn, 0 ≤ size ∧ size ≤ maxPayload) ∧
    (∀ opcode payload rest,
      ((readMessage handlers input).outcome = .ok ⟨opcode, payload⟩ ∧ (readMessage handlers input).rest = rest) ↔
        ∃ (controls : List WireFrame) (frame : WireFrame), input = wireBytes controls ++ (frame.bytes ++ rest) ∧
          (∀ wire ∈ controls, wire.control) ∧ frame.message ∧ frame.content = ⟨opcode, payload⟩) ∧
    (∀ (frame : WireFrame) (missing : List UInt8), input ++ missing = frame.bytes → missing ≠ [] →
      ∃ fault, (readMessage handlers input).outcome = .error fault) := by
  refine ⟨loop_turns_calls handlers input silent, ?_, ?_, ?_⟩
  · intro turn _
    exact ⟨turn_consumes turn, requested_within turn⟩
  · intro opcode payload rest
    constructor
    · intro accepted
      obtain ⟨ok, behind⟩ := accepted
      rw [← behind]
      exact accepted_only handlers input ⟨opcode, payload⟩ silent ok
    · intro parts
      obtain ⟨controls, frame, whole, control, message, content⟩ := parts
      rw [whole, accepted_frames handlers controls frame rest silent control message, content]
      exact ⟨rfl, rfl⟩
  · intro frame missing whole cut
    exact cut_frame_fault handlers frame input missing whole cut

theorem keyed_none : ∀ bytes ∈ (none : Option (List UInt8)), bytes.length = 4 := nofun

def emptyPing : WireFrame := ⟨0x89, .short, none, [], keyed_none, by decide, by decide⟩

-- One byte behind a length of eight bytes, under a key.
def maskedByte : WireFrame := ⟨0x82, .long, some [2, 3, 4, 5], [5], by simp, by decide, by decide⟩

theorem ping_then_masked_byte :
    (readMessage noHandlers [0x89, 0, 0x82, 0xFF, 0, 0, 0, 0, 0, 0, 0, 1, 2, 3, 4, 5, 5, 6]).outcome = .ok ⟨2, [7]⟩ ∧
      (readMessage noHandlers [0x89, 0, 0x82, 0xFF, 0, 0, 0, 0, 0, 0, 0, 1, 2, 3, 4, 5, 5, 6]).rest = [6] := by
  obtain ⟨_, _, accepts, _⟩ := read_message_accepts_grammar noHandlers
    [0x89, 0, 0x82, 0xFF, 0, 0, 0, 0, 0, 0, 0, 1, 2, 3, 4, 5, 5, 6] (fun _ => ⟨rfl, rfl⟩)
  refine (accepts 2 [7] [6]).mpr ⟨[emptyPing], maskedByte, by decide, ?_, ?_, by decide⟩
  · simp [WireFrame.control, emptyPing, WireFrame.content, isControl, pingMessage]
  · simp [WireFrame.message, maskedByte, WireFrame.content, closeMessage, pingMessage, pongMessage]

end WarpStream
