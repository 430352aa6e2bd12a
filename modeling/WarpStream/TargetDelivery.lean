import WarpStream.Incoming
import WarpStream.PipeFidelity
import WarpStream.Segments

set_option autoImplicit false

namespace WarpStream

open BufWriter ByteReader Dialogue Transition

inductive TargetError where
  | read (fault : Fault ReadError)
  | tooShort
  | invalidVersion (version : UInt8)
  | truncated
  | noActiveStream
deriving DecidableEq

-- An error of the stream is returned as it is.
def TargetError.message : TargetError → Option String
  | .read _ => none
  | .tooShort => some "target frame too short"
  | .invalidVersion version => some ("invalid target frame version: " ++ toString version.toNat)
  | .truncated => some "target frame truncated"
  | .noActiveStream => some "no active stream"

-- What the client has still to read: the bytes of a wst connection, the messages
-- of a gorilla connection, or the segments in which an HTTP/2 body arrives.
inductive TunnelStream where
  | ws (input : List UInt8)
  | gorilla (messages : List Frame)
  | h2 (segments : List (List UInt8))
  | inactive

def parseTargetFrame (payload : List UInt8) : Except TargetError (List UInt8 × UInt16) :=
  let hostLen := (payload.getD 1 0).toNat
  if payload.length < 4 then .error .tooShort
  else if payload.getD 0 0 ≠ 0x01 then .error (.invalidVersion (payload.getD 0 0))
  else if payload.length < 2 + hostLen + 2 then .error .truncated
  else
    .ok ((payload.drop 2).take hostLen, UInt16.ofNat (BigEndian.decode ((payload.drop (2 + hostLen)).take 2)))

def readTargetFrame (handlers : Handlers) : TunnelStream → Except TargetError ((List UInt8 × UInt16) × TunnelStream)
  | .ws input =>
      match (readMessage handlers input).outcome with
      | .error fault => .error (.read fault)
      | .ok message => do
          let target ← parseTargetFrame message.payload
          return (target, .ws (readMessage handlers input).rest)
  | .gorilla [] => .error (.read .eof)
  | .gorilla (message :: left) => do
      let target ← parseTargetFrame message.payload
      return (target, .gorilla left)
  | .h2 segments => do
      let (header, body) ← (Segments.readFull 2 segments).mapError .read
      if header.getD 0 0 ≠ 0x01 then throw (.invalidVersion (header.getD 0 0))
      let (rest, left) ← (Segments.readFull ((header.getD 1 0).toNat + 2) body).mapError .read
      let target ← parseTargetFrame (header ++ rest)
      return (target, .h2 left)
  | .inactive => .error .noActiveStream

-- The payload of the message that ReadMessage returns, on the transports that have messages.
def TunnelStream.message (handlers : Handlers) : TunnelStream → Option (List UInt8 × TunnelStream)
  | .ws input =>
      match (readMessage handlers input).outcome with
      | .error _ => none
      | .ok message => some (message.payload, .ws (readMessage handlers input).rest)
  | .gorilla (message :: left) => some (message.payload, .gorilla left)
  | _ => none

-- What the pipe that the client starts next takes from the stream.
def TunnelStream.unread (handlers : Handlers) : TunnelStream → List UInt8
  | .ws input => fromWebSocket pipe handlers input
  | .gorilla messages => messages.flatMap pipeGorilla.forwarded
  | .h2 segments => segments.flatten
  | .inactive => []

-- The calls of handleIncoming's goroutine on a wst connection: the target frame,
-- then those of Pipe.
def incomingCalls (frame : List UInt8) (chunks : List (List UInt8)) : List WriteCall :=
  .message binaryMessage frame :: (chunks.map (WriteCall.message pipe.sends) ++ [pipe.farewell])

-- A wst connection behind these calls and all their errors nil. Other goroutines send
-- pings and pongs in between, and the close frame may still be to come.
structure IncomingRun (frame : List UInt8) (chunks : List (List UInt8)) (last : WstConn) : Prop where
  bounded : ∀ chunk ∈ chunks, chunk.length ≤ pipe.bufferSize
  ran : ∃ programs faults events, programs 0 = incomingCalls frame chunks ∧
    (∀ goroutine, goroutine ≠ 0 → ∀ call ∈ programs goroutine, call.isPingPong = true) ∧
    run connStep (newConn ⟨[], faults⟩ false programs) events = some last
  successful : ∀ entry ∈ last.returned, entry.2 = true
  sent : last.programs 0 = [] ∨ last.programs 0 = [pipe.farewell]

-- The stream behind a frame and everything that a user sent, over each transport.
inductive Carries (frame user : List UInt8) : Transport → TunnelStream → Prop where
  | wst (chunks : List (List UInt8)) (whole : chunks.flatten = user) (last : WstConn) (incoming : IncomingRun frame chunks last) :
      Carries frame user .wst (.ws last.writer.socket.sent)
  | gorilla (chunks : List (List UInt8)) (whole : chunks.flatten = user) :
      Carries frame user .gorilla
        (.gorilla (⟨binaryMessage, frame⟩ :: chunks.map fun chunk => ⟨pipeGorilla.sends, chunk⟩))
  | http2 (segments : List (List UInt8)) (whole : segments.flatten = frame ++ user) : Carries frame user .http2 (.h2 segments)

theorem parse_target_frame (host : List UInt8) (port : UInt16) (short : host.length ≤ 255) :
    parseTargetFrame (targetFrame host port) = .ok (host, port) := by
  have length : (UInt8.ofNat host.length).toNat = host.length := by
    rw [UInt8.toNat_ofNat']
    omega
  have value : BigEndian.decode (BigEndian.encode 2 port.toNat) = port.toNat :=
    BigEndian.decode_encode 2 port.toNat (by have bound := port.toNat_lt; omega)
  have size : (targetFrame host port).length = host.length + 4 := by simp [targetFrame]
  have first : (targetFrame host port).getD 0 0 = 0x01 := rfl
  have second : ((targetFrame host port).getD 1 0).toNat = host.length := length
  have middle : ((targetFrame host port).drop 2).take host.length = host := by simp [targetFrame]
  have last : ((targetFrame host port).drop (2 + host.length)).take 2 = BigEndian.encode 2 port.toNat := by
    rw [← List.drop_drop]
    simp [targetFrame, List.take_of_length_le]
  simp only [parseTargetFrame, first, second, size, middle, last, value]
  rw [if_neg (by omega), if_neg (by simp), if_neg (by omega)]
  simp

theorem parse_target_frame_ok (payload : List UInt8) (target : List UInt8 × UInt16)
    (parsed : parseTargetFrame payload = .ok target) :
    payload.getD 0 0 = 0x01 ∧ (payload.getD 1 0).toNat + 4 ≤ payload.length := by
  unfold parseTargetFrame at parsed
  simp only at parsed
  split at parsed
  · cases parsed
  · split at parsed
    · cases parsed
    · rename_i version
      split at parsed
      · cases parsed
      · exact ⟨Decidable.not_not.mp version, by omega⟩

theorem read_target_message (handlers : Handlers) (stream left : TunnelStream) (payload : List UInt8)
    (message : stream.message handlers = some (payload, left)) :
    readTargetFrame handlers stream = (parseTargetFrame payload).map fun target => (target, left) := by
  cases stream with
  | ws input =>
      cases outcome : (readMessage handlers input).outcome with
      | error fault => simp [TunnelStream.message, outcome] at message
      | ok found =>
          simp only [TunnelStream.message, outcome] at message
          cases message
          simp only [readTargetFrame, outcome]
          cases parseTargetFrame found.payload <;> rfl
  | gorilla messages =>
      cases messages with
      | nil => cases message
      | cons found later =>
          cases message
          rw [readTargetFrame]
          cases parseTargetFrame found.payload <;> rfl
  | h2 segments => cases message
  | inactive => cases message

theorem http2_delivers (handlers : Handlers) (segments : List (List UInt8)) (host user : List UInt8) (port : UInt16)
    (short : host.length ≤ 255) (whole : segments.flatten = targetFrame host port ++ user) :
    ∃ left, readTargetFrame handlers (.h2 segments) = .ok ((host, port), .h2 left) ∧ left.flatten = user := by
  have header : segments.flatten = [0x01, UInt8.ofNat host.length] ++ (host ++ BigEndian.encode 2 port.toNat ++ user) := by
    rw [whole]
    simp [targetFrame]
  obtain ⟨body, first, behind⟩ := Segments.read_full_split ReadError segments _ _ 2 header rfl
  obtain ⟨left, second, rest⟩ := Segments.read_full_split ReadError body (host ++ BigEndian.encode 2 port.toNat) user
    (host.length + 2) behind (by simp)
  have length : ([0x01, UInt8.ofNat host.length].getD 1 0).toNat = host.length := by
    change (UInt8.ofNat host.length).toNat = host.length
    rw [UInt8.toNat_ofNat']
    omega
  have parsed := parse_target_frame host port short
  rw [targetFrame, List.append_assoc] at parsed
  refine ⟨left, ?_, rest⟩
  simp only [readTargetFrame, first, Except.mapError, bind, Except.bind, length, second, parsed]
  rfl

-- The order of the calls of one goroutine among those of the others, which send
-- controls only.
structure OwnOrder (program : List WriteCall) (conn : WstConn) : Prop where
  order : ((conn.returned.map fun entry => entry.1.frame).filter fun frame => !isControl frame) ++
    (conn.programs 0).map WriteCall.frame = program.map WriteCall.frame
  messages : ∀ call ∈ conn.programs 0, isControl call.frame = false
  controls : ∀ goroutine, goroutine ≠ 0 → ∀ call ∈ conn.programs goroutine, isControl call.frame = true

theorem own_order_step (program : List WriteCall) (conn : WstConn) (goroutine : Nat) (next : WstConn)
    (sound : OwnOrder program conn) (stepped : connStep conn goroutine = some next) : OwnOrder program next := by
  obtain ⟨call, later, moved⟩ := conn_step_moved conn goroutine next stepped
  have pending := conn_moved_pending conn goroutine call later next moved
  have current : call ∈ conn.programs goroutine := by
    rw [moved.current]
    exact .head later
  refine ⟨?_, fun other member => sound.messages other (pending 0 other member), fun other different waiting member =>
    sound.controls other different waiting (pending other waiting member)⟩
  by_cases own : goroutine = 0
  · subst own
    have order := sound.order
    rw [moved.current] at order
    rw [moved.returned, moved.advanced]
    simpa [sound.messages call current] using order
  · rw [moved.returned, moved.others 0 (Ne.symm own)]
    simpa [sound.controls goroutine own call current] using sound.order

theorem until_close_filter (frames : List Frame) :
    (untilClose frames).filter (fun frame => !isControl frame) = untilClose (frames.filter fun frame => !isControl frame) := by
  induction frames with
  | nil => rfl
  | cons frame left ih =>
      unfold untilClose at ih ⊢
      cases control : isControl frame with
      | true => simp [control, control_not_close frame control, ih]
      | false =>
          cases close : isClose frame with
          | true => simp [control, close]
          | false => simp [control, close, ih]

theorem incoming_calls_fit (host : List UInt8) (port : UInt16) (chunks : List (List UInt8)) (short : host.length ≤ 255)
    (bounded : ∀ chunk ∈ chunks, chunk.length ≤ pipe.bufferSize) (call : WriteCall)
    (member : call ∈ incomingCalls (targetFrame host port) chunks) : call.frame.fits ∧ isControl call.frame = false := by
  have size : (targetFrame host port).length = host.length + 4 := by simp [targetFrame]
  simp only [incomingCalls, List.mem_cons, List.mem_append, List.mem_map, List.not_mem_nil, or_false] at member
  rcases member with target | ⟨chunk, inChunks, message⟩ | farewell
  · rw [target]
    refine ⟨⟨(by decide : binaryMessage < 16), ?_⟩, rfl⟩
    change (targetFrame host port).length ≤ maxPayload
    rw [size, maxPayload]
    omega
  · rw [← message]
    exact ⟨⟨(by decide : pipe.sends < 16), Nat.le_trans (bounded chunk inChunks) (by decide)⟩, rfl⟩
  · rw [farewell]
    exact ⟨⟨by decide, by decide⟩, rfl⟩

def chunkFrames (chunks : List (List UInt8)) : List Frame := chunks.map fun chunk => ⟨pipe.sends, chunk⟩

theorem incoming_frames (frame : List UInt8) (chunks : List (List UInt8)) :
    (incomingCalls frame chunks).map WriteCall.frame =
      (⟨binaryMessage, frame⟩ :: chunkFrames chunks) ++ [pipe.farewell.frame] := by
  rw [incomingCalls, List.map_cons, List.map_append, List.map_map]
  rfl

theorem chunks_carried (chunks : List (List UInt8)) (tail : List Frame) (ends : tail = [] ∨ tail = [pipe.farewell.frame]) :
    (untilClose (chunkFrames chunks ++ tail)).flatMap pipe.forwarded = chunks.flatten := by
  induction chunks with
  | nil => rcases ends with none | farewell <;> subst tail <;> rfl
  | cons chunk left ih =>
      have plain : isClose ⟨pipe.sends, chunk⟩ = false := rfl
      have written : pipe.forwarded ⟨pipe.sends, chunk⟩ = chunk := rfl
      unfold untilClose chunkFrames at ih ⊢
      simp only [List.map_cons, List.cons_append, List.takeWhile_cons, plain, Bool.not_false, if_true, List.flatMap_cons, written,
        ih, List.flatten_cons]

theorem incoming_run_sound (host : List UInt8) (port : UInt16) (chunks : List (List UInt8)) (last : WstConn)
    (short : host.length ≤ 255) (incoming : IncomingRun (targetFrame host port) chunks last) :
    WstSound false last ∧ OwnOrder (incomingCalls (targetFrame host port) chunks) last := by
  obtain ⟨programs, faults, events, own, others, ran⟩ := incoming.ran
  have messages : ∀ call ∈ programs 0, call.frame.fits ∧ isControl call.frame = false := by
    rw [own]
    exact incoming_calls_fit host port chunks short incoming.bounded
  have fits : ∀ goroutine, ∀ call ∈ programs goroutine, call.frame.fits := by
    intro goroutine call member
    by_cases zero : goroutine = 0
    · subst zero
      exact (messages call member).1
    · exact (call_message false call (ping_pong_call call (others goroutine zero call member)).1).1
  refine ⟨?_, ?_⟩
  · apply run_preserves connStep (WstSound false) (wst_step_sound false) _ last events _ ran
    exact ⟨rfl, fits, by simp [newConn], fun _ => ⟨rfl, rfl⟩⟩
  · rw [← own]
    apply run_preserves connStep (OwnOrder (programs 0)) (own_order_step (programs 0)) _ last events _ ran
    exact ⟨rfl, fun call member => (messages call member).2, fun goroutine zero call member =>
      (ping_pong_call call (others goroutine zero call member)).2⟩

-- The frames that are no controls: the target frame, the chunks and perhaps the
-- close frame.
theorem incoming_run_frames (frame : List UInt8) (chunks : List (List UInt8)) (last : WstConn)
    (incoming : IncomingRun frame chunks last) (order : OwnOrder (incomingCalls frame chunks) last) :
    ∃ tail, (tail = [] ∨ tail = [pipe.farewell.frame]) ∧
      ((last.returned.map fun entry => entry.1.frame).filter fun frame => !isControl frame) =
        ⟨binaryMessage, frame⟩ :: (chunkFrames chunks ++ tail) := by
  have whole := order.order
  rw [incoming_frames] at whole
  rcases incoming.sent with finished | closing
  · rw [finished, List.map_nil, List.append_nil] at whole
    exact ⟨[pipe.farewell.frame], .inr rfl, whole⟩
  · rw [closing] at whole
    refine ⟨[], .inl rfl, ?_⟩
    rw [List.append_nil]
    exact List.append_cancel_right whole

theorem wst_delivers (handlers : Handlers) (silent : handlers.silent) (host : List UInt8) (port : UInt16)
    (chunks : List (List UInt8)) (last : WstConn) (short : host.length ≤ 255)
    (incoming : IncomingRun (targetFrame host port) chunks last) :
    ∃ rest, readTargetFrame handlers (.ws last.writer.socket.sent) = .ok ((host, port), .ws rest) ∧
      fromWebSocket pipe handlers rest = chunks.flatten := by
  obtain ⟨sound, order⟩ := incoming_run_sound host port chunks last short incoming
  obtain ⟨tail, ends, data⟩ := incoming_run_frames (targetFrame host port) chunks last incoming order
  obtain ⟨controls, left, split, control, message, behind⟩ := List.filter_eq_cons_iff.mp data
  have allFit : ∀ frame ∈ controls ++ ⟨binaryMessage, targetFrame host port⟩ :: left, frame.fits := by
    rw [← split]
    intro frame member
    obtain ⟨entry, inReturned, same⟩ := List.mem_map.mp member
    rw [← same]
    exact sound.fits entry inReturned
  have read := read_message_next handlers false controls ⟨binaryMessage, targetFrame host port⟩ left silent allFit
    (fun frame member => by simpa using control frame member) (by simpa using message)
  rw [← split, ← (sound.sent incoming.successful).2] at read
  refine ⟨encodeAll false left, ?_, ?_⟩
  · have received : (TunnelStream.ws last.writer.socket.sent).message handlers =
        some (targetFrame host port, .ws (encodeAll false left)) := by
      simp only [TunnelStream.message, read]
      rfl
    rw [read_target_message handlers _ _ _ received, parse_target_frame host port short]
    rfl
  · have leftFit : ∀ frame ∈ left, frame.fits := fun frame member =>
      allFit frame (List.mem_append_right controls (.tail _ member))
    rw [from_web_socket_encoded pipe handlers false left silent leftFit, until_close_filter, behind]
    exact chunks_carried chunks tail ends

theorem gorilla_delivers (handlers : Handlers) (host : List UInt8) (port : UInt16) (chunks : List (List UInt8))
    (short : host.length ≤ 255) :
    let messages := chunks.map fun chunk => (⟨pipeGorilla.sends, chunk⟩ : Frame)
    readTargetFrame handlers (.gorilla (⟨binaryMessage, targetFrame host port⟩ :: messages)) = .ok ((host, port), .gorilla messages) ∧
      messages.flatMap pipeGorilla.forwarded = chunks.flatten := by
  refine ⟨?_, ?_⟩
  · rw [read_target_message handlers _ _ _ rfl, parse_target_frame host port short]
    rfl
  · rw [List.flatMap_map, List.flatMap_def]
    exact congrArg List.flatten (List.map_id chunks)

theorem written_delivers (handlers : Handlers) (silent : handlers.silent) (host user : List UInt8) (port : UInt16)
    (short : host.length ≤ 255) (transport : Transport) (stream : TunnelStream)
    (written : Carries (targetFrame host port) user transport stream) :
    ∃ rest, readTargetFrame handlers stream = .ok ((host, port), rest) ∧ rest.unread handlers = user := by
  cases written with
  | wst chunks whole last incoming =>
      obtain ⟨rest, read, unread⟩ := wst_delivers handlers silent host port chunks last short incoming
      exact ⟨.ws rest, read, unread.trans whole⟩
  | gorilla chunks whole =>
      obtain ⟨read, unread⟩ := gorilla_delivers handlers host port chunks short
      exact ⟨_, read, unread.trans whole⟩
  | http2 segments whole =>
      obtain ⟨left, read, unread⟩ := http2_delivers handlers segments host user port short whole
      exact ⟨.h2 left, read, unread⟩

theorem dynamic_target_delivery (http : HttpLibrary) (protocol : LocalProtocol) (proxy : IsProxy protocol) (wait : Waiting)
    (handlers : Handlers) (silent : handlers.silent) (conn peer : Wire) (host : List UInt8) (port : UInt16)
    (passed : handshake http protocol conn = .ok ((host, port), peer)) :
    (host.length ≤ 255 → wait.accepts (targetFrame host port) = true →
      handleIncoming http protocol (some wait) conn = .forwarded wait.transport (some (targetFrame host port)) peer ∧
        ∀ stream, Carries (targetFrame host port) peer.input wait.transport stream →
          ∃ rest, readTargetFrame handlers stream = .ok ((host, port), rest) ∧ rest.unread handlers = peer.input) ∧
      (255 < host.length →
        handleIncoming http protocol (some wait) conn = .frameNotEncoded "host length exceeds 255 bytes") ∧
      ∀ stream payload left outcome, stream.message handlers = some (payload, left) →
        readTargetFrame handlers stream = .ok outcome →
        payload.getD 0 0 = 0x01 ∧ (payload.getD 1 0).toNat + 4 ≤ payload.length := by
  have frames : protocol.reverseSocks5.isSome = true ∨ protocol.reverseHttpProxy.isSome = true := proxy
  refine ⟨?_, ?_, ?_⟩
  · intro short accepts
    have encoded : encodeTargetFrame host port = .ok (targetFrame host port) := if_neg (Nat.not_lt.mpr short)
    refine ⟨?_, fun stream written => written_delivers handlers silent host peer.input port short wait.transport stream written⟩
    simp only [handleIncoming, passed, if_pos frames, encoded, if_pos accepts]
  · intro long
    have refused : encodeTargetFrame host port = .error "host length exceeds 255 bytes" := if_pos long
    simp only [handleIncoming, passed, if_pos frames, refused]
  · intro stream payload left outcome message read
    rw [read_target_message handlers stream left payload message] at read
    cases parsed : parseTargetFrame payload with
    | error error =>
        rw [parsed] at read
        cases read
    | ok target => exact parse_target_frame_ok payload target parsed

def connectHello : Wire := ⟨[0x05, 0x01, 0x00, 0x05, 0x01, 0x00, 0x01, 127, 0, 0, 1, 0, 80, 104, 105], ⟨[], []⟩⟩

def cutTarget : List (List UInt8) := [[0x01], [9, 49, 50, 55], [46, 48, 46, 48, 46, 49, 0], [80, 104], [105]]

theorem dynamic_target_delivery_cut :
    ∃ rest, readTargetFrame noHandlers (.h2 cutTarget) = .ok ((GoText.bytesOf "127.0.0.1", 80), rest) ∧
      rest.unread noHandlers = [104, 105] := by
  have passed : handshake silentLibrary guardedSocks5 connectHello =
      .ok ((GoText.bytesOf "127.0.0.1", 80), ⟨[104, 105], ⟨[0x05, 0x00] ++ socks5Success, []⟩⟩) := rfl
  have delivery := dynamic_target_delivery silentLibrary guardedSocks5 (.inl rfl) ⟨.http2, fun _ => true⟩ noHandlers
    (fun _ => ⟨rfl, rfl⟩) connectHello _ _ 80 passed
  exact (delivery.1 (by decide) rfl).2 _ (.http2 cutTarget (by decide))

end WarpStream
