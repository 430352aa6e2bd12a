import WarpStream.PipeFidelity
import WarpStream.SessionConn

set_option autoImplicit false

namespace WarpStream

open BufWriter ByteReader Transition

structure Datagram where
  payload : List UInt8
  bounded : payload.length ≤ 65507
deriving DecidableEq

-- The session of a running tunnel, with these datagrams in its channel.
def openSession (queue : List (List UInt8)) : UdpSessionConn (List UInt8) :=
  let session := newUdpSessionConn (List UInt8) true
  { session with ch := { session.ch with buffer := queue } }

theorem open_session_push (queue : List (List UInt8)) (data : List UInt8) :
    (openSession queue).push data = some (openSession (if queue.length < 128 then queue ++ [data] else queue)) := by
  have agree : FlagsAgree (openSession queue) := ⟨rfl, rfl⟩
  by_cases room : queue.length < 128
  · rw [push_accepted _ agree data ((accepts_iff _).mpr ⟨rfl, room⟩), if_pos room]
    rfl
  · have refuses : (openSession queue).accepts = false := Bool.eq_false_iff.mpr fun accepts => room ((accepts_iff _).mp accepts).2
    rw [push_refused _ agree data refuses, if_neg room]

-- The loop that turns datagrams into messages. Before a session runUdpListener reads them, into
-- a buffer of its own, and pushes copies.
structure UdpSource where
  listenerBuffer : Option Nat
  bufferSize : Nat
  read : List UInt8 → ToWebSocket
  readFailed : ToWebSocket
  farewell : Option WriteCall

-- runUdpTunnel sends whatever ReadFromUDP returned, reads on after an error, and closes
-- a transport it cannot write to without a close frame.
def runUdpTunnelSource : UdpSource where
  listenerBuffer := none
  bufferSize := 64 * 1024
  read := .writing
  readFailed := .reading
  farewell := none

def pipeSource : UdpSource where
  listenerBuffer := none
  bufferSize := pipe.bufferSize
  read := fun chunk => toWebSocketRead chunk false
  readFailed := toWebSocketRead [] true
  farewell := some pipe.farewell

def udpSessionSource : UdpSource := { pipeSource with listenerBuffer := some (64 * 1024) }

-- The loop that turns messages into datagrams.
structure UdpSink where
  function : PipeFunction
  writeFailed : FromWebSocket

def pipeSink : UdpSink where
  function := pipe
  writeFailed := fromWebSocketWritten false

-- runUdpTunnel takes binary messages only and ignores the error of WriteToUDP.
def runUdpTunnelSink : UdpSink where
  function := { pipe with forwards := [binaryMessage] }
  writeFailed := .reading

inductive UdpDirection where
  | clientToServer
  | serverToClient
  | reverseSession
deriving DecidableEq

def UdpDirection.source : UdpDirection → UdpSource
  | .clientToServer => runUdpTunnelSource
  | .serverToClient => pipeSource
  | .reverseSession => udpSessionSource

def UdpDirection.sink : UdpDirection → UdpSink
  | .clientToServer => pipeSink
  | .serverToClient => runUdpTunnelSink
  | .reverseSession => pipeSink

-- arriving are the datagrams still on their way to the socket, queue those that wait for
-- the source: in the socket, or in the channel of the session.
structure DatagramTunnel where
  masking : Bool
  arriving : List Datagram
  queue : List (List UInt8)
  near : ToWebSocket
  writer : Writer
  consumed : Nat
  far : FromWebSocket
  sentOn : List (List UInt8)

def newDatagramTunnel (masking : Bool) (stream : List (Option Nat)) (datagrams : List Datagram) : DatagramTunnel :=
  ⟨masking, datagrams, [], .reading, newWriter ⟨[], stream⟩, 0, .reading, []⟩

def UdpSource.enqueue (source : UdpSource) (queue : List (List UInt8)) (datagram : List UInt8) : List (List UInt8) :=
  match source.listenerBuffer with
  | none => queue ++ [datagram]
  | some size => ((openSession queue).push (datagram.take size)).elim queue (·.ch.buffer)

def UdpSource.close (source : UdpSource) (masking : Bool) (writer : Writer) : Writer :=
  match source.farewell with
  | none => writer
  | some call => (call.op masking writer).1

inductive DatagramEvent where
  | lose
  | arrive
  | read
  | fail
  | send
  | farewell
  | control (call : WriteCall)
  | receive
  | write (done : Bool)
  | lost
deriving DecidableEq

def datagramStep (source : UdpSource) (sink : UdpSink) (handlers : Handlers) : Step DatagramTunnel DatagramEvent
  | tunnel, .lose =>
      match tunnel.arriving with
      | _ :: rest => some { tunnel with arriving := rest }
      | [] => none
  | tunnel, .arrive =>
      match tunnel.arriving with
      | datagram :: rest => some { tunnel with arriving := rest, queue := source.enqueue tunnel.queue datagram.payload }
      | [] => none
  | tunnel, .read =>
      if tunnel.near = .reading then
        match tunnel.queue with
        -- What does not fit into the buffer is gone.
        | datagram :: rest => some { tunnel with queue := rest, near := source.read (datagram.take source.bufferSize) }
        | [] => none
      else none
  | tunnel, .fail => if tunnel.near = .reading then some { tunnel with near := source.readFailed } else none
  | tunnel, .send =>
      match tunnel.near with
      | .writing chunk =>
          let written := (WriteCall.message binaryMessage chunk).op tunnel.masking tunnel.writer
          some { tunnel with writer := written.1, near := toWebSocketWritten written.2 }
      | _ => none
  | tunnel, .farewell =>
      if tunnel.near = .closing then
        some { tunnel with writer := source.close tunnel.masking tunnel.writer, near := .returned }
      else none
  | tunnel, .control call =>
      if call.isPingPong then some { tunnel with writer := (call.op tunnel.masking tunnel.writer).1 } else none
  | tunnel, .receive =>
      if tunnel.far = .reading then
        match readFrame (tunnel.writer.socket.sent.drop tunnel.consumed) with
        | .ok (frame, rest) =>
            some { tunnel with
              consumed := tunnel.writer.socket.sent.length - rest.length
              far := fromWebSocketReceived sink.function frame (received handlers frame) }
        | .error (.other _, _) => some { tunnel with far := .failed }
        | .error _ => none
      else none
  | tunnel, .write done =>
      match tunnel.far with
      | .writing payload =>
          if done then some { tunnel with sentOn := tunnel.sentOn ++ [payload], far := .reading }
          else some { tunnel with far := sink.writeFailed }
      | _ => none
  | tunnel, .lost => if tunnel.far = .reading then some { tunnel with far := .failed } else none

-- What is left of a datagram behind the buffers of a source.
def UdpSource.cut (source : UdpSource) (datagram : Datagram) : List UInt8 :=
  match source.listenerBuffer with
  | none => datagram.payload.take source.bufferSize
  | some size => (datagram.payload.take size).take source.bufferSize

def UdpSource.kept (source : UdpSource) (queue : List (List UInt8)) : List (List UInt8) :=
  queue.map fun datagram => datagram.take source.bufferSize

def ToWebSocket.holds : ToWebSocket → List (List UInt8)
  | .writing chunk => [chunk]
  | _ => []

def FromWebSocket.holds : FromWebSocket → List (List UInt8)
  | .writing payload => [payload]
  | _ => []

theorem reading_holds : FromWebSocket.reading.holds = [] := rfl

def PipeFunction.payloads (function : PipeFunction) (frames : List Frame) : List (List UInt8) :=
  (frames.filter fun frame => decide (frame.opcode ∈ function.forwards)).map Frame.payload

-- What the loops of a source and a sink have in common with those of Pipe.
structure UdpSource.Feeds (source : UdpSource) (sink : UdpSink) : Prop where
  size : source.bufferSize ≤ maxPayload
  positive : 0 < source.bufferSize
  room : ∀ size, source.listenerBuffer = some size → 0 < size
  binary : binaryMessage ∈ sink.function.forwards
  plain : ∀ frame, frame.opcode ∈ sink.function.forwards → isControl frame = false ∧ isClose frame = false
  reads : ∀ chunk, source.read chunk = .writing chunk ∨ (source.read chunk = .reading ∧ chunk = [])
  idle : source.readFailed.holds = []
  dropped : sink.writeFailed.holds = []
  farewell : ∀ call, source.farewell = some call → call.wellFormed = true ∧ isClose call.frame = true

theorem direction_feeds (direction : UdpDirection) : direction.source.Feeds direction.sink := by
  have pipeReads : ∀ chunk, toWebSocketRead chunk false = .writing chunk ∨ (toWebSocketRead chunk false = .reading ∧ chunk = []) := by
    intro chunk
    cases chunk with
    | nil => exact .inr ⟨rfl, rfl⟩
    | cons byte chunk => exact .inl rfl
  have pipeFarewell : ∀ call, some pipe.farewell = some call → call.wellFormed = true ∧ isClose call.frame = true := by
    intro call same
    cases same
    exact pipe_joins.farewell
  cases direction with
  | clientToServer =>
      exact ⟨by decide, by decide, nofun, by decide, pipe_joins.plain, fun _ => .inl rfl, rfl, rfl, nofun⟩
  | serverToClient =>
      refine ⟨by decide, by decide, nofun, by decide, ?_, pipeReads, rfl, rfl, pipeFarewell⟩
      intro frame forwarded
      exact pipe_joins.plain frame (List.mem_cons.mpr (.inl (List.mem_singleton.mp forwarded)))
  | reverseSession =>
      refine ⟨by decide, by decide, ?_, by decide, pipe_joins.plain, pipeReads, rfl, rfl, pipeFarewell⟩
      intro size same
      cases same
      decide

-- The datagrams that entered up to now, the frames handed to the writer, and the split of
-- these at what the sink has taken.
structure DatagramSound (source : UdpSource) (sink : UdpSink) (entered : List Datagram) (tunnel : DatagramTunnel)
    (seen : List Datagram) (frames taken left : List Frame) : Prop where
  order : entered = seen ++ tunnel.arriving
  framed : (sink.function.payloads frames ++ (tunnel.near.holds ++ source.kept tunnel.queue)).Sublist (seen.map source.cut)
  fits : ∀ chunk, tunnel.near = .writing chunk → chunk.length ≤ source.bufferSize
  stream : StreamOf tunnel.masking tunnel.writer frames
  split : frames = taken ++ left
  consumed : tunnel.consumed = (encodeAll tunnel.masking taken).length
  delivered : (tunnel.sentOn ++ tunnel.far.holds).Sublist (sink.function.payloads taken)

def DatagramInvariant (source : UdpSource) (sink : UdpSink) (entered : List Datagram) (tunnel : DatagramTunnel) : Prop :=
  ∃ seen frames taken left, DatagramSound source sink entered tunnel seen frames taken left

theorem payloads_append (function : PipeFunction) (frames more : List Frame) :
    function.payloads (frames ++ more) = function.payloads frames ++ function.payloads more := by
  simp [PipeFunction.payloads]

theorem payloads_forwarded (function : PipeFunction) (frame : Frame) (forwarded : frame.opcode ∈ function.forwards) :
    function.payloads [frame] = [frame.payload] := by
  simp [PipeFunction.payloads, forwarded]

theorem payloads_ignored (function : PipeFunction) (frame : Frame) (ignored : frame.opcode ∉ function.forwards) :
    function.payloads [frame] = [] := by
  simp [PipeFunction.payloads, ignored]

theorem received_holds (function : PipeFunction) (handlers : Handlers) (frame : Frame) :
    (fromWebSocketReceived function frame (received handlers frame)).holds.Sublist (function.payloads [frame]) := by
  cases received handlers frame with
  | message =>
      by_cases forwarded : frame.opcode ∈ function.forwards
      · simp [fromWebSocketReceived, forwarded, payloads_forwarded function frame forwarded, FromWebSocket.holds]
      · simp [fromWebSocketReceived, forwarded, FromWebSocket.holds]
  | again => exact List.nil_sublist _
  | eof => exact List.nil_sublist _
  | handler text => exact List.nil_sublist _

theorem enqueue_kept (source : UdpSource) (queue : List (List UInt8)) (datagram : Datagram) :
    (source.kept (source.enqueue queue datagram.payload)).Sublist (source.kept queue ++ [source.cut datagram]) := by
  unfold UdpSource.enqueue UdpSource.cut UdpSource.kept
  cases source.listenerBuffer with
  | none => simp
  | some size =>
      dsimp only
      rw [open_session_push]
      by_cases room : queue.length < 128
      · simp [openSession, room]
      · simp [openSession, room]

section

variable (source : UdpSource) (sink : UdpSink) (entered : List Datagram) (tunnel : DatagramTunnel)
  (seen : List Datagram) (frames taken left : List Frame)

theorem datagram_lost (datagram : Datagram) (rest : List Datagram)
    (sound : DatagramSound source sink entered tunnel seen frames taken left) (next : tunnel.arriving = datagram :: rest) :
    DatagramInvariant source sink entered { tunnel with arriving := rest } := by
  refine ⟨seen ++ [datagram], frames, taken, left, ?_, ?_, sound.fits, sound.stream, sound.split, sound.consumed, sound.delivered⟩
  · rw [sound.order, next, List.append_assoc]
    rfl
  · rw [List.map_append]
    exact sound.framed.trans (List.sublist_append_left _ _)

theorem datagram_arrived (datagram : Datagram) (rest : List Datagram)
    (sound : DatagramSound source sink entered tunnel seen frames taken left) (next : tunnel.arriving = datagram :: rest) :
    DatagramInvariant source sink entered
      { tunnel with arriving := rest, queue := source.enqueue tunnel.queue datagram.payload } := by
  refine ⟨seen ++ [datagram], frames, taken, left, ?_, ?_, sound.fits, sound.stream, sound.split, sound.consumed, sound.delivered⟩
  · rw [sound.order, next, List.append_assoc]
    rfl
  · have grown := ((enqueue_kept source tunnel.queue datagram).append_left tunnel.near.holds).append_left
      (sink.function.payloads frames)
    have longer := sound.framed.append_right [source.cut datagram]
    simp only [List.append_assoc, List.map_append] at grown longer ⊢
    exact grown.trans longer

theorem datagram_read (feeds : source.Feeds sink) (datagram : List UInt8) (rest : List (List UInt8))
    (sound : DatagramSound source sink entered tunnel seen frames taken left) (reading : tunnel.near = .reading)
    (next : tunnel.queue = datagram :: rest) :
    DatagramInvariant source sink entered
      { tunnel with queue := rest, near := source.read (datagram.take source.bufferSize) } := by
  have framed := sound.framed
  rw [reading, next] at framed
  refine ⟨seen, frames, taken, left, sound.order, ?_, ?_, sound.stream, sound.split, sound.consumed, sound.delivered⟩
  · rcases feeds.reads (datagram.take source.bufferSize) with writes | skips
    · rw [writes]
      exact framed
    · rw [skips.1]
      exact ((List.sublist_cons_self _ (source.kept rest)).append_left _).trans framed
  · intro chunk writing
    rcases feeds.reads (datagram.take source.bufferSize) with writes | skips
    · cases writes.symm.trans writing
      exact List.length_take_le _ _
    · cases skips.1.symm.trans writing

-- A source that lets go of what it holds, or of nothing, keeps the order of the rest.
theorem near_moves (pc : ToWebSocket) (sound : DatagramSound source sink entered tunnel seen frames taken left)
    (idle : pc.holds = []) : DatagramSound source sink entered { tunnel with near := pc } seen frames taken left := by
  refine ⟨sound.order, ?_, ?_, sound.stream, sound.split, sound.consumed, sound.delivered⟩
  · have shorter : (pc.holds ++ source.kept tunnel.queue).Sublist (tunnel.near.holds ++ source.kept tunnel.queue) := by
      rw [idle]
      exact List.sublist_append_right _ _
    exact (shorter.append_left _).trans sound.framed
  · intro chunk writing
    have same : pc = .writing chunk := writing
    rw [same] at idle
    cases idle

-- A call on a writer that has failed sends nothing; on any other it adds its frame.
theorem datagram_call (call : WriteCall) (sound : DatagramSound source sink entered tunnel seen frames taken left)
    (wellFormed : call.wellFormed = true)
    (framed : (sink.function.payloads (frames ++ [call.frame]) ++ (tunnel.near.holds ++ source.kept tunnel.queue)).Sublist
      (seen.map source.cut)) :
    DatagramInvariant source sink entered { tunnel with writer := (call.op tunnel.masking tunnel.writer).1 } := by
  cases failed : tunnel.writer.failed with
  | true =>
      rw [stream_call_failed tunnel.masking tunnel.writer call wellFormed failed]
      exact ⟨seen, frames, taken, left, sound⟩
  | false =>
      have stream := stream_call tunnel.masking tunnel.writer frames call sound.stream wellFormed failed
      refine ⟨seen, frames ++ [call.frame], taken, left ++ [call.frame], sound.order, framed, sound.fits, stream, ?_,
        sound.consumed, sound.delivered⟩
      rw [sound.split, List.append_assoc]

theorem datagram_call_ignored (call : WriteCall) (sound : DatagramSound source sink entered tunnel seen frames taken left)
    (wellFormed : call.wellFormed = true) (ignored : call.frame.opcode ∉ sink.function.forwards) :
    DatagramInvariant source sink entered { tunnel with writer := (call.op tunnel.masking tunnel.writer).1 } := by
  refine datagram_call source sink entered tunnel seen frames taken left call sound wellFormed ?_
  rw [payloads_append, payloads_ignored _ _ ignored, List.append_nil]
  exact sound.framed

theorem datagram_sent (feeds : source.Feeds sink) (chunk : List UInt8)
    (sound : DatagramSound source sink entered tunnel seen frames taken left) (writing : tunnel.near = .writing chunk) :
    DatagramInvariant source sink entered { tunnel with
      writer := ((WriteCall.message binaryMessage chunk).op tunnel.masking tunnel.writer).1
      near := toWebSocketWritten ((WriteCall.message binaryMessage chunk).op tunnel.masking tunnel.writer).2 } := by
  have wellFormed : (WriteCall.message binaryMessage chunk).wellFormed = true := by
    simp only [WriteCall.wellFormed, Bool.and_eq_true, decide_eq_true_eq]
    exact ⟨by decide, Nat.le_trans (sound.fits chunk writing) feeds.size⟩
  have idle : ∀ done, (toWebSocketWritten done).holds = [] := by
    intro done
    cases done <;> rfl
  have free := near_moves source sink entered tunnel seen frames taken left _ sound
    (idle ((WriteCall.message binaryMessage chunk).op tunnel.masking tunnel.writer).2)
  refine datagram_call source sink entered _ seen frames taken left _ free wellFormed ?_
  have framed := sound.framed
  rw [writing, ToWebSocket.holds] at framed
  have payload : sink.function.payloads [⟨binaryMessage, chunk⟩] = [chunk] :=
    payloads_forwarded sink.function ⟨binaryMessage, chunk⟩ feeds.binary
  rw [payloads_append, WriteCall.frame, payload, idle, List.nil_append, List.append_assoc]
  exact framed

theorem datagram_closed (feeds : source.Feeds sink) (sound : DatagramSound source sink entered tunnel seen frames taken left) :
    DatagramInvariant source sink entered
      { tunnel with writer := source.close tunnel.masking tunnel.writer, near := .returned } := by
  have free := near_moves source sink entered tunnel seen frames taken left .returned sound rfl
  unfold UdpSource.close
  cases farewell : source.farewell with
  | none => exact ⟨seen, frames, taken, left, free⟩
  | some call =>
      obtain ⟨wellFormed, close⟩ := feeds.farewell call farewell
      have ignored : call.frame.opcode ∉ sink.function.forwards := by
        intro forwarded
        cases close.symm.trans (feeds.plain call.frame forwarded).2
      exact datagram_call_ignored source sink entered _ seen frames taken left call free wellFormed ignored

theorem datagram_control (feeds : source.Feeds sink) (call : WriteCall)
    (sound : DatagramSound source sink entered tunnel seen frames taken left) (pingPong : call.isPingPong = true) :
    DatagramInvariant source sink entered { tunnel with writer := (call.op tunnel.masking tunnel.writer).1 } := by
  obtain ⟨wellFormed, control⟩ := ping_pong_call call pingPong
  have ignored : call.frame.opcode ∉ sink.function.forwards := by
    intro forwarded
    cases control.symm.trans (feeds.plain call.frame forwarded).1
  exact datagram_call_ignored source sink entered tunnel seen frames taken left call sound wellFormed ignored

theorem far_drops (pc : FromWebSocket) (sound : DatagramSound source sink entered tunnel seen frames taken left)
    (idle : pc.holds = []) : DatagramInvariant source sink entered { tunnel with far := pc } := by
  refine ⟨seen, frames, taken, left, sound.order, sound.framed, sound.fits, sound.stream, sound.split, sound.consumed, ?_⟩
  have shorter : (tunnel.sentOn ++ pc.holds).Sublist (tunnel.sentOn ++ tunnel.far.holds) := by
    rw [idle, List.append_nil]
    exact List.sublist_append_left _ _
  exact shorter.trans sound.delivered

theorem datagram_received (handlers : Handlers) (frame : Frame) (rest : List UInt8)
    (sound : DatagramSound source sink entered tunnel seen frames taken left) (reading : tunnel.far = .reading)
    (found : readFrame (tunnel.writer.socket.sent.drop tunnel.consumed) = .ok (frame, rest)) :
    DatagramInvariant source sink entered { tunnel with
      consumed := tunnel.writer.socket.sent.length - rest.length
      far := fromWebSocketReceived sink.function frame (received handlers frame) } := by
  obtain ⟨later, first, consumed⟩ := stream_next_frame tunnel.masking tunnel.writer frames taken left tunnel.consumed frame rest
    sound.stream sound.split sound.consumed found
  refine ⟨seen, frames, taken ++ [frame], later, sound.order, sound.framed, sound.fits, sound.stream, ?_, consumed, ?_⟩
  · rw [sound.split, first, List.append_assoc]
    rfl
  · have before := sound.delivered
    rw [reading, reading_holds, List.append_nil] at before
    rw [payloads_append]
    exact before.append (received_holds sink.function handlers frame)

theorem datagram_written (payload : List UInt8) (sound : DatagramSound source sink entered tunnel seen frames taken left)
    (writing : tunnel.far = .writing payload) :
    DatagramInvariant source sink entered { tunnel with sentOn := tunnel.sentOn ++ [payload], far := .reading } := by
  refine ⟨seen, frames, taken, left, sound.order, sound.framed, sound.fits, sound.stream, sound.split, sound.consumed, ?_⟩
  have delivered := sound.delivered
  rw [writing] at delivered
  rw [reading_holds, List.append_nil]
  exact delivered

theorem datagram_step_sound (feeds : source.Feeds sink) (handlers : Handlers) (event : DatagramEvent) (next : DatagramTunnel)
    (invariant : DatagramInvariant source sink entered tunnel) (stepped : datagramStep source sink handlers tunnel event = some next) :
    DatagramInvariant source sink entered next := by
  obtain ⟨seen, frames, taken, left, sound⟩ := invariant
  cases event with
  | lose =>
      simp only [datagramStep] at stepped
      split at stepped
      · rename_i datagram rest arriving
        cases stepped
        exact datagram_lost source sink entered tunnel seen frames taken left datagram rest sound arriving
      · cases stepped
  | arrive =>
      simp only [datagramStep] at stepped
      split at stepped
      · rename_i datagram rest arriving
        cases stepped
        exact datagram_arrived source sink entered tunnel seen frames taken left datagram rest sound arriving
      · cases stepped
  | read =>
      obtain ⟨reading, taking⟩ := Option.ite_none_right_eq_some.mp stepped
      split at taking
      · rename_i datagram rest queue
        cases taking
        exact datagram_read source sink entered tunnel seen frames taken left feeds datagram rest sound reading queue
      · cases taking
  | fail =>
      obtain ⟨_, moved⟩ := Option.ite_none_right_eq_some.mp stepped
      cases moved
      exact ⟨seen, frames, taken, left, near_moves source sink entered tunnel seen frames taken left _ sound feeds.idle⟩
  | send =>
      simp only [datagramStep] at stepped
      split at stepped
      · rename_i chunk writing
        cases stepped
        exact datagram_sent source sink entered tunnel seen frames taken left feeds chunk sound writing
      · cases stepped
  | farewell =>
      obtain ⟨_, moved⟩ := Option.ite_none_right_eq_some.mp stepped
      cases moved
      exact datagram_closed source sink entered tunnel seen frames taken left feeds sound
  | control call =>
      obtain ⟨pingPong, moved⟩ := Option.ite_none_right_eq_some.mp stepped
      cases moved
      exact datagram_control source sink entered tunnel seen frames taken left feeds call sound pingPong
  | receive =>
      obtain ⟨reading, receiving⟩ := Option.ite_none_right_eq_some.mp stepped
      split at receiving
      · rename_i frame rest found
        cases receiving
        exact datagram_received source sink entered tunnel seen frames taken left handlers frame rest sound reading found
      · cases receiving
        exact far_drops source sink entered tunnel seen frames taken left .failed sound rfl
      · cases receiving
  | write done =>
      simp only [datagramStep] at stepped
      split at stepped
      · rename_i payload writing
        split at stepped
        · cases stepped
          exact datagram_written source sink entered tunnel seen frames taken left payload sound writing
        · cases stepped
          exact far_drops source sink entered tunnel seen frames taken left sink.writeFailed sound feeds.dropped
      · cases stepped
  | lost =>
      obtain ⟨_, moved⟩ := Option.ite_none_right_eq_some.mp stepped
      cases moved
      exact far_drops source sink entered tunnel seen frames taken left .failed sound rfl

theorem datagram_invariant_delivers (invariant : DatagramInvariant source sink entered tunnel) :
    tunnel.sentOn.Sublist (entered.map source.cut) := by
  obtain ⟨seen, frames, taken, left, sound⟩ := invariant
  have taking : (sink.function.payloads taken).Sublist (sink.function.payloads frames) := by
    rw [sound.split, payloads_append]
    exact List.sublist_append_left _ _
  have arriving : (seen.map source.cut).Sublist (entered.map source.cut) := by
    rw [sound.order, List.map_append]
    exact List.sublist_append_left _ _
  calc
    tunnel.sentOn.Sublist (tunnel.sentOn ++ tunnel.far.holds) := List.sublist_append_left _ _
    List.Sublist _ (sink.function.payloads taken) := sound.delivered
    List.Sublist _ (sink.function.payloads frames) := taking
    List.Sublist _ (sink.function.payloads frames ++ (tunnel.near.holds ++ source.kept tunnel.queue)) :=
      List.sublist_append_left _ _
    List.Sublist _ (seen.map source.cut) := sound.framed
    List.Sublist _ (entered.map source.cut) := arriving

end

theorem new_datagram_tunnel_sound (source : UdpSource) (sink : UdpSink) (masking : Bool) (stream : List (Option Nat))
    (entered : List Datagram) : DatagramInvariant source sink entered (newDatagramTunnel masking stream entered) :=
  ⟨[], [], [], [], rfl, List.Sublist.refl _, nofun, ⟨nofun, ⟨[], rfl⟩, fun _ => ⟨rfl, rfl⟩⟩, rfl, rfl, List.Sublist.refl _⟩

theorem datagrams_cut (source : UdpSource) (sink : UdpSink) (feeds : source.Feeds sink) (handlers : Handlers) (masking : Bool)
    (stream : List (Option Nat)) (entered : List Datagram) (events : List DatagramEvent) (last : DatagramTunnel)
    (ran : run (datagramStep source sink handlers) (newDatagramTunnel masking stream entered) events = some last) :
    last.sentOn.Sublist (entered.map source.cut) := by
  apply datagram_invariant_delivers source sink entered last
  exact run_preserves (datagramStep source sink handlers) (DatagramInvariant source sink entered)
    (fun tunnel event next => datagram_step_sound source sink entered tunnel feeds handlers event next)
    _ last events (new_datagram_tunnel_sound source sink masking stream entered) ran

-- Between two datagrams of a run that loses none.
structure DatagramTunnel.Clear (tunnel : DatagramTunnel) : Prop where
  near : tunnel.near = .reading
  queue : tunnel.queue = []
  steady : Steady tunnel.writer
  drained : tunnel.writer.buffered = []
  consumed : tunnel.consumed = tunnel.writer.socket.sent.length
  far : tunnel.far = .reading

def UdpSource.sends (source : UdpSource) (chunk : List UInt8) : Bool := decide (source.read chunk = .writing chunk)

section

variable (source : UdpSource) (sink : UdpSink) (feeds : source.Feeds sink) (handlers : Handlers)

theorem enqueue_first (datagram : Datagram) :
    ∃ data, source.enqueue [] datagram.payload = [data] ∧ data.take source.bufferSize = source.cut datagram := by
  unfold UdpSource.enqueue UdpSource.cut
  cases source.listenerBuffer with
  | none => exact ⟨datagram.payload, rfl, rfl⟩
  | some size =>
      refine ⟨datagram.payload.take size, ?_, rfl⟩
      dsimp only
      rw [open_session_push]
      rfl

include feeds in
theorem cut_empty (datagram : Datagram) : source.cut datagram = [] ↔ datagram.payload = [] := by
  have positive := feeds.positive
  unfold UdpSource.cut
  cases found : source.listenerBuffer with
  | none => simp [List.take_eq_nil_iff, Nat.ne_of_gt positive]
  | some size =>
      have room := feeds.room size found
      simp [List.take_eq_nil_iff, Nat.ne_of_gt positive, Nat.ne_of_gt room]

theorem cut_short (datagram : Datagram) : (source.cut datagram).length ≤ source.bufferSize := by
  unfold UdpSource.cut
  cases source.listenerBuffer with
  | none => exact List.length_take_le _ _
  | some size => exact List.length_take_le _ _

include feeds in
theorem sends_or_empty (chunk : List UInt8) : source.sends chunk = true ∨ (source.read chunk = .reading ∧ chunk = []) := by
  rcases feeds.reads chunk with writes | skips
  · exact .inl (decide_eq_true writes)
  · exact .inr skips

include feeds in
theorem sends_cut (datagram : Datagram) : source.sends (source.cut datagram) = source.sends datagram.payload := by
  by_cases empty : datagram.payload = []
  · rw [(cut_empty source sink feeds datagram).mpr empty, empty]
  · have part : source.cut datagram ≠ [] := fun none => empty ((cut_empty source sink feeds datagram).mp none)
    rcases sends_or_empty source sink feeds (source.cut datagram) with sent | skipped
    · rcases sends_or_empty source sink feeds datagram.payload with whole | skipped
      · rw [sent, whole]
      · exact absurd skipped.2 empty
    · exact absurd skipped.2 part

include feeds in
theorem binary_received (chunk : List UInt8) :
    fromWebSocketReceived sink.function ⟨binaryMessage, chunk⟩ (received handlers ⟨binaryMessage, chunk⟩) = .writing chunk := by
  have message : received handlers ⟨binaryMessage, chunk⟩ = .message := by
    simp [received, binaryMessage, pingMessage, pongMessage, closeMessage]
  rw [message]
  exact if_pos feeds.binary

-- A steady writer sends the whole frame, and the sink has taken all before it.
include feeds in
theorem message_crosses (tunnel : DatagramTunnel) (chunk : List UInt8) (clear : { tunnel with near := .reading }.Clear)
    (writing : tunnel.near = .writing chunk) (bounded : chunk.length ≤ source.bufferSize) :
    ∃ after, run (datagramStep source sink handlers) tunnel [.send, .receive, .write true] = some after ∧ after.Clear ∧
      after.arriving = tunnel.arriving ∧ after.sentOn = tunnel.sentOn ++ [chunk] := by
  let written := writeMessage tunnel.masking binaryMessage chunk tunnel.writer
  obtain ⟨done, steady⟩ := write_message_completes tunnel.masking binaryMessage chunk tunnel.writer clear.steady
  obtain ⟨drained, sent⟩ := write_message_sends tunnel.masking binaryMessage chunk tunnel.writer clear.drained done
  have arrived : readFrame (written.1.socket.sent.drop tunnel.consumed) = .ok (⟨binaryMessage, chunk⟩, []) := by
    have consumed : tunnel.consumed = tunnel.writer.socket.sent.length := clear.consumed
    have read := reads_frame tunnel.masking binaryMessage chunk (by decide) (Nat.le_trans bounded feeds.size) []
    rw [List.append_nil] at read
    rw [sent, consumed, List.drop_left, read]
  have sends : datagramStep source sink handlers tunnel .send = some { tunnel with writer := written.1, near := .reading } := by
    have same : (WriteCall.message binaryMessage chunk).op tunnel.masking tunnel.writer = written := rfl
    have finished : toWebSocketWritten written.2 = .reading := by rw [toWebSocketWritten, done, if_pos rfl]
    simp only [datagramStep, writing, same, finished]
  have receives : datagramStep source sink handlers { tunnel with writer := written.1, near := .reading } .receive =
      some { tunnel with
        writer := written.1, near := .reading, consumed := written.1.socket.sent.length, far := .writing chunk } := by
    have reading : tunnel.far = .reading := clear.far
    simp only [datagramStep, reading, if_true, arrived, binary_received source sink feeds handlers, List.length_nil, Nat.sub_zero]
  refine ⟨{ tunnel with
    writer := written.1, near := .reading, consumed := written.1.socket.sent.length, far := .reading,
    sentOn := tunnel.sentOn ++ [chunk] }, ?_, ⟨rfl, clear.queue, steady, drained, rfl, rfl⟩, rfl, rfl⟩
  simp only [run, sends, receives, Option.bind_some]
  rfl

include feeds in
theorem datagram_crosses (tunnel : DatagramTunnel) (datagram : Datagram) (rest : List Datagram) (clear : tunnel.Clear)
    (next : tunnel.arriving = datagram :: rest) :
    ∃ events after, run (datagramStep source sink handlers) tunnel events = some after ∧ after.Clear ∧ after.arriving = rest ∧
      after.sentOn = tunnel.sentOn ++ [source.cut datagram].filter source.sends := by
  obtain ⟨data, queued, cut⟩ := enqueue_first source datagram
  let filled : DatagramTunnel := { tunnel with arriving := rest, queue := [], near := source.read (source.cut datagram) }
  have reads : run (datagramStep source sink handlers) tunnel [.arrive, .read] = some filled := by
    simp only [run, datagramStep, next, clear.queue, queued, clear.near, if_true, cut, Option.bind_some, filled]
  rcases sends_or_empty source sink feeds (source.cut datagram) with sent | skipped
  · have clearing : { filled with near := .reading }.Clear :=
      ⟨rfl, rfl, clear.steady, clear.drained, clear.consumed, clear.far⟩
    obtain ⟨after, ran, cleared, waiting, delivered⟩ := message_crosses source sink feeds handlers filled (source.cut datagram)
      clearing (of_decide_eq_true sent) (cut_short source datagram)
    refine ⟨[.arrive, .read] ++ [.send, .receive, .write true], after, ?_, cleared, waiting, ?_⟩
    · rw [run_append _ _ filled _ _ reads, ran]
    · rw [delivered, List.filter_cons_of_pos sent]
      rfl
  · refine ⟨[.arrive, .read], filled, reads, ?_, rfl, ?_⟩
    · exact ⟨skipped.1, rfl, clear.steady, clear.drained, clear.consumed, clear.far⟩
    · have silent : ¬ source.sends (source.cut datagram) = true := by simp [UdpSource.sends, skipped.1]
      rw [List.filter_cons_of_neg silent]
      exact (List.append_nil _).symm

include feeds in
theorem datagrams_cross (tunnel : DatagramTunnel) (clear : tunnel.Clear) :
    ∃ events last, run (datagramStep source sink handlers) tunnel events = some last ∧
      last.sentOn = tunnel.sentOn ++ (tunnel.arriving.map source.cut).filter source.sends := by
  generalize waiting : tunnel.arriving = datagrams
  induction datagrams generalizing tunnel with
  | nil => exact ⟨[], tunnel, rfl, (List.append_nil _).symm⟩
  | cons datagram rest ih =>
      obtain ⟨events, after, ran, cleared, left, delivered⟩ :=
        datagram_crosses source sink feeds handlers tunnel datagram rest clear waiting
      obtain ⟨later, last, finished, all⟩ := ih after cleared left
      refine ⟨events ++ later, last, ?_, ?_⟩
      · rw [run_append _ _ after _ _ ran, finished]
      · rw [all, delivered, List.append_assoc, ← List.filter_append]
        rfl

end

-- A filtered image that is a subsequence of another image with as many kept elements is
-- the same one.
theorem map_agrees {α β : Type} (items : List α) (first second : α → β) (keep : β → Bool)
    (same : ∀ item, keep (first item) = keep (second item))
    (included : ((items.map first).filter keep).Sublist (items.map second)) (item : α) (member : item ∈ items)
    (kept : keep (first item) = true) : first item = second item := by
  have within := included.filter keep
  rw [List.filter_filter, List.filter_map, List.filter_map] at within
  have agree : keep ∘ first = keep ∘ second := funext same
  simp only [Bool.and_self] at within
  rw [agree] at within
  have equal := within.eq_of_length (by simp)
  exact List.map_inj_left.mp equal item (List.mem_filter.mpr ⟨member, (same item).symm.trans kept⟩)

theorem datagrams_cross_iff (source : UdpSource) (sink : UdpSink) (feeds : source.Feeds sink) (handlers : Handlers)
    (masking : Bool) (entered : List Datagram) :
    (∀ stream events last,
        run (datagramStep source sink handlers) (newDatagramTunnel masking stream entered) events = some last →
          last.sentOn.Sublist (entered.map Datagram.payload)) ↔
      ∀ datagram ∈ entered, source.cut datagram = datagram.payload := by
  constructor
  · intro intact datagram member
    have clear : (newDatagramTunnel masking [] entered).Clear := ⟨rfl, rfl, new_writer_steady _ rfl, rfl, rfl, rfl⟩
    obtain ⟨events, last, ran, delivered⟩ := datagrams_cross source sink feeds handlers _ clear
    have included := intact [] events last ran
    rw [delivered] at included
    rcases sends_or_empty source sink feeds (source.cut datagram) with sent | skipped
    · exact map_agrees entered source.cut Datagram.payload source.sends (sends_cut source sink feeds) included datagram member sent
    · rw [skipped.2, (cut_empty source sink feeds datagram).mp skipped.2]
  · intro whole stream events last ran
    have part := datagrams_cut source sink feeds handlers masking stream entered events last ran
    rw [List.map_congr_left whole] at part
    exact part

theorem run_udp_tunnel_cut (datagram : Datagram) : runUdpTunnelSource.cut datagram = datagram.payload :=
  List.take_of_length_le (Nat.le_trans datagram.bounded (by decide))

theorem pipe_cut (datagram : Datagram) :
    pipeSource.cut datagram = datagram.payload ↔ datagram.payload.length ≤ 32 * 1024 := by
  constructor
  · intro whole
    rw [← whole]
    exact cut_short pipeSource datagram
  · exact List.take_of_length_le

theorem udp_session_cut (datagram : Datagram) : udpSessionSource.cut datagram = pipeSource.cut datagram := by
  have whole : datagram.payload.take (64 * 1024) = datagram.payload :=
    List.take_of_length_le (Nat.le_trans datagram.bounded (by decide))
  exact congrArg (List.take pipeSource.bufferSize) whole

theorem datagrams_intact_iff (direction : UdpDirection) (handlers : Handlers) (masking : Bool) (entered : List Datagram) :
    (∀ stream events last,
        run (datagramStep direction.source direction.sink handlers) (newDatagramTunnel masking stream entered) events = some last →
          last.sentOn.Sublist (entered.map Datagram.payload)) ↔
      direction = .clientToServer ∨ ∀ datagram ∈ entered, datagram.payload.length ≤ 32 * 1024 := by
  rw [datagrams_cross_iff direction.source direction.sink (direction_feeds direction) handlers masking entered]
  cases direction with
  | clientToServer => simp [UdpDirection.source, run_udp_tunnel_cut]
  | serverToClient => simp only [UdpDirection.source, pipe_cut, reduceCtorEq, false_or]
  | reverseSession => simp only [UdpDirection.source, udp_session_cut, pipe_cut, reduceCtorEq, false_or]

theorem datagram_alone (source : UdpSource) (sink : UdpSink) (feeds : source.Feeds sink) (handlers : Handlers) (masking : Bool)
    (datagram : Datagram) (filled : datagram.payload ≠ []) :
    ∃ events last, run (datagramStep source sink handlers) (newDatagramTunnel masking [] [datagram]) events = some last ∧
      last.sentOn = [source.cut datagram] := by
  have clear : (newDatagramTunnel masking [] [datagram]).Clear := ⟨rfl, rfl, new_writer_steady _ rfl, rfl, rfl, rfl⟩
  obtain ⟨events, last, ran, delivered⟩ := datagrams_cross source sink feeds handlers _ clear
  refine ⟨events, last, ran, ?_⟩
  rcases sends_or_empty source sink feeds (source.cut datagram) with sent | skipped
  · rw [delivered]
    exact List.filter_cons_of_pos sent
  · exact absurd ((cut_empty source sink feeds datagram).mp skipped.2) filled

def largeDatagram : Datagram := ⟨List.replicate 32769 7, by rw [List.length_replicate]; decide⟩

theorem large_datagram_truncated :
    ∃ events last,
      run (datagramStep UdpDirection.serverToClient.source UdpDirection.serverToClient.sink noHandlers)
        (newDatagramTunnel false [] [largeDatagram]) events = some last ∧
      last.sentOn = [List.replicate 32768 7] ∧ ¬ last.sentOn.Sublist [largeDatagram.payload] := by
  have size : largeDatagram.payload.length = 32769 := List.length_replicate
  have filled : largeDatagram.payload ≠ [] := List.ne_nil_of_length_pos (by rw [size]; decide)
  obtain ⟨events, last, ran, sent⟩ :=
    datagram_alone _ _ (direction_feeds .serverToClient) noHandlers false largeDatagram filled
  have cut : UdpDirection.serverToClient.source.cut largeDatagram = List.replicate 32768 7 := List.take_replicate
  rw [cut] at sent
  refine ⟨events, last, ran, sent, ?_⟩
  intro included
  rw [sent] at included
  have same := List.mem_singleton.mp (included.subset (List.mem_singleton.mpr rfl))
  have lengths := congrArg List.length same
  rw [size, List.length_replicate] at lengths
  cases lengths

end WarpStream
