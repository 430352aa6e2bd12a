import WarpStream.GoText
import WarpStream.WstRoundTrip

set_option autoImplicit false

namespace WarpStream

open BufWriter ByteReader Transition

def textMessage : Nat := 1
def binaryMessage : Nat := 2

def closeNormalClosure : Nat := 1000

def formatCloseMessage (closeCode : Nat) (text : String) : List UInt8 := BigEndian.encode 2 closeCode ++ GoText.bytesOf text

-- What one pipe function fixes for its two goroutines: the read buffer, the
-- type of the messages it sends, the deferred close, and the types whose payload it
-- writes to the connection.
structure PipeFunction where
  bufferSize : Nat
  sends : Nat
  farewell : WriteCall
  forwards : List Nat
deriving DecidableEq

def pipe : PipeFunction where
  bufferSize := 32 * 1024
  sends := binaryMessage
  farewell := .message closeMessage (formatCloseMessage closeNormalClosure "")
  forwards := [binaryMessage, textMessage]

def pipeRW : PipeFunction where
  bufferSize := 32 * 1024
  sends := binaryMessage
  farewell := .message closeMessage (formatCloseMessage closeNormalClosure "")
  forwards := [binaryMessage, textMessage]

-- The gorilla package's constants have the same values.
def pipeGorilla : PipeFunction where
  bufferSize := 32 * 1024
  sends := binaryMessage
  farewell := .message closeMessage (formatCloseMessage closeNormalClosure "")
  forwards := [binaryMessage, textMessage]

def PipeFunction.forwarded (function : PipeFunction) (frame : Frame) : List UInt8 :=
  if frame.opcode ∈ function.forwards then frame.payload else []

inductive ToWebSocket where
  | reading
  | writing (chunk : List UInt8)
  | closing
  | returned
deriving DecidableEq

-- With bytes in the buffer the write's error takes the place of the read's, so a
-- read that returned both is followed by another read.
def toWebSocketRead (chunk : List UInt8) (failed : Bool) : ToWebSocket :=
  if chunk ≠ [] then .writing chunk else if failed then .closing else .reading

def toWebSocketWritten (done : Bool) : ToWebSocket := if done then .reading else .closing

inductive Received where
  | again
  | message
  | eof
  | handler (text : String)

def received (handlers : Handlers) (frame : Frame) : Received :=
  if frame.opcode = pingMessage then
    match handlers.ping frame.payload with
    | some text => .handler text
    | none => .again
  else if frame.opcode = pongMessage then
    match handlers.pong frame.payload with
    | some text => .handler text
    | none => .again
  else if frame.opcode = closeMessage then .eof
  else .message

inductive FromWebSocket where
  | reading
  | writing (payload : List UInt8)
  | closed
  | failed
deriving DecidableEq

def fromWebSocketReceived (function : PipeFunction) (frame : Frame) : Received → FromWebSocket
  | .again => .reading
  | .message => if frame.opcode ∈ function.forwards then .writing frame.payload else .reading
  | .eof => .closed
  | .handler _ => .failed

def fromWebSocketWritten (done : Bool) : FromWebSocket := if done then .reading else .failed

-- What the loop writes for a whole stream, on a connection that takes it all.
def fromWebSocket (function : PipeFunction) (handlers : Handlers) (input : List UInt8) : List UInt8 :=
  (returnedMessages (readAll handlers input)).flatMap function.forwarded

-- One direction of a tunnel. read is what the near connection has handed out,
-- consumed counts the bytes of the stream that the far end has taken, and
-- target is the far connection.
structure Piped where
  masking : Bool
  read : List UInt8
  near : ToWebSocket
  writer : Writer
  consumed : Nat
  far : FromWebSocket
  target : Socket

def newPiped (masking : Bool) (stream target : List (Option Nat)) : Piped :=
  ⟨masking, [], .reading, newWriter ⟨[], stream⟩, 0, .reading, ⟨[], target⟩⟩

-- The pings and pongs of other goroutines. WriteControl refuses a payload of more than
-- 125 bytes and then writes no frame.
def WriteCall.isPingPong (call : WriteCall) : Bool :=
  isControl call.frame &&
    match call with
    | .message _ data => data.length ≤ maxPayload
    | .control _ data => data.length ≤ 125

inductive PipeEvent where
  | read (chunk : List UInt8) (failed : Bool)
  | send
  | farewell
  | control (call : WriteCall)
  | receive
  | write
  | lost
deriving DecidableEq

def pipeStep (near far : PipeFunction) (handlers : Handlers) : Step Piped PipeEvent
  | tunnel, .read chunk failed =>
      if tunnel.near = .reading ∧ chunk.length ≤ near.bufferSize then
        some { tunnel with read := tunnel.read ++ chunk, near := toWebSocketRead chunk failed }
      else none
  | tunnel, .send =>
      match tunnel.near with
      | .writing chunk =>
          let written := (WriteCall.message near.sends chunk).op tunnel.masking tunnel.writer
          some { tunnel with writer := written.1, near := toWebSocketWritten written.2 }
      | _ => none
  | tunnel, .farewell =>
      if tunnel.near = .closing then
        some { tunnel with writer := (near.farewell.op tunnel.masking tunnel.writer).1, near := .returned }
      else none
  | tunnel, .control call =>
      if call.isPingPong then some { tunnel with writer := (call.op tunnel.masking tunnel.writer).1 } else none
  | tunnel, .receive =>
      if tunnel.far = .reading then
        -- A frame that has not arrived whole keeps ReadMessage waiting.
        match readFrame (tunnel.writer.socket.sent.drop tunnel.consumed) with
        | .ok (frame, rest) =>
            some { tunnel with
              consumed := tunnel.writer.socket.sent.length - rest.length
              far := fromWebSocketReceived far frame (received handlers frame) }
        | .error (.other _, _) => some { tunnel with far := .failed }
        | .error _ => none
      else none
  | tunnel, .write =>
      match tunnel.far with
      | .writing payload =>
          let written := tunnel.target.write payload
          some { tunnel with target := written.socket, far := fromWebSocketWritten written.done }
      | _ => none
  | tunnel, .lost => if tunnel.far = .reading then some { tunnel with far := .failed } else none

theorem deliver_received (handlers : Handlers) (frame : Frame) (rest : List UInt8) (later : ReadResult) :
    deliver handlers frame rest later =
      match received handlers frame with
      | .again => later.called frame
      | .message => ⟨[], .ok frame, rest⟩
      | .eof => ⟨[], .error .eof, rest⟩
      | .handler text => ⟨[frame], .error (.other (.handler text)), rest⟩ := by
  unfold deliver received
  by_cases ping : frame.opcode = pingMessage
  · simp only [if_pos ping]
    cases handlers.ping frame.payload <;> rfl
  · by_cases pong : frame.opcode = pongMessage
    · simp only [if_neg ping, if_pos pong]
      cases handlers.pong frame.payload <;> rfl
    · simp only [if_neg ping, if_neg pong]
      split <;> rfl

theorem from_web_socket_encoded (function : PipeFunction) (handlers : Handlers) (masking : Bool) (frames : List Frame)
    (silent : handlers.silent) (fits : ∀ frame ∈ frames, frame.fits) :
    fromWebSocket function handlers (encodeAll masking frames) =
      ((untilClose frames).filter fun frame => !isControl frame).flatMap function.forwarded := by
  have reads := read_all_frames handlers masking [] frames silent fits (by simp)
  rw [List.nil_append] at reads
  rw [fromWebSocket, (reads_frames_messages masking frames _ reads).1]

end WarpStream
