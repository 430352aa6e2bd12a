import Mathlib.Logic.Function.Basic
import WarpStream.Transition
import WarpStream.WstFrame

set_option autoImplicit false

namespace WarpStream

open BufWriter ByteReader Transition

structure Handlers where
  ping : List UInt8 → Option String
  pong : List UInt8 → Option String

def Handlers.silent (handlers : Handlers) : Prop := ∀ payload, handlers.ping payload = none ∧ handlers.pong payload = none

structure ReadResult where
  calls : List Frame
  outcome : Except (Fault ReadError) Frame
  rest : List UInt8

def ReadResult.called (result : ReadResult) (frame : Frame) : ReadResult := { result with calls := frame :: result.calls }

-- The switch on the opcode; later is what the next turn of the loop returns.
def deliver (handlers : Handlers) (frame : Frame) (rest : List UInt8) (later : ReadResult) : ReadResult :=
  if frame.opcode = pingMessage then
    match handlers.ping frame.payload with
    | some text => ⟨[frame], .error (.other (.handler text)), rest⟩
    | none => later.called frame
  else if frame.opcode = pongMessage then
    match handlers.pong frame.payload with
    | some text => ⟨[frame], .error (.other (.handler text)), rest⟩
    | none => later.called frame
  else if frame.opcode = closeMessage then ⟨[], .error .eof, rest⟩
  else ⟨[], .ok frame, rest⟩

def readMessage (handlers : Handlers) (input : List UInt8) : ReadResult :=
  match found : readFrame input with
  | .error (fault, rest) => ⟨[], .error fault, rest⟩
  | .ok (frame, rest) =>
      have : rest.length < input.length := by
        have progress := progress_frame input frame rest found
        omega
      deliver handlers frame rest (readMessage handlers rest)
termination_by input.length

theorem read_message_fault (handlers : Handlers) (input rest : List UInt8) (fault : Fault ReadError)
    (found : readFrame input = .error (fault, rest)) : readMessage handlers input = ⟨[], .error fault, rest⟩ := by
  rw [readMessage]
  split
  · rename_i other left first
    cases first.symm.trans found
    rfl
  · rename_i frame left first
    cases first.symm.trans found

theorem read_message_frame (handlers : Handlers) (input rest : List UInt8) (frame : Frame)
    (found : readFrame input = .ok (frame, rest)) :
    readMessage handlers input = deliver handlers frame rest (readMessage handlers rest) := by
  rw [readMessage]
  split
  · rename_i other left first
    cases first.symm.trans found
  · rename_i other left first
    cases first.symm.trans found
    rfl

theorem deliver_ok (handlers : Handlers) (frame message : Frame) (rest : List UInt8) (later : ReadResult)
    (ok : (deliver handlers frame rest later).outcome = .ok message) :
    (deliver handlers frame rest later).rest = rest ∨
      (later.outcome = .ok message ∧ (deliver handlers frame rest later).rest = later.rest) := by
  unfold deliver at ok ⊢
  by_cases ping : frame.opcode = pingMessage
  · simp only [if_pos ping] at ok ⊢
    cases answer : handlers.ping frame.payload with
    | some text => exact .inl rfl
    | none =>
        rw [answer] at ok
        exact .inr ⟨ok, rfl⟩
  · by_cases pong : frame.opcode = pongMessage
    · simp only [if_neg ping, if_pos pong] at ok ⊢
      cases answer : handlers.pong frame.payload with
      | some text => exact .inl rfl
      | none =>
          rw [answer] at ok
          exact .inr ⟨ok, rfl⟩
    · simp only [if_neg ping, if_neg pong]
      split <;> exact .inl rfl

theorem read_message_shorter (handlers : Handlers) (input : List UInt8) (message : Frame)
    (ok : (readMessage handlers input).outcome = .ok message) : (readMessage handlers input).rest.length < input.length := by
  induction size : input.length using Nat.strongRecOn generalizing input with
  | ind count ih =>
      cases found : readFrame input with
      | error fault =>
          rw [read_message_fault handlers input fault.2 fault.1 found] at ok
          cases ok
      | ok first =>
          obtain ⟨frame, rest⟩ := first
          have progress := progress_frame input frame rest found
          rw [read_message_frame handlers input rest frame found] at ok ⊢
          rcases deliver_ok handlers frame message rest _ ok with here | ⟨later, there⟩
          · rw [here]
            omega
          · rw [there]
            have shorter := ih rest.length (by omega) rest later rfl
            omega

def readAll (handlers : Handlers) (input : List UInt8) : List ReadResult :=
  match ok : (readMessage handlers input).outcome with
  | .error _ => [readMessage handlers input]
  | .ok message =>
      have : (readMessage handlers input).rest.length < input.length := read_message_shorter handlers input message ok
      readMessage handlers input :: readAll handlers (readMessage handlers input).rest
termination_by input.length

-- A call in progress holds muw from its first byte to its flush.
inductive WriteCall where
  | message (messageType : Nat) (data : List UInt8)
  | control (messageType : Nat) (data : List UInt8)
deriving DecidableEq, Repr

def WriteCall.frame : WriteCall → Frame
  | .message messageType data => ⟨messageType, data⟩
  | .control messageType data => ⟨messageType, data⟩

def WriteCall.op (masking : Bool) : WriteCall → Op
  | .message messageType data => writeMessage masking messageType data
  | .control messageType data => writeControl masking messageType data

-- Goroutines share the connection; each has the calls it is still to make.
-- returned records the calls in the order of the lock and whether they were nil.
structure WstConn where
  masking : Bool
  writer : Writer
  programs : Nat → List WriteCall
  returned : List (WriteCall × Bool)

def newConn (socket : Socket) (masking : Bool) (programs : Nat → List WriteCall) : WstConn :=
  ⟨masking, newWriter socket, programs, []⟩

def connStep (conn : WstConn) (goroutine : Nat) : Option WstConn :=
  match conn.programs goroutine with
  | [] => none
  | call :: later =>
      let written := call.op conn.masking conn.writer
      some { conn with
        writer := written.1
        programs := Function.update conn.programs goroutine later
        returned := conn.returned ++ [(call, written.2)] }

structure ConnMoved (conn : WstConn) (goroutine : Nat) (call : WriteCall) (later : List WriteCall) (next : WstConn) : Prop where
  current : conn.programs goroutine = call :: later
  advanced : next.programs goroutine = later
  others : ∀ other, other ≠ goroutine → next.programs other = conn.programs other
  masking : next.masking = conn.masking
  writer : next.writer = (call.op conn.masking conn.writer).1
  returned : next.returned = conn.returned ++ [(call, (call.op conn.masking conn.writer).2)]

theorem conn_step_moved (conn : WstConn) (goroutine : Nat) (next : WstConn) (stepped : connStep conn goroutine = some next) :
    ∃ call later, ConnMoved conn goroutine call later next := by
  unfold connStep at stepped
  split at stepped
  · cases stepped
  · rename_i call later current
    cases stepped
    exact ⟨call, later, current, Function.update_self .., fun other different => Function.update_of_ne different .., rfl, rfl, rfl⟩

theorem conn_moved_pending (conn : WstConn) (goroutine : Nat) (call : WriteCall) (later : List WriteCall) (next : WstConn)
    (moved : ConnMoved conn goroutine call later next) (other : Nat) (pending : WriteCall)
    (member : pending ∈ next.programs other) : pending ∈ conn.programs other := by
  by_cases same : other = goroutine
  · rw [same, moved.advanced] at member
    rw [same, moved.current]
    exact .tail call member
  · rwa [moved.others other same] at member

end WarpStream
