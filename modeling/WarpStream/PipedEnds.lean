import WarpStream.Handles
import WarpStream.Manager

set_option autoImplicit false

namespace WarpStream

open Handles

-- The stream and the connection that a pipe joins, while they are open: to close one again
-- does nothing.
structure PipedEnds where
  stream : Option Nat := none
  conn : Option Nat := none
deriving DecidableEq

def PipedEnds.held (ends : PipedEnds) : List Nat := ends.stream.toList ++ ends.conn.toList

-- What is open behind the end of the goroutine that reads the connection, and what it closes:
-- Pipe and PipeGorilla send a close message, PipeBiDir closes both.
def PipedEnds.finishOut (ends : PipedEnds) (transport : Transport) : PipedEnds × List Nat :=
  if transport = .http2 then ({}, ends.held) else (ends, [])

def PipedEnds.finishIn (ends : PipedEnds) (transport : Transport) : PipedEnds × List Nat :=
  if transport = .http2 then ({}, ends.held) else ({ ends with conn := none }, ends.conn.toList)

theorem finish_out_parts (ends : PipedEnds) (transport : Transport) (id : Nat) :
    id ∈ ends.held ↔ id ∈ (ends.finishOut transport).1.held ∨ id ∈ (ends.finishOut transport).2 := by
  unfold PipedEnds.finishOut
  split
  · simp [PipedEnds.held]
  · simp

theorem finish_in_parts (ends : PipedEnds) (transport : Transport) (id : Nat) :
    id ∈ ends.held ↔ id ∈ (ends.finishIn transport).1.held ∨ id ∈ (ends.finishIn transport).2 := by
  unfold PipedEnds.finishIn
  split
  · simp [PipedEnds.held]
  · simp [PipedEnds.held]

theorem finish_in_conn (ends : PipedEnds) (transport : Transport) : (ends.finishIn transport).1.conn = none := by
  unfold PipedEnds.finishIn
  split <;> rfl

theorem finish_out_conn (ends : PipedEnds) (transport : Transport) (closed : ends.conn = none) :
    (ends.finishOut transport).1.conn = none := by
  unfold PipedEnds.finishOut
  split
  · rfl
  · exact closed

section

variable {Thread : Type} (held : Thread → List Nat) (fresh : Nat)

-- A step that opens nothing, by what is left open and what is closed.
theorem conserves_closing (thread : Thread) (ends : PipedEnds) (left : PipedEnds) (closes : List Nat) (holds : held thread = left.held)
    (parts : ∀ id, id ∈ ends.held ↔ id ∈ left.held ∨ id ∈ closes) :
    Conserves held ends.held fresh { thread := thread, closes := closes } :=
  conserves_parts held _ _ _ fun id => by simp [holds, parts id]

theorem conserves_same (thread : Thread) (ends : PipedEnds) (holds : held thread = ends.held) :
    Conserves held ends.held fresh { thread := thread } :=
  conserves_closing held fresh thread ends ends [] holds (by simp)

end

end WarpStream
