import Mathlib.Logic.Function.Basic
import WarpStream.Transition

set_option autoImplicit false

namespace WarpStream

open Transition

inductive Side where
  | near
  | far
deriving DecidableEq

def Side.other : Side → Side
  | .near => .far
  | .far => .near

-- The connection between an application and its end of the tunnel. The end knows
-- Close only, which ends both directions; the application may end its own one.
structure TcpConn where
  toEnd : List UInt8
  finished : Bool
  toApp : List UInt8
  closed : Bool
deriving DecidableEq

structure App where
  toSend : List UInt8
  received : List UInt8
  sawEnd : Bool
deriving DecidableEq

-- One end: outDone and inDone tell that the goroutine from TCP to the stream and the one
-- back have run their deferred calls, shut that the end has closed the stream.
structure TunnelEnd where
  app : App
  conn : TcpConn
  outDone : Bool
  inDone : Bool
  shut : Bool
deriving DecidableEq

structure StreamHalf where
  data : List UInt8
  ended : Bool
deriving DecidableEq

-- streams holds for each side what it has written and the other side has not read.
structure Joined where
  ends : Side → TunnelEnd
  streams : Side → StreamHalf

-- Over HTTP/2 one side is the client. Whether bytes in flight survive the Close of
-- its stream is up to the HTTP/2 package; drains says that they do.
inductive Joint where
  | pipe
  | pipeBiDir (client : Side) (drains : Bool)
deriving DecidableEq

def Joint.drains : Joint → Bool
  | .pipe => true
  | .pipeBiDir _ drains => drains

def Joined.setEnd (tunnel : Joined) (side : Side) (tunnelEnd : TunnelEnd) : Joined :=
  { tunnel with ends := Function.update tunnel.ends side tunnelEnd }

def Joined.setStream (tunnel : Joined) (side : Side) (stream : StreamHalf) : Joined :=
  { tunnel with streams := Function.update tunnel.streams side stream }

def Joined.endStream (tunnel : Joined) (side : Side) : Joined :=
  tunnel.setStream side { tunnel.streams side with ended := true }

def Joined.closeConn (tunnel : Joined) (side : Side) : Joined :=
  tunnel.setEnd side { tunnel.ends side with conn := { (tunnel.ends side).conn with closed := true } }

-- The Close of an HTTP/2 stream: the client's ends the request body, the server's
-- only gives up reading.
def Joined.closeStream (tunnel : Joined) (client side : Side) : Joined :=
  let shut := tunnel.setEnd side { tunnel.ends side with shut := true }
  if side = client then shut.endStream side else shut

-- The deferred calls of the goroutine from TCP to the stream: Pipe sends its close frame,
-- PipeBiDir closes both.
def Joint.finishOut (joint : Joint) (tunnel : Joined) (side : Side) : Joined :=
  match joint with
  | .pipe => tunnel.endStream side
  | .pipeBiDir client _ => (tunnel.closeStream client side).closeConn side

def Joint.finishIn (joint : Joint) (tunnel : Joined) (side : Side) : Joined :=
  match joint with
  | .pipe => tunnel.closeConn side
  | .pipeBiDir client _ => (tunnel.closeStream client side).closeConn side

inductive JoinedAction where
  | send (count : Nat)
  | finish
  | receive (count : Nat)
  | seeEnd
  | copyOut (count : Nat)
  | finishOut
  | copyIn (count : Nat)
  | finishIn
  | leave
deriving DecidableEq

-- A sends from the start, B once it has read the end of what A sent.
def maySend (tunnel : Joined) (side : Side) : Bool := decide (side = .near) || (tunnel.ends side).app.sawEnd

def joinedStep (joint : Joint) : Step Joined (Side × JoinedAction)
  | tunnel, (side, .send count) =>
      let current := tunnel.ends side
      if maySend tunnel side then
        -- Bytes sent to a connection that the other side has closed are dropped.
        some (tunnel.setEnd side { current with
          app := { current.app with toSend := current.app.toSend.drop count }
          conn := { current.conn with
            toEnd := if current.conn.closed then current.conn.toEnd
              else current.conn.toEnd ++ current.app.toSend.take count } })
      else none
  | tunnel, (side, .finish) =>
      let current := tunnel.ends side
      if maySend tunnel side ∧ current.app.toSend = [] then
        some (tunnel.setEnd side { current with conn := { current.conn with finished := true } })
      else none
  | tunnel, (side, .receive count) =>
      let current := tunnel.ends side
      some (tunnel.setEnd side { current with
        app := { current.app with received := current.app.received ++ current.conn.toApp.take count }
        conn := { current.conn with toApp := current.conn.toApp.drop count } })
  | tunnel, (side, .seeEnd) =>
      let current := tunnel.ends side
      if current.conn.closed ∧ current.conn.toApp = [] then
        some (tunnel.setEnd side { current with app := { current.app with sawEnd := true } })
      else none
  | tunnel, (side, .copyOut count) =>
      let current := tunnel.ends side
      let out := tunnel.streams side
      if current.outDone = false ∧ current.conn.closed = false ∧ current.conn.toEnd.take count ≠ [] then
        some ((tunnel.setEnd side { current with
          conn := { current.conn with toEnd := current.conn.toEnd.drop count } }).setStream side
            { out with data := out.data ++ current.conn.toEnd.take count })
      else none
  | tunnel, (side, .finishOut) =>
      let current := tunnel.ends side
      if current.outDone = false ∧ (current.conn.closed ∨ current.conn.toEnd = [] ∧ current.conn.finished) then
        some (joint.finishOut (tunnel.setEnd side { current with outDone := true }) side)
      else none
  | tunnel, (side, .copyIn count) =>
      let current := tunnel.ends side
      let incoming := tunnel.streams side.other
      if current.inDone = false ∧ current.shut = false ∧ current.conn.closed = false ∧ incoming.data.take count ≠ [] then
        some ((tunnel.setEnd side { current with
          conn := { current.conn with toApp := current.conn.toApp ++ incoming.data.take count } }).setStream side.other
            { incoming with data := incoming.data.drop count })
      else none
  | tunnel, (side, .finishIn) =>
      let current := tunnel.ends side
      let incoming := tunnel.streams side.other
      if current.inDone = false ∧
          (current.shut ∨ current.conn.closed ∧ incoming.data ≠ [] ∨ incoming.ended ∧ (joint.drains → incoming.data = [])) then
        some (joint.finishIn (tunnel.setEnd side { current with inDone := true }) side)
      else none
  | tunnel, (side, .leave) =>
      -- The pipe has returned: the handler ends, or the client closes the stream.
      if (tunnel.ends side).outDone ∧ (tunnel.ends side).inDone then some (tunnel.endStream side) else none

def newJoined (x y : List UInt8) : Joined where
  ends
    | .near => ⟨⟨x, [], false⟩, ⟨[], false, [], false⟩, false, false, false⟩
    | .far => ⟨⟨y, [], false⟩, ⟨[], false, [], false⟩, false, false, false⟩
  streams _ := ⟨[], false⟩

@[simp] theorem set_end_ends (tunnel : Joined) (side other : Side) (tunnelEnd : TunnelEnd) :
    (tunnel.setEnd side tunnelEnd).ends other = if other = side then tunnelEnd else tunnel.ends other :=
  Function.update_apply ..

@[simp] theorem set_end_streams (tunnel : Joined) (side other : Side) (tunnelEnd : TunnelEnd) :
    (tunnel.setEnd side tunnelEnd).streams other = tunnel.streams other := rfl

@[simp] theorem set_stream_streams (tunnel : Joined) (side other : Side) (stream : StreamHalf) :
    (tunnel.setStream side stream).streams other = if other = side then stream else tunnel.streams other :=
  Function.update_apply ..

@[simp] theorem set_stream_ends (tunnel : Joined) (side other : Side) (stream : StreamHalf) :
    (tunnel.setStream side stream).ends other = tunnel.ends other := rfl

-- The bytes of A that have left the near end.
def Joined.passed (tunnel : Joined) : List UInt8 :=
  (tunnel.ends .far).app.received ++ (tunnel.ends .far).conn.toApp ++ (tunnel.streams .near).data

-- A side has begun to close something.
def Joined.closing (tunnel : Joined) (side : Side) : Bool :=
  (tunnel.ends side).conn.closed || (tunnel.ends side).outDone || (tunnel.ends side).inDone || (tunnel.ends side).shut ||
    (tunnel.streams side).ended

structure HalfClosed (drains : Bool) (x : List UInt8) (tunnel : Joined) : Prop where
  waits : (tunnel.ends .far).app.sawEnd = false → (tunnel.ends .far).conn.toEnd = [] ∧ (tunnel.ends .far).conn.finished = false
  closed : (tunnel.ends .far).app.sawEnd = true → (tunnel.ends .far).conn.closed = true ∧ (tunnel.ends .far).conn.toApp = []
  quiet : (tunnel.streams .far).data = [] ∧ (tunnel.ends .near).conn.toApp = [] ∧ (tunnel.ends .near).app.received = []
  part : tunnel.passed <+: x
  kept : (tunnel.ends .near).conn.closed = false →
    tunnel.passed ++ ((tunnel.ends .near).conn.toEnd ++ (tunnel.ends .near).app.toSend) = x
  finished : (tunnel.ends .near).conn.finished = true → (tunnel.ends .near).app.toSend = []
  nearClosing : tunnel.closing .near = true → tunnel.passed = x
  farClosing : tunnel.closing .far = true → tunnel.passed = x ∧ (drains = true → (tunnel.streams .near).data = [])

-- What the end of a goroutine or of a pipe changes: marks of one side.
structure Settles (side : Side) (tunnel next : Joined) : Prop where
  app : ∀ other, (next.ends other).app = (tunnel.ends other).app
  toEnd : ∀ other, (next.ends other).conn.toEnd = (tunnel.ends other).conn.toEnd
  finished : ∀ other, (next.ends other).conn.finished = (tunnel.ends other).conn.finished
  toApp : ∀ other, (next.ends other).conn.toApp = (tunnel.ends other).conn.toApp
  data : ∀ other, (next.streams other).data = (tunnel.streams other).data
  closes : ∀ other, (tunnel.ends other).conn.closed = true → (next.ends other).conn.closed = true
  apart : next.closing side.other = tunnel.closing side.other

theorem settles_trans (side : Side) (first second third : Joined) (before : Settles side first second)
    (after : Settles side second third) : Settles side first third where
  app other := (after.app other).trans (before.app other)
  toEnd other := (after.toEnd other).trans (before.toEnd other)
  finished other := (after.finished other).trans (before.finished other)
  toApp other := (after.toApp other).trans (before.toApp other)
  data other := (after.data other).trans (before.data other)
  closes other closed := after.closes other (before.closes other closed)
  apart := after.apart.trans before.apart

theorem other_ne (side : Side) : side.other ≠ side := by cases side <;> decide

theorem end_stream_settles (tunnel : Joined) (side : Side) : Settles side tunnel (tunnel.endStream side) where
  app _ := rfl
  toEnd _ := rfl
  finished _ := rfl
  toApp _ := rfl
  data other := by
    by_cases same : other = side
    · simp [Joined.endStream, same]
    · simp [Joined.endStream, same]
  closes _ closed := closed
  apart := by simp [Joined.closing, Joined.endStream, other_ne]

theorem set_end_settles (tunnel : Joined) (side : Side) (tunnelEnd : TunnelEnd) (app : tunnelEnd.app = (tunnel.ends side).app)
    (conn : { tunnelEnd.conn with closed := (tunnel.ends side).conn.closed } = (tunnel.ends side).conn)
    (closes : (tunnel.ends side).conn.closed = true → tunnelEnd.conn.closed = true) :
    Settles side tunnel (tunnel.setEnd side tunnelEnd) := by
  have toEnd := congrArg TcpConn.toEnd conn
  have finished := congrArg TcpConn.finished conn
  have toApp := congrArg TcpConn.toApp conn
  refine ⟨?_, ?_, ?_, ?_, fun _ => rfl, ?_, by simp [Joined.closing, other_ne]⟩
  all_goals
    intro other
    by_cases same : other = side
    · simp_all
    · simp [same]

theorem close_conn_settles (tunnel : Joined) (side : Side) : Settles side tunnel (tunnel.closeConn side) :=
  set_end_settles tunnel side _ rfl rfl fun _ => rfl

theorem close_stream_settles (tunnel : Joined) (client side : Side) : Settles side tunnel (tunnel.closeStream client side) := by
  have shut := set_end_settles tunnel side { tunnel.ends side with shut := true } rfl rfl id
  unfold Joined.closeStream
  by_cases own : side = client
  · simp only [if_pos own]
    exact settles_trans side _ _ _ shut (end_stream_settles _ side)
  · simp only [if_neg own]
    exact shut

theorem close_both_settles (tunnel : Joined) (client side : Side) :
    Settles side tunnel ((tunnel.closeStream client side).closeConn side) :=
  settles_trans side _ _ _ (close_stream_settles tunnel client side) (close_conn_settles _ side)

theorem finish_out_settles (joint : Joint) (tunnel : Joined) (side : Side) : Settles side tunnel (joint.finishOut tunnel side) := by
  cases joint with
  | pipe => exact end_stream_settles tunnel side
  | pipeBiDir client drains => exact close_both_settles tunnel client side

theorem finish_in_settles (joint : Joint) (tunnel : Joined) (side : Side) : Settles side tunnel (joint.finishIn tunnel side) := by
  cases joint with
  | pipe => exact close_conn_settles tunnel side
  | pipeBiDir client drains => exact close_both_settles tunnel client side

section

variable (drains : Bool) (x : List UInt8) (tunnel next : Joined)

theorem settles_sound (side : Side) (sound : HalfClosed drains x tunnel) (settles : Settles side tunnel next)
    (all : tunnel.passed = x) (empty : side = .far → drains = true → (tunnel.streams .near).data = []) :
    HalfClosed drains x next := by
  have passed : next.passed = tunnel.passed := by
    simp only [Joined.passed, settles.app, settles.toApp, settles.data]
  refine ⟨?_, ?_, ?_, ?_, ?_, ?_, ?_, ?_⟩
  · rw [settles.app, settles.toEnd, settles.finished]
    exact sound.waits
  · rw [settles.app, settles.toApp]
    intro saw
    exact ⟨settles.closes .far (sound.closed saw).1, (sound.closed saw).2⟩
  · rw [settles.data, settles.toApp, settles.app]
    exact sound.quiet
  · rw [passed]
    exact sound.part
  · rw [passed, settles.toEnd, settles.app]
    intro opened
    apply sound.kept
    apply Bool.eq_false_iff.mpr
    intro closed
    cases opened.symm.trans (settles.closes .near closed)
  · rw [settles.finished, settles.app]
    exact sound.finished
  · intro _
    rw [passed, all]
  · intro closing
    refine ⟨by rw [passed, all], ?_⟩
    rw [settles.data]
    intro drained
    cases side with
    | far => exact empty rfl drained
    | near =>
        rw [show Side.far = Side.near.other from rfl, settles.apart] at closing
        exact (sound.farClosing closing).2 drained

theorem out_finished (side : Side) (sound : HalfClosed drains x tunnel)
    (ready : (tunnel.ends side).conn.closed = true ∨ (tunnel.ends side).conn.toEnd = [] ∧ (tunnel.ends side).conn.finished = true) :
    tunnel.passed = x ∧ (side = .far → drains = true → (tunnel.streams .near).data = []) := by
  cases side with
  | near =>
      refine ⟨?_, nofun⟩
      cases closed : (tunnel.ends .near).conn.closed with
      | true => exact sound.nearClosing (by simp [Joined.closing, closed])
      | false =>
          rw [closed] at ready
          obtain ⟨empty, finished⟩ := ready.resolve_left (by decide)
          have kept := sound.kept closed
          rwa [empty, sound.finished finished, List.append_nil, List.append_nil] at kept
  | far =>
      have closed : (tunnel.ends .far).conn.closed = true := by
        rcases ready with closed | ⟨_, finished⟩
        · exact closed
        · cases saw : (tunnel.ends .far).app.sawEnd with
          | true => exact (sound.closed saw).1
          | false => cases finished.symm.trans (sound.waits saw).2
      obtain ⟨all, empty⟩ := sound.farClosing (by simp [Joined.closing, closed])
      exact ⟨all, fun _ => empty⟩

theorem in_finished (side : Side) (sound : HalfClosed drains x tunnel)
    (ready : (tunnel.ends side).shut = true ∨ (tunnel.ends side).conn.closed = true ∧ (tunnel.streams side.other).data ≠ [] ∨
      (tunnel.streams side.other).ended = true ∧ (drains = true → (tunnel.streams side.other).data = [])) :
    tunnel.passed = x ∧ (side = .far → drains = true → (tunnel.streams .near).data = []) := by
  cases side with
  | near =>
      refine ⟨?_, nofun⟩
      rcases ready with shut | ⟨closed, _⟩ | ⟨ended, _⟩
      · exact sound.nearClosing (by simp [Joined.closing, shut])
      · exact sound.nearClosing (by simp [Joined.closing, closed])
      · have far : (tunnel.streams .far).ended = true := ended
        exact (sound.farClosing (by simp [Joined.closing, far])).1
  | far =>
      rcases ready with shut | ⟨closed, _⟩ | ⟨ended, empty⟩
      · obtain ⟨all, empty⟩ := sound.farClosing (by simp [Joined.closing, shut])
        exact ⟨all, fun _ => empty⟩
      · obtain ⟨all, empty⟩ := sound.farClosing (by simp [Joined.closing, closed])
        exact ⟨all, fun _ => empty⟩
      · have near : (tunnel.streams .near).ended = true := ended
        exact ⟨sound.nearClosing (by simp [Joined.closing, near]), fun _ => empty⟩

theorem pipe_left (side : Side) (sound : HalfClosed drains x tunnel) (done : (tunnel.ends side).outDone = true) :
    tunnel.passed = x ∧ (side = .far → drains = true → (tunnel.streams .near).data = []) := by
  cases side with
  | near => exact ⟨sound.nearClosing (by simp [Joined.closing, done]), nofun⟩
  | far =>
      obtain ⟨all, empty⟩ := sound.farClosing (by simp [Joined.closing, done])
      exact ⟨all, fun _ => empty⟩

theorem finish_out_sound (joint : Joint) (side : Side) (sound : HalfClosed drains x tunnel)
    (stepped : joinedStep joint tunnel (side, .finishOut) = some next) : HalfClosed drains x next := by
  obtain ⟨ready, moved⟩ := Option.ite_none_right_eq_some.mp stepped
  cases moved
  obtain ⟨all, empty⟩ := out_finished drains x tunnel side sound ready.2
  have marked := set_end_settles tunnel side { tunnel.ends side with outDone := true } rfl rfl id
  exact settles_sound drains x tunnel _ side sound (settles_trans side _ _ _ marked (finish_out_settles joint _ side)) all empty

theorem finish_in_sound (joint : Joint) (side : Side) (sound : HalfClosed joint.drains x tunnel)
    (stepped : joinedStep joint tunnel (side, .finishIn) = some next) : HalfClosed joint.drains x next := by
  obtain ⟨ready, moved⟩ := Option.ite_none_right_eq_some.mp stepped
  cases moved
  obtain ⟨all, empty⟩ := in_finished joint.drains x tunnel side sound ready.2
  have marked := set_end_settles tunnel side { tunnel.ends side with inDone := true } rfl rfl id
  exact settles_sound joint.drains x tunnel _ side sound (settles_trans side _ _ _ marked (finish_in_settles joint _ side)) all
    empty

theorem leave_sound (joint : Joint) (side : Side) (sound : HalfClosed drains x tunnel)
    (stepped : joinedStep joint tunnel (side, .leave) = some next) : HalfClosed drains x next := by
  obtain ⟨done, moved⟩ := Option.ite_none_right_eq_some.mp stepped
  cases moved
  obtain ⟨all, empty⟩ := pipe_left drains x tunnel side sound done.1
  exact settles_sound drains x tunnel _ side sound (end_stream_settles tunnel side) all empty

-- What B sends, it sends behind the Close of its connection.
theorem far_speaks (app : App) (conn : TcpConn) (sound : HalfClosed drains x tunnel) (saw : (tunnel.ends .far).app.sawEnd = true)
    (reader : app = { (tunnel.ends .far).app with toSend := app.toSend })
    (link : conn = { (tunnel.ends .far).conn with toEnd := conn.toEnd, finished := conn.finished }) :
    HalfClosed drains x (tunnel.setEnd .far { tunnel.ends .far with app := app, conn := conn }) := by
  rw [reader, link]
  refine ⟨?_, sound.closed, sound.quiet, sound.part, sound.kept, sound.finished, sound.nearClosing, sound.farClosing⟩
  intro waiting
  cases saw.symm.trans waiting

theorem app_send_sound (joint : Joint) (side : Side) (count : Nat) (sound : HalfClosed drains x tunnel)
    (stepped : joinedStep joint tunnel (side, .send count) = some next) : HalfClosed drains x next := by
  obtain ⟨may, moved⟩ := Option.ite_none_right_eq_some.mp stepped
  cases moved
  cases side with
  | near =>
      refine ⟨sound.waits, sound.closed, sound.quiet, sound.part, ?_, ?_, sound.nearClosing, sound.farClosing⟩
      · intro opened
        change (tunnel.ends .near).conn.closed = false at opened
        have kept := sound.kept opened
        simp only [set_end_ends, if_true, opened, Bool.false_eq_true, if_false, List.append_assoc, List.take_append_drop]
        exact kept
      · intro finished
        have sent := sound.finished finished
        simp [sent]
  | far => exact far_speaks drains x tunnel _ _ sound may rfl rfl

theorem app_finish_sound (joint : Joint) (side : Side) (sound : HalfClosed drains x tunnel)
    (stepped : joinedStep joint tunnel (side, .finish) = some next) : HalfClosed drains x next := by
  obtain ⟨may, moved⟩ := Option.ite_none_right_eq_some.mp stepped
  cases moved
  cases side with
  | near => exact ⟨sound.waits, sound.closed, sound.quiet, sound.part, sound.kept, fun _ => may.2, sound.nearClosing, sound.farClosing⟩
  | far => exact far_speaks drains x tunnel _ _ sound may.1 rfl rfl

theorem app_receive_sound (joint : Joint) (side : Side) (count : Nat) (sound : HalfClosed drains x tunnel)
    (stepped : joinedStep joint tunnel (side, .receive count) = some next) : HalfClosed drains x next := by
  cases stepped
  cases side with
  | near =>
      refine ⟨sound.waits, sound.closed, ?_, sound.part, sound.kept, sound.finished, sound.nearClosing, sound.farClosing⟩
      obtain ⟨quiet, empty, none⟩ := sound.quiet
      simp [quiet, empty, none]
  | far =>
      have same : (tunnel.setEnd .far { tunnel.ends .far with
          app := { (tunnel.ends .far).app with
            received := (tunnel.ends .far).app.received ++ (tunnel.ends .far).conn.toApp.take count }
          conn := { (tunnel.ends .far).conn with toApp := (tunnel.ends .far).conn.toApp.drop count } }).passed = tunnel.passed := by
        simp [Joined.passed]
      refine ⟨sound.waits, ?_, sound.quiet, ?_, ?_, sound.finished, ?_, ?_⟩
      · intro saw
        obtain ⟨closed, empty⟩ := sound.closed saw
        exact ⟨closed, by simp [empty]⟩
      · rw [same]
        exact sound.part
      · rw [same]
        exact sound.kept
      · rw [same]
        exact sound.nearClosing
      · rw [same]
        exact sound.farClosing

theorem app_see_end_sound (joint : Joint) (side : Side) (sound : HalfClosed drains x tunnel)
    (stepped : joinedStep joint tunnel (side, .seeEnd) = some next) : HalfClosed drains x next := by
  obtain ⟨ready, moved⟩ := Option.ite_none_right_eq_some.mp stepped
  cases moved
  cases side with
  | near => exact ⟨sound.waits, sound.closed, sound.quiet, sound.part, sound.kept, sound.finished, sound.nearClosing, sound.farClosing⟩
  | far =>
      exact ⟨nofun, fun _ => ready, sound.quiet, sound.part, sound.kept, sound.finished, sound.nearClosing, sound.farClosing⟩

theorem copy_out_sound (joint : Joint) (side : Side) (count : Nat) (sound : HalfClosed drains x tunnel)
    (stepped : joinedStep joint tunnel (side, .copyOut count) = some next) : HalfClosed drains x next := by
  obtain ⟨⟨_, opened, chunk⟩, copied⟩ := Option.ite_none_right_eq_some.mp stepped
  have moved := Option.some.inj copied
  cases side with
  | near =>
      have kept := sound.kept opened
      have passed : next.passed = tunnel.passed ++ (tunnel.ends .near).conn.toEnd.take count := by
        rw [← moved]
        simp [Joined.passed]
      have whole : next.passed ++ ((tunnel.ends .near).conn.toEnd.drop count ++ (tunnel.ends .near).app.toSend) = x := by
        rw [passed, List.append_assoc, ← List.append_assoc (List.take count _), List.take_append_drop]
        exact kept
      -- Nobody is closing yet: x has not passed whole.
      have more : tunnel.passed ≠ x := by
        intro all
        rw [all] at kept
        have empty := List.append_right_eq_self.mp kept
        rw [(List.append_eq_nil_iff.mp empty).1, List.take_nil] at chunk
        exact chunk rfl
      have nearOpen : next.closing .near = tunnel.closing .near := by
        rw [← moved]
        simp [Joined.closing]
      have farOpen : next.closing .far = tunnel.closing .far := by
        rw [← moved]
        simp [Joined.closing]
      refine ⟨?_, ?_, ?_, ⟨_, whole⟩, ?_, ?_, ?_, ?_⟩
      · rw [← moved]
        exact sound.waits
      · rw [← moved]
        exact sound.closed
      · rw [← moved]
        exact sound.quiet
      · intro _
        rw [← whole, ← moved]
        simp
      · rw [← moved]
        exact sound.finished
      · rw [nearOpen]
        exact fun closing => absurd (sound.nearClosing closing) more
      · rw [farOpen]
        exact fun closing => absurd (sound.farClosing closing).1 more
  | far =>
      cases saw : (tunnel.ends .far).app.sawEnd with
      | true => cases opened.symm.trans (sound.closed saw).1
      | false =>
          rw [(sound.waits saw).1, List.take_nil] at chunk
          exact absurd rfl chunk

theorem copy_in_sound (joint : Joint) (side : Side) (count : Nat) (sound : HalfClosed drains x tunnel)
    (stepped : joinedStep joint tunnel (side, .copyIn count) = some next) : HalfClosed drains x next := by
  obtain ⟨⟨_, _, opened, chunk⟩, copied⟩ := Option.ite_none_right_eq_some.mp stepped
  have moved := Option.some.inj copied
  cases side with
  | near =>
      have none : (tunnel.streams .far).data = [] := sound.quiet.1
      simp only [Side.other, none, List.take_nil, ne_eq, not_true_eq_false] at chunk
  | far =>
      have passed : next.passed = tunnel.passed := by
        rw [← moved]
        simp [Joined.passed, Side.other]
      have nearSame : next.closing .near = tunnel.closing .near ∧ next.ends .near = tunnel.ends .near := by
        rw [← moved]
        simp [Joined.closing, Side.other]
      have farSame : next.closing .far = tunnel.closing .far ∧ next.streams .far = tunnel.streams .far := by
        rw [← moved]
        simp [Joined.closing, Side.other]
      have data : (next.streams .near).data = (tunnel.streams .near).data.drop count := by
        rw [← moved]
        simp [Side.other]
      refine ⟨?_, ?_, ?_, ?_, ?_, ?_, ?_, ?_⟩
      · rw [← moved]
        exact sound.waits
      · rw [← moved]
        intro saw
        cases opened.symm.trans (sound.closed saw).1
      · rw [farSame.2, nearSame.2]
        exact sound.quiet
      · rw [passed]
        exact sound.part
      · rw [passed, nearSame.2]
        exact sound.kept
      · rw [nearSame.2]
        exact sound.finished
      · rw [nearSame.1, passed]
        exact sound.nearClosing
      · rw [farSame.1, passed, data]
        intro closing
        obtain ⟨all, empty⟩ := sound.farClosing closing
        exact ⟨all, fun drained => by rw [empty drained, List.drop_nil]⟩

end

theorem joined_step_sound (joint : Joint) (x : List UInt8) (tunnel : Joined) (event : Side × JoinedAction) (next : Joined)
    (sound : HalfClosed joint.drains x tunnel) (stepped : joinedStep joint tunnel event = some next) :
    HalfClosed joint.drains x next := by
  obtain ⟨side, action⟩ := event
  cases action with
  | send count => exact app_send_sound joint.drains x tunnel next joint side count sound stepped
  | finish => exact app_finish_sound joint.drains x tunnel next joint side sound stepped
  | receive count => exact app_receive_sound joint.drains x tunnel next joint side count sound stepped
  | seeEnd => exact app_see_end_sound joint.drains x tunnel next joint side sound stepped
  | copyOut count => exact copy_out_sound joint.drains x tunnel next joint side count sound stepped
  | finishOut => exact finish_out_sound joint.drains x tunnel next joint side sound stepped
  | copyIn count => exact copy_in_sound joint.drains x tunnel next joint side count sound stepped
  | finishIn => exact finish_in_sound x tunnel next joint side sound stepped
  | leave => exact leave_sound joint.drains x tunnel next joint side sound stepped

theorem new_joined_sound (drains : Bool) (x y : List UInt8) : HalfClosed drains x (newJoined x y) :=
  ⟨fun _ => ⟨rfl, rfl⟩, nofun, ⟨rfl, rfl, rfl⟩, ⟨x, rfl⟩, fun _ => rfl, nofun, nofun, nofun⟩

theorem half_close_outcome (joint : Joint) (x y : List UInt8) (events : List (Side × JoinedAction)) (last : Joined)
    (ran : run (joinedStep joint) (newJoined x y) events = some last) :
    (last.ends .near).app.received = [] ∧ (last.ends .far).app.received <+: x ∧
      (joint.drains = true → (last.ends .far).app.sawEnd = true → (last.ends .far).app.received = x) := by
  have sound : HalfClosed joint.drains x last :=
    run_preserves (joinedStep joint) (HalfClosed joint.drains x) (joined_step_sound joint x) _ last events
      (new_joined_sound joint.drains x y) ran
  refine ⟨sound.quiet.2.2, ?_, ?_⟩
  · have part := sound.part
    rw [Joined.passed, List.append_assoc] at part
    exact (List.prefix_append _ _).trans part
  · intro drained saw
    obtain ⟨closed, empty⟩ := sound.closed saw
    obtain ⟨all, flushed⟩ := sound.farClosing (by simp [Joined.closing, closed])
    rwa [Joined.passed, empty, flushed drained, List.append_nil, List.append_nil] at all

-- B answers behind the end of x, and its answer meets a connection that is closed.
def lostReply : List (Side × JoinedAction) :=
  [(.near, .send 1), (.near, .finish), (.near, .copyOut 1), (.near, .finishOut), (.far, .copyIn 1), (.far, .finishIn), (.far, .receive 1),
    (.far, .seeEnd), (.far, .send 1), (.far, .finish), (.far, .finishOut), (.near, .finishIn), (.near, .seeEnd)]

theorem half_close_outcome_lost :
    ∃ last, run (joinedStep .pipe) (newJoined [1] [2]) lostReply = some last ∧ (last.ends .far).app.received = [1] ∧
      (last.ends .near).app.received = [] := by
  refine ⟨_, rfl, ?_, ?_⟩
  · exact (half_close_outcome .pipe [1] [2] lostReply _ rfl).2.2 rfl rfl
  · exact (half_close_outcome .pipe [1] [2] lostReply _ rfl).1

theorem half_close_loses_reply :
    (∃ last, run (joinedStep .pipe) (newJoined [1] [2]) lostReply = some last ∧ (last.ends .far).app = ⟨[], [1], true⟩ ∧
        (last.ends .far).conn.finished = true ∧ (last.ends .near).app = ⟨[], [], true⟩) ∧
      ∃ last, run (joinedStep (.pipeBiDir .near true)) (newJoined [1] [2]) lostReply = some last ∧
        (last.ends .far).app = ⟨[], [1], true⟩ ∧ (last.ends .far).conn.finished = true ∧
        (last.ends .near).app = ⟨[], [], true⟩ :=
  ⟨⟨_, rfl, rfl, rfl, rfl⟩, _, rfl, rfl, rfl, rfl⟩

end WarpStream
