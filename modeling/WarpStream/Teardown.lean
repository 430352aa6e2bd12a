import WarpStream.HalfClose

set_option autoImplicit false

namespace WarpStream

open Transition

-- A tunnel between applications that may send and stop whenever they like.
inductive OpenEvent where
  | writes (side : Side) (data : List UInt8)
  | stops (side : Side)
  | acts (event : Side × JoinedAction)
deriving DecidableEq

def openStep (joint : Joint) : Step Joined OpenEvent
  | tunnel, .writes side data =>
      let current := tunnel.ends side
      some (tunnel.setEnd side { current with
        conn := { current.conn with
          toEnd := if current.conn.closed ∨ current.conn.finished then current.conn.toEnd else current.conn.toEnd ++ data } })
  | tunnel, .stops side =>
      let current := tunnel.ends side
      some (tunnel.setEnd side { current with conn := { current.conn with finished := true } })
  | tunnel, .acts event => joinedStep joint tunnel event

-- A Write into the stream of a side fails: the other end has gone or, over HTTP/2, the
-- client has closed the stream, which resets it for both.
def Joined.writeFails (joint : Joint) (tunnel : Joined) (side : Side) : Bool :=
  ((tunnel.ends side.other).outDone && (tunnel.ends side.other).inDone && (tunnel.streams side.other).ended) ||
    match joint with
    | .pipe => false
    | .pipeBiDir client _ => (tunnel.ends client).shut

-- What goes on without a further byte from outside: the moves of the tunnel, and the
-- applications taking what they are sent. Each stream and connection has room for so many
-- bytes; a goroutine that finds none stays in its Write, also in that of the last frame,
-- until there is some or the Write fails. A handler returns once, and that its stream is
-- over may have been told before.
def Joined.own (joint : Joint) (room : Nat) (tunnel : Joined) : Side × JoinedAction → Bool
  | (side, .receive count) => decide ((tunnel.ends side).conn.toApp.take count ≠ [])
  | (side, .copyOut count) =>
      decide ((tunnel.streams side).data.length + ((tunnel.ends side).conn.toEnd.take count).length ≤ room)
  | (side, .finishOut) => decide ((tunnel.streams side).data.length < room) || tunnel.writeFails joint side
  | (side, .copyIn count) =>
      decide ((tunnel.ends side).conn.toApp.length + ((tunnel.streams side.other).data.take count).length ≤ room)
  | (side, .finishIn) => decide ((tunnel.ends side).conn.toApp.length < room) || (tunnel.ends side).conn.closed
  | (side, .leave) => !(tunnel.streams side).ended
  | _ => false

def ownStep (joint : Joint) (room : Nat) : Step Joined (Side × JoinedAction)
  | tunnel, event => if tunnel.own joint room event then joinedStep joint tunnel event else none

-- What of a side is over.
structure Marks where
  outDone : Bool
  inDone : Bool
  shut : Bool
  closed : Bool
  ended : Bool

def Joined.marks (tunnel : Joined) (side : Side) : Marks :=
  ⟨(tunnel.ends side).outDone, (tunnel.ends side).inDone, (tunnel.ends side).shut, (tunnel.ends side).conn.closed,
    (tunnel.streams side).ended⟩

def Joint.markOut (joint : Joint) (side : Side) (marks : Marks) : Marks :=
  match joint with
  | .pipe => { marks with outDone := true, ended := true }
  | .pipeBiDir client _ =>
      { marks with outDone := true, shut := true, closed := true, ended := marks.ended || decide (side = client) }

def Joint.markIn (joint : Joint) (side : Side) (marks : Marks) : Marks :=
  match joint with
  | .pipe => { marks with inDone := true, closed := true }
  | .pipeBiDir client _ =>
      { marks with inDone := true, shut := true, closed := true, ended := marks.ended || decide (side = client) }

-- Everything a step can do to the marks.
inductive Marked (joint : Joint) (marks : Side → Marks) : (Side → Marks) → Prop where
  | same : Marked joint marks marks
  | out (side : Side) (running : (marks side).outDone = false) : Marked joint marks (Function.update marks side (joint.markOut side (marks side)))
  | into (side : Side) (running : (marks side).inDone = false)
      (why : (marks side).shut = true ∨ (marks side).closed = true ∨ (marks side.other).ended = true) :
      Marked joint marks (Function.update marks side (joint.markIn side (marks side)))
  | left (side : Side) (out : (marks side).outDone = true) (into : (marks side).inDone = true) :
      Marked joint marks (Function.update marks side { marks side with ended := true })

section

variable (joint : Joint) (tunnel : Joined) (side : Side)

-- Bytes and applications are no marks.
theorem set_end_marks (app : App) (toEnd toApp : List UInt8) (finished : Bool) : (tunnel.setEnd side { tunnel.ends side with
    app := app, conn := ⟨toEnd, finished, toApp, (tunnel.ends side).conn.closed⟩ }).marks = tunnel.marks := by
  funext other
  rw [Joined.marks, Joined.marks, set_end_ends, set_end_streams]
  by_cases same : other = side
  · rw [if_pos same, same]
  · rw [if_neg same]

theorem set_stream_marks (data : List UInt8) :
    (tunnel.setStream side ⟨data, (tunnel.streams side).ended⟩).marks = tunnel.marks := by
  funext other
  rw [Joined.marks, Joined.marks, set_stream_ends, set_stream_streams]
  by_cases same : other = side
  · rw [if_pos same, same]
  · rw [if_neg same]

theorem end_stream_marks : (tunnel.endStream side).marks = Function.update tunnel.marks side { tunnel.marks side with ended := true } := by
  funext other
  by_cases same : other = side
  · subst same
    simp [Joined.marks, Joined.endStream]
  · simp [Joined.marks, Joined.endStream, same]

theorem close_both_marks (client : Side) : ((tunnel.closeStream client side).closeConn side).marks = Function.update tunnel.marks side
    { tunnel.marks side with shut := true, closed := true, ended := (tunnel.marks side).ended || decide (side = client) } := by
  funext other
  by_cases same : other = side
  · subst same
    by_cases own : other = client <;> simp [Joined.marks, Joined.closeConn, Joined.closeStream, Joined.endStream, own]
  · by_cases own : side = client
    · subst own
      simp [Joined.marks, Joined.closeConn, Joined.closeStream, Joined.endStream, same]
    · simp [Joined.marks, Joined.closeConn, Joined.closeStream, own, same]

theorem finish_out_marks : (joint.finishOut (tunnel.setEnd side { tunnel.ends side with outDone := true }) side).marks =
    Function.update tunnel.marks side (joint.markOut side (tunnel.marks side)) := by
  have apart : ∀ other, other ≠ side → (tunnel.setEnd side { tunnel.ends side with outDone := true }).marks other = tunnel.marks other :=
    fun other apart => by simp [Joined.marks, apart]
  funext other
  cases joint with
  | pipe =>
      rw [Joint.finishOut, end_stream_marks]
      by_cases same : other = side
      · subst same
        simp [Joint.markOut, Joined.marks]
      · simp [same, apart]
  | pipeBiDir client drains =>
      rw [Joint.finishOut, close_both_marks]
      by_cases same : other = side
      · subst same
        simp [Joint.markOut, Joined.marks]
      · simp [same, apart]

theorem finish_in_marks : (joint.finishIn (tunnel.setEnd side { tunnel.ends side with inDone := true }) side).marks =
    Function.update tunnel.marks side (joint.markIn side (tunnel.marks side)) := by
  have apart : ∀ other, other ≠ side → (tunnel.setEnd side { tunnel.ends side with inDone := true }).marks other = tunnel.marks other :=
    fun other apart => by simp [Joined.marks, apart]
  funext other
  cases joint with
  | pipe =>
      by_cases same : other = side
      · subst same
        simp [Joint.finishIn, Joined.closeConn, Joint.markIn, Joined.marks]
      · simp [Joint.finishIn, Joined.closeConn, Joined.marks, same]
  | pipeBiDir client drains =>
      rw [Joint.finishIn, close_both_marks]
      by_cases same : other = side
      · subst same
        simp [Joint.markIn, Joined.marks]
      · simp [same, apart]

end

theorem joined_step_marked (joint : Joint) (tunnel next : Joined) (event : Side × JoinedAction)
    (stepped : joinedStep joint tunnel event = some next) : Marked joint tunnel.marks next.marks := by
  have still : next.marks = tunnel.marks → Marked joint tunnel.marks next.marks := fun same => same ▸ .same
  obtain ⟨side, action⟩ := event
  cases action with
  | send count =>
      obtain ⟨_, same⟩ := Option.ite_none_right_eq_some.mp stepped
      cases same
      exact still (set_end_marks tunnel side _ _ _ _)
  | finish =>
      obtain ⟨_, same⟩ := Option.ite_none_right_eq_some.mp stepped
      cases same
      exact still (set_end_marks tunnel side _ _ _ _)
  | receive count =>
      cases stepped
      exact still (set_end_marks tunnel side _ _ _ _)
  | seeEnd =>
      obtain ⟨_, same⟩ := Option.ite_none_right_eq_some.mp stepped
      cases same
      exact still (set_end_marks tunnel side _ _ _ _)
  | copyOut count =>
      obtain ⟨_, same⟩ := Option.ite_none_right_eq_some.mp stepped
      cases same
      exact still ((set_stream_marks _ side _).trans (set_end_marks tunnel side _ _ _ _))
  | finishOut =>
      obtain ⟨⟨running, _⟩, same⟩ := Option.ite_none_right_eq_some.mp stepped
      cases same
      rw [finish_out_marks]
      exact .out side running
  | copyIn count =>
      obtain ⟨_, same⟩ := Option.ite_none_right_eq_some.mp stepped
      cases same
      exact still ((set_stream_marks _ side.other _).trans (set_end_marks tunnel side _ _ _ _))
  | finishIn =>
      obtain ⟨⟨running, why⟩, same⟩ := Option.ite_none_right_eq_some.mp stepped
      cases same
      rw [finish_in_marks]
      exact .into side running (why.imp_right (Or.imp And.left And.left))
  | leave =>
      obtain ⟨⟨out, into⟩, same⟩ := Option.ite_none_right_eq_some.mp stepped
      cases same
      rw [end_stream_marks]
      exact .left side out into

theorem unshutstep_marked (joint : Joint) (tunnel next : Joined) (event : OpenEvent) (stepped : openStep joint tunnel event = some next) :
    Marked joint tunnel.marks next.marks := by
  cases event with
  | writes side data =>
      cases stepped
      exact set_end_marks tunnel side _ _ _ _ ▸ .same
  | stops side =>
      cases stepped
      exact set_end_marks tunnel side _ _ _ _ ▸ .same
  | acts event => exact joined_step_marked joint tunnel next event stepped

theorem own_step_marked (joint : Joint) (room : Nat) (tunnel next : Joined) (event : Side × JoinedAction)
    (stepped : ownStep joint room tunnel event = some next) : Marked joint tunnel.marks next.marks :=
  joined_step_marked joint tunnel next event (Option.ite_none_right_eq_some.mp stepped).2

-- What a goroutine that has ended has told the peer or its own connection. Pipe closes the
-- connection only at the end of the stream; PipeBiDir closes all of its side, and the
-- client's side takes the request body with it.
structure Told (joint : Joint) (side : Side) (own other : Marks) : Prop where
  out : own.outDone = true → own.ended = true ∨ own.shut = true
  into : own.inDone = true → own.closed = true
  pipe : joint = .pipe → own.shut = false ∧ (own.closed = true → own.inDone = true) ∧ (own.ended = true → own.outDone = true) ∧
    (own.inDone = true → other.ended = true)
  biDir : ∀ client drains, joint = .pipeBiDir client drains →
    (own.inDone = true → own.shut = true) ∧ (side = client → own.shut = true → own.ended = true)

def Announced (joint : Joint) (marks : Side → Marks) : Prop := ∀ side, Told joint side (marks side) (marks side.other)

@[simp] theorem other_other (side : Side) : side.other.other = side := by
  cases side <;> rfl

theorem side_cases (side other : Side) : other = side ∨ other = side.other := by
  cases side <;> cases other <;> decide

-- The other side only asks whether the stream has ended.
theorem update_announced (joint : Joint) (marks : Side → Marks) (side : Side) (own : Marks) (announced : Announced joint marks)
    (told : Told joint side own (marks side.other)) (ends : (marks side).ended = true → own.ended = true) :
    Announced joint (Function.update marks side own) := by
  intro other
  rcases side_cases side other with rfl | rfl
  · rwa [Function.update_self, Function.update_of_ne (other_ne other)]
  · have kept := announced side.other
    rw [other_other] at kept ⊢
    rw [Function.update_self, Function.update_of_ne (other_ne side)]
    refine ⟨kept.out, kept.into, fun joined => ?_, kept.biDir⟩
    obtain ⟨unshut, closed, ended, into⟩ := kept.pipe joined
    exact ⟨unshut, closed, ended, fun done => ends (into done)⟩

theorem close_both_told (client side : Side) (drains outDone inDone ended : Bool) (other : Marks) :
    Told (.pipeBiDir client drains) side ⟨outDone, inDone, true, true, ended || decide (side = client)⟩ other where
  out _ := .inr rfl
  into _ := rfl
  pipe := by rintro ⟨⟩
  biDir := by
    rintro _ _ ⟨⟩
    exact ⟨fun _ => rfl, fun own _ => by simp [own]⟩

theorem mark_out_told (joint : Joint) (side : Side) (own other : Marks) (told : Told joint side own other) :
    Told joint side (joint.markOut side own) other := by
  cases joint with
  | pipe =>
      obtain ⟨unshut, closed, _, into⟩ := told.pipe rfl
      exact ⟨fun _ => .inl rfl, told.into, fun _ => ⟨unshut, closed, fun _ => rfl, into⟩, by rintro _ _ ⟨⟩⟩
  | pipeBiDir client drains => exact close_both_told client side drains true own.inDone own.ended other

theorem mark_in_told (joint : Joint) (side : Side) (own other : Marks) (told : Told joint side own other) (running : own.inDone = false)
    (why : own.shut = true ∨ own.closed = true ∨ other.ended = true) : Told joint side (joint.markIn side own) other := by
  cases joint with
  | pipe =>
      obtain ⟨unshut, closed, ended, _⟩ := told.pipe rfl
      have past : other.ended = true := by
        rcases why with shut | close | past
        · cases unshut.symm.trans shut
        · cases running.symm.trans (closed close)
        · exact past
      exact ⟨told.out, fun _ => rfl, fun _ => ⟨unshut, fun _ => rfl, ended, fun _ => past⟩, by rintro _ _ ⟨⟩⟩
  | pipeBiDir client drains => exact close_both_told client side drains own.outDone true own.ended other

theorem mark_left_told (joint : Joint) (side : Side) (own other : Marks) (told : Told joint side own other)
    (out : own.outDone = true) : Told joint side { own with ended := true } other where
  out _ := .inl rfl
  into := told.into
  pipe joined := ⟨(told.pipe joined).1, (told.pipe joined).2.1, fun _ => out, (told.pipe joined).2.2.2⟩
  biDir client drains joined := ⟨(told.biDir client drains joined).1, fun _ _ => rfl⟩

theorem mark_out_ended (joint : Joint) (side : Side) (marks : Marks) (ended : marks.ended = true) :
    (joint.markOut side marks).ended = true := by
  cases joint <;> simp [Joint.markOut, ended]

theorem mark_in_ended (joint : Joint) (side : Side) (marks : Marks) (ended : marks.ended = true) :
    (joint.markIn side marks).ended = true := by
  cases joint <;> simp [Joint.markIn, ended]

theorem marked_announced (joint : Joint) (marks next : Side → Marks) (announced : Announced joint marks)
    (marked : Marked joint marks next) : Announced joint next := by
  cases marked with
  | same => exact announced
  | out side _ =>
      exact update_announced joint marks side _ announced (mark_out_told joint side _ _ (announced side)) (mark_out_ended joint side _)
  | into side running why =>
      exact update_announced joint marks side _ announced (mark_in_told joint side _ _ (announced side) running why)
        (mark_in_ended joint side _)
  | left side out _ =>
      exact update_announced joint marks side _ announced (mark_left_told joint side _ _ (announced side) out) fun _ => rfl

theorem new_joined_announced (joint : Joint) (x y : List UInt8) : Announced joint (newJoined x y).marks := by
  intro side
  cases side <;> exact ⟨by rintro ⟨⟩, by rintro ⟨⟩, fun _ => ⟨rfl, by rintro ⟨⟩, by rintro ⟨⟩, by rintro ⟨⟩⟩,
    fun _ _ _ => ⟨by rintro ⟨⟩, by rintro _ ⟨⟩⟩⟩

-- The bytes that a side has to move, each as often as it is still moved: into the stream,
-- out of it and to the application.
def Joined.load (tunnel : Joined) (side : Side) : Nat :=
  3 * (tunnel.ends side).conn.toEnd.length + 2 * (tunnel.streams side).data.length + (tunnel.ends side).conn.toApp.length

def Marks.running (marks : Marks) : Nat := (!marks.outDone).toNat + (!marks.inDone).toNat + (!marks.ended).toNat

def Joined.workAt (tunnel : Joined) (side : Side) : Nat := tunnel.load side + (tunnel.marks side).running

def Joined.work (tunnel : Joined) : Nat := tunnel.workAt .near + tunnel.workAt .far

theorem work_sides (tunnel : Joined) (side : Side) : tunnel.work = tunnel.workAt side + tunnel.workAt side.other := by
  cases side with
  | near => rfl
  | far => exact Nat.add_comm _ _

theorem settles_load (tunnel next : Joined) (side other : Side) (settles : Settles side tunnel next) :
    next.load other = tunnel.load other := by
  rw [Joined.load, Joined.load, settles.toEnd, settles.toApp, settles.data]

theorem not_to_nat_le (before after : Bool) (grows : before = true → after = true) : (!after).toNat ≤ (!before).toNat := by
  cases before with
  | false => cases after <;> decide
  | true => exact Nat.le_of_eq (by rw [grows rfl])

theorem mark_out_open (joint : Joint) (side : Side) (marks : Marks) (running : marks.outDone = false) :
    (joint.markOut side marks).running < marks.running := by
  have ended := not_to_nat_le _ _ (mark_out_ended joint side marks)
  have out : (joint.markOut side marks).outDone = true := by cases joint <;> rfl
  have into : (joint.markOut side marks).inDone = marks.inDone := by cases joint <;> rfl
  rw [Marks.running, Marks.running, out, into, running, Bool.not_true, Bool.not_false, Bool.toNat_false, Bool.toNat_true]
  omega

theorem mark_in_open (joint : Joint) (side : Side) (marks : Marks) (running : marks.inDone = false) :
    (joint.markIn side marks).running < marks.running := by
  have ended := not_to_nat_le _ _ (mark_in_ended joint side marks)
  have out : (joint.markIn side marks).outDone = marks.outDone := by cases joint <;> rfl
  have into : (joint.markIn side marks).inDone = true := by cases joint <;> rfl
  rw [Marks.running, Marks.running, out, into, running, Bool.not_true, Bool.not_false, Bool.toNat_false, Bool.toNat_true]
  omega

-- Something is over more than before, and no byte is touched.
theorem update_work (tunnel next : Joined) (side : Side) (own : Marks) (settles : Settles side tunnel next)
    (marks : next.marks = Function.update tunnel.marks side own) (less : own.running < (tunnel.marks side).running) :
    next.work < tunnel.work := by
  have load := fun other => settles_load tunnel next side other settles
  rw [work_sides next side, work_sides tunnel side]
  simp only [Joined.workAt, load, marks, Function.update_self, Function.update_of_ne (other_ne side)]
  omega

-- Some byte is moved on, and nothing else changes.
theorem load_work (tunnel next : Joined) (side : Side) (marks : next.marks = tunnel.marks)
    (less : next.load side + next.load side.other < tunnel.load side + tunnel.load side.other) : next.work < tunnel.work := by
  rw [work_sides next side, work_sides tunnel side]
  simp only [Joined.workAt, marks]
  omega

theorem taken_some {α : Type} (count : Nat) (data : List α) (found : data.take count ≠ []) :
    (data.drop count).length + (data.take count).length = data.length ∧ 0 < (data.take count).length := by
  refine ⟨?_, List.length_pos_iff.mpr found⟩
  rw [Nat.add_comm, ← List.length_append, List.take_append_drop]

theorem ne_other (side : Side) : side ≠ side.other := (other_ne side).symm

theorem own_step_work (joint : Joint) (room : Nat) (tunnel next : Joined) (event : Side × JoinedAction)
    (stepped : ownStep joint room tunnel event = some next) : next.work < tunnel.work := by
  obtain ⟨own, moved⟩ := Option.ite_none_right_eq_some.mp stepped
  obtain ⟨side, action⟩ := event
  cases action with
  | send count => cases own
  | finish => cases own
  | seeEnd => cases own
  | receive count =>
      cases moved
      have taken := taken_some count _ (of_decide_eq_true own)
      refine load_work tunnel _ side (set_end_marks tunnel side _ _ _ _) ?_
      simp only [Joined.load, set_end_ends, set_end_streams, if_true, other_ne, if_false]
      omega
  | copyOut count =>
      obtain ⟨⟨_, _, found⟩, same⟩ := Option.ite_none_right_eq_some.mp moved
      cases same
      have copied := taken_some count _ found
      refine load_work tunnel _ side ((set_stream_marks _ side _).trans (set_end_marks tunnel side _ _ _ _)) ?_
      simp only [Joined.load, set_stream_ends, set_end_ends, set_stream_streams, set_end_streams, if_true, other_ne, if_false,
        List.length_append]
      omega
  | copyIn count =>
      obtain ⟨⟨_, _, _, found⟩, same⟩ := Option.ite_none_right_eq_some.mp moved
      cases same
      have copied := taken_some count _ found
      refine load_work tunnel _ side ((set_stream_marks _ side.other _).trans (set_end_marks tunnel side _ _ _ _)) ?_
      simp only [Joined.load, set_stream_ends, set_end_ends, set_stream_streams, set_end_streams, if_true, other_ne, ne_other, if_false,
        List.length_append]
      omega
  | finishOut =>
      obtain ⟨⟨running, _⟩, same⟩ := Option.ite_none_right_eq_some.mp moved
      cases same
      have settles := settles_trans side _ _ _ (set_end_settles tunnel side { tunnel.ends side with outDone := true } rfl rfl id)
        (finish_out_settles joint _ side)
      exact update_work tunnel _ side _ settles (finish_out_marks joint tunnel side) (mark_out_open joint side _ running)
  | finishIn =>
      obtain ⟨⟨running, _⟩, same⟩ := Option.ite_none_right_eq_some.mp moved
      cases same
      have settles := settles_trans side _ _ _ (set_end_settles tunnel side { tunnel.ends side with inDone := true } rfl rfl id)
        (finish_in_settles joint _ side)
      exact update_work tunnel _ side _ settles (finish_in_marks joint tunnel side) (mark_in_open joint side _ running)
  | leave =>
      obtain ⟨_, same⟩ := Option.ite_none_right_eq_some.mp moved
      cases same
      have running : (tunnel.marks side).ended = false := (Bool.not_eq_true' _).mp own
      refine update_work tunnel _ side _ (end_stream_settles tunnel side) (end_stream_marks tunnel side) ?_
      simp [Marks.running, running]

structure TornDown (tunnel : Joined) : Prop where
  goroutines : ∀ side, (tunnel.ends side).outDone = true ∧ (tunnel.ends side).inDone = true
  conns : ∀ side, (tunnel.ends side).conn.closed = true
  streams : ∀ side, (tunnel.streams side).ended = true

def Marks.any (marks : Marks) : Bool := marks.outDone || marks.inDone || marks.shut || marks.closed || marks.ended

-- Some application has stopped sending, or something is over already.
def Ending (tunnel : Joined) : Prop := ∃ side, (tunnel.ends side).conn.finished = true ∨ (tunnel.marks side).any = true

-- Nothing is left that the tunnel and its applications do by themselves.
def Quiet (joint : Joint) (room : Nat) (tunnel : Joined) : Prop := ∀ event, ownStep joint room tunnel event = none

theorem refused_guard {α : Type} (guard : Prop) [Decidable guard] (value : α) (refused : (if guard then some value else none) = none) :
    ¬ guard := by
  intro holds
  rw [if_pos holds] at refused
  cases refused

section

variable (joint : Joint) (room : Nat) (positive : 0 < room) (tunnel : Joined) (quiet : Quiet joint room tunnel) (side : Side)

include quiet

theorem quiet_refuses (action : JoinedAction) (own : tunnel.own joint room (side, action) = true) :
    joinedStep joint tunnel (side, action) = none := by
  have refused := quiet (side, action)
  rwa [ownStep, if_pos own] at refused

theorem quiet_received : (tunnel.ends side).conn.toApp = [] := by
  apply Decidable.byContradiction
  intro waiting
  have own : tunnel.own joint room (side, .receive (tunnel.ends side).conn.toApp.length) = true := by
    refine decide_eq_true ?_
    rwa [List.take_length]
  cases quiet_refuses joint room tunnel quiet side _ own

theorem quiet_left (out : (tunnel.ends side).outDone = true) (into : (tunnel.ends side).inDone = true) :
    (tunnel.streams side).ended = true := by
  apply Bool.of_not_eq_false
  intro running
  have own : tunnel.own joint room (side, .leave) = true := by rw [Joined.own, running]; rfl
  exact refused_guard _ _ (quiet_refuses joint room tunnel quiet side .leave own) ⟨out, into⟩

include positive

theorem quiet_stays_in : ¬ ((tunnel.ends side).inDone = false ∧ ((tunnel.ends side).shut = true ∨
    (tunnel.ends side).conn.closed = true ∧ (tunnel.streams side.other).data ≠ [] ∨
    (tunnel.streams side.other).ended = true ∧ (joint.drains = true → (tunnel.streams side.other).data = []))) := by
  have own : tunnel.own joint room (side, .finishIn) = true := by
    rw [Joined.own, quiet_received joint room tunnel quiet side]
    exact Bool.or_eq_true_iff.mpr (.inl (decide_eq_true positive))
  exact refused_guard _ _ (quiet_refuses joint room tunnel quiet side .finishIn own)

-- The application reads, so bytes stay in a stream only after its reader.
theorem quiet_unread (unread : (tunnel.streams side.other).data ≠ []) : (tunnel.ends side).inDone = true := by
  apply Bool.of_not_eq_false
  intro running
  have stays := quiet_stays_in joint room positive tunnel quiet side
  have first : ((tunnel.streams side.other).data.take 1).length ≤ 1 := List.length_take_le 1 _
  have own : tunnel.own joint room (side, .copyIn 1) = true := by
    refine decide_eq_true ?_
    rw [quiet_received joint room tunnel quiet side, List.length_nil]
    omega
  have copies := refused_guard _ _ (quiet_refuses joint room tunnel quiet side (.copyIn 1) own)
  cases shut : (tunnel.ends side).shut with
  | true => exact stays ⟨running, .inl shut⟩
  | false =>
      cases closed : (tunnel.ends side).conn.closed with
      | true => exact stays ⟨running, .inr (.inl ⟨closed, unread⟩)⟩
      | false =>
          refine copies ⟨running, shut, closed, fun none => ?_⟩
          rcases List.take_eq_nil_iff.mp none with zero | empty
          · cases zero
          · exact unread empty

theorem quiet_into (stopped : (tunnel.ends side).shut = true ∨ (tunnel.streams side.other).ended = true) :
    (tunnel.ends side).inDone = true := by
  by_cases empty : (tunnel.streams side.other).data = []
  · apply Bool.of_not_eq_false
    intro running
    refine quiet_stays_in joint room positive tunnel quiet side ⟨running, ?_⟩
    rcases stopped with shut | ended
    · exact .inl shut
    · exact .inr (.inr ⟨ended, fun _ => empty⟩)
  · exact quiet_unread joint room positive tunnel quiet side empty

-- A goroutine that ought to have ended is in a Write that does not fail.
theorem quiet_blocked (running : (tunnel.ends side).outDone = false)
    (stopped : (tunnel.ends side).conn.finished = true ∨ (tunnel.ends side).conn.closed = true) :
    (tunnel.streams side).data ≠ [] ∧ ((tunnel.ends side).conn.closed = true → tunnel.writeFails joint side = false) := by
  have full : ¬ (tunnel.streams side).data.length < room → (tunnel.streams side).data ≠ [] := by
    intro full empty
    rw [empty] at full
    exact full positive
  -- Where the goroutine has nothing to copy only its last Write holds it.
  have last : (tunnel.ends side).conn.closed = true ∨ (tunnel.ends side).conn.toEnd = [] ∧ (tunnel.ends side).conn.finished = true →
      ¬ (tunnel.streams side).data.length < room ∧ tunnel.writeFails joint side = false := by
    intro stopped
    have blocked : ¬ tunnel.own joint room (side, .finishOut) = true := fun own =>
      refused_guard _ _ (quiet_refuses joint room tunnel quiet side .finishOut own) ⟨running, stopped⟩
    rw [Joined.own, Bool.not_eq_true, Bool.or_eq_false_iff] at blocked
    exact ⟨of_decide_eq_false blocked.1, blocked.2⟩
  cases closed : (tunnel.ends side).conn.closed with
  | true => exact ⟨full (last (.inl closed)).1, fun _ => (last (.inl closed)).2⟩
  | false =>
      refine ⟨?_, fun is => by cases is⟩
      have finished := stopped.resolve_right (Bool.eq_false_iff.mp closed)
      by_cases empty : (tunnel.ends side).conn.toEnd = []
      · exact full (last (.inr ⟨empty, finished⟩)).1
      · have first : ((tunnel.ends side).conn.toEnd.take 1).length ≤ 1 := List.length_take_le 1 _
        refine full fun less => ?_
        have own : tunnel.own joint room (side, .copyOut 1) = true := by
          refine decide_eq_true ?_
          omega
        refine refused_guard _ _ (quiet_refuses joint room tunnel quiet side (.copyOut 1) own) ⟨running, closed, fun none => ?_⟩
        rcases List.take_eq_nil_iff.mp none with zero | nothing
        · cases zero
        · exact empty nothing

variable (announced : Announced joint tunnel.marks)

include announced

-- Over HTTP/2 the one whose client has gone is told by a reset, and the client by the
-- answer of a server that has gone.
theorem quiet_out_bi_dir (client : Side) (drains : Bool) (joined : joint = .pipeBiDir client drains)
    (stopped : (tunnel.ends side).conn.finished = true ∨ (tunnel.ends side).conn.closed = true) :
    (tunnel.ends side).outDone = true := by
  apply Bool.of_not_eq_false
  intro running
  obtain ⟨full, blocked⟩ := quiet_blocked joint room positive tunnel quiet side running stopped
  have reader : (tunnel.ends side.other).inDone = true :=
    quiet_unread joint room positive tunnel quiet side.other (by rwa [other_other])
  have reset : (tunnel.ends client).shut = true → ∀ any, tunnel.writeFails joint any = true := by
    intro shut any
    simp [Joined.writeFails, joined, shut]
  -- The stream of the other side has ended, so that this side closes its connection.
  have closes : (tunnel.streams side.other).ended = true → (tunnel.ends side).conn.closed = true := fun ended =>
    (announced side).into (quiet_into joint room positive tunnel quiet side (.inr ended))
  by_cases own : side = client
  · have gone : (tunnel.ends side.other).outDone = true := by
      apply Bool.of_not_eq_false
      intro working
      have close := (announced side.other).into reader
      obtain ⟨unread, fails⟩ := quiet_blocked joint room positive tunnel quiet side.other working (.inr close)
      have shut := ((announced side).biDir client drains joined).1 (quiet_unread joint room positive tunnel quiet side unread)
      cases (fails close).symm.trans (reset (own ▸ shut) side.other)
    have ended := quiet_left joint room tunnel quiet side.other gone reader
    have fails : tunnel.writeFails joint side = true := by simp [Joined.writeFails, gone, reader, ended]
    cases (blocked (closes ended)).symm.trans fails
  · have other : side.other = client := by
      rcases side_cases side client with same | same
      · exact absurd same.symm own
      · exact same.symm
    have told := (announced side.other).biDir client drains joined
    have shut := told.1 reader
    cases (blocked (closes (told.2 other shut))).symm.trans (reset (other ▸ shut) side)

theorem quiet_out (stopped : (tunnel.ends side).conn.finished = true ∨ (tunnel.ends side).conn.closed = true) :
    (tunnel.ends side).outDone = true := by
  cases kind : joint with
  | pipeBiDir client drains => exact quiet_out_bi_dir joint room positive tunnel quiet side announced client drains kind stopped
  | pipe =>
      apply Bool.of_not_eq_false
      intro running
      obtain ⟨full, _⟩ := quiet_blocked joint room positive tunnel quiet side running stopped
      have reader := quiet_unread joint room positive tunnel quiet side.other (by rwa [other_other])
      -- The reader has come to the end of the stream, which is behind the last Write.
      have ended := ((announced side.other).pipe kind).2.2.2 reader
      rw [other_other] at ended
      cases running.symm.trans (((announced side).pipe kind).2.2.1 ended)

-- Once a connection is closed its stream ends.
theorem quiet_closed (closed : (tunnel.ends side).conn.closed = true) : (tunnel.streams side).ended = true := by
  have out := quiet_out joint room positive tunnel quiet side announced (.inr closed)
  rcases (announced side).out out with ended | shut
  · exact ended
  · exact quiet_left joint room tunnel quiet side out (quiet_into joint room positive tunnel quiet side (.inl shut))

-- Once a stream has ended the connection at its other end is closed.
theorem quiet_ended (ended : (tunnel.streams side.other).ended = true) : (tunnel.ends side).conn.closed = true :=
  (announced side).into (quiet_into joint room positive tunnel quiet side (.inr ended))

theorem quiet_torn_down (closed : (tunnel.ends side).conn.closed = true) : TornDown tunnel := by
  have ended := quiet_closed joint room positive tunnel quiet side announced closed
  have far := quiet_ended joint room positive tunnel quiet side.other announced (by rwa [other_other])
  have back := quiet_closed joint room positive tunnel quiet side.other announced far
  have both : ∀ property : Side → Prop, property side → property side.other → ∀ any, property any := by
    intro property here there any
    rcases side_cases side any with rfl | rfl <;> assumption
  refine ⟨?_, both (fun any => (tunnel.ends any).conn.closed = true) closed far,
    both (fun any => (tunnel.streams any).ended = true) ended back⟩
  apply both (fun any => (tunnel.ends any).outDone = true ∧ (tunnel.ends any).inDone = true)
  · exact ⟨quiet_out joint room positive tunnel quiet side announced (.inr closed),
      quiet_into joint room positive tunnel quiet side (.inr back)⟩
  · exact ⟨quiet_out joint room positive tunnel quiet side.other announced (.inr far),
      quiet_into joint room positive tunnel quiet side.other (.inr (by rwa [other_other]))⟩

end

theorem quiet_ending (joint : Joint) (room : Nat) (positive : 0 < room) (tunnel : Joined) (quiet : Quiet joint room tunnel)
    (announced : Announced joint tunnel.marks) (ending : Ending tunnel) : TornDown tunnel := by
  obtain ⟨side, stops⟩ := ending
  have closes := quiet_torn_down joint room positive tunnel quiet side announced
  have shuts : (tunnel.ends side).shut = true → TornDown tunnel := fun shut =>
    closes ((announced side).into (quiet_into joint room positive tunnel quiet side (.inl shut)))
  have ends : (tunnel.streams side).ended = true → TornDown tunnel := fun ended =>
    quiet_torn_down joint room positive tunnel quiet side.other announced
      (quiet_ended joint room positive tunnel quiet side.other announced (by rwa [other_other]))
  have outs : (tunnel.ends side).outDone = true → TornDown tunnel := fun out => ((announced side).out out).elim ends shuts
  rcases stops with finished | past
  · exact outs (quiet_out joint room positive tunnel quiet side announced (.inl finished))
  · simp only [Marks.any, Bool.or_eq_true] at past
    rcases past with (((out | into) | shut) | closed) | ended
    · exact outs out
    · exact closes ((announced side).into into)
    · exact shuts shut
    · exact closes closed
    · exact ends ended

theorem torn_down_quiet (joint : Joint) (room : Nat) (tunnel : Joined) (torn : TornDown tunnel)
    (received : ∀ side, (tunnel.ends side).conn.toApp = []) : Quiet joint room tunnel := by
  rintro ⟨side, action⟩
  obtain ⟨out, into⟩ := torn.goroutines side
  cases action with
  | send count => rfl
  | finish => rfl
  | seeEnd => rfl
  | receive count =>
      have own : tunnel.own joint room (side, .receive count) = false := by
        refine decide_eq_false ?_
        rw [received side, List.take_nil]
        exact not_not.mpr rfl
      rw [ownStep, own]
      rfl
  | leave =>
      rw [ownStep, Joined.own, torn.streams side]
      rfl
  | copyOut _ | finishOut =>
      rw [ownStep]
      split
      · exact if_neg fun guard => by cases out.symm.trans guard.1
      · rfl
  | copyIn _ | finishIn =>
      rw [ownStep]
      split
      · exact if_neg fun guard => by cases into.symm.trans guard.1
      · rfl

theorem marked_any (joint : Joint) (marks next : Side → Marks) (side : Side) (marked : Marked joint marks next)
    (past : (marks side).any = true) : (next side).any = true := by
  have update : ∀ other own, own.any = true → (Function.update marks other own side).any = true := by
    intro other own any
    by_cases same : side = other
    · rwa [same, Function.update_self]
    · rwa [Function.update_of_ne same]
  cases marked with
  | same => exact past
  | out other _ => exact update other _ (by cases joint <;> simp [Joint.markOut, Marks.any])
  | into other _ _ => exact update other _ (by cases joint <;> simp [Joint.markIn, Marks.any])
  | left other _ _ => exact update other _ (by simp [Marks.any])

theorem own_step_finished (joint : Joint) (room : Nat) (tunnel next : Joined) (event : Side × JoinedAction) (other : Side)
    (stepped : ownStep joint room tunnel event = some next) :
    (next.ends other).conn.finished = (tunnel.ends other).conn.finished := by
  obtain ⟨own, moved⟩ := Option.ite_none_right_eq_some.mp stepped
  obtain ⟨side, action⟩ := event
  have kept : ∀ tunnelEnd, tunnelEnd.conn.finished = (tunnel.ends side).conn.finished →
      ((tunnel.setEnd side tunnelEnd).ends other).conn.finished = (tunnel.ends other).conn.finished := by
    intro tunnelEnd same
    rw [set_end_ends]
    by_cases here : other = side
    · rw [if_pos here, here, same]
    · rw [if_neg here]
  cases action with
  | send count => cases own
  | finish => cases own
  | seeEnd => cases own
  | receive count =>
      cases moved
      exact kept _ (by exact rfl)
  | copyOut count =>
      obtain ⟨_, same⟩ := Option.ite_none_right_eq_some.mp moved
      cases same
      exact kept _ (by exact rfl)
  | copyIn count =>
      obtain ⟨_, same⟩ := Option.ite_none_right_eq_some.mp moved
      cases same
      exact kept _ (by exact rfl)
  | finishOut =>
      obtain ⟨_, same⟩ := Option.ite_none_right_eq_some.mp moved
      cases same
      exact ((finish_out_settles joint _ side).finished other).trans (kept _ (by exact rfl))
  | finishIn =>
      obtain ⟨_, same⟩ := Option.ite_none_right_eq_some.mp moved
      cases same
      exact ((finish_in_settles joint _ side).finished other).trans (kept _ (by exact rfl))
  | leave =>
      obtain ⟨_, same⟩ := Option.ite_none_right_eq_some.mp moved
      cases same
      exact (end_stream_settles tunnel side).finished other

theorem own_step_ending (joint : Joint) (room : Nat) (tunnel next : Joined) (event : Side × JoinedAction) (ending : Ending tunnel)
    (stepped : ownStep joint room tunnel event = some next) : Ending next := by
  obtain ⟨side, finished | past⟩ := ending
  · exact ⟨side, .inl ((own_step_finished joint room tunnel next event side stepped).trans finished)⟩
  · exact ⟨side, .inr (marked_any joint _ _ side (own_step_marked joint room tunnel next event stepped) past)⟩

-- However it came to this, a tunnel of which something is over comes to rest, and only with
-- both connections closed, both streams ended and no goroutine left.
theorem tunnel_torn_down (joint : Joint) (room : Nat) (positive : 0 < room) (events : List OpenEvent) (tunnel : Joined)
    (ran : run (openStep joint) (newJoined [] []) events = some tunnel) (ending : Ending tunnel)
    (moves : List (Side × JoinedAction)) (last : Joined) (moved : run (ownStep joint room) tunnel moves = some last) :
    moves.length ≤ tunnel.work ∧
      (Quiet joint room last ↔ TornDown last ∧ ∀ side, (last.ends side).conn.toApp = []) ∧
      ∃ rest final, run (ownStep joint room) last rest = some final ∧ Quiet joint room final := by
  have spends := fun state event next => own_step_work joint room state next event
  have announced := run_preserves (openStep joint) (fun state => Announced joint state.marks)
    (fun state event next inv stepped => marked_announced joint _ _ inv (unshutstep_marked joint state next event stepped))
    _ tunnel events (new_joined_announced joint [] []) ran
  refine ⟨?_, ⟨fun quiet => ⟨?_, quiet_received joint room last quiet⟩, fun torn => torn_down_quiet joint room last torn.1 torn.2⟩,
    run_rests (ownStep joint room) Joined.work spends last⟩
  · have spent := run_length_le (ownStep joint room) Joined.work spends tunnel last moves moved
    omega
  · refine quiet_ending joint room positive last quiet ?_ ?_
    · exact run_preserves (ownStep joint room) (fun state => Announced joint state.marks)
        (fun state event next inv stepped => marked_announced joint _ _ inv (own_step_marked joint room state next event stepped))
        tunnel last moves announced moved
    · exact run_preserves (ownStep joint room) Ending (fun state event next => own_step_ending joint room state next event)
        tunnel last moves ending moved

def stoppedEvents : List OpenEvent := [.writes .near [7, 8], .stops .near]

def stoppedTunnel : Joined := (run (openStep .pipe) (newJoined [] []) stoppedEvents).get (by decide)

-- With room for one byte the second waits until the application has taken the first.
def stoppedMoves : List (Side × JoinedAction) :=
  [(.near, .copyOut 1), (.far, .copyIn 1), (.near, .copyOut 1), (.far, .receive 1), (.far, .copyIn 1), (.near, .finishOut),
    (.far, .receive 1), (.far, .finishIn), (.far, .finishOut), (.near, .finishIn)]

def tornTunnel : Joined := (run (ownStep .pipe 1) stoppedTunnel stoppedMoves).get (by decide)

theorem tunnel_torn_down_stopped : stoppedMoves.length ≤ stoppedTunnel.work ∧ Quiet .pipe 1 tornTunnel := by
  obtain ⟨short, quiet, _⟩ := tunnel_torn_down .pipe 1 (by decide) stoppedEvents stoppedTunnel (Option.some_get _).symm
    ⟨.near, .inl (by decide)⟩ stoppedMoves tornTunnel (Option.some_get _).symm
  refine ⟨short, quiet.mpr ⟨⟨?_, ?_, ?_⟩, ?_⟩⟩
  all_goals
    intro side
    cases side <;> decide

end WarpStream
