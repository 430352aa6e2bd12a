import WarpStream.Pipe

set_option autoImplicit false

namespace WarpStream

open Transition

-- What ReadMessage of the gorilla package makes of the peer's frames: a frame it
-- refuses ends the reading as a close frame does.
inductive GorillaFrame where
  | message (messageType : Nat) (payload : List UInt8)
  | ping (payload : List UInt8)
  | pong (payload : List UInt8)
  | close
  | refused
deriving DecidableEq, Repr

def GorillaFrame.ends : GorillaFrame → Bool
  | .close => true
  | .refused => true
  | _ => false

def GorillaFrame.isPing : GorillaFrame → Bool
  | .ping _ => true
  | _ => false

def heard (frames : List GorillaFrame) : List GorillaFrame := frames.takeWhile fun frame => !frame.ends

inductive GorillaReceiver where
  | reading
  | ponging (payload : List UInt8)
  | writing (payload : List UInt8)
  | returned
deriving DecidableEq, Repr

def gorillaReceived : GorillaFrame → GorillaReceiver
  | .message messageType payload => if messageType ∈ pipeGorilla.forwards then .writing payload else .reading
  | .ping payload => .ponging payload
  | .pong _ => .reading
  | .close => .returned
  | .refused => .returned

inductive PingTicker where
  | waiting
  | due
  | stopped
deriving DecidableEq, Repr

inductive GorillaSide where
  | client (pingFrequency : Int)
  | server
deriving DecidableEq, Repr

def GorillaSide.ticks : GorillaSide → Bool
  | .client pingFrequency => decide (0 < pingFrequency)
  | .server => false

-- The three goroutines that call WriteMessage, and for each whether it is inside.
structure GorillaTunnel where
  frames : List GorillaFrame
  sender : ToWebSocket
  senderInside : Bool
  receiver : GorillaReceiver
  pongInside : Bool
  ticker : PingTicker
  pingInside : Bool
deriving DecidableEq

def newGorillaTunnel (side : GorillaSide) (frames : List GorillaFrame) : GorillaTunnel :=
  ⟨frames, .reading, false, .reading, false, if side.ticks then .waiting else .stopped, false⟩

def GorillaTunnel.writers (tunnel : GorillaTunnel) : Nat :=
  tunnel.senderInside.toNat + tunnel.pongInside.toNat + tunnel.pingInside.toNat

inductive GorillaEvent where
  | read (chunk : List UInt8) (failed : Bool)
  | callSend
  | sent (done : Bool)
  | receive
  | lost
  | callPong
  | ponged (done : Bool)
  | write (done : Bool)
  | tick
  | callPing
  | pinged (done : Bool)
  | cancel
deriving DecidableEq

def ToWebSocket.calls : ToWebSocket → Bool
  | .writing _ => true
  | .closing => true
  | _ => false

def senderReturns (done : Bool) : ToWebSocket → ToWebSocket
  | .closing => .returned
  | _ => toWebSocketWritten done

-- No call waits for another: WriteMessage is entered whoever is inside.
def gorillaStep : Step GorillaTunnel GorillaEvent
  | tunnel, .read chunk failed =>
      if tunnel.sender = .reading ∧ chunk.length ≤ pipeGorilla.bufferSize then
        some { tunnel with sender := toWebSocketRead chunk failed }
      else none
  | tunnel, .callSend =>
      if tunnel.sender.calls ∧ tunnel.senderInside = false then
        some { tunnel with senderInside := true }
      else none
  | tunnel, .sent done =>
      if tunnel.senderInside then some { tunnel with sender := senderReturns done tunnel.sender, senderInside := false } else none
  | tunnel, .receive =>
      match tunnel.receiver, tunnel.frames with
      | .reading, frame :: later => some { tunnel with frames := later, receiver := gorillaReceived frame }
      | _, _ => none
  | tunnel, .lost => if tunnel.receiver = .reading then some { tunnel with receiver := .returned } else none
  | tunnel, .callPong =>
      match tunnel.receiver with
      | .ponging _ => if tunnel.pongInside then none else some { tunnel with pongInside := true }
      | _ => none
  | tunnel, .ponged done =>
      if tunnel.pongInside then
        some { tunnel with receiver := if done then .reading else .returned, pongInside := false }
      else none
  | tunnel, .write done =>
      match tunnel.receiver with
      | .writing _ => some { tunnel with receiver := if done then .reading else .returned }
      | _ => none
  | tunnel, .tick => if tunnel.ticker = .waiting then some { tunnel with ticker := .due } else none
  | tunnel, .callPing => if tunnel.ticker = .due ∧ tunnel.pingInside = false then some { tunnel with pingInside := true } else none
  | tunnel, .pinged done =>
      if tunnel.pingInside then some { tunnel with ticker := if done then .waiting else .stopped, pingInside := false } else none
  | tunnel, .cancel =>
      if tunnel.ticker = .waiting ∧ tunnel.sender = .returned ∧ tunnel.receiver = .returned then
        some { tunnel with ticker := .stopped }
      else none

-- Nothing but the sender calls WriteMessage, and nothing is to come that would.
structure SenderAlone (tunnel : GorillaTunnel) : Prop where
  ticker : tunnel.ticker = .stopped
  noPing : tunnel.pingInside = false
  noPong : tunnel.pongInside = false
  receiver : ∀ payload, tunnel.receiver ≠ .ponging payload
  frames : tunnel.receiver ≠ .returned → ∀ frame ∈ heard tunnel.frames, frame.isPing = false

theorem sender_alone_received (frame : GorillaFrame) (later : List GorillaFrame)
    (quiet : ∀ other ∈ heard (frame :: later), other.isPing = false) :
    (∀ payload, gorillaReceived frame ≠ .ponging payload) ∧
      (gorillaReceived frame ≠ .returned → ∀ other ∈ heard later, other.isPing = false) := by
  have rest : frame.ends = false → ∀ other ∈ heard later, other.isPing = false := by
    intro goesOn other member
    apply quiet other
    rw [heard, List.takeWhile_cons_of_pos (by simp [goesOn])]
    exact .tail frame member
  cases frame with
  | message messageType payload =>
      refine ⟨fun other => ?_, fun _ => rest rfl⟩
      by_cases forwarded : messageType ∈ pipeGorilla.forwards
      · simp [gorillaReceived, forwarded]
      · simp [gorillaReceived, forwarded]
  | ping payload => exact absurd (quiet (.ping payload) (by simp [heard, GorillaFrame.ends])) (by simp [GorillaFrame.isPing])
  | pong payload => exact ⟨by simp [gorillaReceived], fun _ => rest rfl⟩
  | close => exact ⟨by simp [gorillaReceived], fun goesOn => absurd rfl goesOn⟩
  | refused => exact ⟨by simp [gorillaReceived], fun goesOn => absurd rfl goesOn⟩

-- What the sender does is no one else's call.
theorem sender_alone_moves (tunnel : GorillaTunnel) (sender : ToWebSocket) (inside : Bool) (alone : SenderAlone tunnel) :
    SenderAlone { tunnel with sender := sender, senderInside := inside } :=
  ⟨alone.ticker, alone.noPing, alone.noPong, alone.receiver, alone.frames⟩

theorem sender_alone_step (tunnel : GorillaTunnel) (event : GorillaEvent) (next : GorillaTunnel) (alone : SenderAlone tunnel)
    (stepped : gorillaStep tunnel event = some next) : SenderAlone next := by
  cases event with
  | read chunk failed =>
      obtain ⟨_, moved⟩ := Option.ite_none_right_eq_some.mp stepped
      cases moved
      exact sender_alone_moves tunnel _ _ alone
  | callSend =>
      obtain ⟨_, moved⟩ := Option.ite_none_right_eq_some.mp stepped
      cases moved
      exact sender_alone_moves tunnel _ _ alone
  | sent done =>
      obtain ⟨_, moved⟩ := Option.ite_none_right_eq_some.mp stepped
      cases moved
      exact sender_alone_moves tunnel _ _ alone
  | receive =>
      simp only [gorillaStep] at stepped
      split at stepped
      · rename_i frame later reading frames
        cases stepped
        have quiet := alone.frames (by rw [reading]; simp)
        rw [frames] at quiet
        obtain ⟨receiver, rest⟩ := sender_alone_received frame later quiet
        exact ⟨alone.ticker, alone.noPing, alone.noPong, receiver, rest⟩
      · cases stepped
  | lost =>
      obtain ⟨_, moved⟩ := Option.ite_none_right_eq_some.mp stepped
      cases moved
      exact ⟨alone.ticker, alone.noPing, alone.noPong, by simp, fun goesOn => absurd rfl goesOn⟩
  | callPong =>
      simp only [gorillaStep] at stepped
      split at stepped
      · rename_i payload ponging
        exact absurd ponging (alone.receiver payload)
      · cases stepped
  | ponged done =>
      obtain ⟨inside, _⟩ := Option.ite_none_right_eq_some.mp stepped
      cases inside.symm.trans alone.noPong
  | write done =>
      simp only [gorillaStep] at stepped
      split at stepped
      · rename_i payload writing
        cases stepped
        have quiet := alone.frames (by rw [writing]; simp)
        exact ⟨alone.ticker, alone.noPing, alone.noPong, by cases done <;> simp, fun _ => quiet⟩
      · cases stepped
  | tick =>
      obtain ⟨waiting, _⟩ := Option.ite_none_right_eq_some.mp stepped
      cases waiting.symm.trans alone.ticker
  | callPing =>
      obtain ⟨due, _⟩ := Option.ite_none_right_eq_some.mp stepped
      cases due.1.symm.trans alone.ticker
  | pinged done =>
      obtain ⟨inside, _⟩ := Option.ite_none_right_eq_some.mp stepped
      cases inside.symm.trans alone.noPing
  | cancel =>
      obtain ⟨waiting, _⟩ := Option.ite_none_right_eq_some.mp stepped
      cases waiting.1.symm.trans alone.ticker

theorem sender_alone_writers (tunnel : GorillaTunnel) (alone : SenderAlone tunnel) : tunnel.writers ≤ 1 := by
  rw [GorillaTunnel.writers, alone.noPing, alone.noPong]
  exact Bool.toNat_le tunnel.senderInside

-- The events by which the receiver takes a frame that is neither a ping nor an end.
def passFrame : GorillaFrame → List GorillaEvent
  | .message messageType _ => if messageType ∈ pipeGorilla.forwards then [.receive, .write true] else [.receive]
  | _ => [.receive]

theorem frame_passes (tunnel : GorillaTunnel) (frame : GorillaFrame) (later : List GorillaFrame)
    (reading : tunnel.receiver = .reading) (frames : tunnel.frames = frame :: later) (goesOn : frame.ends = false)
    (plain : frame.isPing = false) : run gorillaStep tunnel (passFrame frame) = some { tunnel with frames := later } := by
  cases frame with
  | message messageType payload =>
      by_cases forwarded : messageType ∈ pipeGorilla.forwards
      · simp [passFrame, forwarded, run, gorillaStep, reading, frames, gorillaReceived]
      · simp [passFrame, forwarded, run, gorillaStep, reading, frames, gorillaReceived]
  | ping payload => cases plain
  | pong payload => simp [passFrame, run, gorillaStep, reading, frames, gorillaReceived]
  | close => cases goesOn
  | refused => cases goesOn

theorem frames_pass (tunnel : GorillaTunnel) (before later : List GorillaFrame) (reading : tunnel.receiver = .reading)
    (frames : tunnel.frames = before ++ later) (quiet : ∀ frame ∈ before, frame.ends = false ∧ frame.isPing = false) :
    run gorillaStep tunnel (before.flatMap passFrame) = some { tunnel with frames := later } := by
  induction before generalizing tunnel with
  | nil =>
      have same : tunnel.frames = later := frames
      rw [← same]
      rfl
  | cons frame rest ih =>
      obtain ⟨⟨goesOn, plain⟩, others⟩ := List.forall_mem_cons.mp quiet
      have first := frame_passes tunnel frame (rest ++ later) reading frames goesOn plain
      rw [List.flatMap_cons, run_append gorillaStep _ _ _ _ first]
      exact ih { tunnel with frames := rest ++ later } reading rfl others

-- Before the first ping that is heard stand frames that pass.
theorem first_ping (frames : List GorillaFrame) (frame : GorillaFrame) (member : frame ∈ heard frames) (ping : frame.isPing = true) :
    ∃ before payload later, frames = before ++ .ping payload :: later ∧
      ∀ other ∈ before, other.ends = false ∧ other.isPing = false := by
  induction frames with
  | nil => cases member
  | cons first rest ih =>
      cases kind : first.isPing with
      | true =>
          cases first with
          | ping payload => exact ⟨[], payload, rest, rfl, by simp⟩
          | _ => cases kind
      | false =>
          cases ends : first.ends with
          | true =>
              rw [heard, List.takeWhile_cons_of_neg (by simp [ends])] at member
              cases member
          | false =>
              rw [heard, List.takeWhile_cons_of_pos (by simp [ends])] at member
              rcases List.mem_cons.mp member with same | later
              · rw [same, kind] at ping
                cases ping
              · obtain ⟨before, payload, behind, parts, quiet⟩ := ih later
                exact ⟨first :: before, payload, behind, by rw [parts, List.cons_append],
                  List.forall_mem_cons.mpr ⟨⟨ends, kind⟩, quiet⟩⟩

theorem ping_overlaps_sender (side : GorillaSide) (before later : List GorillaFrame) (payload : List UInt8)
    (quiet : ∀ frame ∈ before, frame.ends = false ∧ frame.isPing = false) :
    ∃ events last, run gorillaStep (newGorillaTunnel side (before ++ .ping payload :: later)) events = some last ∧
      last.writers = 2 := by
  have passed := frames_pass (newGorillaTunnel side (before ++ .ping payload :: later)) before (.ping payload :: later) rfl rfl quiet
  refine ⟨before.flatMap passFrame ++ [.read [] true, .callSend, .receive, .callPong],
    ⟨later, .closing, true, .ponging payload, true, if side.ticks then .waiting else .stopped, false⟩, ?_, rfl⟩
  rw [run_append gorillaStep _ _ _ _ passed]
  rfl

theorem tick_overlaps_sender (side : GorillaSide) (frames : List GorillaFrame) (ticks : side.ticks = true) :
    ∃ last, run gorillaStep (newGorillaTunnel side frames) [.read [] true, .callSend, .tick, .callPing] = some last ∧
      last.writers = 2 := by
  refine ⟨⟨frames, .closing, true, .reading, false, .due, true⟩, ?_, rfl⟩
  simp [run, gorillaStep, newGorillaTunnel, ticks, toWebSocketRead, ToWebSocket.calls]

theorem gorilla_single_writer_iff (side : GorillaSide) (frames : List GorillaFrame) :
    (∀ events last, run gorillaStep (newGorillaTunnel side frames) events = some last → last.writers ≤ 1) ↔
      side.ticks = false ∧ ∀ frame ∈ heard frames, frame.isPing = false := by
  constructor
  · intro single
    constructor
    · by_contra ticks
      obtain ⟨last, ran, two⟩ := tick_overlaps_sender side frames (eq_true_of_ne_false ticks)
      have one := single _ last ran
      omega
    · intro frame member
      by_contra ping
      obtain ⟨before, payload, later, parts, quiet⟩ := first_ping frames frame member (eq_true_of_ne_false ping)
      obtain ⟨events, last, ran, two⟩ := ping_overlaps_sender side before later payload quiet
      rw [← parts] at ran
      have one := single events last ran
      omega
  · intro quiet events last ran
    obtain ⟨silent, plain⟩ := quiet
    have start : SenderAlone (newGorillaTunnel side frames) :=
      ⟨by simp [newGorillaTunnel, silent], rfl, rfl, by simp [newGorillaTunnel], fun _ => plain⟩
    exact sender_alone_writers last (run_preserves gorillaStep SenderAlone sender_alone_step _ last events start ran)

-- A tick while the first bytes of the connection are being sent.
theorem gorilla_writers_overlap :
    ∃ last, run gorillaStep (newGorillaTunnel (.client 30) []) [.read [7] false, .callSend, .tick, .callPing] = some last ∧
      last.writers = 2 :=
  ⟨_, rfl, rfl⟩

end WarpStream
