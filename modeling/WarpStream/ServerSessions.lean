import WarpStream.Dispatch
import WarpStream.PipedEnds

set_option autoImplicit false

namespace WarpStream

open Handles Transition

inductive ServerPc where
  | dispatching
  | dialling (dial : Dial)
  | heading (idles : Bool)
  | piping (idles outDone inDone : Bool)
  | waiting
  | ended
deriving DecidableEq

-- A run of handleConnection, handleGorillaConnection or handleHttp2Connection.
structure ServerSession extends PipedEnds where
  transport : Transport
  claims : JwtTunnelConfig
  pc : ServerPc := .dispatching
deriving DecidableEq

def ServerSession.held (session : ServerSession) : List Nat := session.toPipedEnds.held

def startHandler (request : Transport × JwtTunnelConfig) (fresh : Nat) : Effect ServerSession :=
  { thread := { stream := some fresh, transport := request.1, claims := request.2 }, opens := true }

inductive ServerAction where
  | dispatch
  | dial (reached : Bool)
  | writeHeader (written : Bool)
  | idle
  | finishOut
  | finishIn
  | leave
  | closeWaiting
  | release
deriving DecidableEq

-- The deferred calls of a handler; over HTTP/2 the return ends the stream.
def ServerSession.leave (session : ServerSession) : Effect ServerSession :=
  { thread := { session with stream := none, conn := none, pc := .ended }, closes := session.held }

def serverAct (session : ServerSession) (fresh : Nat) (action : ServerAction) : Option (Effect ServerSession) :=
  match session.pc, action with
  | .dispatching, .dispatch =>
      match dispatch session.claims session.transport with
      | .pipe _ dial => some { thread := { session with pc := .dialling dial } }
      | .reverse _ => some { thread := { session with pc := .waiting } }
      | .unsupported => some session.leave
  | .dialling _, .dial false => some { thread := { session with stream := none, pc := .ended }, closes := session.stream.toList }
  | .dialling dial, .dial true =>
      let pc := if dial.proxyHeader then .heading dial.idleTimeout.isSome else .piping dial.idleTimeout.isSome false false
      some { thread := { session with conn := some fresh, pc := pc }, opens := true }
  | .heading _, .writeHeader false => some session.leave
  | .heading idles, .writeHeader true => some { thread := { session with pc := .piping idles false false } }
  | .piping true _ _, .idle => some { thread := { session with conn := none }, closes := session.conn.toList }
  | .piping idles false inDone, .finishOut =>
      let (ends, closes) := session.toPipedEnds.finishOut session.transport
      some { thread := { session with toPipedEnds := ends, pc := .piping idles true inDone }, closes }
  | .piping idles outDone false, .finishIn =>
      let (ends, closes) := session.toPipedEnds.finishIn session.transport
      some { thread := { session with toPipedEnds := ends, pc := .piping idles outDone true }, closes }
  | .piping _ true true, .leave => some session.leave
  -- The manager closes a stream that it could not queue or that was used.
  | .waiting, .closeWaiting => some { thread := { session with stream := none }, closes := session.stream.toList }
  | .waiting, .release => some { thread := { session with stream := none, pc := .ended }, closes := session.stream.toList }
  | _, _ => none

def serverStep : Step (World ServerSession) (Happens (Transport × JwtTunnelConfig) ServerAction) := worldStep startHandler serverAct

def ServerPc.joins : ServerPc → Bool
  | .dialling _ => true
  | .heading _ => true
  | .piping _ _ _ => true
  | _ => false

-- A connection to a target is there from the dial on, and only for a forward tunnel.
structure Joins (session : ServerSession) : Prop where
  forward : session.pc.joins = true → isForward session.claims.protocol = true
  place : match session.pc with
    | .heading _ => True
    | .piping _ _ _ => True
    | .ended => session.held = []
    | _ => session.conn = none

theorem piped_forward (claims : JwtTunnelConfig) (transport piped : Transport) (dial : Dial)
    (dispatched : dispatch claims transport = .pipe piped dial) : isForward claims.protocol = true := by
  rw [dispatch_shared, handleTunnel] at dispatched
  apply Bool.of_not_eq_false
  intro other
  simp only [other, Bool.false_eq_true, if_false] at dispatched
  split at dispatched <;> cases dispatched

theorem leave_conserves (session : ServerSession) (fresh : Nat) :
    Joins session.leave.thread ∧ Conserves ServerSession.held session.held fresh session.leave :=
  ⟨⟨by rintro ⟨⟩, rfl⟩, conserves_parts _ _ _ _ (by simp [ServerSession.leave, ServerSession.held, PipedEnds.held])⟩

theorem handler_starts (request : Transport × JwtTunnelConfig) (fresh : Nat) :
    Joins (startHandler request fresh).thread ∧ Conserves ServerSession.held [] fresh (startHandler request fresh) :=
  ⟨⟨by rintro ⟨⟩, rfl⟩, conserves_parts _ _ _ _ (by simp [startHandler, ServerSession.held, PipedEnds.held])⟩

theorem handler_acts (session : ServerSession) (fresh : Nat) (action : ServerAction) (effect : Effect ServerSession)
    (joins : Joins session) (acted : serverAct session fresh action = some effect) :
    Joins effect.thread ∧ Conserves ServerSession.held session.held fresh effect := by
  obtain ⟨forward, place⟩ := joins
  unfold serverAct at acted
  split at acted
  · rename_i pc
    simp only [pc] at place
    split at acted
    · rename_i dispatched
      cases acted
      exact ⟨⟨fun _ => piped_forward _ _ _ _ dispatched, place⟩, conserves_same _ _ _ _ rfl⟩
    · cases acted
      exact ⟨⟨by rintro ⟨⟩, place⟩, conserves_same _ _ _ _ rfl⟩
    · cases acted
      exact leave_conserves session fresh
  · rename_i pc
    simp only [pc] at place
    cases acted
    refine ⟨⟨by rintro ⟨⟩, ?_⟩, conserves_parts _ _ _ _ (by simp [ServerSession.held, PipedEnds.held, place])⟩
    simp [ServerSession.held, PipedEnds.held, place]
  · rename_i dial pc
    simp only [pc] at place forward
    cases acted
    refine ⟨⟨fun _ => forward rfl, ?_⟩, conserves_parts _ _ _ _ (by simp [ServerSession.held, PipedEnds.held, place])⟩
    cases dial.proxyHeader <;> trivial
  · cases acted
    exact leave_conserves session fresh
  · rename_i pc
    simp only [pc] at forward
    cases acted
    exact ⟨⟨fun _ => forward rfl, trivial⟩, conserves_same _ _ _ _ rfl⟩
  · rename_i pc
    cases acted
    exact ⟨⟨forward, by simp only [pc]⟩, conserves_parts _ _ _ _ (by simp [ServerSession.held, PipedEnds.held])⟩
  · rename_i pc
    simp only [pc] at forward
    cases acted
    exact ⟨⟨fun _ => forward rfl, trivial⟩, conserves_closing _ _ _ _ _ _ rfl (finish_out_parts _ session.transport)⟩
  · rename_i pc
    simp only [pc] at forward
    cases acted
    exact ⟨⟨fun _ => forward rfl, trivial⟩, conserves_closing _ _ _ _ _ _ rfl (finish_in_parts _ session.transport)⟩
  · cases acted
    exact leave_conserves session fresh
  · rename_i pc
    simp only [pc] at place
    cases acted
    exact ⟨⟨forward, by simpa only [pc] using place⟩, conserves_parts _ _ _ _ (by simp [ServerSession.held, PipedEnds.held, or_comm])⟩
  · rename_i pc
    simp only [pc] at place
    cases acted
    refine ⟨⟨by rintro ⟨⟩, ?_⟩, conserves_parts _ _ _ _ (by simp [ServerSession.held, PipedEnds.held, place])⟩
    simp [ServerSession.held, PipedEnds.held, place]
  · cases acted

theorem server_disciplined : Disciplined startHandler serverAct ServerSession.held Joins := ⟨handler_starts, handler_acts⟩

theorem joined_forward (session : ServerSession) (joins : Joins session) (id : Nat) (joined : session.conn = some id) :
    isForward session.claims.protocol = true := by
  obtain ⟨forward, place⟩ := joins
  cases pc : session.pc with
  | dialling dial => exact forward (by rw [pc]; rfl)
  | heading idles => exact forward (by rw [pc]; rfl)
  | piping idles outDone inDone => exact forward (by rw [pc]; rfl)
  | ended =>
      simp only [pc, ServerSession.held, PipedEnds.held, joined] at place
      simp at place
  | _ =>
      simp only [pc] at place
      cases joined.symm.trans place

-- The server's side: each open stream and each open connection to a target belongs to one
-- handler, which alone closes it. A handler that has returned has left none open, and
-- one without a forward tunnel never has a target.
theorem server_connections_accounted (events : List (Happens (Transport × JwtTunnelConfig) ServerAction)) (world : World ServerSession)
    (ran : run serverStep ⟨[], []⟩ events = some world) :
    (∀ id : Nat, world.handles[id]? = some true → ∃! index, HeldBy ServerSession.held world id index) ∧
    (∀ session ∈ world.threads, (session.pc = .ended → session.held = []) ∧
      ∀ id, session.conn = some id → isForward session.claims.protocol = true) ∧
    ∀ index action next, serverStep world (.act index action) = some next →
      ∀ other id, other ≠ index → HeldBy ServerSession.held world id other → next.handles[id]? = world.handles[id]? := by
  obtain ⟨sound, joins⟩ := sound_run startHandler _ ServerSession.held _ server_disciplined events world ran
  refine ⟨open_held_once _ world sound, fun session member => ⟨fun ended => ?_, ?_⟩, ?_⟩
  · have place := (joins session member).place
    simpa only [ended] using place
  · exact joined_forward session (joins session member)
  · intro index action next stepped
    exact step_apart startHandler _ ServerSession.held _ server_disciplined world index action next sound joins stepped

def datagramClaims : JwtTunnelConfig := ⟨"id", { udp := some ⟨none⟩ }, "10.0.0.1", 53⟩

-- A UDP target that has fallen idle, and one that could not be reached.
def handlerEvents : List (Happens (Transport × JwtTunnelConfig) ServerAction) :=
  [.spawn (.wst, datagramClaims), .spawn (.http2, datagramClaims), .act 0 .dispatch, .act 1 .dispatch, .act 1 (.dial false),
    .act 0 (.dial true), .act 0 .finishOut]

def handlerWorld : World ServerSession := (run serverStep ⟨[], []⟩ handlerEvents).get (by decide)

theorem server_connections_accounted_udp :
    handlerWorld.handles = [true, false, true] ∧ (∃! index, HeldBy ServerSession.held handlerWorld 2 index) ∧
      isForward datagramClaims.protocol = true := by
  obtain ⟨held, handlers, _⟩ := server_connections_accounted handlerEvents handlerWorld (Option.some_get _).symm
  refine ⟨by decide, held 2 (by decide), ?_⟩
  exact (handlers ⟨⟨some 0, some 2⟩, .wst, datagramClaims, .piping true true false⟩ (by decide)).2 2 rfl

end WarpStream
