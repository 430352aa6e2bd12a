import WarpStream.Dispatch
import WarpStream.PipedEnds

set_option autoImplicit false

namespace WarpStream

open Handles Transition

def retryMaxDelay (configured : Int64) : Int64 := if configured = 0 then 10 * second else configured

-- What runs a tunnel of the client: a goroutine for each accepted connection, with a target
-- that is fixed or one that the connection tells first, the process's own input and
-- output, or the loop of a reverse tunnel.
inductive ClientTunnel where
  | fixed
  | told
  | stdio
  | reverse (dynamic : Bool)
deriving DecidableEq

inductive ClientPc where
  | learning
  | connecting
  | framing (transport : Transport)
  | dialling (transport : Transport)
  | piping (transport : Transport) (outDone inDone : Bool)
  | sleeping (length : Int64)
  | ended
deriving DecidableEq

-- The last four fields are history: failures counts the connects in vain since the last one
-- that was not, fruitless all rounds of the loop whose connect, target frame or local dial
-- failed, slept the time it has spent asleep, and carriers the TCP connections below its
-- requests over HTTP/2. Each of these belongs to an http2.Transport of its own, and neither
-- the stream's Close nor anything else gives it back.
structure ClientSession extends PipedEnds where
  tunnel : ClientTunnel
  pc : ClientPc
  delay : Int64 := second
  failures : Nat := 0
  fruitless : Nat := 0
  slept : Nat := 0
  carriers : Nat := 0
deriving DecidableEq

def ClientSession.held (session : ClientSession) : List Nat := session.toPipedEnds.held

def startSession (tunnel : ClientTunnel) (fresh : Nat) : Effect ClientSession :=
  match tunnel with
  | .fixed => { thread := { tunnel, pc := .connecting, conn := some fresh }, opens := true }
  | .told => { thread := { tunnel, pc := .learning, conn := some fresh }, opens := true }
  | .stdio => { thread := { tunnel, pc := .connecting } }
  | .reverse _ => { thread := { tunnel, pc := .connecting } }

-- How connectToTransport ends. Over HTTP/2 the server may have answered, but not with 200.
inductive ConnectEnd where
  | failed
  | refused
  | stream (transport : Transport)
deriving DecidableEq

def ConnectEnd.carriers : ConnectEnd → Nat
  | .refused => 1
  | .stream .http2 => 1
  | _ => 0

inductive ClientAction where
  | learn (known : Bool)
  | connect (found : ConnectEnd)
  | readTarget (read : Bool)
  | dial (reached : Bool)
  | pingFails
  | finishOut
  | finishIn
  | leave
  | wake
deriving DecidableEq

def ClientAction.carriers : ClientAction → Nat
  | .connect found => found.carriers
  | _ => 0

-- A round without a stream: the loop of a reverse tunnel goes to sleep, any other tunnel ends.
def unconnected (maxDelay : Int64) (session : ClientSession) : Effect ClientSession :=
  match session.tunnel with
  | .reverse _ =>
      { thread := { session with
          pc := .sleeping session.delay
          delay := if session.delay * 2 > maxDelay then maxDelay else session.delay * 2
          failures := session.failures + 1
          fruitless := session.fruitless + 1 } }
  | _ => { thread := { session with pc := .ended, conn := none }, closes := session.conn.toList }

def clientAct (maxDelay : Int64) (session : ClientSession) (fresh : Nat) (action : ClientAction) : Option (Effect ClientSession) :=
  match session.pc, action with
  | .learning, .learn true => some { thread := { session with pc := .connecting } }
  | .learning, .learn false => some { thread := { session with pc := .ended, conn := none }, closes := session.conn.toList }
  | .connecting, .connect .failed => some (unconnected maxDelay session)
  | .connecting, .connect .refused =>
      some (unconnected maxDelay { session with carriers := session.carriers + ConnectEnd.refused.carriers })
  | .connecting, .connect (.stream transport) =>
      let carriers := session.carriers + (ConnectEnd.stream transport).carriers
      match session.tunnel with
      | .reverse dynamic =>
          some { thread := { session with
            pc := if dynamic then .framing transport else .dialling transport
            stream := some fresh
            delay := second
            failures := 0
            carriers := carriers }, opens := true }
      | _ =>
          some { thread := { session with pc := .piping transport false false, stream := some fresh, carriers := carriers }
                 opens := true }
  | .framing transport, .readTarget true => some { thread := { session with pc := .dialling transport } }
  | .framing _, .readTarget false =>
      some { thread := { session with pc := .sleeping session.delay, stream := none, fruitless := session.fruitless + 1 },
             closes := session.stream.toList }
  | .dialling transport, .dial true =>
      some { thread := { session with pc := .piping transport false false, conn := some fresh }, opens := true }
  | .dialling _, .dial false =>
      some { thread := { session with pc := .sleeping second, stream := none, fruitless := session.fruitless + 1 },
             closes := session.stream.toList }
  | .piping transport _ _, .pingFails =>
      if transport = .http2 then none else some { thread := { session with stream := none }, closes := session.stream.toList }
  | .piping transport false inDone, .finishOut =>
      let (ends, closes) := session.toPipedEnds.finishOut transport
      some { thread := { session with toPipedEnds := ends, pc := .piping transport true inDone }, closes }
  | .piping transport outDone false, .finishIn =>
      let (ends, closes) := session.toPipedEnds.finishIn transport
      some { thread := { session with toPipedEnds := ends, pc := .piping transport outDone true }, closes }
  | .piping _ true true, .leave =>
      match session.tunnel with
      -- The loop has no Close for its local connection: it only forgets it.
      | .reverse _ =>
          some { thread := { session with pc := .connecting, stream := none, conn := none }, closes := session.stream.toList }
      | _ => some { thread := { session with pc := .ended, stream := none, conn := none }, closes := session.held }
  | .sleeping length, .wake => some { thread := { session with pc := .connecting, slept := session.slept + length.toNatClampNeg } }
  | _, _ => none

def clientStep (configured : Int64) : Step (World ClientSession) (Happens ClientTunnel ClientAction) :=
  worldStep startSession (clientAct (retryMaxDelay configured))

def TidySession (session : ClientSession) : Prop :=
  match session.pc with
  | .learning => session.stream = none ∧ ∀ dynamic, session.tunnel ≠ .reverse dynamic
  | .connecting => session.stream = none ∧ ∀ dynamic, session.tunnel = .reverse dynamic → session.conn = none
  | .framing _ => session.conn = none
  | .dialling _ => session.conn = none
  | .piping _ _ inDone => inDone = true → session.conn = none
  | .sleeping _ => session.held = []
  | .ended => session.held = []

theorem session_starts (tunnel : ClientTunnel) (fresh : Nat) :
    TidySession (startSession tunnel fresh).thread ∧ Conserves ClientSession.held [] fresh (startSession tunnel fresh) := by
  cases tunnel with
  | fixed => exact ⟨⟨rfl, by rintro _ ⟨⟩⟩, conserves_parts _ _ _ _ (by simp [startSession, ClientSession.held, PipedEnds.held])⟩
  | told => exact ⟨⟨rfl, by rintro _ ⟨⟩⟩, conserves_parts _ _ _ _ (by simp [startSession, ClientSession.held, PipedEnds.held])⟩
  | stdio => exact ⟨⟨rfl, by rintro _ ⟨⟩⟩, conserves_parts _ _ _ _ (by simp [startSession, ClientSession.held, PipedEnds.held])⟩
  | reverse dynamic =>
      exact ⟨⟨rfl, fun _ _ => rfl⟩, conserves_parts _ _ _ _ (by simp [startSession, ClientSession.held, PipedEnds.held])⟩

def ClientSession.forward (session : ClientSession) : Prop := ∀ dynamic, session.tunnel ≠ .reverse dynamic

-- All that a step of a session can do; the number is that of the carriers it adds.
inductive ClientMoved (maxDelay : Int64) (session : ClientSession) (fresh : Nat) : Nat → Effect ClientSession → Prop
  | learned (pc : session.pc = .learning) : ClientMoved maxDelay session fresh 0 { thread := { session with pc := .connecting } }
  | gaveUp (added : Nat) (pc : session.pc = .learning ∨ session.pc = .connecting ∧ session.forward) :
      ClientMoved maxDelay session fresh added
        { thread := { session with pc := .ended, conn := none, carriers := session.carriers + added }, closes := session.conn.toList }
  | failed (added : Nat) (dynamic : Bool) (pc : session.pc = .connecting) (back : session.tunnel = .reverse dynamic) :
      ClientMoved maxDelay session fresh added
        { thread := { session with
            pc := .sleeping session.delay
            delay := if session.delay * 2 > maxDelay then maxDelay else session.delay * 2
            failures := session.failures + 1
            fruitless := session.fruitless + 1
            carriers := session.carriers + added } }
  | connected (added : Nat) (transport : Transport) (pc : session.pc = .connecting) (forward : session.forward) :
      ClientMoved maxDelay session fresh added
        { thread := { session with pc := .piping transport false false, stream := some fresh, carriers := session.carriers + added }, opens := true }
  | returned (added : Nat) (dynamic : Bool) (transport : Transport) (pc : session.pc = .connecting) (back : session.tunnel = .reverse dynamic) :
      ClientMoved maxDelay session fresh added
        { thread := { session with
            pc := if dynamic then .framing transport else .dialling transport
            stream := some fresh
            delay := second
            failures := 0
            carriers := session.carriers + added }, opens := true }
  | framed (transport : Transport) (pc : session.pc = .framing transport) :
      ClientMoved maxDelay session fresh 0 { thread := { session with pc := .dialling transport } }
  | dropped (transport : Transport) (length : Int64)
      (pc : session.pc = .framing transport ∧ length = session.delay ∨ session.pc = .dialling transport ∧ length = second) :
      ClientMoved maxDelay session fresh 0
        { thread := { session with pc := .sleeping length, stream := none, fruitless := session.fruitless + 1 },
          closes := session.stream.toList }
  | dialled (transport : Transport) (pc : session.pc = .dialling transport) :
      ClientMoved maxDelay session fresh 0
        { thread := { session with pc := .piping transport false false, conn := some fresh }, opens := true }
  | pinged (transport : Transport) (outDone inDone : Bool) (pc : session.pc = .piping transport outDone inDone) :
      ClientMoved maxDelay session fresh 0 { thread := { session with stream := none }, closes := session.stream.toList }
  | finishedOut (transport : Transport) (inDone : Bool) (pc : session.pc = .piping transport false inDone) :
      ClientMoved maxDelay session fresh 0
        { thread := { session with
            toPipedEnds := (session.toPipedEnds.finishOut transport).1
            pc := .piping transport true inDone }, closes := (session.toPipedEnds.finishOut transport).2 }
  | finishedIn (transport : Transport) (outDone : Bool) (pc : session.pc = .piping transport outDone false) :
      ClientMoved maxDelay session fresh 0
        { thread := { session with
            toPipedEnds := (session.toPipedEnds.finishIn transport).1
            pc := .piping transport outDone true }, closes := (session.toPipedEnds.finishIn transport).2 }
  | left (transport : Transport) (pc : session.pc = .piping transport true true) (forward : session.forward) :
      ClientMoved maxDelay session fresh 0
        { thread := { session with pc := .ended, stream := none, conn := none }, closes := session.held }
  | leftBack (dynamic : Bool) (transport : Transport) (pc : session.pc = .piping transport true true)
      (back : session.tunnel = .reverse dynamic) :
      ClientMoved maxDelay session fresh 0
        { thread := { session with pc := .connecting, stream := none, conn := none }, closes := session.stream.toList }
  | woke (length : Int64) (pc : session.pc = .sleeping length) :
      ClientMoved maxDelay session fresh 0
        { thread := { session with pc := .connecting, slept := session.slept + length.toNatClampNeg } }

theorem unconnected_moved (maxDelay : Int64) (session : ClientSession) (fresh added : Nat) (pc : session.pc = .connecting) :
    ClientMoved maxDelay session fresh added (unconnected maxDelay { session with carriers := session.carriers + added }) := by
  cases kind : session.tunnel with
  | reverse dynamic =>
      simp only [unconnected]
      exact kind ▸ .failed added dynamic pc kind
  | _ =>
      simp only [unconnected]
      exact kind ▸ .gaveUp added (.inr ⟨pc, fun dynamic back => by cases kind.symm.trans back⟩)

theorem moved_carriers (maxDelay : Int64) (session : ClientSession) (fresh added : Nat) (effect : Effect ClientSession)
    (moved : ClientMoved maxDelay session fresh added effect) : effect.thread.carriers = session.carriers + added := by
  cases moved <;> rfl

theorem client_moved (maxDelay : Int64) (session : ClientSession) (fresh : Nat) (action : ClientAction) (effect : Effect ClientSession)
    (acted : clientAct maxDelay session fresh action = some effect) :
    ClientMoved maxDelay session fresh action.carriers effect := by
  have forward : (∀ dynamic, session.tunnel = .reverse dynamic → False) → session.forward := fun not dynamic same => not dynamic same
  unfold clientAct at acted
  split at acted
  · rename_i pc
    cases acted
    exact .learned pc
  · rename_i pc
    cases acted
    exact .gaveUp 0 (.inl pc)
  · rename_i pc
    cases acted
    exact unconnected_moved maxDelay session fresh 0 pc
  · rename_i pc
    cases acted
    exact unconnected_moved maxDelay session fresh 1 pc
  · rename_i pc
    dsimp only at acted
    split at acted
    · rename_i back
      cases acted
      exact .returned _ _ _ pc back
    · rename_i other
      cases acted
      exact .connected _ _ pc (forward other)
  · rename_i pc
    cases acted
    exact .framed _ pc
  · rename_i pc
    cases acted
    exact .dropped _ _ (.inl ⟨pc, rfl⟩)
  · rename_i pc
    cases acted
    exact .dialled _ pc
  · rename_i pc
    cases acted
    exact .dropped _ _ (.inr ⟨pc, rfl⟩)
  · rename_i pc
    obtain ⟨_, same⟩ := Option.ite_none_left_eq_some.mp acted
    cases same
    exact .pinged _ _ _ pc
  · rename_i pc
    cases acted
    exact .finishedOut _ _ pc
  · rename_i pc
    cases acted
    exact .finishedIn _ _ pc
  · rename_i pc
    split at acted
    · rename_i back
      cases acted
      exact .leftBack _ _ pc back
    · rename_i other
      cases acted
      exact .left _ pc (forward other)
  · rename_i pc
    cases acted
    exact .woke _ pc
  · cases acted

section

variable (maxDelay : Int64) (session : ClientSession) (fresh : Nat) (action : ClientAction) (effect : Effect ClientSession)

theorem session_acts (tidy : TidySession session) (acted : clientAct maxDelay session fresh action = some effect) :
    TidySession effect.thread ∧ Conserves ClientSession.held session.held fresh effect := by
  have moved := client_moved maxDelay session fresh action effect acted
  generalize action.carriers = added at moved
  unfold TidySession at tidy
  cases moved with
  | learned pc =>
      simp only [pc] at tidy
      exact ⟨⟨tidy.1, fun dynamic same => absurd same (tidy.2 dynamic)⟩, conserves_same _ _ _ _ rfl⟩
  | gaveUp _ pc =>
      have stream : session.stream = none := by
        rcases pc with pc | ⟨pc, _⟩
        · simp only [pc] at tidy
          exact tidy.1
        · simp only [pc] at tidy
          exact tidy.1
      refine ⟨?_, conserves_parts _ _ _ _ (by simp [ClientSession.held, PipedEnds.held, stream])⟩
      simp [TidySession, ClientSession.held, PipedEnds.held, stream]
  | failed _ dynamic pc back =>
      simp only [pc] at tidy
      refine ⟨?_, conserves_same _ _ _ _ rfl⟩
      simp [TidySession, ClientSession.held, PipedEnds.held, tidy.1, tidy.2 dynamic back]
  | connected _ transport pc forward =>
      simp only [pc] at tidy
      exact ⟨by simp [TidySession], conserves_parts _ _ _ _ (by simp [ClientSession.held, PipedEnds.held, tidy.1, or_comm])⟩
  | returned _ dynamic transport pc back =>
      simp only [pc] at tidy
      have conn := tidy.2 dynamic back
      refine ⟨?_, conserves_parts _ _ _ _ (by simp [ClientSession.held, PipedEnds.held, tidy.1, conn])⟩
      cases dynamic <;> exact conn
  | framed transport pc =>
      simp only [pc] at tidy
      exact ⟨tidy, conserves_same _ _ _ _ rfl⟩
  | dropped transport length pc =>
      have conn : session.conn = none := by
        rcases pc with ⟨pc, _⟩ | ⟨pc, _⟩
        · simpa only [pc] using tidy
        · simpa only [pc] using tidy
      refine ⟨?_, conserves_parts _ _ _ _ (by simp [ClientSession.held, PipedEnds.held, conn])⟩
      simp [TidySession, ClientSession.held, PipedEnds.held, conn]
  | dialled transport pc =>
      simp only [pc] at tidy
      exact ⟨by simp [TidySession], conserves_parts _ _ _ _ (by simp [ClientSession.held, PipedEnds.held, tidy])⟩
  | pinged transport outDone inDone pc =>
      refine ⟨?_, conserves_parts _ _ _ _ (by simp [ClientSession.held, PipedEnds.held, or_comm])⟩
      simp only [TidySession, pc] at tidy ⊢
      exact tidy
  | finishedOut transport inDone pc =>
      simp only [pc] at tidy
      exact ⟨fun done => finish_out_conn _ transport (tidy done),
        conserves_closing _ _ _ _ _ _ rfl (finish_out_parts _ transport)⟩
  | finishedIn transport outDone pc =>
      exact ⟨fun _ => finish_in_conn _ transport, conserves_closing _ _ _ _ _ _ rfl (finish_in_parts _ transport)⟩
  | left transport pc forward =>
      exact ⟨rfl, conserves_parts _ _ _ _ (by simp [ClientSession.held, PipedEnds.held])⟩
  | leftBack dynamic transport pc back =>
      -- The goroutine that reads the stream has closed the connection.
      simp only [pc] at tidy
      exact ⟨⟨rfl, fun _ _ => rfl⟩, conserves_parts _ _ _ _ (by simp [ClientSession.held, PipedEnds.held, tidy])⟩
  | woke length pc =>
      simp only [pc] at tidy
      obtain ⟨stream, conn⟩ := List.append_eq_nil_iff.mp tidy
      exact ⟨⟨Option.toList_eq_nil_iff.mp stream, fun _ _ => Option.toList_eq_nil_iff.mp conn⟩, conserves_same _ _ _ _ rfl⟩

end

theorem client_disciplined (maxDelay : Int64) : Disciplined startSession (clientAct maxDelay) ClientSession.held TidySession where
  starts := session_starts
  acts := session_acts maxDelay

-- Over, asleep, or on the way back to the server.
def ClientSession.resting (session : ClientSession) : Bool :=
  match session.pc, session.tunnel with
  | .ended, _ => true
  | .sleeping _, _ => true
  | .connecting, .reverse _ => true
  | _, _ => false

theorem resting_holds_none (session : ClientSession) (tidy : TidySession session) (rests : session.resting = true) : session.held = [] := by
  obtain ⟨⟨stream, conn⟩, tunnel, pc, delay, failures, fruitless, slept, carriers⟩ := session
  cases pc with
  | ended => exact tidy
  | sleeping length => exact tidy
  | connecting =>
      cases tunnel with
      | reverse dynamic =>
          obtain ⟨rfl, free⟩ := tidy
          obtain rfl := free dynamic rfl
          rfl
      | _ => cases rests
  | _ => cases rests

-- A forward tunnel over HTTP/2 that the peer ends, and a reverse tunnel whose server is away.
def clientEvents : List (Happens ClientTunnel ClientAction) :=
  [.spawn .told, .spawn (.reverse false), .act 0 (.learn true), .act 0 (.connect (.stream .http2)), .act 1 (.connect .failed),
    .act 1 .wake, .act 1 (.connect .refused), .act 0 .finishIn, .act 1 .wake, .act 1 (.connect .failed), .act 0 .finishOut]

def servingWorld : World ClientSession := (run (clientStep 0) ⟨[], []⟩ (clientEvents.take 5)).get (by decide)

end WarpStream
