import Mathlib.Logic.Function.Basic
import WarpStream.Transition

set_option autoImplicit false

namespace WarpStream

abbrev SessionId := Nat

inductive UdpTunnel where
  | runUdpTunnel
  | runTProxyUdpTunnel
deriving DecidableEq, Repr

-- The goroutine that reads from a session's stream: its loop, the deferred
-- section under mu, the Close behind it.
inductive ReaderPc where
  | reading
  | ending
  | closing
  | done
deriving DecidableEq, Repr

-- A session is the stream together with the timer made for it. armed says that
-- the timer is running, callbacks counts the calls of its function that wait for
-- mu, closings those that are past it. started is no part of the source: it
-- records that a clean-up of the session has begun.
structure Session where
  addr : String
  reader : ReaderPc
  armed : Bool
  callbacks : Nat
  closings : Nat
  closed : Bool
  started : Bool
deriving DecidableEq, Repr

def newSession (addr : String) : Session := ⟨addr, .reading, true, 0, 0, false, false⟩

inductive LoopPc where
  | idle
  | writing (addr : String) (session : SessionId)
  | failed (addr : String) (session : SessionId)
  | closing (session : SessionId)
deriving DecidableEq, Repr

structure UdpTable where
  clients : String → Option SessionId
  timers : String → Option SessionId
  sessions : SessionId → Session
  nextSession : Nat
  loop : LoopPc

def newUdpTable : UdpTable := ⟨fun _ => none, fun _ => none, fun _ => newSession "", 0, .idle⟩

def UdpTable.setSession (table : UdpTable) (session : SessionId) (value : Session) : UdpTable :=
  { table with sessions := Function.update table.sessions session value }

-- timers[addr].Reset and timers[addr].Stop, where the entry exists. A timer can
-- be reset after its function was called and then calls it again.
def resetTimer (table : UdpTable) (addr : String) : UdpTable :=
  match table.timers addr with
  | some session => table.setSession session { table.sessions session with armed := true }
  | none => table

def stopTimer (table : UdpTable) (addr : String) : UdpTable :=
  match table.timers addr with
  | some session => table.setSession session { table.sessions session with armed := false }
  | none => table

def deleteEntries (table : UdpTable) (addr : String) : UdpTable :=
  { table with clients := Function.update table.clients addr none, timers := Function.update table.timers addr none }

def stopAndDelete (table : UdpTable) (addr : String) : UdpTable := deleteEntries (stopTimer table addr) addr

def closeStream (table : UdpTable) (session : SessionId) : UdpTable :=
  table.setSession session { table.sessions session with closed := true }

-- One function closes its own stream behind the section, the other the stream
-- it finds in clients, inside.
def timerSection (tunnel : UdpTunnel) (table : UdpTable) (session : SessionId) : UdpTable :=
  let addr := (table.sessions session).addr
  let callbacks := (table.sessions session).callbacks - 1
  match tunnel with
  | .runUdpTunnel =>
      let closings := (table.sessions session).closings + 1
      deleteEntries
        (table.setSession session { table.sessions session with callbacks := callbacks, closings := closings }) addr
  | .runTProxyUdpTunnel =>
      let called := table.setSession session { table.sessions session with callbacks := callbacks }
      match called.clients addr with
      | some stream => deleteEntries (closeStream called stream) addr
      | none => deleteEntries called addr

inductive UdpEvent where
  | datagram (addr : String) (connects : Bool)
  | written
  | writeFails
  | writeSection
  | writeClose
  | timerFires (session : SessionId)
  | timerSection (session : SessionId)
  | timerClose (session : SessionId)
  | message (session : SessionId)
  | readFails (session : SessionId)
  | readSection (session : SessionId)
  | readClose (session : SessionId)

def insertSession (table : UdpTable) (addr : String) : UdpTable :=
  let session := table.nextSession
  { table.setSession session (newSession addr) with
    clients := Function.update table.clients addr (some session)
    timers := Function.update table.timers addr (some session)
    nextSession := session + 1
    loop := .writing addr session }

def udpStep (tunnel : UdpTunnel) (table : UdpTable) : UdpEvent → Option UdpTable
  | .datagram addr connects =>
      if table.loop = .idle then
        match table.clients addr with
        | some session => some { resetTimer table addr with loop := .writing addr session }
        | none => some (if connects then insertSession table addr else table)
      else none
  | .written =>
      match table.loop with
      | .writing _ _ => some { table with loop := .idle }
      | _ => none
  | .writeFails =>
      match table.loop, tunnel with
      | .writing addr session, .runUdpTunnel =>
          some { table.setSession session { table.sessions session with started := true } with loop := .failed addr session }
      | _, _ => none
  | .writeSection =>
      match table.loop with
      | .failed addr session => some { stopAndDelete table addr with loop := .closing session }
      | _ => none
  | .writeClose =>
      match table.loop with
      | .closing session => some { closeStream table session with loop := .idle }
      | _ => none
  | .timerFires session =>
      if session < table.nextSession ∧ (table.sessions session).armed = true then
        some (table.setSession session
          { table.sessions session with
            armed := false, callbacks := (table.sessions session).callbacks + 1, started := true })
      else none
  | .timerSection session =>
      if session < table.nextSession ∧ 0 < (table.sessions session).callbacks then some (timerSection tunnel table session)
      else none
  | .timerClose session =>
      if session < table.nextSession ∧ 0 < (table.sessions session).closings then
        some (closeStream (table.setSession session
          { table.sessions session with closings := (table.sessions session).closings - 1 }) session)
      else none
  | .message session =>
      if session < table.nextSession ∧ (table.sessions session).reader = .reading then
        some (resetTimer table (table.sessions session).addr)
      else none
  | .readFails session =>
      if session < table.nextSession ∧ (table.sessions session).reader = .reading then
        some (table.setSession session { table.sessions session with reader := .ending, started := true })
      else none
  | .readSection session =>
      if session < table.nextSession ∧ (table.sessions session).reader = .ending then
        let ended := table.setSession session { table.sessions session with reader := .closing }
        some (stopAndDelete ended (table.sessions session).addr)
      else none
  | .readClose session =>
      if session < table.nextSession ∧ (table.sessions session).reader = .closing then
        some (closeStream (table.setSession session { table.sessions session with reader := .done }) session)
      else none

-- One constructor for each way a step can go, with the state it is enabled in.
inductive UdpMoved (tunnel : UdpTunnel) (table : UdpTable) : UdpEvent → UdpTable → Prop where
  | found (addr : String) (connects : Bool) (session : SessionId) (idle : table.loop = .idle)
      (entry : table.clients addr = some session) :
      UdpMoved tunnel table (.datagram addr connects) { resetTimer table addr with loop := .writing addr session }
  | inserted (addr : String) (idle : table.loop = .idle) (missing : table.clients addr = none) :
      UdpMoved tunnel table (.datagram addr true) (insertSession table addr)
  | refused (addr : String) (idle : table.loop = .idle) (missing : table.clients addr = none) :
      UdpMoved tunnel table (.datagram addr false) table
  | written (addr : String) (session : SessionId) (writing : table.loop = .writing addr session) :
      UdpMoved tunnel table .written { table with loop := .idle }
  | writeFails (addr : String) (session : SessionId) (writing : table.loop = .writing addr session) :
      UdpMoved tunnel table .writeFails
        { table.setSession session { table.sessions session with started := true } with loop := .failed addr session }
  | writeSection (addr : String) (session : SessionId) (failed : table.loop = .failed addr session) :
      UdpMoved tunnel table .writeSection { stopAndDelete table addr with loop := .closing session }
  | writeClose (session : SessionId) (closing : table.loop = .closing session) :
      UdpMoved tunnel table .writeClose { closeStream table session with loop := .idle }
  | timerFires (session : SessionId) (issued : session < table.nextSession) (armed : (table.sessions session).armed = true) :
      UdpMoved tunnel table (.timerFires session) (table.setSession session
        { table.sessions session with armed := false, callbacks := (table.sessions session).callbacks + 1, started := true })
  | timerSection (session : SessionId) (issued : session < table.nextSession) (called : 0 < (table.sessions session).callbacks) :
      UdpMoved tunnel table (.timerSection session) (timerSection tunnel table session)
  | timerClose (session : SessionId) (issued : session < table.nextSession) (pending : 0 < (table.sessions session).closings) :
      UdpMoved tunnel table (.timerClose session) (closeStream (table.setSession session
        { table.sessions session with closings := (table.sessions session).closings - 1 }) session)
  | message (session : SessionId) (issued : session < table.nextSession) (reading : (table.sessions session).reader = .reading) :
      UdpMoved tunnel table (.message session) (resetTimer table (table.sessions session).addr)
  | readFails (session : SessionId) (issued : session < table.nextSession) (reading : (table.sessions session).reader = .reading) :
      UdpMoved tunnel table (.readFails session)
        (table.setSession session { table.sessions session with reader := .ending, started := true })
  | readSection (session : SessionId) (issued : session < table.nextSession) (ending : (table.sessions session).reader = .ending) :
      UdpMoved tunnel table (.readSection session)
        (stopAndDelete (table.setSession session { table.sessions session with reader := .closing }) (table.sessions session).addr)
  | readClose (session : SessionId) (issued : session < table.nextSession) (closing : (table.sessions session).reader = .closing) :
      UdpMoved tunnel table (.readClose session)
        (closeStream (table.setSession session { table.sessions session with reader := .done }) session)

theorem datagram_moved (tunnel : UdpTunnel) (table next : UdpTable) (addr : String) (connects : Bool)
    (stepped : udpStep tunnel table (.datagram addr connects) = some next) :
    UdpMoved tunnel table (.datagram addr connects) next := by
  obtain ⟨idle, moved⟩ := Option.ite_none_right_eq_some.mp stepped
  cases entry : table.clients addr with
  | some session =>
      simp only [entry, Option.some.injEq] at moved
      rw [← moved]
      exact .found addr connects session idle entry
  | none =>
      simp only [entry, Option.some.injEq] at moved
      rw [← moved]
      cases connects with
      | true => exact .inserted addr idle entry
      | false => exact .refused addr idle entry

theorem write_moved (tunnel : UdpTunnel) (table next : UdpTable) (event : UdpEvent)
    (writes : event = .written ∨ event = .writeFails ∨ event = .writeSection ∨ event = .writeClose)
    (stepped : udpStep tunnel table event = some next) : UdpMoved tunnel table event next := by
  rcases writes with rfl | rfl | rfl | rfl
  all_goals
    simp only [udpStep] at stepped
    split at stepped <;> cases stepped
  · exact .written _ _ (by assumption)
  · exact .writeFails _ _ (by assumption)
  · exact .writeSection _ _ (by assumption)
  · exact .writeClose _ (by assumption)

theorem udp_step_moved (tunnel : UdpTunnel) (table next : UdpTable) (event : UdpEvent)
    (stepped : udpStep tunnel table event = some next) : UdpMoved tunnel table event next := by
  cases event with
  | datagram addr connects => exact datagram_moved tunnel table next addr connects stepped
  | written | writeFails | writeSection | writeClose => exact write_moved tunnel table next _ (by simp) stepped
  | timerFires session =>
      obtain ⟨⟨issued, armed⟩, moved⟩ := Option.ite_none_right_eq_some.mp stepped
      cases moved
      exact .timerFires session issued armed
  | timerSection session =>
      obtain ⟨⟨issued, called⟩, moved⟩ := Option.ite_none_right_eq_some.mp stepped
      cases moved
      exact .timerSection session issued called
  | timerClose session =>
      obtain ⟨⟨issued, pending⟩, moved⟩ := Option.ite_none_right_eq_some.mp stepped
      cases moved
      exact .timerClose session issued pending
  | message session =>
      obtain ⟨⟨issued, reading⟩, moved⟩ := Option.ite_none_right_eq_some.mp stepped
      cases moved
      exact .message session issued reading
  | readFails session =>
      obtain ⟨⟨issued, reading⟩, moved⟩ := Option.ite_none_right_eq_some.mp stepped
      cases moved
      exact .readFails session issued reading
  | readSection session =>
      obtain ⟨⟨issued, ending⟩, moved⟩ := Option.ite_none_right_eq_some.mp stepped
      cases moved
      exact .readSection session issued ending
  | readClose session =>
      obtain ⟨⟨issued, closing⟩, moved⟩ := Option.ite_none_right_eq_some.mp stepped
      cases moved
      exact .readClose session issued closing

end WarpStream
