import Mathlib.Data.List.Flatten
import WarpStream.Datagrams
import WarpStream.Forwarding
import WarpStream.ReverseUdp

set_option autoImplicit false

namespace WarpStream

open Transition

-- A message of a client connection, with the session whose handler passed it on
-- and the peer of that session.
structure Passage where
  wait : WaiterId
  session : Nat
  peer : String
  data : List UInt8
deriving DecidableEq, Repr

-- A reverse UDP listener with the handlers of its sessions. The handler of a
-- session is the goroutine that runs handleIncoming for it, its uplink the
-- goroutine of Pipe that reads the session. The last three fields are history: the
-- datagrams read by the listener, the messages written to client connections, and
-- the datagrams written to peers.
structure UdpRelay where
  udp : ReverseUdp
  queue : WaitQueue
  handler : Nat → GoroutineId
  uplink : Nat → ToWebSocket
  heard : List (String × List UInt8)
  sent : List Passage
  replies : List Passage

def newUdpRelay (idleTimeout : Int) : UdpRelay :=
  ⟨newReverseUdp, newWaitQueue idleTimeout, fun _ => 0, fun _ => .returned, [], [], []⟩

def UdpRelay.peer (state : UdpRelay) (session : Nat) : String := (state.udp.session session).peer

-- The client connection that the handler of a session forwards to.
def UdpRelay.serves (state : UdpRelay) (session : Nat) : Option WaiterId :=
  if session < state.udp.created then
    match state.queue.goroutines (state.handler session) with
    | .forwarding wait => some wait
    | _ => none
  else none

def UdpRelay.setUplink (state : UdpRelay) (session : Nat) (place : ToWebSocket) : UdpRelay :=
  { state with uplink := Function.update state.uplink session place }

-- handleIncoming is started for the session that was made last.
def UdpRelay.start (state : UdpRelay) (udp : ReverseUdp) (queue : WaitQueue) (goroutine : GoroutineId) : UdpRelay :=
  { state with
    udp := udp
    queue := queue
    handler := Function.update state.handler state.udp.created goroutine
    uplink := Function.update state.uplink state.udp.created .reading }

def QueueEvent.startsHandler : QueueEvent → Bool
  | .handleIncoming _ => true
  | _ => false

inductive RelayEvent where
  | readFrom (peer : String) (data : List UInt8)
  | readError
  | lookup (goroutine : GoroutineId)
  | push
  | close (session : Nat)
  | onClose (session : Nat)
  | queue (event : QueueEvent)
  | read (session : Nat)
  | write (session : Nat) (failed : Bool)
  | reply (session : Nat) (data : List UInt8)

-- A lookup that makes a session starts its handler with it. The read of a closed
-- and drained session and a failed write end the uplink; a message of the client
-- goes to the peer by udpSessionConn.Write, which does not ask whether the session
-- is closed.
def relayStep : Step UdpRelay RelayEvent := fun state event =>
  match event with
  | .readFrom peer data =>
      (reverseUdpStep state.udp (.readFrom peer data)).map fun udp => { state with udp := udp, heard := state.heard ++ [(peer, data)] }
  | .readError => (reverseUdpStep state.udp .readError).map fun udp => { state with udp := udp }
  | .lookup goroutine =>
      (reverseUdpStep state.udp .lookup).bind fun udp =>
        if state.udp.created < udp.created then
          (queueStep state.queue (.handleIncoming goroutine)).map fun queue => state.start udp queue goroutine
        else some { state with udp := udp }
  | .push => (reverseUdpStep state.udp .push).map fun udp => { state with udp := udp }
  | .close session => (reverseUdpStep state.udp (.close session)).map fun udp => { state with udp := udp }
  | .onClose session => (reverseUdpStep state.udp (.onClose session)).map fun udp => { state with udp := udp }
  | .queue event =>
      if event.startsHandler then none else (queueStep state.queue event).map fun queue => { state with queue := queue }
  | .read session =>
      if (state.serves session).isSome ∧ state.uplink session = .reading then
        match (state.udp.session session).conn.ch.receive with
        | .blocks => none
        | .closed => some (state.setUplink session (toWebSocketRead [] true))
        | .value data _ => (reverseUdpStep state.udp (.receive session)).map fun udp =>
            { state with udp := udp }.setUplink session (toWebSocketRead (data.take pipe.bufferSize) false)
      else none
  | .write session failed =>
      match state.serves session, state.uplink session with
      | some wait, .writing chunk =>
          if failed then some (state.setUplink session .closing)
          else some { state.setUplink session .reading with sent := state.sent ++ [⟨wait, session, state.peer session, chunk⟩] }
      | _, _ => none
  | .reply session data =>
      match state.serves session with
      | some wait => some { state with replies := state.replies ++ [⟨wait, session, state.peer session, data⟩] }
      | none => none

def UdpRelay.passages (state : UdpRelay) : List Passage := state.sent ++ state.replies

-- A passage's session has had no other client connection, and its client
-- connection no other session.
structure Passed (state : UdpRelay) (passage : Passage) : Prop where
  created : passage.session < state.udp.created
  peer : passage.peer = state.peer passage.session
  handed : passage.wait ∈ state.queue.handed
  place : state.queue.goroutines (state.handler passage.session) = .forwarding passage.wait ∨
    state.queue.goroutines (state.handler passage.session) = .returned
  alone : ∀ goroutine, state.queue.goroutines goroutine = .forwarding passage.wait → goroutine = state.handler passage.session

structure Crew (state : UdpRelay) : Prop where
  queue : QueueSound 10 state.queue
  forwards : Forwards state.queue
  incoming : ∀ session, session < state.udp.created → (state.queue.goroutines (state.handler session)).incoming = true
  distinct : ∀ first second, first < state.udp.created → second < state.udp.created → state.handler first = state.handler second →
    first = second
  passed : ∀ passage ∈ state.passages, Passed state passage
  paired : ∀ one ∈ state.passages, ∀ two ∈ state.passages, one.wait = two.wait ↔ one.session = two.session

theorem serves_some (state : UdpRelay) (session : Nat) (wait : WaiterId) (serves : state.serves session = some wait) :
    session < state.udp.created ∧ state.queue.goroutines (state.handler session) = .forwarding wait := by
  rw [UdpRelay.serves] at serves
  split at serves
  · split at serves
    · cases serves
      exact ⟨by assumption, by assumption⟩
    · cases serves
  · cases serves

section

variable (state next : UdpRelay) (crew : Crew state)

include crew

theorem crew_frame (queue : next.queue = state.queue) (handler : next.handler = state.handler)
    (created : next.udp.created = state.udp.created) (peers : ∀ session, next.peer session = state.peer session)
    (passages : next.passages = state.passages) : Crew next := by
  obtain ⟨sound, forwards, incoming, distinct, passed, paired⟩ := crew
  refine ⟨queue ▸ sound, queue ▸ forwards, ?_, ?_, ?_, ?_⟩
  · rw [queue, handler, created]
    exact incoming
  · rw [handler, created]
    exact distinct
  · intro passage member
    rw [passages] at member
    obtain ⟨made, peer, handed, place, alone⟩ := passed passage member
    refine ⟨created ▸ made, (peers _).symm ▸ peer, queue ▸ handed, ?_, ?_⟩
    · rw [queue, handler]
      exact place
    · rw [queue, handler]
      exact alone
  · rw [passages]
    exact paired

theorem crew_passage (passage : Passage) (serves : state.serves passage.session = some passage.wait)
    (own : passage.peer = state.peer passage.session) (queue : next.queue = state.queue) (handler : next.handler = state.handler)
    (udp : next.udp = state.udp) (passages : ∀ other ∈ next.passages, other ∈ state.passages ∨ other = passage) : Crew next := by
  obtain ⟨made, forwarding⟩ := serves_some state _ _ serves
  obtain ⟨sound, forwards, incoming, distinct, passed, paired⟩ := crew
  have peers : ∀ session, next.peer session = state.peer session := fun session => by rw [UdpRelay.peer, udp, UdpRelay.peer]
  -- An older passage of this session or of this connection is of both.
  have pairs : ∀ other ∈ state.passages, other.wait = passage.wait ↔ other.session = passage.session := by
    intro other member
    obtain ⟨born, _, _, place, alone⟩ := passed other member
    constructor
    · intro same
      have goroutine := alone (state.handler passage.session) (same ▸ forwarding)
      exact distinct _ _ born made goroutine.symm
    · intro same
      rw [same, forwarding] at place
      rcases place with held | ended
      · exact (Pc.forwarding.inj held).symm
      · cases ended
  refine ⟨queue ▸ sound, queue ▸ forwards, ?_, ?_, ?_, ?_⟩
  · rw [queue, handler, udp]
    exact incoming
  · rw [handler, udp]
    exact distinct
  · intro other member
    rcases passages other member with old | rfl
    · obtain ⟨born, peer, handed, place, alone⟩ := passed other old
      refine ⟨udp ▸ born, (peers _).symm ▸ peer, queue ▸ handed, ?_, ?_⟩
      · rw [queue, handler]
        exact place
      · rw [queue, handler]
        exact alone
    · refine ⟨udp ▸ made, (peers _).symm ▸ own, queue ▸ forwards.handed _ _ forwarding, ?_, ?_⟩
      · rw [queue, handler]
        exact .inl forwarding
      · rw [queue, handler]
        exact fun goroutine held => forwards.single _ _ _ held forwarding
  · intro one first two second
    rcases passages one first with oldOne | rfl
    · rcases passages two second with oldTwo | rfl
      · exact paired one oldOne two oldTwo
      · exact pairs one oldOne
    · rcases passages two second with oldTwo | rfl
      · exact eq_comm.trans ((pairs two oldTwo).trans eq_comm)
      · exact ⟨fun _ => rfl, fun _ => rfl⟩

theorem crew_queue (event : QueueEvent) (queue : WaitQueue) (stepped : queueStep state.queue event = some queue) :
    Crew { state with queue := queue } := by
  obtain ⟨sound, forwards, incoming, distinct, passed, paired⟩ := crew
  have changed := queue_pc_change state.queue queue event stepped
  refine ⟨queue_sound_step 10 state.queue event queue sound stepped, forwards_step state.queue queue event sound forwards stepped,
    ?_, distinct, ?_, paired⟩
  · exact fun session made => change_incoming state.queue queue _ _ (changed _) (incoming session made)
  · intro passage member
    obtain ⟨born, peer, handed, place, alone⟩ := passed passage member
    refine ⟨born, peer, queue_step_handed state.queue queue event stepped _ handed, ?_, ?_⟩
    · exact change_served state.queue queue _ _ _ (changed _) place
    · intro goroutine held
      rcases forwarding_new state.queue queue event sound stepped goroutine _ held with old | ⟨unhanded, _⟩
      · exact alone goroutine old
      · exact absurd handed unhanded

-- The new handler was idle, so that it is none of those at work.
theorem crew_started (goroutine : GoroutineId) (udp : ReverseUdp) (idle : state.queue.goroutines goroutine = .idle)
    (created : udp.created = state.udp.created + 1)
    (peers : ∀ session, session < state.udp.created → (udp.session session).peer = state.peer session) :
    Crew (state.start udp (state.queue.setPc goroutine .acquiring) goroutine) := by
  have stepped : queueStep state.queue (.handleIncoming goroutine) = some (state.queue.setPc goroutine .acquiring) := by
    simp only [queueStep, idle]
  obtain ⟨sound, forwards, incoming, distinct, passed, paired⟩ := crew_queue state crew _ _ stepped
  have older : ∀ session, session < state.udp.created →
      Function.update state.handler state.udp.created goroutine session = state.handler session :=
    fun session made => Function.update_of_ne (Nat.ne_of_lt made) _ _
  have other : ∀ session, session < state.udp.created → state.handler session ≠ goroutine := by
    intro session made same
    have busy := crew.incoming session made
    rw [same, idle] at busy
    cases busy
  refine ⟨sound, forwards, ?_, ?_, ?_, paired⟩
  · intro session made
    rcases Nat.lt_succ_iff_lt_or_eq.mp (created ▸ made : session < state.udp.created + 1) with before | rfl
    · simp only [UdpRelay.start, older session before]
      exact incoming session before
    · simp only [UdpRelay.start, Function.update_self, set_pc_at]
      rfl
  · intro first second one two same
    simp only [UdpRelay.start] at same
    rcases Nat.lt_succ_iff_lt_or_eq.mp (created ▸ one : first < state.udp.created + 1) with before | rfl
    · rcases Nat.lt_succ_iff_lt_or_eq.mp (created ▸ two : second < state.udp.created + 1) with too | rfl
      · rw [older first before, older second too] at same
        exact distinct first second before too same
      · rw [older first before, Function.update_self] at same
        exact absurd same (other first before)
    · rcases Nat.lt_succ_iff_lt_or_eq.mp (created ▸ two : second < state.udp.created + 1) with too | rfl
      · rw [older second too, Function.update_self] at same
        exact absurd same.symm (other second too)
      · rfl
  · intro passage member
    obtain ⟨born, peer, handed, place, alone⟩ := passed passage member
    have same := older passage.session born
    refine ⟨created ▸ Nat.lt_succ_of_lt born, peer.trans (peers _ born).symm, handed, ?_, ?_⟩
    · simp only [UdpRelay.start, same]
      exact place
    · simp only [UdpRelay.start, same]
      exact alone

end

def NewestOf (udp : ReverseUdp) (session : Nat) (peer : String) : Prop :=
  ∀ later, session < later → later < udp.created → (udp.session later).peer ≠ peer

-- The session that a datagram is pushed to is the newest one of its peer.
structure LatestFound (udp : ReverseUdp) : Prop where
  entries : ∀ peer session, udp.sessions peer = some session → NewestOf udp session peer
  pushes : ∀ session peer data, udp.loop = .pushing session peer data → NewestOf udp session peer

def ReverseUdp.queued (udp : ReverseUdp) (session : Nat) : List (List UInt8) := (udp.session session).conn.ch.buffer

-- What all steps of the listener but one that opens a session leave alone.
structure TableFrame (udp next : ReverseUdp) : Prop where
  created : next.created = udp.created
  peers : ∀ session, (next.session session).peer = (udp.session session).peer
  entries : ∀ peer session, next.sessions peer = some session → udp.sessions peer = some session

theorem latest_frame (udp next : ReverseUdp) (latest : LatestFound udp) (frame : TableFrame udp next)
    (pushes : ∀ session peer data, next.loop = .pushing session peer data → NewestOf udp session peer) : LatestFound next := by
  have newest : ∀ session peer, NewestOf udp session peer → NewestOf next session peer := by
    intro session peer before later after made
    rw [frame.peers]
    exact before later after (frame.created ▸ made)
  exact ⟨fun peer session entry => newest session peer (latest.entries peer session (frame.entries peer session entry)),
    fun session peer data pushing => newest session peer (pushes session peer data pushing)⟩

theorem set_session_frame (udp : ReverseUdp) (session : Nat) (value : ReverseSession)
    (peer : value.peer = (udp.session session).peer) : TableFrame udp (udp.setSession session value) := by
  refine ⟨rfl, fun other => ?_, fun _ _ entry => entry⟩
  by_cases same : other = session
  · rw [same, ReverseUdp.setSession]
    simp only [Function.update_self, peer]
  · simp only [ReverseUdp.setSession, Function.update_of_ne same]

theorem set_session_queued (udp : ReverseUdp) (session : Nat) (value : ReverseSession) (other : Nat) :
    (udp.setSession session value).queued other = if other = session then value.conn.ch.buffer else udp.queued other := by
  simp only [ReverseUdp.queued, ReverseUdp.setSession, Function.update_apply]
  split <;> rfl

section

variable (udp : ReverseUdp) (sound : TableSound udp)

include sound

theorem session_close_moved (session : Nat) (next : ReverseUdp) (stepped : reverseUdpStep udp (.close session) = some next) :
    TableFrame udp next ∧ next.loop = udp.loop ∧ next.queued = udp.queued := by
  obtain ⟨_, moved⟩ := Option.ite_none_right_eq_some.mp stepped
  cases moved
  by_cases closed : (udp.session session).conn.closed = true
  · simp only [ReverseUdp.close, close_again _ closed]
    refine ⟨set_session_frame udp session _ (by rfl), rfl, funext fun other => ?_⟩
    rw [set_session_queued]
    split
    · rename_i same
      exact same ▸ rfl
    · rfl
  · have opened : (udp.session session).conn.closed = false := Bool.eq_false_iff.mpr closed
    simp only [ReverseUdp.close, close_first _ (sound.kept session).agree opened]
    refine ⟨set_session_frame udp session _ (by rfl), rfl, funext fun other => ?_⟩
    rw [set_session_queued]
    split
    · rename_i same
      exact same ▸ rfl
    · rfl

theorem push_moved (next : ReverseUdp) (stepped : reverseUdpStep udp .push = some next) :
    ∃ session peer data, udp.loop = .pushing session peer data ∧ TableFrame udp next ∧ next.loop = .reading ∧
      (∀ other, other ≠ session → next.queued other = udp.queued other) ∧
      (next.queued session = udp.queued session ∨ next.queued session = udp.queued session ++ [data]) := by
  cases pushing : udp.loop with
  | reading | looking | stopped => simp only [reverseUdpStep, pushing, reduceCtorEq] at stepped
  | pushing session peer data =>
      simp only [reverseUdpStep, pushing, Option.some.injEq] at stepped
      subst stepped
      have agree := (sound.kept session).agree
      have pushed : ∃ ch, (udp.session session).conn.push data = some { (udp.session session).conn with ch := ch } ∧
          (ch.buffer = udp.queued session ∨ ch.buffer = udp.queued session ++ [data]) := by
        cases accepts : (udp.session session).conn.accepts with
        | false => exact ⟨_, push_refused _ agree data accepts, .inl rfl⟩
        | true => exact ⟨_, push_accepted _ agree data accepts, .inr rfl⟩
      obtain ⟨ch, moved, buffer⟩ := pushed
      have result : udp.push session data =
          { udp.setSession session { udp.session session with conn := { (udp.session session).conn with ch := ch } } with
            loop := .reading } := by
        rw [ReverseUdp.push, moved]
      rw [result]
      have frame := set_session_frame udp session { udp.session session with conn := { (udp.session session).conn with ch := ch } } rfl
      have queued := set_session_queued udp session { udp.session session with conn := { (udp.session session).conn with ch := ch } }
      refine ⟨session, peer, data, rfl, ⟨frame.created, frame.peers, frame.entries⟩, rfl, fun other different => ?_, ?_⟩
      · exact (queued other).trans (if_neg different)
      · have here := (queued session).trans (if_pos rfl)
        exact buffer.imp here.trans here.trans

end

theorem read_from_moved (udp next : ReverseUdp) (peer : String) (data : List UInt8)
    (stepped : reverseUdpStep udp (.readFrom peer data) = some next) :
    udp.loop = .reading ∧ next = { udp with loop := .looking peer data } := by
  cases loop : udp.loop with
  | reading =>
      simp only [reverseUdpStep, loop, Option.some.injEq] at stepped
      exact ⟨rfl, stepped.symm⟩
  | looking | pushing | stopped => simp only [reverseUdpStep, loop, reduceCtorEq] at stepped

theorem read_error_moved (udp next : ReverseUdp) (stepped : reverseUdpStep udp .readError = some next) :
    udp.loop = .reading ∧ next = { udp with loop := .stopped } := by
  cases loop : udp.loop with
  | reading =>
      simp only [reverseUdpStep, loop, Option.some.injEq] at stepped
      exact ⟨rfl, stepped.symm⟩
  | looking | pushing | stopped => simp only [reverseUdpStep, loop, reduceCtorEq] at stepped

def ReverseUdp.opened (udp : ReverseUdp) (peer : String) (data : List UInt8) : ReverseUdp where
  sessions := Function.update udp.sessions peer (some udp.created)
  session := Function.update udp.session udp.created (newReverseSession peer)
  created := udp.created + 1
  loop := .pushing udp.created peer data
  panicked := udp.panicked

theorem lookup_moved (udp next : ReverseUdp) (stepped : reverseUdpStep udp .lookup = some next) :
    ∃ peer data, udp.loop = .looking peer data ∧
      ((∃ session, udp.sessions peer = some session ∧ next = { udp with loop := .pushing session peer data }) ∨
        next = udp.opened peer data) := by
  cases loop : udp.loop with
  | reading | pushing | stopped => simp only [reverseUdpStep, loop, reduceCtorEq] at stepped
  | looking peer data =>
      simp only [reverseUdpStep, loop, Option.some.injEq] at stepped
      refine ⟨peer, data, rfl, ?_⟩
      cases entry : udp.sessions peer with
      | none =>
          simp only [ReverseUdp.lookup, entry] at stepped
          exact .inr stepped.symm
      | some session =>
          simp only [ReverseUdp.lookup, entry] at stepped
          exact .inl ⟨session, rfl, stepped.symm⟩

theorem opened_older (udp : ReverseUdp) (peer : String) (data : List UInt8) (session : Nat) (made : session < udp.created) :
    (udp.opened peer data).session session = udp.session session :=
  Function.update_of_ne (Nat.ne_of_lt made) _ _

theorem opened_fresh (udp : ReverseUdp) (peer : String) (data : List UInt8) :
    (udp.opened peer data).session udp.created = newReverseSession peer :=
  Function.update_self _ _ _

theorem latest_opened (udp : ReverseUdp) (latest : LatestFound udp) (peer : String) (data : List UInt8) :
    LatestFound (udp.opened peer data) := by
  have newest : ∀ key, NewestOf (udp.opened peer data) udp.created key := by
    intro key later after made
    exact absurd made (Nat.not_lt.mpr after)
  refine ⟨fun key session entry => ?_, ?_⟩
  · by_cases same : key = peer
    · simp only [ReverseUdp.opened, same, Function.update_self, Option.some.injEq] at entry
      exact entry ▸ newest key
    · have found : udp.sessions key = some session := (Function.update_of_ne same _ _).symm.trans entry
      intro later after made
      rcases Nat.lt_succ_iff_lt_or_eq.mp made with before | rfl
      · rw [opened_older udp peer data later before]
        exact latest.entries key session found later after before
      · rw [opened_fresh]
        exact Ne.symm same
  · rintro _ _ _ ⟨⟩
    exact newest _

theorem on_close_moved (udp : ReverseUdp) (session : Nat) (next : ReverseUdp)
    (stepped : reverseUdpStep udp (.onClose session) = some next) :
    TableFrame udp next ∧ next.loop = udp.loop ∧ next.queued = udp.queued := by
  obtain ⟨_, moved⟩ := Option.ite_none_right_eq_some.mp stepped
  cases moved
  have frame := set_session_frame udp session (udp.session session).called rfl
  refine ⟨⟨frame.created, frame.peers, fun peer other entry => ?_⟩, rfl, funext fun other => ?_⟩
  · by_cases same : peer = (udp.session session).peer
    · simp only [ReverseUdp.onClose, same, Function.update_self] at entry
      cases entry
    · simp only [ReverseUdp.onClose, Function.update_of_ne same] at entry
      exact entry
  · refine (set_session_queued udp session _ other).trans ?_
    split
    · rename_i same
      exact same ▸ rfl
    · rfl

theorem receive_moved (udp : ReverseUdp) (session : Nat) (data : List UInt8) (ch : GoChan.Chan (List UInt8)) (next : ReverseUdp)
    (taken : (udp.session session).conn.ch.receive = .value data ch)
    (stepped : reverseUdpStep udp (.receive session) = some next) :
    TableFrame udp next ∧ next.loop = udp.loop ∧ udp.queued session = data :: next.queued session ∧
      ∀ other, other ≠ session → next.queued other = udp.queued other := by
  simp only [reverseUdpStep, taken] at stepped
  obtain ⟨_, moved⟩ := Option.ite_none_right_eq_some.mp stepped
  cases moved
  have queued := set_session_queued udp session { udp.session session with conn := { (udp.session session).conn with ch := ch } }
  refine ⟨set_session_frame udp session _ (by rfl), rfl, ?_, fun other different => (queued other).trans (if_neg different)⟩
  rw [queued session, if_pos rfl]
  exact ((GoChan.receive_value_iff _ _ _).mp taken).1

def pipeCut (datagram : List UInt8) : List UInt8 := datagram.take pipe.bufferSize

def UdpRelay.sessionsOf (state : UdpRelay) (peer : String) : List Nat :=
  (List.range state.udp.created).filter fun session => state.peer session = peer

def UdpRelay.messages (state : UdpRelay) (session : Nat) : List (List UInt8) :=
  (state.sent.filter fun passage => passage.session = session).map Passage.data

def UdpRelay.heardFrom (state : UdpRelay) (peer : String) : List (List UInt8) :=
  (state.heard.filter fun datagram => datagram.1 = peer).map Prod.snd

-- What has come through a session, is being written, and still waits in it.
def UdpRelay.flow (state : UdpRelay) (session : Nat) : List (List UInt8) :=
  state.messages session ++ ((state.uplink session).holds ++ (state.udp.queued session).map pipeCut)

def ListenerPc.pending (loop : ListenerPc) (peer : String) : List (List UInt8) :=
  match loop with
  | .looking source data | .pushing _ source data => if source = peer then [data] else []
  | _ => []

structure Flows (state : UdpRelay) : Prop where
  table : TableSound state.udp
  latest : LatestFound state.udp
  flow : ∀ peer, ((state.sessionsOf peer).flatMap state.flow ++ (state.udp.loop.pending peer).map pipeCut).Sublist
    ((state.heardFrom peer).map pipeCut)

theorem sessions_of_frame (state next : UdpRelay) (frame : TableFrame state.udp next.udp) (peer : String) :
    next.sessionsOf peer = state.sessionsOf peer := by
  have peers : next.peer = state.peer := funext frame.peers
  rw [UdpRelay.sessionsOf, UdpRelay.sessionsOf, peers, frame.created]

theorem filter_range_last (belongs : Nat → Bool) (count last : Nat) (within : last < count) (belonging : belongs last = true)
    (newest : ∀ later, last < later → later < count → belongs later = false) :
    (List.range count).filter belongs = (List.range last).filter belongs ++ [last] := by
  induction count with
  | zero => omega
  | succ count ih =>
      rw [List.range_succ, List.filter_append]
      rcases Nat.lt_succ_iff_lt_or_eq.mp within with before | rfl
      · rw [ih before fun later after bounded => newest later after (by omega)]
        simp [newest count before (Nat.lt_succ_self count)]
      · simp [belonging]

theorem read_holds (chunk : List UInt8) : (toWebSocketRead chunk false).holds.Sublist [chunk] := by
  cases chunk with
  | nil => exact List.nil_sublist _
  | cons => exact .refl _

section

variable (state next : UdpRelay) (flows : Flows state)

include flows

-- Nothing came in, and nothing went to another place than it did.
theorem flows_shrink (frame : TableFrame state.udp next.udp) (table : TableSound next.udp)
    (pushes : ∀ session peer data, next.udp.loop = .pushing session peer data → NewestOf state.udp session peer)
    (heard : next.heard = state.heard) (pending : ∀ peer, next.udp.loop.pending peer = state.udp.loop.pending peer)
    (flow : ∀ session, (next.flow session).Sublist (state.flow session)) : Flows next := by
  refine ⟨table, latest_frame state.udp next.udp flows.latest frame pushes, fun peer => ?_⟩
  have before := flows.flow peer
  rw [sessions_of_frame state next frame peer, pending peer, UdpRelay.heardFrom, heard]
  exact ((List.Sublist.flatMap_right _ fun session _ => flow session).append_right _).trans before

theorem flows_udp (udp : ReverseUdp) (frame : TableFrame state.udp udp) (table : TableSound udp)
    (pushes : ∀ session peer data, udp.loop = .pushing session peer data → NewestOf state.udp session peer)
    (pending : ∀ peer, udp.loop.pending peer = state.udp.loop.pending peer) (queued : udp.queued = state.udp.queued) :
    Flows { state with udp := udp } := by
  refine flows_shrink state _ flows frame table pushes rfl pending fun session => ?_
  have same : UdpRelay.flow { state with udp := udp } session = state.flow session := by
    simp only [UdpRelay.flow, UdpRelay.messages, queued]
  exact same ▸ .refl _

theorem flows_read_from (peer : String) (data : List UInt8) (udp : ReverseUdp)
    (stepped : reverseUdpStep state.udp (.readFrom peer data) = some udp) :
    Flows { state with udp := udp, heard := state.heard ++ [(peer, data)] } := by
  have table := reverse_udp_step_sound state.udp flows.table _ udp stepped
  obtain ⟨reading, rfl⟩ := read_from_moved state.udp udp peer data stepped
  have frame : TableFrame state.udp { state.udp with loop := .looking peer data } := ⟨rfl, fun _ => rfl, fun _ _ entry => entry⟩
  refine ⟨table, latest_frame state.udp _ flows.latest frame (by rintro _ _ _ ⟨⟩), fun other => ?_⟩
  have before := flows.flow other
  rw [reading] at before
  have heard : UdpRelay.heardFrom { state with
      udp := { state.udp with loop := .looking peer data }, heard := state.heard ++ [(peer, data)] } other =
      state.heardFrom other ++ if peer = other then [data] else [] := by
    simp only [UdpRelay.heardFrom, List.filter_append, List.map_append]
    by_cases same : peer = other <;> simp [same]
  rw [heard, List.map_append]
  exact ((List.sublist_append_left _ _).trans before).append (.refl _)

theorem flows_push (udp : ReverseUdp) (stepped : reverseUdpStep state.udp .push = some udp) : Flows { state with udp := udp } := by
  have table := reverse_udp_step_sound state.udp flows.table _ udp stepped
  obtain ⟨session, peer, data, pushing, frame, reading, elsewhere, grown⟩ := push_moved state.udp flows.table udp stepped
  obtain ⟨made, own⟩ := flows.table.pushes session peer data pushing
  have newest := flows.latest.pushes session peer data pushing
  refine ⟨table, latest_frame state.udp udp flows.latest frame (by rw [reading]; rintro _ _ _ ⟨⟩), fun other => ?_⟩
  have others : ∀ held, held ≠ session → UdpRelay.flow { state with udp := udp } held = state.flow held := by
    intro held different
    simp only [UdpRelay.flow, UdpRelay.messages, elsewhere held different]
  have before := flows.flow other
  rw [sessions_of_frame state { state with udp := udp } frame other, reading]
  rw [pushing] at before
  by_cases named : peer = other
  · subst named
    -- The session is the last one of its peer, so the datagram goes to the end.
    have last : state.sessionsOf peer =
        ((List.range session).filter fun held => state.peer held = peer) ++ [session] := by
      refine filter_range_last _ state.udp.created session made (decide_eq_true own) fun later after bounded => ?_
      exact decide_eq_false (newest later after bounded)
    have front : ((List.range session).filter fun held => state.peer held = peer).flatMap
        (UdpRelay.flow { state with udp := udp }) =
        ((List.range session).filter fun held => state.peer held = peer).flatMap state.flow := by
      refine List.flatMap_congr fun held member => others held ?_
      exact Nat.ne_of_lt (List.mem_range.mp (List.mem_filter.mp member).1)
    have tail : (UdpRelay.flow { state with udp := udp } session).Sublist (state.flow session ++ [pipeCut data]) := by
      simp only [UdpRelay.flow, UdpRelay.messages]
      rcases grown with same | pushed
      · rw [same]
        exact List.sublist_append_left _ _
      · rw [pushed, List.map_append]
        simp only [List.append_assoc, List.map_cons, List.map_nil]
        exact .refl _
    rw [last] at before ⊢
    simp only [List.flatMap_append, List.flatMap_cons, List.flatMap_nil, List.append_nil, List.append_assoc, front,
      ListenerPc.pending, if_true, List.map_cons, List.map_nil] at before ⊢
    exact (tail.append_left _).trans before
  · have same : (state.sessionsOf other).flatMap (UdpRelay.flow { state with udp := udp }) =
        (state.sessionsOf other).flatMap state.flow := by
      refine List.flatMap_congr fun held member => others held ?_
      rintro rfl
      exact named (own.symm.trans (of_decide_eq_true (List.mem_filter.mp member).2))
    rw [ListenerPc.pending, if_neg named] at before
    rw [same]
    exact before

theorem flows_lookup_found (peer : String) (data : List UInt8) (session : Nat) (loop : state.udp.loop = .looking peer data)
    (entry : state.udp.sessions peer = some session) (table : TableSound { state.udp with loop := .pushing session peer data }) :
    Flows { state with udp := { state.udp with loop := .pushing session peer data } } := by
  refine flows_udp state flows _ ⟨rfl, fun _ => rfl, fun _ _ entry => entry⟩ table ?_ ?_ rfl
  · rintro _ _ _ ⟨⟩
    exact flows.latest.entries peer session entry
  · intro other
    rw [loop]
    rfl

-- The new session is the newest one of its peer, and has passed nothing on yet.
theorem flows_opened (crew : Crew state) (peer : String) (data : List UInt8) (loop : state.udp.loop = .looking peer data)
    (table : TableSound (state.udp.opened peer data)) (queue : WaitQueue) (goroutine : GoroutineId) :
    Flows (state.start (state.udp.opened peer data) queue goroutine) := by
  have older := opened_older state.udp peer data
  have fresh := opened_fresh state.udp peer data
  refine ⟨table, latest_opened state.udp flows.latest peer data, fun key => ?_⟩
  · have sessions : (state.start (state.udp.opened peer data) queue goroutine).sessionsOf key =
        state.sessionsOf key ++ if peer = key then [state.udp.created] else [] := by
      have kept : (List.range state.udp.created).filter (fun session => ((state.udp.opened peer data).session session).peer = key) =
          state.sessionsOf key := by
        refine List.filter_congr fun session member => ?_
        rw [older session (List.mem_range.mp member)]
        rfl
      change (List.range (state.udp.created + 1)).filter
        (fun session => ((state.udp.opened peer data).session session).peer = key) = _
      rw [List.range_succ, List.filter_append, kept]
      simp only [List.filter_cons, fresh, newReverseSession, List.filter_nil, decide_eq_true_eq]
    have flow : ∀ session ∈ state.sessionsOf key,
        (state.start (state.udp.opened peer data) queue goroutine).flow session = state.flow session := by
      intro session member
      have made := List.mem_range.mp (List.mem_filter.mp member).1
      simp only [UdpRelay.start, UdpRelay.flow, UdpRelay.messages, ReverseUdp.queued, older session made,
        Function.update_of_ne (Nat.ne_of_lt made)]
    have unheard : state.messages state.udp.created = [] := by
      rw [UdpRelay.messages, List.map_eq_nil_iff, List.filter_eq_nil_iff]
      intro passage member same
      have born := (crew.passed passage (List.mem_append_left _ member)).created
      exact Nat.ne_of_lt born (of_decide_eq_true same)
    have empty : (state.start (state.udp.opened peer data) queue goroutine).flow state.udp.created = [] := by
      simp only [UdpRelay.start, UdpRelay.flow, ReverseUdp.queued, fresh, Function.update_self]
      exact List.append_eq_nil_iff.mpr ⟨unheard, rfl⟩
    have nothing : (if peer = key then [state.udp.created] else []).flatMap
        (state.start (state.udp.opened peer data) queue goroutine).flow = [] := by
      split
      · rw [List.flatMap_singleton, empty]
      · rfl
    have before := flows.flow key
    rw [loop] at before
    rw [sessions, List.flatMap_append, List.flatMap_congr flow, nothing, List.append_nil]
    exact before

theorem flows_uplink (session : Nat) (place : ToWebSocket) (quiet : place.holds.Sublist (state.uplink session).holds) :
    Flows (state.setUplink session place) := by
  refine flows_shrink state _ flows ⟨rfl, fun _ => rfl, fun _ _ entry => entry⟩ flows.table flows.latest.pushes rfl (fun _ => rfl)
    fun other => ?_
  simp only [UdpRelay.flow, UdpRelay.setUplink, Function.update_apply]
  split
  · rename_i same
    exact ((same ▸ quiet).append_right _).append_left _
  · exact .refl _

theorem flows_take (session : Nat) (data : List UInt8) (ch : GoChan.Chan (List UInt8)) (udp : ReverseUdp)
    (idle : state.uplink session = .reading) (taken : (state.udp.session session).conn.ch.receive = .value data ch)
    (stepped : reverseUdpStep state.udp (.receive session) = some udp) :
    Flows ({ state with udp := udp }.setUplink session (toWebSocketRead (data.take pipe.bufferSize) false)) := by
  obtain ⟨frame, loop, head, elsewhere⟩ := receive_moved state.udp session data ch udp taken stepped
  refine flows_shrink state _ flows frame (reverse_udp_step_sound state.udp flows.table _ udp stepped) ?_ rfl ?_ fun other => ?_
  · simp only [UdpRelay.setUplink, loop]
    exact flows.latest.pushes
  · simp only [UdpRelay.setUplink, loop, implies_true]
  · by_cases same : other = session
    · subst same
      simp only [UdpRelay.flow, UdpRelay.setUplink, Function.update_self, idle, head, List.map_cons]
      exact ((read_holds (pipeCut data)).append_right _).append_left _
    · simp only [UdpRelay.flow, UdpRelay.setUplink, Function.update_of_ne same, elsewhere other same]
      exact .refl _

theorem flows_write (session : Nat) (wait : WaiterId) (chunk : List UInt8) (writing : state.uplink session = .writing chunk) :
    Flows { state.setUplink session .reading with sent := state.sent ++ [⟨wait, session, state.peer session, chunk⟩] } := by
  refine flows_shrink state _ flows ⟨rfl, fun _ => rfl, fun _ _ entry => entry⟩ flows.table flows.latest.pushes rfl (fun _ => rfl)
    fun other => ?_
  by_cases same : session = other
  · subst same
    simp only [UdpRelay.flow, UdpRelay.messages, UdpRelay.setUplink, Function.update_self, writing, List.filter_append,
      List.map_append, List.append_assoc]
    simp [ToWebSocket.holds]
  · simp only [UdpRelay.flow, UdpRelay.messages, UdpRelay.setUplink, Function.update_of_ne (Ne.symm same), List.filter_append]
    simp [same]

end

structure RelaySound (state : UdpRelay) : Prop where
  crew : Crew state
  flows : Flows state

section

variable (state : UdpRelay) (sound : RelaySound state)

include sound

-- A step of the listener that opens no session and moves no datagram.
theorem relay_udp_step (event : ReverseUdpEvent) (udp : ReverseUdp) (stepped : reverseUdpStep state.udp event = some udp)
    (frame : TableFrame state.udp udp) (loop : udp.loop = state.udp.loop) (queued : udp.queued = state.udp.queued) :
    RelaySound { state with udp := udp } := by
  refine ⟨crew_frame state _ sound.crew rfl rfl frame.created frame.peers rfl, ?_⟩
  refine flows_udp state sound.flows udp frame (reverse_udp_step_sound state.udp sound.flows.table event udp stepped) ?_ ?_ queued
  · rw [loop]
    exact sound.flows.latest.pushes
  · intro peer
    rw [loop]

theorem relay_lookup_step (goroutine : GoroutineId) (next : UdpRelay) (stepped : relayStep state (.lookup goroutine) = some next) :
    RelaySound next := by
  obtain ⟨udp, looked, moved⟩ := Option.bind_eq_some_iff.mp stepped
  have table := reverse_udp_step_sound state.udp sound.flows.table _ udp looked
  obtain ⟨peer, data, loop, ⟨session, entry, rfl⟩ | rfl⟩ := lookup_moved state.udp udp looked
  · rw [if_neg (Nat.lt_irrefl _)] at moved
    cases moved
    exact ⟨crew_frame state _ sound.crew rfl rfl rfl (fun _ => rfl) rfl,
      flows_lookup_found state sound.flows peer data session loop entry table⟩
  · have grows : state.udp.created < (state.udp.opened peer data).created := Nat.lt_succ_self _
    rw [if_pos grows] at moved
    obtain ⟨queue, started, rfl⟩ := Option.map_eq_some_iff.mp moved
    cases idle : state.queue.goroutines goroutine with
    | idle =>
        simp only [queueStep, idle, Option.some.injEq] at started
        subst started
        refine ⟨crew_started state sound.crew goroutine _ idle rfl fun session made => ?_, ?_⟩
        · exact congrArg ReverseSession.peer (opened_older state.udp peer data session made)
        · exact flows_opened state sound.flows sound.crew peer data loop table _ goroutine
    | _ => simp only [queueStep, idle, reduceCtorEq] at started

theorem relay_read_step (session : Nat) (next : UdpRelay) (stepped : relayStep state (.read session) = some next) :
    RelaySound next := by
  obtain ⟨⟨_, idle⟩, moved⟩ := Option.ite_none_right_eq_some.mp stepped
  cases taken : (state.udp.session session).conn.ch.receive with
  | blocks => simp only [taken, reduceCtorEq] at moved
  | closed =>
      simp only [taken, Option.some.injEq] at moved
      subst moved
      refine ⟨crew_frame state _ sound.crew rfl rfl rfl (fun _ => rfl) rfl, flows_uplink state sound.flows session _ ?_⟩
      exact List.nil_sublist _
  | value data ch =>
      simp only [taken] at moved
      obtain ⟨udp, received, rfl⟩ := Option.map_eq_some_iff.mp moved
      have frame := (receive_moved state.udp session data ch udp taken received).1
      exact ⟨crew_frame state _ sound.crew rfl rfl frame.created frame.peers rfl,
        flows_take state sound.flows session data ch udp idle taken received⟩

theorem relay_write_step (session : Nat) (failed : Bool) (next : UdpRelay)
    (stepped : relayStep state (.write session failed) = some next) : RelaySound next := by
  simp only [relayStep] at stepped
  split at stepped
  · rename_i wait chunk serves writing
    split at stepped
    · cases stepped
      refine ⟨crew_frame state _ sound.crew rfl rfl rfl (fun _ => rfl) rfl, flows_uplink state sound.flows session _ ?_⟩
      exact List.nil_sublist _
    · cases stepped
      refine ⟨?_, flows_write state sound.flows session wait chunk writing⟩
      refine crew_passage state _ sound.crew ⟨wait, session, state.peer session, chunk⟩ serves rfl rfl rfl rfl fun other member => ?_
      rcases List.mem_append.mp member with written | replied
      · rcases List.mem_append.mp written with old | new
        · exact .inl (List.mem_append_left _ old)
        · exact .inr (List.mem_singleton.mp new)
      · exact .inl (List.mem_append_right _ replied)
  · cases stepped

theorem relay_reply_step (session : Nat) (data : List UInt8) (next : UdpRelay)
    (stepped : relayStep state (.reply session data) = some next) : RelaySound next := by
  simp only [relayStep] at stepped
  split at stepped
  · rename_i wait serves
    cases stepped
    refine ⟨?_, ⟨sound.flows.table, sound.flows.latest, sound.flows.flow⟩⟩
    refine crew_passage state _ sound.crew ⟨wait, session, state.peer session, data⟩ serves rfl rfl rfl rfl fun other member => ?_
    rcases List.mem_append.mp member with written | replied
    · exact .inl (List.mem_append_left _ written)
    · rcases List.mem_append.mp replied with old | new
      · exact .inl (List.mem_append_right _ old)
      · exact .inr (List.mem_singleton.mp new)
  · cases stepped

theorem relay_queue_step (event : QueueEvent) (next : UdpRelay) (stepped : relayStep state (.queue event) = some next) :
    RelaySound next := by
  obtain ⟨_, served⟩ := Option.ite_none_left_eq_some.mp stepped
  obtain ⟨queue, moved, rfl⟩ := Option.map_eq_some_iff.mp served
  exact ⟨crew_queue state sound.crew event queue moved, ⟨sound.flows.table, sound.flows.latest, sound.flows.flow⟩⟩

end

theorem relay_step_sound (state : UdpRelay) (event : RelayEvent) (next : UdpRelay) (sound : RelaySound state)
    (stepped : relayStep state event = some next) : RelaySound next := by
  cases event with
  | readFrom peer data =>
      obtain ⟨udp, moved, rfl⟩ := Option.map_eq_some_iff.mp stepped
      have flows := flows_read_from state sound.flows peer data udp moved
      obtain ⟨_, rfl⟩ := read_from_moved state.udp udp peer data moved
      exact ⟨crew_frame state _ sound.crew rfl rfl rfl (fun _ => rfl) rfl, flows⟩
  | readError =>
      obtain ⟨udp, moved, rfl⟩ := Option.map_eq_some_iff.mp stepped
      have table := reverse_udp_step_sound state.udp sound.flows.table _ udp moved
      obtain ⟨reading, rfl⟩ := read_error_moved state.udp udp moved
      refine ⟨crew_frame state _ sound.crew rfl rfl rfl (fun _ => rfl) rfl, ?_⟩
      refine flows_udp state sound.flows _ ⟨rfl, fun _ => rfl, fun _ _ entry => entry⟩ table (by rintro _ _ _ ⟨⟩) ?_ rfl
      intro peer
      rw [reading]
      rfl
  | lookup goroutine => exact relay_lookup_step state sound goroutine next stepped
  | push =>
      obtain ⟨udp, moved, rfl⟩ := Option.map_eq_some_iff.mp stepped
      obtain ⟨_, _, _, _, frame, _⟩ := push_moved state.udp sound.flows.table udp moved
      exact ⟨crew_frame state _ sound.crew rfl rfl frame.created frame.peers rfl, flows_push state sound.flows udp moved⟩
  | close session =>
      obtain ⟨udp, moved, rfl⟩ := Option.map_eq_some_iff.mp stepped
      obtain ⟨frame, loop, queued⟩ := session_close_moved state.udp sound.flows.table session udp moved
      exact relay_udp_step state sound _ udp moved frame loop queued
  | onClose session =>
      obtain ⟨udp, moved, rfl⟩ := Option.map_eq_some_iff.mp stepped
      obtain ⟨frame, loop, queued⟩ := on_close_moved state.udp session udp moved
      exact relay_udp_step state sound _ udp moved frame loop queued
  | queue event => exact relay_queue_step state sound event next stepped
  | read session => exact relay_read_step state sound session next stepped
  | write session failed => exact relay_write_step state sound session failed next stepped
  | reply session data => exact relay_reply_step state sound session data next stepped

theorem relay_run_sound (idleTimeout : Int) (events : List RelayEvent) (last : UdpRelay)
    (ran : run relayStep (newUdpRelay idleTimeout) events = some last) : RelaySound last := by
  have initial : RelaySound (newUdpRelay idleTimeout) := by
    refine ⟨⟨queue_sound_initial idleTimeout, forwards_initial idleTimeout, ?_, ?_, by rintro _ ⟨⟩, by rintro _ ⟨⟩⟩, ?_⟩
    · exact fun _ made => absurd made (Nat.not_lt_zero _)
    · exact fun _ _ made => absurd made (Nat.not_lt_zero _)
    · exact ⟨new_reverse_udp_sound, ⟨by rintro _ _ ⟨⟩, by rintro _ _ _ ⟨⟩⟩, fun _ => List.nil_sublist _⟩
  exact run_preserves relayStep RelaySound relay_step_sound _ last events initial ran

def UdpRelay.sentTo (state : UdpRelay) (wait : WaiterId) : List (List UInt8) :=
  (state.sent.filter fun passage => passage.wait = wait).map Passage.data

-- The client connection that a session has sent on.
def UdpRelay.connection (state : UdpRelay) (session : Nat) : Option WaiterId :=
  (state.sent.find? fun passage => passage.session = session).map Passage.wait

def UdpRelay.peerOf (state : UdpRelay) (wait : WaiterId) : String :=
  ((state.passages.find? fun passage => passage.wait = wait).map Passage.peer).getD ""

theorem connection_some (state : UdpRelay) (session : Nat) (wait : WaiterId) (connected : state.connection session = some wait) :
    ∃ passage ∈ state.sent, passage.session = session ∧ passage.wait = wait := by
  obtain ⟨passage, found, same⟩ := Option.map_eq_some_iff.mp connected
  have named := List.find?_some found
  simp only [decide_eq_true_eq] at named
  exact ⟨passage, List.mem_of_find?_eq_some found, named, same⟩

section

variable (state : UdpRelay) (crew : Crew state)

include crew

theorem peer_of_passage (passage : Passage) (member : passage ∈ state.passages) : state.peerOf passage.wait = passage.peer := by
  rw [UdpRelay.peerOf]
  cases found : state.passages.find? fun other => other.wait = passage.wait with
  | none => exact absurd (decide_eq_true rfl) (List.find?_eq_none.mp found passage member)
  | some other =>
      have held := List.mem_of_find?_eq_some found
      have named := List.find?_some found
      simp only [decide_eq_true_eq] at named
      have same := (crew.paired other held passage member).mp named
      rw [Option.map_some, Option.getD_some, (crew.passed other held).peer, (crew.passed passage member).peer, same]

theorem sent_paired (one two : Passage) (first : one ∈ state.sent) (second : two ∈ state.sent) :
    one.wait = two.wait ↔ one.session = two.session :=
  crew.paired one (List.mem_append_left _ first) two (List.mem_append_left _ second)

theorem connection_passage (passage : Passage) (member : passage ∈ state.sent) :
    state.connection passage.session = some passage.wait := by
  rw [UdpRelay.connection]
  cases found : state.sent.find? fun other => other.session = passage.session with
  | none => exact absurd (decide_eq_true rfl) (List.find?_eq_none.mp found passage member)
  | some other =>
      have held := List.mem_of_find?_eq_some found
      have named := List.find?_some found
      simp only [decide_eq_true_eq] at named
      have same := (sent_paired state crew other passage held member).mpr named
      rw [Option.map_some, same]

theorem messages_connection (session : Nat) : state.messages session = (state.connection session).elim [] state.sentTo := by
  cases connected : state.connection session with
  | none =>
      rw [UdpRelay.messages, Option.elim_none, List.map_eq_nil_iff, List.filter_eq_nil_iff]
      intro passage member same
      have found := connection_passage state crew passage member
      rw [of_decide_eq_true same, connected] at found
      cases found
  | some wait =>
      obtain ⟨passage, member, own, held⟩ := connection_some state session wait connected
      rw [UdpRelay.messages, Option.elim_some, UdpRelay.sentTo]
      refine congrArg _ (List.filter_congr fun other present => ?_)
      rw [← own, ← held]
      exact decide_eq_decide.mpr (sent_paired state crew other passage present member).symm

theorem connections_messages (sessions : List Nat) :
    (sessions.filterMap state.connection).flatMap state.sentTo = sessions.flatMap state.messages := by
  induction sessions with
  | nil => rfl
  | cons session rest ih =>
      rw [List.flatMap_cons, messages_connection state crew session]
      cases connected : state.connection session with
      | none => rw [List.filterMap_cons_none connected, ih, Option.elim_none, List.nil_append]
      | some wait => rw [List.filterMap_cons_some connected, List.flatMap_cons, ih, Option.elim_some]

end

-- Peers of a reverse UDP tunnel are kept apart, whatever the listener, the
-- handlers, the clients and the idle timers do between each other's steps. A client
-- connection belongs to one peer: its messages are answered to that peer alone. And
-- the messages on the connections of a peer, one connection after the other, are
-- datagrams of that peer in their order, each at most once.
theorem udp_peers_kept_apart (idleTimeout : Int) (events : List RelayEvent) (last : UdpRelay)
    (ran : run relayStep (newUdpRelay idleTimeout) events = some last) :
    ∃ peerOf : WaiterId → String,
      (∀ reply ∈ last.replies, reply.peer = peerOf reply.wait) ∧
      ∀ peer, ∃ waits : List WaiterId, waits.Nodup ∧ (∀ passage ∈ last.sent, passage.wait ∈ waits ↔ peerOf passage.wait = peer) ∧
        (waits.flatMap last.sentTo).Sublist ((last.heardFrom peer).map pipeCut) := by
  obtain ⟨crew, flows⟩ := relay_run_sound idleTimeout events last ran
  refine ⟨last.peerOf, fun reply member => ?_, fun peer => ⟨(last.sessionsOf peer).filterMap last.connection, ?_, ?_, ?_⟩⟩
  · exact (peer_of_passage last crew reply (List.mem_append_right _ member)).symm
  · refine List.Nodup.filterMap (fun first second wait one two => ?_) (List.nodup_range.filter _)
    obtain ⟨passage, member, own, held⟩ := connection_some last first wait one
    obtain ⟨other, present, theirs, same⟩ := connection_some last second wait two
    rw [← own, ← theirs]
    exact (sent_paired last crew passage other member present).mp (held.trans same.symm)
  · intro passage member
    have logged := List.mem_append_left last.replies member
    have passed := crew.passed passage logged
    rw [peer_of_passage last crew passage logged, passed.peer, List.mem_filterMap]
    constructor
    · rintro ⟨session, belongs, connected⟩
      obtain ⟨other, present, own, held⟩ := connection_some last session passage.wait connected
      rw [(sent_paired last crew passage other member present).mp held.symm, own]
      exact of_decide_eq_true (List.mem_filter.mp belongs).2
    · intro named
      refine ⟨passage.session, List.mem_filter.mpr ⟨List.mem_range.mpr passed.created, decide_eq_true named⟩, ?_⟩
      exact connection_passage last crew passage member
  · rw [connections_messages last crew]
    have parts : ((last.sessionsOf peer).flatMap last.messages).Sublist ((last.sessionsOf peer).flatMap last.flow) :=
      List.Sublist.flatMap_right _ fun session _ => List.sublist_append_left _ _
    exact (parts.trans (List.sublist_append_left _ _)).trans (flows.flow peer)

def twoPeers : List RelayEvent :=
  [.queue (.handleClient 0), .queue (.lockQueue 0 false), .queue (.handleClient 1), .queue (.lockQueue 1 false), .readFrom "a" [1],
    .lookup 2, .push, .readFrom "b" [2], .lookup 3, .push, .readFrom "a" [3], .lookup 4, .push, .queue (.lockQueue 3 false),
    .queue (.lockQueue 2 false), .read 0, .write 0 false, .read 1, .write 1 false, .reply 0 [9], .close 0, .onClose 0]

theorem udp_peers_kept_apart_two_peers : ∃ last, run relayStep (newUdpRelay 0) twoPeers = some last ∧
    last.sent = [⟨1, 0, "a", [1]⟩, ⟨0, 1, "b", [2]⟩] ∧
    ∃ peerOf : WaiterId → String,
      (∀ reply ∈ last.replies, reply.peer = peerOf reply.wait) ∧
      ∀ peer, ∃ waits : List WaiterId, waits.Nodup ∧ (∀ passage ∈ last.sent, passage.wait ∈ waits ↔ peerOf passage.wait = peer) ∧
        (waits.flatMap last.sentTo).Sublist ((last.heardFrom peer).map pipeCut) :=
  ⟨_, rfl, by decide, udp_peers_kept_apart 0 twoPeers _ rfl⟩

end WarpStream
