import WarpStream.SessionConn

set_option autoImplicit false

namespace WarpStream

open Transition

-- closing counts the Closes that are behind the section under u.mu and have yet
-- to run onClose.
structure ReverseSession where
  peer : String
  conn : UdpSessionConn (List UInt8)
  closing : Nat
deriving DecidableEq, Repr

def newReverseSession (peer : String) : ReverseSession := ⟨peer, newUdpSessionConn (List UInt8) true, 0⟩

inductive ListenerPc where
  | reading
  | looking (peer : String) (data : List UInt8)
  | pushing (session : Nat) (peer : String) (data : List UInt8)
  | stopped
deriving DecidableEq, Repr

-- sessions is the map of runUdpListener; a session is named by the number of
-- those made before it. A peer is the text of its address, by which the map is
-- keyed.
structure ReverseUdp where
  sessions : String → Option Nat
  session : Nat → ReverseSession
  created : Nat
  loop : ListenerPc
  panicked : Bool

def newReverseUdp : ReverseUdp := ⟨fun _ => none, fun _ => newReverseSession "", 0, .reading, false⟩

def ReverseUdp.setSession (state : ReverseUdp) (session : Nat) (value : ReverseSession) : ReverseUdp :=
  { state with session := Function.update state.session session value }

-- The section under mu that finds the session of a peer or makes one.
def ReverseUdp.lookup (state : ReverseUdp) (peer : String) (data : List UInt8) : ReverseUdp :=
  match state.sessions peer with
  | some session => { state with loop := .pushing session peer data }
  | none =>
      { state with
        sessions := Function.update state.sessions peer (some state.created)
        session := Function.update state.session state.created (newReverseSession peer)
        created := state.created + 1
        loop := .pushing state.created peer data }

def ReverseUdp.push (state : ReverseUdp) (session : Nat) (data : List UInt8) : ReverseUdp :=
  match (state.session session).conn.push data with
  | none => { state with panicked := true }
  | some conn => { state.setSession session { state.session session with conn := conn } with loop := .reading }

def ReverseUdp.close (state : ReverseUdp) (session : Nat) : ReverseUdp :=
  match (state.session session).conn.close with
  | none => { state with panicked := true }
  | some (conn, calls) =>
      let closing := (state.session session).closing
      state.setSession session { state.session session with conn := conn, closing := if calls then closing + 1 else closing }

def ReverseSession.called (session : ReverseSession) : ReverseSession := { session with closing := session.closing - 1 }

-- The callback deletes the entry of the session's key, whichever session has it.
def ReverseUdp.onClose (state : ReverseUdp) (session : Nat) : ReverseUdp :=
  { state.setSession session (state.session session).called with
    sessions := Function.update state.sessions (state.session session).peer none }

-- Closes of a session are let happen at any time and any number of times, which
-- covers those that come through the connection with the idle timer.
inductive ReverseUdpEvent where
  | readFrom (peer : String) (data : List UInt8)
  | readError
  | lookup
  | push
  | receive (session : Nat)
  | close (session : Nat)
  | onClose (session : Nat)
deriving DecidableEq, Repr

def reverseUdpStep : Step ReverseUdp ReverseUdpEvent := fun state event =>
  match event, state.loop with
  | .readFrom peer data, .reading => some { state with loop := .looking peer data }
  | .readError, .reading => some { state with loop := .stopped }
  | .lookup, .looking peer data => some (state.lookup peer data)
  | .push, .pushing session _ data => some (state.push session data)
  | .receive session, _ =>
      match (state.session session).conn.ch.receive with
      | .value _ ch =>
          let value := state.session session
          if session < state.created then some (state.setSession session { value with conn := { value.conn with ch := ch } }) else none
      | _ => none
  | .close session, _ => if session < state.created then some (state.close session) else none
  | .onClose session, _ => if 0 < (state.session session).closing then some (state.onClose session) else none
  | _, _ => none

structure SessionKept (session : ReverseSession) : Prop where
  agree : FlagsAgree session.conn
  callback : session.conn.onClose = true
  once : session.closing ≤ if session.conn.closed then 1 else 0

-- A session has its entry until its own callback has run, which the flag comes
-- before.
def ReverseSession.Bound (session : ReverseSession) : Prop := session.conn.closed = false ∨ 0 < session.closing

structure TableSound (state : ReverseUdp) : Prop where
  calm : state.panicked = false
  kept : ∀ session, SessionKept (state.session session)
  unborn : ∀ session, 0 < (state.session session).closing → session < state.created
  bound : ∀ session, session < state.created → (state.session session).Bound →
    state.sessions (state.session session).peer = some session
  entries : ∀ peer session, state.sessions peer = some session → session < state.created ∧ (state.session session).peer = peer
  pushes : ∀ session peer data, state.loop = .pushing session peer data →
    session < state.created ∧ (state.session session).peer = peer

theorem new_session_kept (peer : String) : SessionKept (newReverseSession peer) :=
  ⟨new_flags_agree true, rfl, Nat.le_refl 0⟩

theorem new_reverse_udp_sound : TableSound newReverseUdp where
  calm := rfl
  kept := fun _ => new_session_kept ""
  unborn := fun _ pending => absurd pending (Nat.lt_irrefl 0)
  bound := fun _ there => absurd there (Nat.not_lt_zero _)
  entries := by rintro _ _ ⟨⟩
  pushes := by rintro _ _ _ ⟨⟩

section

variable (state : ReverseUdp) (sound : TableSound state)

include sound

theorem set_session_sound (session : Nat) (value : ReverseSession) (there : session < state.created)
    (peer : value.peer = (state.session session).peer) (kept : SessionKept value)
    (still : value.Bound → (state.session session).Bound) : TableSound (state.setSession session value) := by
  have peers : ∀ other, ((state.setSession session value).session other).peer = (state.session other).peer := by
    intro other
    by_cases same : other = session
    · simp only [ReverseUdp.setSession, same, Function.update_self]
      exact peer
    · simp only [ReverseUdp.setSession, Function.update_of_ne same]
  refine { sound with kept := ?_, unborn := ?_, bound := ?_, entries := ?_, pushes := ?_ }
  · intro other
    by_cases same : other = session
    · simp only [ReverseUdp.setSession, same, Function.update_self]
      exact kept
    · simp only [ReverseUdp.setSession, Function.update_of_ne same]
      exact sound.kept other
  · intro other pending
    by_cases same : other = session
    · exact same ▸ there
    · simp only [ReverseUdp.setSession, Function.update_of_ne same] at pending
      exact sound.unborn other pending
  · intro other made bound
    rw [peers]
    by_cases same : other = session
    · simp only [ReverseUdp.setSession, same, Function.update_self] at bound
      rw [same]
      exact sound.bound session there (still bound)
    · simp only [ReverseUdp.setSession, Function.update_of_ne same] at bound
      exact sound.bound other made bound
  · intro key other entry
    rw [peers]
    exact sound.entries key other entry
  · intro other key data pushing
    rw [peers]
    exact sound.pushes other key data pushing

theorem moved_sound (loop : ListenerPc)
    (pushes : ∀ session peer data, loop = .pushing session peer data →
      session < state.created ∧ (state.session session).peer = peer) : TableSound { state with loop := loop } :=
  { sound with pushes := pushes }

theorem bound_same_peer (first second : Nat) (firstMade : first < state.created) (secondMade : second < state.created)
    (firstBound : (state.session first).Bound) (secondBound : (state.session second).Bound)
    (same : (state.session first).peer = (state.session second).peer) : first = second := by
  have entry := sound.bound first firstMade firstBound
  rw [same, sound.bound second secondMade secondBound] at entry
  exact (Option.some.inj entry).symm

theorem lookup_sound (peer : String) (data : List UInt8) : TableSound (state.lookup peer data) := by
  cases entry : state.sessions peer with
  | some session =>
      simp only [ReverseUdp.lookup, entry]
      apply moved_sound state sound
      rintro _ _ _ ⟨⟩
      exact sound.entries peer session entry
  | none =>
      simp only [ReverseUdp.lookup, entry]
      have older : ∀ other, other < state.created →
          Function.update state.session state.created (newReverseSession peer) other = state.session other :=
        fun other made => Function.update_of_ne (Nat.ne_of_lt made) _ _
      refine { sound with kept := ?_, unborn := ?_, bound := ?_, entries := ?_, pushes := ?_ }
      · intro other
        by_cases same : other = state.created
        · simp only [same, Function.update_self]
          exact new_session_kept peer
        · simp only [Function.update_of_ne same]
          exact sound.kept other
      · intro other pending
        by_cases same : other = state.created
        · exact same ▸ Nat.lt_succ_self _
        · simp only [Function.update_of_ne same] at pending
          exact Nat.lt_succ_of_lt (sound.unborn other pending)
      · intro other made bound
        by_cases same : other = state.created
        · simp only [same, Function.update_self, newReverseSession]
        · have before : other < state.created := Nat.lt_of_le_of_ne (Nat.le_of_lt_succ made) same
          simp only [older other before] at bound ⊢
          have present := sound.bound other before bound
          -- A bound session of this peer would have been found.
          have elsewhere : (state.session other).peer ≠ peer := by
            intro own
            rw [own, entry] at present
            cases present
          rw [Function.update_of_ne elsewhere]
          exact present
      · intro key other present
        by_cases same : key = peer
        · simp only [same, Function.update_self, Option.some.injEq] at present
          simp only [← present, same, Function.update_self]
          exact ⟨Nat.lt_succ_self _, rfl⟩
        · simp only [Function.update_of_ne same] at present
          obtain ⟨made, own⟩ := sound.entries key other present
          simp only [older other made]
          exact ⟨Nat.lt_succ_of_lt made, own⟩
      · rintro _ _ _ ⟨⟩
        simp only [Function.update_self]
        exact ⟨Nat.lt_succ_self _, rfl⟩

theorem push_kept (session : Nat) (data : List UInt8) :
    ∃ ch, (state.session session).conn.push data = some { (state.session session).conn with ch := ch } ∧
      FlagsAgree { (state.session session).conn with ch := ch } := by
  have agree := (sound.kept session).agree
  cases accepts : (state.session session).conn.accepts with
  | false => exact ⟨_, push_refused _ agree data accepts, agree⟩
  | true => exact ⟨_, push_accepted _ agree data accepts, agree.same, agree.capacity⟩

theorem push_session_sound (session : Nat) (peer : String) (data : List UInt8) (pushing : state.loop = .pushing session peer data) :
    TableSound (state.push session data) := by
  obtain ⟨ch, pushed, agree⟩ := push_kept state sound session data
  obtain ⟨there, _⟩ := sound.pushes session peer data pushing
  have kept := sound.kept session
  simp only [ReverseUdp.push, pushed]
  apply moved_sound
  · exact set_session_sound state sound session _ there rfl ⟨agree, kept.callback, kept.once⟩ id
  · rintro _ _ _ ⟨⟩

theorem close_session_sound (session : Nat) (there : session < state.created) : TableSound (state.close session) := by
  have kept := sound.kept session
  by_cases closed : (state.session session).conn.closed = true
  · simp only [ReverseUdp.close, close_again _ closed]
    exact set_session_sound state sound session _ there rfl kept id
  · have opened : (state.session session).conn.closed = false := Bool.eq_false_iff.mpr closed
    have once := kept.once
    simp only [opened, Bool.false_eq_true, if_false] at once
    simp only [ReverseUdp.close, close_first _ kept.agree opened, kept.callback, if_true]
    apply set_session_sound state sound session _ there
    · rfl
    · exact ⟨⟨rfl, kept.agree.capacity⟩, rfl, Nat.succ_le_succ once⟩
    · exact fun _ => .inl opened

theorem pending_closed (session : Nat) (pending : 0 < (state.session session).closing) :
    (state.session session).conn.closed = true ∧ (state.session session).closing = 1 := by
  have once := (sound.kept session).once
  split at once
  · exact ⟨by assumption, by omega⟩
  · omega

theorem called_unbound (session : Nat) (pending : 0 < (state.session session).closing) :
    ¬ (state.session session).called.Bound := by
  obtain ⟨closed, single⟩ := pending_closed state sound session pending
  rintro (opened | waiting)
  · cases closed.symm.trans opened
  · simp only [ReverseSession.called, single, Nat.sub_self, Nat.lt_irrefl] at waiting

theorem on_close_sound (session : Nat) (pending : 0 < (state.session session).closing) : TableSound (state.onClose session) := by
  have there := sound.unborn session pending
  have kept := sound.kept session
  have quiet := called_unbound state sound session pending
  have set := set_session_sound state sound session (state.session session).called there rfl
    ⟨kept.agree, kept.callback, Nat.le_trans (Nat.sub_le _ _) kept.once⟩ fun bound => absurd bound quiet
  refine { set with bound := ?_, entries := ?_ }
  · intro other made bound
    have present := set.bound other made bound
    have elsewhere : ((state.onClose session).session other).peer ≠ (state.session session).peer := by
      intro own
      have found : state.sessions (state.session session).peer = some other := own ▸ present
      rw [sound.bound session there (.inr pending)] at found
      cases found
      simp only [ReverseUdp.onClose, ReverseUdp.setSession, Function.update_self] at bound
      exact quiet bound
    exact (Function.update_of_ne elsewhere _ _).trans present
  · intro key other present
    by_cases same : key = (state.session session).peer
    · simp only [ReverseUdp.onClose, same, Function.update_self] at present
      cases present
    · simp only [ReverseUdp.onClose, Function.update_of_ne same] at present
      exact set.entries key other present

theorem receive_session_sound (session : Nat) (there : session < state.created) (value : List UInt8) (ch : GoChan.Chan (List UInt8))
    (taken : (state.session session).conn.ch.receive = .value value ch) :
    TableSound (state.setSession session { state.session session with conn := { (state.session session).conn with ch := ch } }) := by
  have kept := sound.kept session
  obtain ⟨_, rest⟩ := (GoChan.receive_value_iff _ _ _).mp taken
  have agree : FlagsAgree { (state.session session).conn with ch := ch } := by
    rw [rest]
    exact ⟨kept.agree.same, kept.agree.capacity⟩
  exact set_session_sound state sound session _ there rfl ⟨agree, kept.callback, kept.once⟩ id

theorem reverse_udp_step_sound (event : ReverseUdpEvent) (next : ReverseUdp) (stepped : reverseUdpStep state event = some next) :
    TableSound next := by
  simp only [reverseUdpStep] at stepped
  split at stepped
  case h_1 peer data _ =>
      cases stepped
      exact moved_sound state sound _ (by rintro _ _ _ ⟨⟩)
  case h_2 =>
      cases stepped
      exact moved_sound state sound _ (by rintro _ _ _ ⟨⟩)
  case h_3 peer data _ =>
      cases stepped
      exact lookup_sound state sound peer data
  case h_4 session peer data pushing =>
      cases stepped
      exact push_session_sound state sound session peer data pushing
  case h_5 session =>
      split at stepped
      · obtain ⟨there, moved⟩ := Option.ite_none_right_eq_some.mp stepped
        cases moved
        exact receive_session_sound state sound session there _ _ (by assumption)
      · cases stepped
  case h_6 session =>
      obtain ⟨there, moved⟩ := Option.ite_none_right_eq_some.mp stepped
      cases moved
      exact close_session_sound state sound session there
  case h_7 session =>
      obtain ⟨pending, moved⟩ := Option.ite_none_right_eq_some.mp stepped
      cases moved
      exact on_close_sound state sound session pending
  case h_8 => cases stepped

end

theorem reverse_udp_run_sound (events : List ReverseUdpEvent) (state : ReverseUdp)
    (ran : run reverseUdpStep newReverseUdp events = some state) : TableSound state :=
  run_preserves reverseUdpStep TableSound (fun state event next sound => reverse_udp_step_sound state sound event next)
    newReverseUdp state events new_reverse_udp_sound ran

theorem reverse_udp_session_table (events : List ReverseUdpEvent) (state : ReverseUdp)
    (ran : run reverseUdpStep newReverseUdp events = some state) :
    state.panicked = false ∧
    (∀ session, session < state.created → (state.session session).conn.closed = false →
      state.sessions (state.session session).peer = some session ∧
        ∀ other, other < state.created → (state.session other).conn.closed = false →
          (state.session other).peer = (state.session session).peer → other = session) ∧
    (∀ session peer data, state.loop = .pushing session peer data →
      session < state.created ∧ (state.session session).peer = peer) ∧
    (∀ session next, reverseUdpStep state (.onClose session) = some next →
      state.sessions (state.session session).peer = some session ∧
        next.sessions = Function.update state.sessions (state.session session).peer none) := by
  have sound := reverse_udp_run_sound events state ran
  refine ⟨sound.calm, ?_, sound.pushes, ?_⟩
  · intro session made opened
    refine ⟨sound.bound session made (.inl opened), ?_⟩
    intro other otherMade otherOpened same
    exact bound_same_peer state sound other session otherMade made (.inl otherOpened) (.inl opened) same
  · intro session next stepped
    obtain ⟨pending, moved⟩ := Option.ite_none_right_eq_some.mp stepped
    cases moved
    exact ⟨sound.bound session (sound.unborn session pending) (.inr pending), rfl⟩

-- The first session of a is closed twice and its callback late, so that the
-- datagram in between is pushed to it and dropped; the next one opens another.
def reverseUdpTrace : List ReverseUdpEvent :=
  [.readFrom "a" [1], .lookup, .push, .close 0, .close 0, .readFrom "a" [2], .lookup, .push, .onClose 0, .readFrom "b" [3],
    .lookup, .push, .readFrom "a" [4], .lookup, .push, .close 0, .receive 0]

theorem reverse_udp_session_table_two_generations :
    ∃ state, run reverseUdpStep newReverseUdp reverseUdpTrace = some state ∧ state.sessions "a" = some 2 ∧ state.panicked = false :=
  ⟨_, rfl, by decide, (reverse_udp_session_table reverseUdpTrace _ rfl).1⟩

end WarpStream
