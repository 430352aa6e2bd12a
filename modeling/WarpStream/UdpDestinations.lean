import WarpStream.Protocol
import WarpStream.UdpSessions

set_option autoImplicit false

namespace WarpStream

open Transition

structure OrigDst where
  host : String
  port : UInt16
deriving DecidableEq, Repr

-- parsed is what ParseOrigDstAddr returned, none standing for its error, and
-- original what GetOriginalDst returns, whose error is dropped.
def originalTarget (ltr : LocalToRemote) (parsed : Option OrigDst) (original : OrigDst) : OrigDst :=
  let fallback :=
    if ltr.remote = "" ∨ ltr.remote = "0.0.0.0" ∨ ltr.port = 0 then original else ⟨ltr.remote, ltr.port⟩
  match parsed with
  | some dest => if dest.host = "" ∨ dest.port = 0 then fallback else dest
  | none => fallback

-- The session table with the target each stream was opened for. sending is the
-- destination of the datagram that the loop is about to write, and written is
-- history: the destination of each datagram written with the stream it went to.
structure TProxyUdp where
  table : UdpTable
  opened : SessionId → OrigDst
  sending : Option OrigDst
  written : List (Option OrigDst × SessionId)

def newTProxyUdp : TProxyUdp := ⟨newUdpTable, fun _ => ⟨"", 0⟩, none, []⟩

inductive TProxyEvent where
  | datagram (source : String) (parsed : Option OrigDst) (original : OrigDst) (connects : Bool)
  | write
  | table (event : UdpEvent)

def UdpEvent.ofLoop : UdpEvent → Bool
  | .datagram _ _ | .written => true
  | _ => false

def tproxyStep (ltr : LocalToRemote) (state : TProxyUdp) : TProxyEvent → Option TProxyUdp
  | .datagram source parsed original connects =>
      (udpStep .runTProxyUdpTunnel state.table (.datagram source connects)).map fun next =>
        { state with
          table := next
          opened :=
            if state.table.clients source = none ∧ connects = true then
              Function.update state.opened state.table.nextSession (originalTarget ltr parsed original)
            else state.opened
          sending := parsed }
  | .write =>
      match state.table.loop with
      | .writing _ session =>
          (udpStep .runTProxyUdpTunnel state.table .written).map fun next =>
            { state with table := next, sending := none, written := (state.sending, session) :: state.written }
      | _ => none
  | .table event =>
      if event.ofLoop then none
      else (udpStep .runTProxyUdpTunnel state.table event).map fun next => { state with table := next }

def OwnDestination (state : TProxyUdp) : Prop :=
  ∀ dest session, (some dest, session) ∈ state.written → state.opened session = dest

def KeepsDestination (state : TProxyUdp) : TProxyEvent → Prop
  | .datagram source (some dest) _ _ =>
      match state.table.clients source with
      | some session => state.opened session = dest
      | none => dest.host ≠ "" ∧ dest.port ≠ 0
  | _ => True

-- Steps outside the reading loop make no entry and leave the loop where it is,
-- or take it behind a write.
structure OnlyForgets (table next : UdpTable) : Prop where
  clients : ∀ addr session, next.clients addr = some session → table.clients addr = some session
  bound : next.nextSession = table.nextSession
  loop : ∀ addr session, next.loop = .writing addr session → table.loop = .writing addr session

theorem only_forgets_trans (table middle next : UdpTable) (first : OnlyForgets table middle)
    (second : OnlyForgets middle next) : OnlyForgets table next :=
  ⟨fun addr session entry => first.clients addr session (second.clients addr session entry),
    second.bound.trans first.bound, fun addr session writing => first.loop addr session (second.loop addr session writing)⟩

theorem set_session_forgets (table : UdpTable) (session : SessionId) (value : Session) :
    OnlyForgets table (table.setSession session value) :=
  ⟨fun _ _ entry => entry, rfl, fun _ _ writing => writing⟩

theorem reset_forgets (table : UdpTable) (addr : String) : OnlyForgets table (resetTimer table addr) := by
  unfold resetTimer
  split
  · exact set_session_forgets table _ _
  · exact ⟨fun _ _ entry => entry, rfl, fun _ _ writing => writing⟩

theorem delete_forgets (table : UdpTable) (addr : String) : OnlyForgets table (deleteEntries table addr) := by
  refine ⟨?_, rfl, fun _ _ writing => writing⟩
  intro other session entry
  simp only [deleteEntries, Function.update_apply] at entry
  split at entry
  · cases entry
  · exact entry

theorem stop_delete_forgets (table : UdpTable) (addr : String) : OnlyForgets table (stopAndDelete table addr) := by
  refine only_forgets_trans table (stopTimer table addr) _ ?_ (delete_forgets _ addr)
  unfold stopTimer
  split
  · exact set_session_forgets table _ _
  · exact ⟨fun _ _ entry => entry, rfl, fun _ _ writing => writing⟩

theorem timer_section_forgets (tunnel : UdpTunnel) (table : UdpTable) (session : SessionId) :
    OnlyForgets table (timerSection tunnel table session) := by
  have called := fun value => set_session_forgets table session value
  cases tunnel with
  | runUdpTunnel => exact only_forgets_trans table _ _ (called _) (delete_forgets _ _)
  | runTProxyUdpTunnel =>
      dsimp only [timerSection]
      split
      · refine only_forgets_trans table _ _ ?_ (delete_forgets _ _)
        exact only_forgets_trans table _ _ (called _) (set_session_forgets _ _ _)
      · exact only_forgets_trans table _ _ (called _) (delete_forgets _ _)

theorem loop_forgets (table next : UdpTable) (loop : LoopPc) (forgets : OnlyForgets table next)
    (idle : ∀ addr session, loop ≠ .writing addr session) : OnlyForgets table { next with loop := loop } :=
  ⟨forgets.clients, forgets.bound, fun addr session writing => absurd writing (idle addr session)⟩

theorem udp_step_forgets (tunnel : UdpTunnel) (table next : UdpTable) (event : UdpEvent)
    (outside : ∀ addr connects, event ≠ .datagram addr connects) (stepped : udpStep tunnel table event = some next) :
    OnlyForgets table next := by
  have unchanged : OnlyForgets table table := ⟨fun _ _ entry => entry, rfl, fun _ _ writing => writing⟩
  cases udp_step_moved tunnel table next event stepped with
  | found addr connects => exact absurd rfl (outside addr connects)
  | inserted addr | refused addr => exact absurd rfl (outside addr _)
  | written => exact loop_forgets table table _ unchanged (by simp)
  | writeFails => exact loop_forgets table _ _ (set_session_forgets table _ _) (by simp)
  | writeSection => exact loop_forgets table _ _ (stop_delete_forgets table _) (by simp)
  | writeClose => exact loop_forgets table _ _ (set_session_forgets table _ _) (by simp)
  | timerFires session | readFails session => exact set_session_forgets table session _
  | timerSection session => exact timer_section_forgets tunnel table session
  | timerClose session | readClose session =>
      exact only_forgets_trans table _ _ (set_session_forgets table session _) (set_session_forgets _ session _)
  | message session => exact reset_forgets table _
  | readSection session =>
      exact only_forgets_trans table _ _ (set_session_forgets table session _) (stop_delete_forgets _ _)

structure KeepsApart (state : TProxyUdp) : Prop where
  issued : ∀ addr session, state.table.clients addr = some session → session < state.table.nextSession
  sending : ∀ addr session, state.table.loop = .writing addr session → session < state.table.nextSession ∧
    ∀ dest, state.sending = some dest → state.opened session = dest
  written : ∀ dest session, (dest, session) ∈ state.written → session < state.table.nextSession
  own : OwnDestination state

theorem forgets_keeps_apart (state : TProxyUdp) (next : UdpTable) (apart : KeepsApart state)
    (forgets : OnlyForgets state.table next) : KeepsApart { state with table := next } := by
  refine ⟨?_, ?_, ?_, apart.own⟩
  · intro addr session entry
    rw [forgets.bound]
    exact apart.issued addr session (forgets.clients addr session entry)
  · intro addr session writing
    rw [forgets.bound]
    exact apart.sending addr session (forgets.loop addr session writing)
  · intro dest session member
    rw [forgets.bound]
    exact apart.written dest session member

theorem insert_keeps_apart (ltr : LocalToRemote) (state : TProxyUdp) (source : String) (parsed : Option OrigDst)
    (original : OrigDst) (apart : KeepsApart state)
    (usable : ∀ dest, parsed = some dest → dest.host ≠ "" ∧ dest.port ≠ 0) :
    KeepsApart { state with
      table := insertSession state.table source
      opened := Function.update state.opened state.table.nextSession (originalTarget ltr parsed original)
      sending := parsed } := by
  -- The streams opened before keep their targets: the new one has a fresh name.
  have older : ∀ session, session < state.table.nextSession →
      Function.update state.opened state.table.nextSession (originalTarget ltr parsed original) session =
        state.opened session :=
    fun session below => Function.update_of_ne (Nat.ne_of_lt below) _ _
  refine ⟨?_, ?_, fun dest session member => Nat.lt_succ_of_lt (apart.written dest session member), ?_⟩
  · intro addr session entry
    simp only [insertSession, Function.update_apply] at entry
    split at entry
    · cases entry
      exact Nat.lt_succ_self _
    · exact Nat.lt_succ_of_lt (apart.issued addr session entry)
  · intro addr session writing
    cases writing
    refine ⟨Nat.lt_succ_self _, ?_⟩
    intro dest recovered
    have named := usable dest recovered
    subst recovered
    simp only [Function.update_self, originalTarget, named, or_self, if_false]
  · intro dest session member
    exact (older session (apart.written (some dest) session member)).trans (apart.own dest session member)

theorem datagram_keeps_apart (ltr : LocalToRemote) (state next : TProxyUdp) (source : String) (parsed : Option OrigDst)
    (original : OrigDst) (connects : Bool) (apart : KeepsApart state)
    (keeps : KeepsDestination state (.datagram source parsed original connects))
    (stepped : tproxyStep ltr state (.datagram source parsed original connects) = some next) : KeepsApart next := by
  obtain ⟨table, read, same⟩ := Option.map_eq_some_iff.mp stepped
  subst same
  cases datagram_moved _ state.table table source connects read with
  | found _ _ session _ live =>
      have reset := reset_forgets state.table source
      rw [if_neg (by simp [live])]
      refine ⟨?_, ?_, ?_, apart.own⟩
      · intro addr other entry
        exact reset.bound ▸ apart.issued addr other (reset.clients addr other entry)
      · intro addr other writing
        cases writing
        refine ⟨reset.bound ▸ apart.issued source session live, ?_⟩
        intro dest recovered
        subst recovered
        simpa only [KeepsDestination, live] using keeps
      · intro dest other member
        exact reset.bound ▸ apart.written dest other member
  | inserted _ _ free =>
      rw [if_pos (show state.table.clients source = none ∧ true = true from ⟨free, rfl⟩)]
      refine insert_keeps_apart ltr state source parsed original apart ?_
      intro dest recovered
      subst recovered
      simpa only [KeepsDestination, free] using keeps
  | refused _ idle free =>
      rw [if_neg (show ¬ (state.table.clients source = none ∧ false = true) by simp)]
      refine ⟨apart.issued, ?_, apart.written, apart.own⟩
      intro addr session writing
      exact absurd (idle.symm.trans writing) (by simp)

theorem tproxy_step_keeps_apart (ltr : LocalToRemote) (state : TProxyUdp) (event : TProxyEvent) (next : TProxyUdp)
    (apart : KeepsApart state) (keeps : KeepsDestination state event) (stepped : tproxyStep ltr state event = some next) :
    KeepsApart next := by
  cases event with
  | datagram source parsed original connects =>
      exact datagram_keeps_apart ltr state next source parsed original connects apart keeps stepped
  | write =>
      simp only [tproxyStep] at stepped
      split at stepped
      · rename_i addr session writing
        obtain ⟨table, wrote, same⟩ := Option.map_eq_some_iff.mp stepped
        subst same
        obtain ⟨issued, opened⟩ := apart.sending addr session writing
        have forgets := udp_step_forgets _ _ table _ (by simp) wrote
        have rest := forgets_keeps_apart state table apart forgets
        refine ⟨rest.issued, ?_, ?_, ?_⟩
        · intro other again busy
          exact ⟨(rest.sending other again busy).1, fun dest none => by cases none⟩
        · intro dest other member
          rcases List.mem_cons.mp member with last | before
          · cases last
            exact forgets.bound ▸ issued
          · exact rest.written dest other before
        · intro dest other member
          rcases List.mem_cons.mp member with last | before
          · obtain ⟨sent, here⟩ := Prod.mk.inj last
            exact here ▸ opened dest sent.symm
          · exact apart.own dest other before
      · cases stepped
  | table event =>
      simp only [tproxyStep] at stepped
      split at stepped
      · cases stepped
      · rename_i outside
        obtain ⟨table, moved, same⟩ := Option.map_eq_some_iff.mp stepped
        subst same
        refine forgets_keeps_apart state table apart (udp_step_forgets _ _ table event ?_ moved)
        intro addr connects issued
        exact outside (issued ▸ rfl)

theorem tproxy_udp_keeps_destinations_apart (ltr : LocalToRemote) (events : List TProxyEvent) (last : TProxyUdp)
    (keeps : Along (tproxyStep ltr) KeepsDestination newTProxyUdp events)
    (ran : run (tproxyStep ltr) newTProxyUdp events = some last) : OwnDestination last := by
  have initial : KeepsApart newTProxyUdp := by
    refine ⟨?_, ?_, ?_, ?_⟩
    · intro addr session entry
      cases entry
    · intro addr session writing
      cases writing
    · intro dest session member
      cases member
    · intro dest session member
      cases member
  exact (run_preserves_along (tproxyStep ltr) KeepsDestination KeepsApart (tproxy_step_keeps_apart ltr) _ last events
    initial keeps ran).own

def tproxyArg : LocalToRemote := ⟨{ tproxyUdp := some ⟨none⟩ }, "127.0.0.1:5353", "0.0.0.0", 0⟩

def twoDestinations : List TProxyEvent :=
  [.datagram "10.0.0.2:4000" (some ⟨"1.1.1.1", 53⟩) ⟨"", 0⟩ true, .write,
    .datagram "10.0.0.2:4000" (some ⟨"8.8.8.8", 53⟩) ⟨"", 0⟩ true, .write]

-- One source asks two servers: the second question goes to the first server.
theorem tproxy_udp_mixes_destinations :
    ∃ last, run (tproxyStep tproxyArg) newTProxyUdp twoDestinations = some last ∧
      (some ⟨"8.8.8.8", 53⟩, 0) ∈ last.written ∧ last.opened 0 = ⟨"1.1.1.1", 53⟩ ∧ ¬ OwnDestination last := by
  refine ⟨_, rfl, by decide, by decide, ?_⟩
  intro own
  have same := own ⟨"8.8.8.8", 53⟩ 0 (by decide)
  revert same
  decide

def twoSources : List TProxyEvent :=
  [.datagram "10.0.0.2:4000" (some ⟨"1.1.1.1", 53⟩) ⟨"", 0⟩ true, .write,
    .datagram "10.0.0.2:4001" (some ⟨"8.8.8.8", 53⟩) ⟨"", 0⟩ true, .write]

theorem tproxy_udp_keeps_two_sources_apart :
    ∃ last, run (tproxyStep tproxyArg) newTProxyUdp twoSources = some last ∧
      last.written = [(some ⟨"8.8.8.8", 53⟩, 1), (some ⟨"1.1.1.1", 53⟩, 0)] ∧ OwnDestination last := by
  refine ⟨_, rfl, by decide, ?_⟩
  apply tproxy_udp_keeps_destinations_apart tproxyArg twoSources _ _ rfl
  refine ⟨⟨by decide, by decide⟩, fun next first => ?_⟩
  cases first
  refine ⟨trivial, fun next second => ?_⟩
  cases second
  exact ⟨⟨by decide, by decide⟩, fun _ _ => ⟨trivial, fun _ _ => trivial⟩⟩

end WarpStream
