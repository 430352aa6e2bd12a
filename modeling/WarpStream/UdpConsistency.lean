import WarpStream.UdpSessions

set_option autoImplicit false

namespace WarpStream

open Transition

def Session.Unfinished (session : Session) : Prop :=
  session.reader = .reading ∨ session.reader = .ending ∨ session.armed = true ∨ 0 < session.callbacks

def UdpEvent.cleanUpOf (table : UdpTable) : UdpEvent → Option SessionId
  | .timerSection session => some session
  | .timerClose session => some session
  | .readSection session => some session
  | .readClose session => some session
  | .writeSection =>
      match table.loop with
      | .failed _ session => some session
      | _ => none
  | .writeClose =>
      match table.loop with
      | .closing session => some session
      | _ => none
  | _ => none

structure OwnEffects (session : SessionId) (table next : UdpTable) : Prop where
  clients : ∀ addr other, table.clients addr = some other → next.clients addr ≠ some other → other = session
  timers : ∀ addr other, table.timers addr = some other → next.timers addr ≠ some other → other = session
  stopped : ∀ other, (table.sessions other).armed = true → (next.sessions other).armed = false → other = session
  closed : ∀ other, (table.sessions other).closed = false → (next.sessions other).closed = true → other = session

def CleansOwn (tunnel : UdpTunnel) (table : UdpTable) (event : UdpEvent) : Prop :=
  ∀ session next, event.cleanUpOf table = some session → udpStep tunnel table event = some next →
    OwnEffects session table next

def Stays (table : UdpTable) : Prop :=
  ∀ session < table.nextSession, (table.sessions session).started = false →
    table.clients (table.sessions session).addr = some session ∧
      table.timers (table.sessions session).addr = some session ∧ (table.sessions session).armed = true

def InsertsAlone (table : UdpTable) : UdpEvent → Prop
  | .datagram addr connects =>
      table.clients addr = none → connects = true →
        ∀ session < table.nextSession, (table.sessions session).addr = addr → ¬ (table.sessions session).Unfinished
  | _ => True

def Newest (table : UdpTable) (addr : String) (session : SessionId) : Prop :=
  session < table.nextSession ∧ (table.sessions session).addr = addr ∧
    ∀ other < table.nextSession, (table.sessions other).addr = addr → other ≤ session

def Session.Begun (session : Session) : Prop :=
  session.reader ≠ .reading ∨ 0 < session.callbacks → session.started = true

structure UdpSound (table : UdpTable) : Prop where
  clients : ∀ addr session, table.clients addr = some session → Newest table addr session
  timers : ∀ addr session, table.timers addr = some session → Newest table addr session
  unfinished : ∀ session < table.nextSession, (table.sessions session).Unfinished →
    Newest table (table.sessions session).addr session
  writing : ∀ addr session, table.loop = .writing addr session → Newest table addr session
  failed : ∀ addr session, table.loop = .failed addr session →
    Newest table addr session ∧ (table.sessions session).started = true
  begun : ∀ session, (table.sessions session).Begun
  stays : Stays table

theorem newest_unique (table : UdpTable) (addr : String) (left right : SessionId) (first : Newest table addr left)
    (second : Newest table addr right) : left = right :=
  Nat.le_antisymm (second.2.2 left first.1 first.2.1) (first.2.2 right second.1 second.2.1)

theorem newest_congr (table next : UdpTable) (addr : String) (session : SessionId)
    (bound : next.nextSession = table.nextSession) (same : ∀ other, (next.sessions other).addr = (table.sessions other).addr)
    (newest : Newest table addr session) : Newest next addr session := by
  unfold Newest
  simp only [bound, same]
  exact newest

theorem unstarted_unfinished (session : Session) (begun : session.Begun) (unstarted : session.started = false) :
    session.Unfinished := by
  by_cases reading : session.reader = .reading
  · exact .inl reading
  · rw [begun (.inl reading)] at unstarted
    cases unstarted

@[simp] theorem set_session_sessions (table : UdpTable) (session other : SessionId) (value : Session) :
    (table.setSession session value).sessions other = if other = session then value else table.sessions other := by
  simp only [UdpTable.setSession, Function.update_apply]

structure SessionLocal (before after : Session) : Prop where
  addr : after.addr = before.addr
  started : before.started = true → after.started = true
  begun : before.Begun → after.Begun
  armed : after.started = false → before.armed = true → after.armed = true

theorem local_refl (session : Session) : SessionLocal session session :=
  ⟨rfl, id, id, fun _ armed => armed⟩

theorem local_unstarted (before after : Session) (moved : SessionLocal before after) (unstarted : after.started = false) :
    before.started = false := by
  by_contra started
  rw [moved.started (Bool.of_not_eq_false started)] at unstarted
  cases unstarted

-- All sessions change like this, and the tables and the loop do not. A session
-- takes up unfinished work only by a reset of its timer.
structure OnlySessions (table next : UdpTable) : Prop where
  clients : next.clients = table.clients
  timers : next.timers = table.timers
  bound : next.nextSession = table.nextSession
  loop : next.loop = table.loop
  moved : ∀ session, SessionLocal (table.sessions session) (next.sessions session)
  unfinished : ∀ session, (next.sessions session).Unfinished →
    (table.sessions session).Unfinished ∨ ∃ addr, table.timers addr = some session

theorem only_sessions_trans (table middle next : UdpTable) (first : OnlySessions table middle)
    (second : OnlySessions middle next) : OnlySessions table next := by
  refine ⟨second.clients.trans first.clients, second.timers.trans first.timers, second.bound.trans first.bound,
    second.loop.trans first.loop, ?_, ?_⟩
  · intro session
    obtain ⟨addr, started, begun, armed⟩ := first.moved session
    have later := second.moved session
    refine ⟨later.addr.trans addr, fun before => later.started (started before), fun before => later.begun (begun before), ?_⟩
    intro unstarted before
    exact later.armed unstarted (armed (local_unstarted _ _ later unstarted) before)
  · intro session unfinished
    rcases second.unfinished session unfinished with between | timed
    · exact first.unfinished session between
    · exact .inr (first.timers ▸ timed)

theorem set_session_only (table : UdpTable) (session : SessionId) (value : Session)
    (moved : SessionLocal (table.sessions session) value)
    (unfinished : value.Unfinished → (table.sessions session).Unfinished ∨ ∃ addr, table.timers addr = some session) :
    OnlySessions table (table.setSession session value) := by
  refine ⟨rfl, rfl, rfl, rfl, ?_, ?_⟩
  · intro other
    rw [set_session_sessions]
    split
    · rename_i same
      rw [same]
      exact moved
    · exact local_refl _
  · intro other
    rw [set_session_sessions]
    split
    · rename_i same
      rw [same]
      exact unfinished
    · exact .inl

theorem only_sessions_newest (table next : UdpTable) (addr : String) (session : SessionId) (only : OnlySessions table next)
    (newest : Newest table addr session) : Newest next addr session :=
  newest_congr table next addr session only.bound (fun other => (only.moved other).addr) newest

theorem only_sessions_sound (table next : UdpTable) (only : OnlySessions table next) (sound : UdpSound table) :
    UdpSound next := by
  refine ⟨?_, ?_, ?_, ?_, ?_, fun session => (only.moved session).begun (sound.begun session), ?_⟩
  · intro addr session entry
    rw [only.clients] at entry
    exact only_sessions_newest table next addr session only (sound.clients addr session entry)
  · intro addr session entry
    rw [only.timers] at entry
    exact only_sessions_newest table next addr session only (sound.timers addr session entry)
  · intro session issued unfinished
    rw [only.bound] at issued
    rw [(only.moved session).addr]
    apply only_sessions_newest table next _ session only
    rcases only.unfinished session unfinished with before | ⟨addr, timed⟩
    · exact sound.unfinished session issued before
    · have newest := sound.timers addr session timed
      rw [newest.2.1]
      exact newest
  · intro addr session writing
    rw [only.loop] at writing
    exact only_sessions_newest table next addr session only (sound.writing addr session writing)
  · intro addr session failed
    rw [only.loop] at failed
    obtain ⟨newest, started⟩ := sound.failed addr session failed
    exact ⟨only_sessions_newest table next addr session only newest, (only.moved session).started started⟩
  · intro session issued unstarted
    rw [only.bound] at issued
    have before := local_unstarted _ _ (only.moved session) unstarted
    obtain ⟨client, timer, armed⟩ := sound.stays session issued before
    rw [(only.moved session).addr, only.clients, only.timers]
    exact ⟨client, timer, (only.moved session).armed unstarted armed⟩

theorem reset_only (table : UdpTable) (addr : String) : OnlySessions table (resetTimer table addr) := by
  unfold resetTimer
  split
  · rename_i session timed
    exact set_session_only table session _ ⟨rfl, id, id, fun _ _ => rfl⟩ (fun _ => .inr ⟨addr, timed⟩)
  · exact ⟨rfl, rfl, rfl, rfl, fun _ => local_refl _, fun _ => .inl⟩

theorem close_only (table : UdpTable) (session : SessionId) : OnlySessions table (closeStream table session) :=
  set_session_only table session _ ⟨rfl, id, id, fun _ armed => armed⟩ .inl

def Owner (table : UdpTable) (addr : String) (session : SessionId) : Prop :=
  Newest table addr session ∧ (table.sessions session).started = true

theorem only_sessions_owner (table next : UdpTable) (addr : String) (session : SessionId) (only : OnlySessions table next)
    (owner : Owner table addr session) : Owner next addr session :=
  ⟨only_sessions_newest table next addr session only owner.1, (only.moved session).started owner.2⟩

-- Its address has no other session that could lose an entry, and it has begun
-- its clean-up itself.
theorem owner_spares (table : UdpTable) (addr : String) (owner session : SessionId) (sound : UdpSound table)
    (owns : Owner table addr owner) (issued : session < table.nextSession)
    (unstarted : (table.sessions session).started = false) : (table.sessions session).addr ≠ addr := by
  intro same
  have newest := sound.unfinished session issued (unstarted_unfinished _ (sound.begun session) unstarted)
  rw [same] at newest
  rw [newest_unique table addr session owner newest owns.1, owns.2] at unstarted
  cases unstarted

theorem stop_only (table : UdpTable) (addr : String) (owner : SessionId) (sound : UdpSound table)
    (owns : Owner table addr owner) : OnlySessions table (stopTimer table addr) := by
  unfold stopTimer
  split
  · rename_i session timed
    have same := newest_unique table addr session owner (sound.timers addr session timed) owns.1
    subst same
    refine set_session_only table session _ ⟨rfl, id, id, fun unstarted => ?_⟩ ?_
    · rw [owns.2] at unstarted
      cases unstarted
    · intro unfinished
      rcases unfinished with reading | ending | armed | called
      · exact .inl (.inl reading)
      · exact .inl (.inr (.inl ending))
      · cases armed
      · exact .inl (.inr (.inr (.inr called)))
  · exact ⟨rfl, rfl, rfl, rfl, fun _ => local_refl _, fun _ => .inl⟩

theorem delete_entry (entries : String → Option SessionId) (addr other : String) (session : SessionId)
    (entry : Function.update entries addr none other = some session) : entries other = some session := by
  rw [Function.update_apply] at entry
  split at entry
  · cases entry
  · exact entry

theorem delete_sound (table : UdpTable) (addr : String) (owner : SessionId) (sound : UdpSound table)
    (owns : Owner table addr owner) : UdpSound (deleteEntries table addr) := by
  refine ⟨?_, ?_, sound.unfinished, sound.writing, sound.failed, sound.begun, ?_⟩
  · intro other session entry
    exact sound.clients other session (delete_entry table.clients addr other session entry)
  · intro other session entry
    exact sound.timers other session (delete_entry table.timers addr other session entry)
  · intro session issued unstarted
    have apart := owner_spares table addr owner session sound owns issued unstarted
    simp only [deleteEntries, Function.update_of_ne apart]
    exact sound.stays session issued unstarted

theorem stop_delete_sound (table : UdpTable) (addr : String) (owner : SessionId) (sound : UdpSound table)
    (owns : Owner table addr owner) : UdpSound (stopAndDelete table addr) := by
  have only := stop_only table addr owner sound owns
  exact delete_sound _ addr owner (only_sessions_sound table _ only sound) (only_sessions_owner table _ addr owner only owns)

theorem loop_sound (table : UdpTable) (loop : LoopPc) (sound : UdpSound table)
    (writing : ∀ addr session, loop = .writing addr session → Newest table addr session)
    (failed : ∀ addr session, loop = .failed addr session → Owner table addr session) : UdpSound { table with loop := loop } :=
  ⟨sound.clients, sound.timers, sound.unfinished, writing, failed, sound.begun, sound.stays⟩

theorem insert_sessions (table : UdpTable) (addr : String) (session : SessionId) :
    (insertSession table addr).sessions session =
      if session = table.nextSession then newSession addr else table.sessions session := by
  simp only [insertSession, set_session_sessions]

theorem insert_newest (table : UdpTable) (addr : String) : Newest (insertSession table addr) addr table.nextSession := by
  refine ⟨Nat.lt_succ_self _, by simp [insert_sessions, newSession], ?_⟩
  intro other issued _
  exact Nat.le_of_lt_succ issued

theorem insert_newest_other (table : UdpTable) (addr other : String) (session : SessionId) (different : other ≠ addr)
    (newest : Newest table other session) : Newest (insertSession table addr) other session := by
  have old : session ≠ table.nextSession := Nat.ne_of_lt newest.1
  refine ⟨Nat.lt_succ_of_lt newest.1, by simp only [insert_sessions, if_neg old, newest.2.1], ?_⟩
  intro later issued same
  by_cases fresh : later = table.nextSession
  · simp only [insert_sessions, if_pos fresh, newSession] at same
    exact absurd same.symm different
  · simp only [insert_sessions, if_neg fresh] at same
    exact newest.2.2 later (Nat.lt_of_le_of_ne (Nat.le_of_lt_succ issued) fresh) same

theorem insert_entry (table : UdpTable) (addr other : String) (session : SessionId) (entries : String → Option SessionId)
    (newest : ∀ addr session, entries addr = some session → Newest table addr session)
    (entry : Function.update entries addr (some table.nextSession) other = some session) :
    Newest (insertSession table addr) other session := by
  rw [Function.update_apply] at entry
  split at entry
  · rename_i same
    cases entry
    exact same ▸ insert_newest table addr
  · rename_i different
    exact insert_newest_other table addr other session different (newest other session entry)

theorem new_session_begun (addr : String) : (newSession addr).Begun := by
  intro busy
  rcases busy with reading | called
  · exact absurd rfl reading
  · exact absurd called (Nat.lt_irrefl 0)

theorem insert_sound (table : UdpTable) (addr : String) (sound : UdpSound table)
    (alone : ∀ session < table.nextSession, (table.sessions session).addr = addr → ¬ (table.sessions session).Unfinished) :
    UdpSound (insertSession table addr) := by
  -- No session of the address has work left, so only other addresses have sessions to keep.
  have kept : ∀ session < table.nextSession, (table.sessions session).Unfinished → (table.sessions session).addr ≠ addr :=
    fun session issued unfinished same => alone session issued same unfinished
  have older : ∀ session < (insertSession table addr).nextSession, session ≠ table.nextSession → session < table.nextSession :=
    fun session issued fresh => Nat.lt_of_le_of_ne (Nat.le_of_lt_succ issued) fresh
  refine ⟨fun other session => insert_entry table addr other session table.clients sound.clients,
    fun other session => insert_entry table addr other session table.timers sound.timers, ?_, ?_, ?_, ?_, ?_⟩
  · intro session issued unfinished
    rw [insert_sessions] at unfinished ⊢
    by_cases fresh : session = table.nextSession
    · rw [if_pos fresh, fresh]
      exact insert_newest table addr
    · rw [if_neg fresh] at unfinished ⊢
      have old := older session issued fresh
      exact insert_newest_other table addr _ session (kept session old unfinished) (sound.unfinished session old unfinished)
  · intro other session writing
    cases writing
    exact insert_newest table addr
  · intro other session failed
    cases failed
  · intro session
    rw [insert_sessions]
    split
    · exact new_session_begun addr
    · exact sound.begun session
  · intro session issued unstarted
    rw [insert_sessions] at unstarted ⊢
    by_cases fresh : session = table.nextSession
    · simp [fresh, insertSession, newSession]
    · rw [if_neg fresh] at unstarted ⊢
      have old := older session issued fresh
      have apart := kept session old (unstarted_unfinished _ (sound.begun session) unstarted)
      simp only [insertSession, Function.update_of_ne apart]
      exact sound.stays session old unstarted

theorem called_owner (table : UdpTable) (session : SessionId) (sound : UdpSound table) (issued : session < table.nextSession)
    (called : 0 < (table.sessions session).callbacks) : Owner table (table.sessions session).addr session :=
  ⟨sound.unfinished session issued (.inr (.inr (.inr called))), sound.begun session (.inr called)⟩

theorem ending_owner (table : UdpTable) (session : SessionId) (sound : UdpSound table) (issued : session < table.nextSession)
    (ending : (table.sessions session).reader = .ending) : Owner table (table.sessions session).addr session :=
  ⟨sound.unfinished session issued (.inr (.inl ending)), sound.begun session (.inl (by simp [ending]))⟩

theorem count_only (table : UdpTable) (session : SessionId) (callbacks closings : Nat)
    (fewer : callbacks ≤ (table.sessions session).callbacks) :
    OnlySessions table
      (table.setSession session { table.sessions session with callbacks := callbacks, closings := closings }) := by
  refine set_session_only table session _ ⟨rfl, id, ?_, fun _ armed => armed⟩ ?_
  · intro begun busy
    rcases busy with reading | called
    · exact begun (.inl reading)
    · exact begun (.inr (Nat.lt_of_lt_of_le called fewer))
  · intro unfinished
    rcases unfinished with reading | ending | armed | called
    · exact .inl (.inl reading)
    · exact .inl (.inr (.inl ending))
    · exact .inl (.inr (.inr (.inl armed)))
    · exact .inl (.inr (.inr (.inr (Nat.lt_of_lt_of_le called fewer))))

theorem reader_only (table : UdpTable) (session : SessionId) (reader : ReaderPc)
    (behind : (table.sessions session).reader ≠ .reading) (ended : reader = .closing ∨ reader = .done) :
    OnlySessions table (table.setSession session { table.sessions session with reader := reader }) := by
  refine set_session_only table session _ ⟨rfl, id, ?_, fun _ armed => armed⟩ ?_
  · intro begun _
    exact begun (.inl behind)
  · intro unfinished
    rcases unfinished with reading | ending | armed | called
    · rcases ended with closing | done
      · cases closing.symm.trans reading
      · cases done.symm.trans reading
    · rcases ended with closing | done
      · cases closing.symm.trans ending
      · cases done.symm.trans ending
    · exact .inl (.inr (.inr (.inl armed)))
    · exact .inl (.inr (.inr (.inr called)))

theorem timer_section_sound (tunnel : UdpTunnel) (table : UdpTable) (session : SessionId) (sound : UdpSound table)
    (issued : session < table.nextSession) (called : 0 < (table.sessions session).callbacks) :
    UdpSound (timerSection tunnel table session) := by
  have owns := called_owner table session sound issued called
  have clean : ∀ middle, OnlySessions table middle → UdpSound (deleteEntries middle (table.sessions session).addr) :=
    fun middle only => delete_sound middle _ session (only_sessions_sound table middle only sound)
      (only_sessions_owner table middle _ session only owns)
  cases tunnel with
  | runUdpTunnel => exact clean _ (count_only table session _ _ (Nat.sub_le _ 1))
  | runTProxyUdpTunnel =>
      have only := count_only table session ((table.sessions session).callbacks - 1) (table.sessions session).closings
        (Nat.sub_le _ 1)
      simp only [timerSection]
      split
      · rename_i stream _
        exact clean _ (only_sessions_trans table _ _ only (close_only _ stream))
      · exact clean _ only

theorem udp_step_sound (tunnel : UdpTunnel) (table : UdpTable) (event : UdpEvent) (next : UdpTable) (sound : UdpSound table)
    (alone : InsertsAlone table event) (stepped : udpStep tunnel table event = some next) : UdpSound next := by
  cases udp_step_moved tunnel table next event stepped with
  | found addr connects session _ entry =>
      have only := reset_only table addr
      apply loop_sound _ _ (only_sessions_sound table _ only sound)
      · intro other found writing
        cases writing
        exact only_sessions_newest table _ addr session only (sound.clients addr session entry)
      · intro other found failed
        cases failed
  | inserted addr _ missing => exact insert_sound table addr sound (alone missing rfl)
  | refused => exact sound
  | written => exact loop_sound table .idle sound (fun _ _ idle => by cases idle) (fun _ _ idle => by cases idle)
  | writeFails addr session writing =>
      have only : OnlySessions table (table.setSession session { table.sessions session with started := true }) :=
        set_session_only table session _ ⟨rfl, fun _ => rfl, fun _ _ => rfl, fun unstarted => by cases unstarted⟩ .inl
      apply loop_sound _ _ (only_sessions_sound table _ only sound)
      · intro other found wrote
        cases wrote
      · intro other found failed
        cases failed
        exact ⟨only_sessions_newest table _ addr session only (sound.writing addr session writing), by simp⟩
  | writeSection addr session failed =>
      apply loop_sound _ _ (stop_delete_sound table addr session sound (sound.failed addr session failed))
      · intro other found wrote
        cases wrote
      · intro other found again
        cases again
  | writeClose session closing =>
      exact loop_sound _ .idle (only_sessions_sound table _ (close_only table session) sound)
        (fun _ _ idle => by cases idle) (fun _ _ idle => by cases idle)
  | timerFires session issued armed =>
      refine only_sessions_sound table _ (set_session_only table session _
        ⟨rfl, fun _ => rfl, fun _ _ => rfl, fun unstarted => (by cases unstarted)⟩ ?_) sound
      exact fun _ => .inl (.inr (.inr (.inl armed)))
  | timerSection session issued called => exact timer_section_sound tunnel table session sound issued called
  | timerClose session issued pending =>
      have only := count_only table session (table.sessions session).callbacks ((table.sessions session).closings - 1)
        (Nat.le_refl _)
      exact only_sessions_sound _ _ (close_only _ session) (only_sessions_sound table _ only sound)
  | message session => exact only_sessions_sound table _ (reset_only table _) sound
  | readFails session issued reading =>
      refine only_sessions_sound table _ (set_session_only table session _
        ⟨rfl, fun _ => rfl, fun _ _ => rfl, fun unstarted => (by cases unstarted)⟩ ?_) sound
      exact fun _ => .inl (.inl reading)
  | readSection session issued ending =>
      have only := reader_only table session .closing (by simp [ending]) (.inl rfl)
      exact stop_delete_sound _ _ session (only_sessions_sound table _ only sound)
        (only_sessions_owner table _ _ session only (ending_owner table session sound issued ending))
  | readClose session issued closing =>
      have only := reader_only table session .done (by simp [closing]) (.inr rfl)
      exact only_sessions_sound _ _ (close_only _ session) (only_sessions_sound table _ only sound)

theorem own_effects_trans (session : SessionId) (table middle next : UdpTable) (first : OwnEffects session table middle)
    (second : OwnEffects session middle next) : OwnEffects session table next := by
  refine ⟨?_, ?_, ?_, ?_⟩
  · intro addr other entry gone
    by_cases kept : middle.clients addr = some other
    · exact second.clients addr other kept gone
    · exact first.clients addr other entry kept
  · intro addr other entry gone
    by_cases kept : middle.timers addr = some other
    · exact second.timers addr other kept gone
    · exact first.timers addr other entry kept
  · intro other armed stopped
    cases between : (middle.sessions other).armed with
    | true => exact second.stopped other between stopped
    | false => exact first.stopped other armed between
  · intro other opened closed
    cases between : (middle.sessions other).closed with
    | true => exact first.closed other opened between
    | false => exact second.closed other between closed

theorem own_set_session (table : UdpTable) (session : SessionId) (value : Session) :
    OwnEffects session table (table.setSession session value) := by
  refine ⟨fun _ _ entry gone => absurd entry gone, fun _ _ entry gone => absurd entry gone, ?_, ?_⟩
  · intro other armed stopped
    by_contra different
    simp [different, armed] at stopped
  · intro other opened closed
    by_contra different
    simp [different, opened] at closed

theorem own_loop (table : UdpTable) (session : SessionId) (loop : LoopPc) : OwnEffects session table { table with loop := loop } :=
  ⟨fun _ _ entry gone => absurd entry gone, fun _ _ entry gone => absurd entry gone,
    fun _ armed stopped => absurd (armed.symm.trans stopped) (by decide),
    fun _ opened closed => absurd (opened.symm.trans closed) (by decide)⟩

theorem lost_entry (entries : String → Option SessionId) (addr other : String) (session : SessionId)
    (entry : entries other = some session) (gone : Function.update entries addr none other ≠ some session) : other = addr := by
  by_contra different
  rw [Function.update_of_ne different] at gone
  exact gone entry

theorem own_delete (table : UdpTable) (addr : String) (owner : SessionId) (sound : UdpSound table)
    (owns : Owner table addr owner) : OwnEffects owner table (deleteEntries table addr) := by
  refine ⟨?_, ?_, fun _ armed stopped => absurd (armed.symm.trans stopped) (by decide),
    fun _ opened closed => absurd (opened.symm.trans closed) (by decide)⟩
  · intro other session entry gone
    have same := lost_entry table.clients addr other session entry gone
    exact newest_unique table addr session owner (same ▸ sound.clients other session entry) owns.1
  · intro other session entry gone
    have same := lost_entry table.timers addr other session entry gone
    exact newest_unique table addr session owner (same ▸ sound.timers other session entry) owns.1

theorem own_stop (table : UdpTable) (addr : String) (owner : SessionId) (sound : UdpSound table)
    (owns : Owner table addr owner) : OwnEffects owner table (stopTimer table addr) := by
  unfold stopTimer
  split
  · rename_i session timed
    rw [newest_unique table addr session owner (sound.timers addr session timed) owns.1]
    exact own_set_session table owner _
  · exact own_loop table owner table.loop

theorem own_stop_delete (table : UdpTable) (addr : String) (owner : SessionId) (sound : UdpSound table)
    (owns : Owner table addr owner) : OwnEffects owner table (stopAndDelete table addr) := by
  have only := stop_only table addr owner sound owns
  exact own_effects_trans owner _ _ _ (own_stop table addr owner sound owns)
    (own_delete _ addr owner (only_sessions_sound table _ only sound) (only_sessions_owner table _ addr owner only owns))

theorem timer_section_own (tunnel : UdpTunnel) (table : UdpTable) (session : SessionId) (sound : UdpSound table)
    (issued : session < table.nextSession) (called : 0 < (table.sessions session).callbacks) :
    OwnEffects session table (timerSection tunnel table session) := by
  have owns := called_owner table session sound issued called
  have clean : ∀ middle, OnlySessions table middle → OwnEffects session table middle →
      OwnEffects session table (deleteEntries middle (table.sessions session).addr) :=
    fun middle only own => own_effects_trans session _ _ _ own (own_delete middle _ session
      (only_sessions_sound table middle only sound) (only_sessions_owner table middle _ session only owns))
  cases tunnel with
  | runUdpTunnel => exact clean _ (count_only table session _ _ (Nat.sub_le _ 1)) (own_set_session table session _)
  | runTProxyUdpTunnel =>
      have only := count_only table session ((table.sessions session).callbacks - 1) (table.sessions session).closings
        (Nat.sub_le _ 1)
      simp only [timerSection]
      split
      · -- The stream found under the address is the session's own.
        rename_i stream entry
        have same := newest_unique table _ stream session (sound.clients _ stream entry) owns.1
        subst same
        refine clean _ (only_sessions_trans table _ _ only (close_only _ stream)) ?_
        exact own_effects_trans stream _ _ _ (own_set_session table stream _) (own_set_session _ stream _)
      · exact clean _ only (own_set_session table session _)

theorem udp_cleans_own (tunnel : UdpTunnel) (table : UdpTable) (event : UdpEvent) (sound : UdpSound table) :
    CleansOwn tunnel table event := by
  intro session next cleans stepped
  cases udp_step_moved tunnel table next event stepped with
  | timerSection other issued called =>
      cases cleans
      exact timer_section_own tunnel table session sound issued called
  | timerClose | readClose =>
      cases cleans
      exact own_effects_trans session _ _ _ (own_set_session table session _) (own_set_session _ session _)
  | readSection other issued ending =>
      cases cleans
      have only := reader_only table session .closing (by simp [ending]) (.inl rfl)
      exact own_effects_trans session _ _ _ (own_set_session table session _) (own_stop_delete _ _ session
        (only_sessions_sound table _ only sound)
        (only_sessions_owner table _ _ session only (ending_owner table session sound issued ending)))
  | writeSection addr owner failed =>
      simp only [UdpEvent.cleanUpOf, failed, Option.some.injEq] at cleans
      subst cleans
      exact own_effects_trans owner _ _ _ (own_stop_delete table addr owner sound (sound.failed addr owner failed))
        (own_loop _ owner _)
  | writeClose owner closing =>
      simp only [UdpEvent.cleanUpOf, closing, Option.some.injEq] at cleans
      subst cleans
      exact own_effects_trans owner _ _ _ (own_set_session table owner _) (own_loop _ owner _)
  | found | inserted | refused | written | writeFails | timerFires | message | readFails => cases cleans

theorem udp_sound_initial : UdpSound newUdpTable := by
  refine ⟨?_, ?_, ?_, ?_, ?_, ?_, ?_⟩
  · intro addr session entry
    cases entry
  · intro addr session entry
    cases entry
  · intro session issued
    exact absurd issued (Nat.not_lt_zero session)
  · intro addr session writing
    cases writing
  · intro addr session failed
    cases failed
  · exact fun _ => new_session_begun ""
  · intro session issued
    exact absurd issued (Nat.not_lt_zero session)

theorem udp_tables_consistent (tunnel : UdpTunnel) (events : List UdpEvent) (last : UdpTable)
    (alone : Along (udpStep tunnel) InsertsAlone newUdpTable events)
    (ran : run (udpStep tunnel) newUdpTable events = some last) :
    Along (udpStep tunnel) (CleansOwn tunnel) newUdpTable events ∧ Stays last := by
  constructor
  · exact along_of_invariant (udpStep tunnel) InsertsAlone (CleansOwn tunnel) UdpSound (udp_step_sound tunnel)
      (fun table event sound _ => udp_cleans_own tunnel table event sound) newUdpTable events udp_sound_initial alone
  · exact (run_preserves_along (udpStep tunnel) InsertsAlone UdpSound (udp_step_sound tunnel) newUdpTable last events
      udp_sound_initial alone ran).stays

-- The timer ends the first session of an address, a datagram opens a second, and
-- the reader of the first takes the entries and the timer of the second.
def overtaken : List UdpEvent :=
  [.datagram "10.0.0.7:5353" true, .written, .timerFires 0, .timerSection 0, .datagram "10.0.0.7:5353" true, .written,
    .readFails 0, .readSection 0]

theorem udp_tables_inconsistent :
    (∃ last, run (udpStep .runUdpTunnel) newUdpTable overtaken = some last ∧
      ¬ (Along (udpStep .runUdpTunnel) (CleansOwn .runUdpTunnel) newUdpTable overtaken ∧ Stays last)) ∧
    ∃ last, run (udpStep .runTProxyUdpTunnel) newUdpTable overtaken = some last ∧
      ¬ (Along (udpStep .runTProxyUdpTunnel) (CleansOwn .runTProxyUdpTunnel) newUdpTable overtaken ∧ Stays last) := by
  refine ⟨⟨_, rfl, ?_⟩, ⟨_, rfl, ?_⟩⟩
  · intro ⟨_, stays⟩
    cases (stays 1 (by decide) rfl).1
  · intro ⟨_, stays⟩
    cases (stays 1 (by decide) rfl).1

def inTurn : List UdpEvent :=
  [.datagram "10.0.0.7:5353" true, .written, .readFails 0, .readSection 0, .readClose 0, .datagram "10.0.0.7:5353" true]

theorem udp_tables_consistent_in_turn :
    ∃ last, run (udpStep .runUdpTunnel) newUdpTable inTurn = some last ∧ last.nextSession = 2 ∧ Stays last := by
  refine ⟨_, rfl, rfl, ?_⟩
  refine (udp_tables_consistent .runUdpTunnel inTurn _ ?_ rfl).2
  refine ⟨fun _ _ session issued => absurd issued (Nat.not_lt_zero session), fun _ opened => ?_⟩
  cases opened
  refine ⟨trivial, fun _ wrote => ?_⟩
  cases wrote
  refine ⟨trivial, fun _ failed => ?_⟩
  cases failed
  refine ⟨trivial, fun _ cleaned => ?_⟩
  cases cleaned
  refine ⟨trivial, fun _ closed => ?_⟩
  cases closed
  refine ⟨fun _ _ session issued _ => ?_, fun _ _ => trivial⟩
  have first : session = 0 := Nat.lt_one_iff.mp issued
  subst first
  intro unfinished
  rcases unfinished with reading | ending | armed | called
  · cases reading
  · cases ending
  · cases armed
  · exact absurd called (by decide)

end WarpStream
