import Mathlib.Data.List.Nodup
import Mathlib.Logic.Function.Basic
import WarpStream.GoChan
import WarpStream.Transition

set_option autoImplicit false

namespace WarpStream

open GoChan Transition

-- onClose says whether the session was given a callback.
structure UdpSessionConn (α : Type) where
  ch : Chan α
  closed : Bool
  onClose : Bool
deriving DecidableEq, Repr

def newUdpSessionConn (α : Type) (onClose : Bool) : UdpSessionConn α := ⟨makeChan 128, false, onClose⟩

-- The sections under u.mu. No result is a panic, of a send on a closed channel
-- or of its second close.
def UdpSessionConn.push {α : Type} (conn : UdpSessionConn α) (cp : α) : Option (UdpSessionConn α) :=
  if conn.closed then some conn
  else
    match conn.ch.trySend cp with
    | .panicked => none
    | .full => some conn
    | .sent ch => some { conn with ch := ch }

-- Whether Close goes on to the callback is part of the result.
def UdpSessionConn.close {α : Type} (conn : UdpSessionConn α) : Option (UdpSessionConn α × Bool) :=
  if conn.closed then some (conn, false)
  else conn.ch.close.map fun ch => ({ conn with closed := true, ch := ch }, conn.onClose)

structure FlagsAgree {α : Type} (conn : UdpSessionConn α) : Prop where
  same : conn.ch.closed = conn.closed
  capacity : conn.ch.capacity = 128

def UdpSessionConn.accepts {α : Type} (conn : UdpSessionConn α) : Bool := !conn.closed && decide (conn.ch.buffer.length < 128)

section

variable {α : Type} (conn : UdpSessionConn α)

theorem new_flags_agree (onClose : Bool) : FlagsAgree (newUdpSessionConn α onClose) := ⟨rfl, rfl⟩

theorem accepts_iff : conn.accepts = true ↔ conn.closed = false ∧ conn.ch.buffer.length < 128 := by
  rw [UdpSessionConn.accepts, Bool.and_eq_true, Bool.not_eq_true', decide_eq_true_eq]

theorem push_accepted (agree : FlagsAgree conn) (cp : α) (accepts : conn.accepts = true) :
    conn.push cp = some { conn with ch := { conn.ch with buffer := conn.ch.buffer ++ [cp] } } := by
  obtain ⟨opened, room⟩ := (accepts_iff conn).mp accepts
  rw [UdpSessionConn.push, if_neg (by rw [opened]; decide),
    try_send_room conn.ch cp (agree.same.trans opened) (by rw [agree.capacity]; exact room)]

theorem push_refused (agree : FlagsAgree conn) (cp : α) (refuses : conn.accepts = false) : conn.push cp = some conn := by
  rw [UdpSessionConn.push]
  by_cases closed : conn.closed = true
  · rw [if_pos closed]
  · have opened : conn.closed = false := Bool.eq_false_iff.mpr closed
    have full : ¬ conn.ch.buffer.length < 128 := by
      intro room
      rw [(accepts_iff conn).mpr ⟨opened, room⟩] at refuses
      cases refuses
    rw [if_neg closed, try_send_full conn.ch cp (agree.same.trans opened) (by rw [agree.capacity]; exact full)]

theorem close_again (closed : conn.closed = true) : conn.close = some (conn, false) := by
  rw [UdpSessionConn.close, if_pos closed]

theorem close_first (agree : FlagsAgree conn) (opened : conn.closed = false) :
    conn.close = some ({ conn with closed := true, ch := { conn.ch with closed := true } }, conn.onClose) := by
  rw [UdpSessionConn.close, if_neg (by rw [opened]; decide), close_open conn.ch (agree.same.trans opened)]
  rfl

end

-- The callers of push and Read own their buffers, and push makes copies that
-- nobody else has.
inductive Buffer where
  | caller (index : Nat)
  | copy (index : Nat)
deriving DecidableEq, Repr

-- A call of Read: before it, waiting for the channel with the caller's buffer,
-- holding the copy it received, back with the bytes of the buffer it filled.
inductive ReadCall where
  | idle
  | waiting (buffer : Nat)
  | holding (buffer copy : Nat)
  | returned (room : Nat) (bytes : List UInt8)
  | eof
deriving DecidableEq, Repr

structure PushRecord where
  data : List UInt8
  copy : Nat
  closed : Bool
  pending : Nat
deriving DecidableEq, Repr

def PushRecord.accepted (record : PushRecord) : Bool := !record.closed && decide (record.pending < 128)

-- pushed and received are histories. The first has for each push the bytes it
-- was given and what it found, the second the reads in the order in which they
-- took from the channel; the session does not look at them.
structure SessionRun where
  conn : UdpSessionConn Nat
  memory : Buffer → List UInt8
  copies : Nat
  reads : Nat → ReadCall
  closing : Nat
  callbacks : Nat
  panicked : Bool
  pushed : List PushRecord
  received : List (Nat × Nat)

def newSessionRun (onClose : Bool) (memory : Buffer → List UInt8) : SessionRun :=
  ⟨newUdpSessionConn Nat onClose, memory, 0, fun _ => .idle, 0, 0, false, [], []⟩

def SessionRun.push (state : SessionRun) (data : List UInt8) : SessionRun :=
  let logged : SessionRun := { state with
    memory := if state.conn.closed then state.memory else Function.update state.memory (.copy state.copies) data
    copies := state.copies + 1
    pushed := state.pushed ++ [⟨data, state.copies, state.conn.closed, state.conn.ch.buffer.length⟩] }
  match state.conn.push state.copies with
  | none => { logged with panicked := true }
  | some conn => { logged with conn := conn }

def SessionRun.receive (state : SessionRun) (call buffer : Nat) : Option SessionRun :=
  match state.conn.ch.receive with
  | .blocks => none
  | .closed => some { state with reads := Function.update state.reads call .eof }
  | .value copy ch => some { state with
      conn := { state.conn with ch := ch }
      reads := Function.update state.reads call (.holding buffer copy)
      received := state.received ++ [(call, copy)] }

def SessionRun.deliver (state : SessionRun) (call buffer copy : Nat) : SessionRun :=
  let old := state.memory (.caller buffer)
  let bytes := (state.memory (.copy copy)).take old.length
  { state with
    memory := Function.update state.memory (.caller buffer) (bytes ++ old.drop bytes.length)
    reads := Function.update state.reads call (.returned old.length bytes) }

def SessionRun.close (state : SessionRun) : SessionRun :=
  match state.conn.close with
  | none => { state with panicked := true }
  | some (conn, calls) => { state with conn := conn, closing := if calls then state.closing + 1 else state.closing }

inductive SessionEvent where
  | scribble (buffer : Nat) (content : List UInt8)
  | push (buffer length : Nat)
  | read (call buffer : Nat)
  | receive (call : Nat)
  | deliver (call : Nat)
  | close
  | onClose
deriving DecidableEq, Repr

def sessionStep : Step SessionRun SessionEvent := fun state event =>
  match event with
  | .scribble buffer content =>
      if content.length = (state.memory (.caller buffer)).length then
        some { state with memory := Function.update state.memory (.caller buffer) content }
      else none
  | .push buffer length => some (state.push ((state.memory (.caller buffer)).take length))
  | .read call buffer =>
      if state.reads call = .idle then some { state with reads := Function.update state.reads call (.waiting buffer) } else none
  | .receive call =>
      match state.reads call with
      | .waiting buffer => state.receive call buffer
      | _ => none
  | .deliver call =>
      match state.reads call with
      | .holding buffer copy => some (state.deliver call buffer copy)
      | _ => none
  | .close => some state.close
  | .onClose => if 0 < state.closing then some { state with closing := state.closing - 1, callbacks := state.callbacks + 1 } else none

inductive SessionMoved (state : SessionRun) : SessionRun → Prop where
  | scribbled (buffer : Nat) (content : List UInt8) :
      SessionMoved state { state with memory := Function.update state.memory (.caller buffer) content }
  | pushed (data : List UInt8) : SessionMoved state (state.push data)
  | called (call buffer : Nat) (idle : state.reads call = .idle) :
      SessionMoved state { state with reads := Function.update state.reads call (.waiting buffer) }
  | took (call buffer : Nat) (next : SessionRun) (waits : state.reads call = .waiting buffer)
      (received : state.receive call buffer = some next) : SessionMoved state next
  | delivered (call buffer copy : Nat) (holds : state.reads call = .holding buffer copy) :
      SessionMoved state (state.deliver call buffer copy)
  | closed : SessionMoved state state.close
  | calledBack (pending : 0 < state.closing) :
      SessionMoved state { state with closing := state.closing - 1, callbacks := state.callbacks + 1 }

theorem session_step_moved (state next : SessionRun) (event : SessionEvent) (stepped : sessionStep state event = some next) :
    SessionMoved state next := by
  cases event with
  | scribble buffer content =>
      obtain ⟨_, moved⟩ := Option.ite_none_right_eq_some.mp stepped
      cases moved
      exact .scribbled buffer content
  | push buffer length =>
      cases stepped
      exact .pushed _
  | read call buffer =>
      obtain ⟨idle, moved⟩ := Option.ite_none_right_eq_some.mp stepped
      cases moved
      exact .called call buffer idle
  | receive call =>
      cases stage : state.reads call with
      | waiting buffer =>
          simp only [sessionStep, stage] at stepped
          exact .took call buffer next stage stepped
      | idle | holding | returned | eof => simp [sessionStep, stage] at stepped
  | deliver call =>
      cases stage : state.reads call with
      | holding buffer copy =>
          simp only [sessionStep, stage, Option.some.injEq] at stepped
          rw [← stepped]
          exact .delivered call buffer copy stage
      | idle | waiting | returned | eof => simp [sessionStep, stage] at stepped
  | close =>
      cases stepped
      exact .closed
  | onClose =>
      obtain ⟨pending, moved⟩ := Option.ite_none_right_eq_some.mp stepped
      cases moved
      exact .calledBack pending

-- What a read has of the copy it received: it still holds it, or returned as
-- much of it as its buffer takes.
inductive Answers (memory : Buffer → List UInt8) (copy : Nat) : ReadCall → Prop where
  | holding (buffer : Nat) : Answers memory copy (.holding buffer copy)
  | returned (room : Nat) : Answers memory copy (.returned room ((memory (.copy copy)).take room))

inductive Obtained : ReadCall → Prop where
  | holding (buffer copy : Nat) : Obtained (.holding buffer copy)
  | returned (room : Nat) (bytes : List UInt8) : Obtained (.returned room bytes)

theorem answers_obtained (memory : Buffer → List UInt8) (copy : Nat) (call : ReadCall) (answers : Answers memory copy call) :
    Obtained call := by
  cases answers with
  | holding buffer => exact .holding buffer copy
  | returned room => exact .returned room _

theorem answers_memory (memory other : Buffer → List UInt8) (copy : Nat) (call : ReadCall)
    (same : other (.copy copy) = memory (.copy copy)) (answers : Answers memory copy call) : Answers other copy call := by
  cases answers with
  | holding buffer => exact .holding buffer
  | returned room =>
      rw [← same]
      exact .returned room

def SessionRun.accepted (state : SessionRun) : List PushRecord := state.pushed.filter PushRecord.accepted

structure SessionSound (state : SessionRun) : Prop where
  calm : state.panicked = false
  agree : FlagsAgree state.conn
  once : state.closing + state.callbacks ≤ if state.conn.closed then 1 else 0
  conveys : Conveys state.conn.ch (state.accepted.map PushRecord.copy) (state.received.map Prod.snd)
  kept : ∀ record ∈ state.accepted, record.copy < state.copies ∧ state.memory (.copy record.copy) = record.data
  answered : ∀ row ∈ state.received, Answers state.memory row.2 (state.reads row.1)
  single : (state.received.map Prod.fst).Nodup
  heard : ∀ call, Obtained (state.reads call) → call ∈ state.received.map Prod.fst
  ended : ∀ call, state.reads call = .eof → state.conn.closed = true ∧ state.conn.ch.buffer = []

section

variable (state : SessionRun) (sound : SessionSound state)

include sound

theorem received_accepted (row : Nat × Nat) (present : row ∈ state.received) : ∃ record ∈ state.accepted, record.copy = row.2 := by
  have sent : row.2 ∈ state.accepted.map PushRecord.copy := by
    rw [sound.conveys.flow]
    exact List.mem_append_left _ (List.mem_map_of_mem present)
  exact List.mem_map.mp sent

-- The buffers of the callers and copies not yet made are theirs to change.
theorem sound_memory (memory : Buffer → List UInt8)
    (same : ∀ copy, copy < state.copies → memory (.copy copy) = state.memory (.copy copy)) :
    SessionSound { state with memory := memory } := by
  refine { sound with kept := ?_, answered := ?_ }
  · intro record accepted
    obtain ⟨made, content⟩ := sound.kept record accepted
    exact ⟨made, (same record.copy made).trans content⟩
  · intro row present
    obtain ⟨record, accepted, copy⟩ := received_accepted state sound row present
    have made : row.2 < state.copies := copy ▸ (sound.kept record accepted).1
    exact answers_memory state.memory memory row.2 _ (same row.2 made) (sound.answered row present)

theorem sound_reads (call : Nat) (value : ReadCall) (before : ¬ Obtained (state.reads call)) (after : ¬ Obtained value)
    (ended : value = .eof → state.conn.closed = true ∧ state.conn.ch.buffer = []) :
    SessionSound { state with reads := Function.update state.reads call value } := by
  refine { sound with answered := ?_, heard := ?_, ended := ?_ }
  · intro row present
    have answers := sound.answered row present
    have other : row.1 ≠ call := by
      intro same
      exact before (same ▸ answers_obtained state.memory row.2 _ answers)
    simp only [Function.update_of_ne other]
    exact answers
  · intro other obtained
    by_cases same : other = call
    · simp only [same, Function.update_self] at obtained
      exact absurd obtained after
    · simp only [Function.update_of_ne same] at obtained
      exact sound.heard other obtained
  · intro other eof
    by_cases same : other = call
    · simp only [same, Function.update_self] at eof
      exact ended eof
    · simp only [Function.update_of_ne same] at eof
      exact sound.ended other eof

theorem copied_sound (data : List UInt8) :
    SessionSound { state with
      memory := if state.conn.closed then state.memory else Function.update state.memory (.copy state.copies) data } := by
  apply sound_memory state sound
  intro copy made
  have other : Buffer.copy copy ≠ .copy state.copies := fun same => absurd (Buffer.copy.inj same) (Nat.ne_of_lt made)
  split
  · rfl
  · rw [Function.update_of_ne other]

theorem push_sound (data : List UInt8) : SessionSound (state.push data) := by
  have copied := copied_sound state sound data
  cases accepts : state.conn.accepts with
  | false =>
      have kind : ¬ PushRecord.accepted ⟨data, state.copies, state.conn.closed, state.conn.ch.buffer.length⟩ = true := by
        rw [Bool.not_eq_true]
        exact accepts
      have same : state.accepted = (state.push data).accepted := by
        simp only [SessionRun.push, push_refused state.conn sound.agree state.copies accepts, SessionRun.accepted,
          List.filter_append, List.filter_cons_of_neg kind, List.filter_nil, List.append_nil]
      simp only [SessionRun.push, push_refused state.conn sound.agree state.copies accepts] at same ⊢
      refine { copied with conveys := ?_, kept := ?_ }
      · rw [← same]
        exact sound.conveys
      · rw [← same]
        intro record accepted
        obtain ⟨made, content⟩ := copied.kept record accepted
        exact ⟨Nat.lt_succ_of_lt made, content⟩
  | true =>
      obtain ⟨opened, room⟩ := (accepts_iff state.conn).mp accepts
      have kind : PushRecord.accepted ⟨data, state.copies, state.conn.closed, state.conn.ch.buffer.length⟩ = true := accepts
      have more : state.accepted ++ [⟨data, state.copies, state.conn.closed, state.conn.ch.buffer.length⟩] =
          (state.push data).accepted := by
        simp only [SessionRun.push, push_accepted state.conn sound.agree state.copies accepts, SessionRun.accepted,
          List.filter_append, List.filter_cons_of_pos kind, List.filter_nil]
      simp only [SessionRun.push, push_accepted state.conn sound.agree state.copies accepts] at more ⊢
      refine { copied with agree := ⟨sound.agree.same, sound.agree.capacity⟩, conveys := ?_, kept := ?_, ended := ?_ }
      · rw [← more, List.map_append]
        exact conveys_send state.conn.ch _ _ state.copies sound.conveys (by rw [sound.agree.capacity]; exact room)
      · rw [← more]
        intro record accepted
        rcases List.mem_append.mp accepted with earlier | latest
        · obtain ⟨made, content⟩ := copied.kept record earlier
          exact ⟨Nat.lt_succ_of_lt made, content⟩
        · rw [List.mem_singleton.mp latest]
          refine ⟨Nat.lt_succ_self _, ?_⟩
          simp only [opened, Bool.false_eq_true, if_false, Function.update_self]
      · intro call eof
        rw [(sound.ended call eof).1] at opened
        cases opened

theorem take_sound (call buffer : Nat) (next : SessionRun) (waits : state.reads call = .waiting buffer)
    (stepped : state.receive call buffer = some next) : SessionSound next := by
  have before : ¬ Obtained (state.reads call) := by
    rw [waits]
    rintro ⟨⟩
  cases taken : state.conn.ch.receive with
  | blocks => simp [SessionRun.receive, taken] at stepped
  | closed =>
      simp only [SessionRun.receive, taken, Option.some.injEq] at stepped
      obtain ⟨empty, shut⟩ := (receive_closed_iff state.conn.ch).mp taken
      rw [← stepped]
      exact sound_reads state sound call .eof before (by rintro ⟨⟩) fun _ => ⟨sound.agree.same.symm.trans shut, empty⟩
  | value copy ch =>
      simp only [SessionRun.receive, taken, Option.some.injEq] at stepped
      obtain ⟨front, rest⟩ := (receive_value_iff state.conn.ch ch copy).mp taken
      have fresh : call ∉ state.received.map Prod.fst := by
        intro present
        obtain ⟨row, member, same⟩ := List.mem_map.mp present
        exact before (same ▸ answers_obtained state.memory row.2 _ (sound.answered row member))
      rw [← stepped]
      refine { sound with agree := ?_, conveys := ?_, answered := ?_, single := ?_, heard := ?_, ended := ?_ }
      · rw [rest]
        exact ⟨sound.agree.same, sound.agree.capacity⟩
      · simp only [List.map_append]
        exact conveys_receive state.conn.ch ch _ _ copy sound.conveys taken
      · intro row present
        rcases List.mem_append.mp present with earlier | latest
        · have other : row.1 ≠ call := fun same => fresh (same ▸ List.mem_map_of_mem earlier)
          simp only [Function.update_of_ne other]
          exact sound.answered row earlier
        · rw [List.mem_singleton.mp latest]
          simp only [Function.update_self]
          exact .holding buffer
      · rw [List.map_append, List.nodup_append]
        refine ⟨sound.single, List.nodup_singleton _, ?_⟩
        intro earlier present latest single same
        have last : latest = call := List.mem_singleton.mp single
        exact fresh (last ▸ same ▸ present)
      · intro other obtained
        rw [List.map_append, List.mem_append]
        by_cases same : other = call
        · exact .inr (List.mem_singleton.mpr same)
        · simp only [Function.update_of_ne same] at obtained
          exact .inl (sound.heard other obtained)
      · intro other eof
        by_cases same : other = call
        · simp only [same, Function.update_self] at eof
          cases eof
        · simp only [Function.update_of_ne same] at eof
          rw [(sound.ended other eof).2] at front
          cases front

theorem deliver_sound (call buffer copy : Nat) (holds : state.reads call = .holding buffer copy) :
    SessionSound (state.deliver call buffer copy) := by
  have obtained : Obtained (state.reads call) := by
    rw [holds]
    exact .holding buffer copy
  have filled := sound_memory state sound (state.deliver call buffer copy).memory fun _ _ => rfl
  refine { filled with answered := ?_, heard := ?_, ended := ?_ }
  · intro row present
    have answers := filled.answered row present
    by_cases same : row.1 = call
    · simp only [same, holds] at answers
      cases answers
      simp only [SessionRun.deliver, same, Function.update_self]
      exact .returned _
    · simp only [SessionRun.deliver, Function.update_of_ne same]
      exact answers
  · intro other reached
    by_cases same : other = call
    · rw [same]
      exact sound.heard call obtained
    · simp only [SessionRun.deliver, Function.update_of_ne same] at reached
      exact sound.heard other reached
  · intro other eof
    by_cases same : other = call
    · simp only [SessionRun.deliver, same, Function.update_self] at eof
      cases eof
    · simp only [SessionRun.deliver, Function.update_of_ne same] at eof
      exact sound.ended other eof

theorem close_sound : SessionSound state.close := by
  by_cases closed : state.conn.closed = true
  · simp only [SessionRun.close, close_again state.conn closed]
    exact { sound with }
  · have opened : state.conn.closed = false := Bool.eq_false_iff.mpr closed
    have unused := sound.once
    simp only [opened, Bool.false_eq_true, if_false] at unused
    simp only [SessionRun.close, close_first state.conn sound.agree opened]
    refine { sound with
      agree := ⟨rfl, sound.agree.capacity⟩, conveys := ⟨sound.conveys.flow, sound.conveys.bounded⟩, once := ?_, ended := ?_ }
    · simp only [if_true]
      split <;> omega
    · intro call eof
      exact ⟨rfl, (sound.ended call eof).2⟩

theorem session_step_sound (event : SessionEvent) (next : SessionRun) (stepped : sessionStep state event = some next) :
    SessionSound next := by
  cases session_step_moved state next event stepped with
  | scribbled => exact sound_memory state sound _ fun _ _ => rfl
  | pushed data => exact push_sound state sound data
  | called call buffer idle =>
      exact sound_reads state sound call (.waiting buffer) (by rw [idle]; rintro ⟨⟩) (by rintro ⟨⟩) (by rintro ⟨⟩)
  | took call buffer _ waits received => exact take_sound state sound call buffer next waits received
  | delivered call buffer copy holds => exact deliver_sound state sound call buffer copy holds
  | closed => exact close_sound state sound
  | calledBack pending =>
      have once := sound.once
      refine { sound with once := ?_ }
      simp only
      omega

end

def SessionRun.content (state : SessionRun) (copy : Nat) : List UInt8 := state.memory (.copy copy)

def SessionRun.result (state : SessionRun) (row : Nat × Nat) : Option (List UInt8) :=
  match state.reads row.1 with
  | .returned _ bytes => some bytes
  | _ => none

-- What the calls of Read returned, in the order in which they took from the
-- channel, the one point at which two of them meet.
def SessionRun.results (state : SessionRun) : List (List UInt8) := state.received.filterMap state.result

structure ChannelDiscipline (state : SessionRun) : Prop where
  calm : state.panicked = false
  once : state.callbacks ≤ 1
  bounded : state.conn.ch.buffer.length ≤ 128
  single : (state.received.map Prod.fst).Nodup
  heard : ∀ call room bytes, state.reads call = .returned room bytes → call ∈ state.received.map Prod.fst
  truncated : ∀ call copy room bytes, (call, copy) ∈ state.received → state.reads call = .returned room bytes →
    bytes = (state.content copy).take room
  ordered : (∀ call room bytes, state.reads call = .returned room bytes → ∀ record ∈ state.pushed, record.data.length ≤ room) →
    state.results.Sublist (state.pushed.map PushRecord.data)
  accounted : state.accepted.map PushRecord.data =
    state.received.map (fun row => state.content row.2) ++ state.conn.ch.buffer.map state.content
  drained : ∀ call, state.reads call = .eof →
    state.conn.closed = true ∧ state.accepted.map PushRecord.data = state.received.map fun row => state.content row.2
  readable : ∀ call buffer copy rest, state.reads call = .waiting buffer → state.conn.ch.buffer = copy :: rest →
    ∃ next, sessionStep state (.receive call) = some next ∧ next.reads call = .holding buffer copy

theorem filter_map_sublist_map {α β : Type} (choose : α → Option β) (image : α → β) (members : List α)
    (chosen : ∀ member ∈ members, ∀ value, choose member = some value → value = image member) :
    (members.filterMap choose).Sublist (members.map image) := by
  induction members with
  | nil => exact List.Sublist.slnil
  | cons first rest ih =>
      have tail := ih fun member present => chosen member (List.mem_cons_of_mem _ present)
      cases taken : choose first with
      | none =>
          rw [List.filterMap_cons_none taken]
          exact tail.cons _
      | some value =>
          rw [List.filterMap_cons_some taken, chosen first List.mem_cons_self value taken]
          exact tail.cons_cons _

section

variable (state : SessionRun) (sound : SessionSound state)

include sound

theorem accepted_content :
    state.accepted.map PushRecord.data =
      state.received.map (fun row => state.content row.2) ++ state.conn.ch.buffer.map state.content := by
  calc state.accepted.map PushRecord.data
      = (state.accepted.map PushRecord.copy).map state.content := by
        rw [List.map_map]
        exact List.map_congr_left fun record accepted => (sound.kept record accepted).2.symm
    _ = state.received.map (fun row => state.content row.2) ++ state.conn.ch.buffer.map state.content := by
        rw [sound.conveys.flow, List.map_append, List.map_map]
        rfl

theorem returned_truncated (call copy room : Nat) (bytes : List UInt8) (present : (call, copy) ∈ state.received)
    (returned : state.reads call = .returned room bytes) : bytes = (state.content copy).take room := by
  have answers := sound.answered (call, copy) present
  simp only [returned] at answers
  cases answers
  rfl

theorem results_ordered
    (long : ∀ call room bytes, state.reads call = .returned room bytes → ∀ record ∈ state.pushed, record.data.length ≤ room) :
    state.results.Sublist (state.pushed.map PushRecord.data) := by
  have whole : state.results.Sublist (state.received.map fun row => state.content row.2) := by
    apply filter_map_sublist_map
    rintro ⟨call, copy⟩ present value result
    cases stage : state.reads call with
    | returned room bytes =>
        simp only [SessionRun.result, stage, Option.some.injEq] at result
        obtain ⟨record, accepted, same⟩ := received_accepted state sound (call, copy) present
        have fits := long call room bytes stage record (List.mem_of_mem_filter accepted)
        rw [← (sound.kept record accepted).2, same] at fits
        rw [← result, returned_truncated state sound call copy room bytes present stage]
        exact List.take_of_length_le fits
    | idle | waiting | holding | eof => simp [SessionRun.result, stage] at result
  have accepted : (state.received.map fun row => state.content row.2).Sublist (state.accepted.map PushRecord.data) := by
    rw [accepted_content state sound]
    exact List.sublist_append_left _ _
  exact whole.trans (accepted.trans (List.filter_sublist.map _))

theorem sound_discipline : ChannelDiscipline state := by
  refine ⟨sound.calm, ?_, ?_, sound.single, ?_, returned_truncated state sound, results_ordered state sound,
    accepted_content state sound, ?_, ?_⟩
  · have once := sound.once
    split at once <;> omega
  · have bounded := sound.conveys.bounded
    rw [sound.agree.capacity] at bounded
    exact bounded
  · intro call room bytes returned
    exact sound.heard call (by rw [returned]; exact .returned room bytes)
  · intro call eof
    obtain ⟨closed, empty⟩ := sound.ended call eof
    have flow := accepted_content state sound
    rw [empty, List.map_nil, List.append_nil] at flow
    exact ⟨closed, flow⟩
  · intro call buffer copy rest waits front
    have taken : state.conn.ch.receive = .value copy { state.conn.ch with buffer := rest } :=
      (receive_value_iff _ _ _).mpr ⟨front, rfl⟩
    refine ⟨_, by simp only [sessionStep, waits, SessionRun.receive, taken]; rfl, ?_⟩
    exact Function.update_self _ _ _

end

theorem new_session_sound (onClose : Bool) (memory : Buffer → List UInt8) : SessionSound (newSessionRun onClose memory) where
  calm := rfl
  agree := new_flags_agree onClose
  once := Nat.le_refl 0
  conveys := ⟨rfl, Nat.zero_le _⟩
  kept := by rintro _ ⟨⟩
  answered := by rintro _ ⟨⟩
  single := List.nodup_nil
  heard := by rintro _ ⟨⟩
  ended := by rintro _ ⟨⟩

theorem session_run_sound (onClose : Bool) (memory : Buffer → List UInt8) (events : List SessionEvent) (state : SessionRun)
    (ran : run sessionStep (newSessionRun onClose memory) events = some state) : SessionSound state :=
  run_preserves sessionStep SessionSound (fun state event next sound => session_step_sound state sound event next) _ state events
    (new_session_sound onClose memory) ran

theorem received_grows (state : SessionRun) (event : SessionEvent) (next : SessionRun)
    (stepped : sessionStep state event = some next) : state.received <+: next.received := by
  cases session_step_moved state next event stepped with
  | scribbled | called | delivered | calledBack => exact List.prefix_refl _
  | pushed data =>
      simp only [SessionRun.push]
      split <;> exact List.prefix_refl _
  | took call buffer _ waits received =>
      simp only [SessionRun.receive] at received
      split at received
      · cases received
      · cases received
        exact List.prefix_refl _
      · cases received
        exact List.prefix_append _ _
  | closed =>
      simp only [SessionRun.close]
      split <;> exact List.prefix_refl _

-- A read that is back before another is called took from the channel before it.
theorem session_channel_discipline (onClose : Bool) (memory : Buffer → List UInt8) (events : List SessionEvent)
    (state : SessionRun) (ran : run sessionStep (newSessionRun onClose memory) events = some state) :
    ChannelDiscipline state ∧
    ∀ before after middle, events = before ++ after → run sessionStep (newSessionRun onClose memory) before = some middle →
      middle.received <+: state.received ∧
        ∀ call, middle.reads call = .idle → call ∉ middle.received.map Prod.fst := by
  refine ⟨sound_discipline state (session_run_sound onClose memory events state ran), ?_⟩
  rintro before after middle rfl reached
  have sound := session_run_sound onClose memory before middle reached
  rw [run_append sessionStep _ middle before after reached] at ran
  constructor
  · exact run_preserves sessionStep (fun later => middle.received <+: later.received)
      (fun state event next grown stepped => grown.trans (received_grows state event next stepped))
      middle state after (List.prefix_refl _) ran
  · intro call idle present
    obtain ⟨row, member, same⟩ := List.mem_map.mp present
    have obtained := answers_obtained middle.memory row.2 _ (sound.answered row member)
    rw [same, idle] at obtained
    cases obtained

def twoBuffers : Buffer → List UInt8
  | .caller 0 => [1, 2, 3]
  | .caller 1 => [0, 0, 0, 0]
  | _ => []

-- The pushed buffer is overwritten while the copy waits; a read holds it across
-- the Close, and the next one finds the end.
def sessionTrace : List SessionEvent :=
  [.push 0 3, .scribble 0 [9, 9, 9], .read 0 1, .receive 0, .close, .push 0 3, .deliver 0, .read 1 1, .receive 1, .close, .onClose]

theorem session_channel_discipline_two_reads :
    ∃ state, run sessionStep (newSessionRun true twoBuffers) sessionTrace = some state ∧
      state.results = [[1, 2, 3]] ∧ state.reads 1 = .eof ∧ ChannelDiscipline state :=
  ⟨_, rfl, by decide, by decide, (session_channel_discipline true twoBuffers sessionTrace _ rfl).1⟩

end WarpStream
