import WarpStream.WaitQueue

set_option autoImplicit false

namespace WarpStream

open GoSlice Transition

-- 10*time.Second, in nanoseconds.
def acquireTimeout : Nat := 10000000000

-- The timer and the deadline of one acquireWaitingConn call. They come from two
-- readings of the clock: deadline is none between AfterFunc and time.Now.
structure AcquireCall where
  created : Nat
  deadline : Option Nat
  fired : Bool
deriving DecidableEq, Repr

structure TimedQueue where
  queue : WaitQueue
  clock : Nat
  calls : GoroutineId → Option AcquireCall

def newTimedQueue (idleTimeout : Int) (clock : Nat) : TimedQueue :=
  ⟨newWaitQueue idleTimeout, clock, fun _ => none⟩

inductive TimedEvent where
  | tick (elapsed : Nat)
  | afterFunc (goroutine : GoroutineId)
  | computeDeadline (goroutine : GoroutineId)
  | callback (goroutine : GoroutineId)
  | lock (goroutine : GoroutineId)
  | other (event : QueueEvent)
deriving DecidableEq, Repr

def TimedQueue.setCall (state : TimedQueue) (goroutine : GoroutineId) (call : AcquireCall) : TimedQueue :=
  { state with calls := Function.update state.calls goroutine (some call) }

-- !time.Now().Before(deadline)
def TimedQueue.late (state : TimedQueue) (goroutine : GoroutineId) : Bool :=
  match (state.calls goroutine).bind AcquireCall.deadline with
  | some deadline => decide (deadline ≤ state.clock)
  | none => false

-- The events of the queue that the clock does not decide. A goroutine between
-- AfterFunc and time.Now is idle for the queue but starts no other call.
def TimedQueue.admits (state : TimedQueue) : QueueEvent → Bool
  | .handleClient g => (state.calls g).isNone
  | .handleIncoming _ | .lockQueue _ _ | .deadlineBroadcast => false
  | _ => true

def timedStep (state : TimedQueue) : TimedEvent → Option TimedQueue
  | .tick elapsed => some { state with clock := state.clock + elapsed }
  | .afterFunc g =>
      if state.queue.goroutines g = .idle ∧ state.calls g = none then some (state.setCall g ⟨state.clock, none, false⟩)
      else none
  | .computeDeadline g =>
      match state.calls g with
      | some call =>
          if call.deadline = none then
            (queueStep state.queue (.handleIncoming g)).map fun queue =>
              { state with queue := queue }.setCall g { call with deadline := some (state.clock + acquireTimeout) }
          else none
      | none => none
  | .callback g =>
      match state.calls g with
      | some call =>
          if call.fired = false ∧ call.created + acquireTimeout ≤ state.clock then
            some ({ state with queue := state.queue.broadcast }.setCall g { call with fired := true })
          else none
      | none => none
  | .lock g => (queueStep state.queue (.lockQueue g (state.late g))).map fun queue => { state with queue := queue }
  | .other event =>
      if state.admits event then (queueStep state.queue event).map fun queue => { state with queue := queue } else none

-- The call has not returned, or has not entered its loop yet.
def Pc.awaiting : Pc → Bool
  | .idle | .acquiring | .acquireParked => true
  | _ => false

def Pc.acquires : Pc → Bool
  | .acquiring | .acquireParked => true
  | _ => false

@[simp] theorem wake_awaiting (pc : Pc) : pc.wake.awaiting = pc.awaiting := by
  cases pc <;> rfl

@[simp] theorem wake_acquires (pc : Pc) : pc.wake.acquires = pc.acquires := by
  cases pc <;> rfl

theorem wake_not_parked (pc : Pc) : pc.wake ≠ .acquireParked := by
  cases pc <;> simp [Pc.wake]

-- What a step does to one goroutine: nothing, a wake-up, or a move of its own.
inductive PcStep (queue : WaitQueue) (event : QueueEvent) (goroutine : GoroutineId) : Pc → Prop where
  | stay : PcStep queue event goroutine (queue.goroutines goroutine)
  | woken : PcStep queue event goroutine (queue.goroutines goroutine).wake
  | enter (issued : event = .handleIncoming goroutine) : PcStep queue event goroutine .acquiring
  | park (issued : event = .lockQueue goroutine false) (entered : queue.goroutines goroutine = .acquiring) :
      PcStep queue event goroutine .acquireParked
  | leave (target : Pc) (answered : target.awaiting = false) : PcStep queue event goroutine target

@[simp] theorem wake_wake (pc : Pc) : pc.wake.wake = pc.wake := by
  cases pc <;> rfl

def Signalled (queue next : WaitQueue) : Prop :=
  ∀ goroutine, next.goroutines goroutine = queue.goroutines goroutine ∨
    next.goroutines goroutine = (queue.goroutines goroutine).wake

theorem signalled_broadcast (queue middle next : WaitQueue) (signalled : Signalled queue middle)
    (broadcast : next.goroutines = middle.broadcast.goroutines) : Signalled queue next := by
  intro goroutine
  rw [broadcast]
  change (middle.goroutines goroutine).wake = _ ∨ (middle.goroutines goroutine).wake = _
  rcases signalled goroutine with same | woken
  · exact .inr (congrArg Pc.wake same)
  · rw [woken, wake_wake]
    exact .inr rfl

theorem signalled_purge (queue : WaitQueue) : Signalled queue (purgeDoneWaitersLocked queue) := by
  unfold purgeDoneWaitersLocked
  split
  · exact fun _ => .inl rfl
  · exact fun _ => .inr rfl

theorem set_pc_step (queue middle : WaitQueue) (event : QueueEvent) (goroutine : GoroutineId) (target : Pc)
    (signalled : Signalled queue middle) (own : PcStep queue event goroutine target) (other : GoroutineId) :
    PcStep queue event other ((middle.setPc goroutine target).goroutines other) := by
  simp only [WaitQueue.setPc, Function.update_apply]
  split
  · rename_i same
    exact same ▸ own
  · rcases signalled other with same | woken
    · exact same ▸ .stay
    · exact woken ▸ .woken

theorem enqueue_section_pc (queue : WaitQueue) (event : QueueEvent) (goroutine other : GoroutineId) (wait : WaiterId) :
    PcStep queue event other ((enqueueSection queue goroutine wait).goroutines other) := by
  have purged := signalled_purge queue
  dsimp only [enqueueSection]
  split
  · exact set_pc_step queue _ event goroutine _ purged (.leave _ rfl) other
  · split
    · exact set_pc_step queue _ event goroutine _ (signalled_broadcast queue _ _ purged rfl) (.leave _ rfl) other
    · exact set_pc_step queue _ event goroutine _ purged (.leave _ rfl) other

theorem acquire_section_pc (queue : WaitQueue) (goroutine other : GoroutineId) (late : Bool)
    (entered : queue.goroutines goroutine = .acquiring) :
    PcStep queue (.lockQueue goroutine late) other ((acquireSection queue goroutine late).goroutines other) := by
  have purged := signalled_purge queue
  dsimp only [acquireSection]
  split
  · exact set_pc_step queue _ _ goroutine _ (signalled_broadcast queue _ _ purged rfl) (.leave _ rfl) other
  · split
    · exact set_pc_step queue _ _ goroutine _ purged (.leave _ rfl) other
    · rename_i early
      rw [Bool.eq_false_iff.mpr early]
      split
      · exact set_pc_step queue _ _ goroutine _ purged (.leave _ rfl) other
      · exact set_pc_step queue _ _ goroutine _ purged (.park rfl entered) other

theorem pc_move_step (queue : WaitQueue) (event : QueueEvent) (goroutine : GoroutineId) (target : Pc)
    (moved : PcMove queue (queue.goroutines goroutine) target)
    (called : queue.goroutines goroutine = .idle → event = .handleIncoming goroutine) : PcStep queue event goroutine target := by
  generalize entered : queue.goroutines goroutine = source at moved called
  cases moved with
  | incoming => exact .enter (called rfl)
  | _ => exact .leave _ rfl

theorem finish_move_answered (source target : Pc) (wait : WaiterId) (closeConn : Bool)
    (moved : FinishMove source wait closeConn target) : target.awaiting = false := by
  cases moved <;> rfl

theorem queue_step_pc (queue next : WaitQueue) (event : QueueEvent) (goroutine : GoroutineId)
    (stepped : queueStep queue event = some next) : PcStep queue event goroutine (next.goroutines goroutine) := by
  have unchanged : ∀ middle, middle.goroutines = queue.goroutines → Signalled queue middle :=
    fun _ same other => .inl (congrFun same other)
  cases queue_step_moved queue next event stepped with
  | issue g _ => exact set_pc_step queue _ _ g _ (unchanged _ rfl) (.leave _ rfl) goroutine
  | enqueue g late wait _ => exact enqueue_section_pc queue _ g goroutine wait
  | acquire g late entered => exact acquire_section_pc queue g goroutine late entered
  | move _ g target moved called =>
      exact set_pc_step queue _ _ g _ (unchanged _ rfl) (pc_move_step queue event g target moved called) goroutine
  | finishing _ g wait closeConn target moved =>
      exact set_pc_step queue _ _ g _ (unchanged _ rfl) (.leave _ (finish_move_answered _ target wait closeConn moved)) goroutine
  | purgeExpired g _ _ => exact set_pc_step queue _ _ g _ (signalled_purge queue) (.leave _ rfl) goroutine
  | deadlineBroadcast | closeListener => exact .woken
  | purge =>
      rcases signalled_purge queue goroutine with same | signalled
      · exact same ▸ .stay
      · exact signalled ▸ .woken
  | finish wait closeConn _ => exact .stay

theorem pc_step_acquires (queue : WaitQueue) (event : QueueEvent) (goroutine : GoroutineId) (target : Pc)
    (outside : event ≠ .handleIncoming goroutine) (moved : PcStep queue event goroutine target)
    (acquires : target.acquires = true) : (queue.goroutines goroutine).acquires = true := by
  cases moved with
  | stay => exact acquires
  | woken =>
      rw [wake_acquires] at acquires
      exact acquires
  | enter issued => exact absurd issued outside
  | park _ entered =>
      rw [entered]
      rfl
  | leave target answered => cases target <;> cases answered <;> cases acquires

theorem pc_step_awaiting (queue : WaitQueue) (event : QueueEvent) (goroutine : GoroutineId) (target : Pc)
    (outside : event ≠ .handleIncoming goroutine) (moved : PcStep queue event goroutine target)
    (awaiting : target.awaiting = true) : (queue.goroutines goroutine).awaiting = true := by
  cases moved with
  | stay => exact awaiting
  | woken =>
      rw [wake_awaiting] at awaiting
      exact awaiting
  | enter issued => exact absurd issued outside
  | park _ entered =>
      rw [entered]
      rfl
  | leave target answered => cases answered.symm.trans awaiting

theorem pc_step_parked (queue : WaitQueue) (event : QueueEvent) (goroutine : GoroutineId) (target : Pc)
    (moved : PcStep queue event goroutine target) (parked : target = .acquireParked) :
    queue.goroutines goroutine = .acquireParked ∨
      event = .lockQueue goroutine false ∧ queue.goroutines goroutine = .acquiring := by
  cases moved with
  | stay => exact .inl parked
  | woken => exact absurd parked (wake_not_parked _)
  | enter _ => cases parked
  | park issued entered => exact .inr ⟨issued, entered⟩
  | leave target answered =>
      subst parked
      cases answered

-- The one wake-up of a call comes when the deadline it checks against has been
-- computed and reached, or when the call does not need it any more.
def CallbackInTime (state : TimedQueue) : TimedEvent → Prop
  | .callback g =>
      (state.queue.goroutines g).awaiting = true →
        ∃ call deadline, state.calls g = some call ∧ call.deadline = some deadline ∧ deadline ≤ state.clock
  | _ => True

structure InTime (state : TimedQueue) : Prop where
  computed : ∀ goroutine, (state.queue.goroutines goroutine).acquires = true →
    ∃ call deadline, state.calls goroutine = some call ∧ call.deadline = some deadline
  spent : ∀ goroutine call, state.calls goroutine = some call → call.fired = true →
    (state.queue.goroutines goroutine).awaiting = true → ∃ deadline, call.deadline = some deadline ∧ deadline ≤ state.clock
  parked : ∀ goroutine call, state.queue.goroutines goroutine = .acquireParked → state.calls goroutine = some call →
    call.fired = false

theorem in_time_initial (idleTimeout : Int) (clock : Nat) : InTime (newTimedQueue idleTimeout clock) := by
  refine ⟨?_, ?_, ?_⟩
  · intro goroutine acquires
    cases acquires
  · intro goroutine call missing
    cases missing
  · intro goroutine call parked
    cases parked

theorem late_spec (state : TimedQueue) (goroutine : GoroutineId) (call : AcquireCall) (deadline : Nat)
    (made : state.calls goroutine = some call) (computed : call.deadline = some deadline) :
    state.late goroutine = decide (deadline ≤ state.clock) := by
  simp only [TimedQueue.late, made, Option.bind_some, computed]

-- Sections of the queue change neither the clock nor the calls. A caller parks
-- in the section that found its deadline ahead, so its callback is still to come.
theorem in_time_queue (state : TimedQueue) (next : WaitQueue) (event : QueueEvent) (inv : InTime state)
    (outside : ∀ goroutine, event ≠ .handleIncoming goroutine)
    (timed : ∀ goroutine late, event = .lockQueue goroutine late → late = state.late goroutine)
    (stepped : queueStep state.queue event = some next) : InTime { state with queue := next } := by
  have moved := fun goroutine => queue_step_pc state.queue next event goroutine stepped
  refine ⟨?_, ?_, ?_⟩
  · intro goroutine acquires
    exact inv.computed goroutine
      (pc_step_acquires state.queue event goroutine _ (outside goroutine) (moved goroutine) acquires)
  · intro goroutine call made fired awaiting
    exact inv.spent goroutine call made fired
      (pc_step_awaiting state.queue event goroutine _ (outside goroutine) (moved goroutine) awaiting)
  · intro goroutine call parked made
    rcases pc_step_parked state.queue event goroutine _ (moved goroutine) parked with before | ⟨issued, entered⟩
    · exact inv.parked goroutine call before made
    · obtain ⟨other, deadline, held, computed⟩ := inv.computed goroutine (by rw [entered]; rfl)
      cases held.symm.trans made
      have early : ¬ deadline ≤ state.clock :=
        of_decide_eq_false ((late_spec state goroutine call deadline made computed).symm.trans (timed goroutine false issued).symm)
      -- A callback already spent would have come at or behind the deadline.
      cases fired : call.fired with
      | false => rfl
      | true =>
          obtain ⟨reached, same, behind⟩ := inv.spent goroutine call made fired (by rw [entered]; rfl)
          cases computed.symm.trans same
          exact absurd behind early

theorem set_call_calls (state : TimedQueue) (goroutine other : GoroutineId) (call : AcquireCall) :
    (state.setCall goroutine call).calls other = if other = goroutine then some call else state.calls other := by
  simp only [TimedQueue.setCall, Function.update_apply]

theorem in_time_tick (state : TimedQueue) (elapsed : Nat) (inv : InTime state) :
    InTime { state with clock := state.clock + elapsed } := by
  refine ⟨inv.computed, ?_, inv.parked⟩
  intro goroutine call made fired awaiting
  obtain ⟨deadline, computed, reached⟩ := inv.spent goroutine call made fired awaiting
  exact ⟨deadline, computed, Nat.le_trans reached (Nat.le_add_right _ _)⟩

theorem in_time_after_func (state : TimedQueue) (goroutine : GoroutineId) (inv : InTime state)
    (idle : state.queue.goroutines goroutine = .idle) : InTime (state.setCall goroutine ⟨state.clock, none, false⟩) := by
  refine ⟨?_, ?_, ?_⟩
  · intro other acquires
    rw [set_call_calls]
    split
    · rename_i same
      have entered : (state.queue.goroutines other).acquires = true := acquires
      rw [same, idle] at entered
      cases entered
    · exact inv.computed other acquires
  · intro other call made fired awaiting
    rw [set_call_calls] at made
    split at made
    · cases made
      cases fired
    · exact inv.spent other call made fired awaiting
  · intro other call parked made
    rw [set_call_calls] at made
    split at made
    · cases made
      rfl
    · exact inv.parked other call parked made

theorem in_time_compute (state : TimedQueue) (goroutine : GoroutineId) (call : AcquireCall) (inv : InTime state)
    (made : state.calls goroutine = some call) (missing : call.deadline = none)
    (idle : state.queue.goroutines goroutine = .idle) :
    InTime ({ state with queue := state.queue.setPc goroutine .acquiring }.setCall goroutine
      { call with deadline := some (state.clock + acquireTimeout) }) := by
  have pending : call.fired = false := by
    cases fired : call.fired with
    | false => rfl
    | true =>
        obtain ⟨deadline, computed, _⟩ := inv.spent goroutine call made fired (by rw [idle]; rfl)
        cases missing.symm.trans computed
  have others : ∀ other, other ≠ goroutine →
      (state.queue.setPc goroutine .acquiring).goroutines other = state.queue.goroutines other :=
    fun other different => Function.update_of_ne different _ _
  refine ⟨?_, ?_, ?_⟩
  · intro other acquires
    rw [set_call_calls]
    split
    · exact ⟨_, _, rfl, rfl⟩
    · rename_i different
      exact inv.computed other (others other different ▸ acquires)
  · intro other held found fired awaiting
    rw [set_call_calls] at found
    split at found
    · cases found
      cases pending.symm.trans fired
    · rename_i different
      exact inv.spent other held found fired (others other different ▸ awaiting)
  · intro other held parked found
    rw [set_call_calls] at found
    split at found
    · cases found
      exact pending
    · rename_i different
      exact inv.parked other held (others other different ▸ parked) found

theorem in_time_callback (state : TimedQueue) (goroutine : GoroutineId) (call : AcquireCall) (inv : InTime state)
    (made : state.calls goroutine = some call) (inTime : CallbackInTime state (.callback goroutine)) :
    InTime ({ state with queue := state.queue.broadcast }.setCall goroutine { call with fired := true }) := by
  refine ⟨?_, ?_, ?_⟩
  · intro other acquires
    have entered : (state.queue.goroutines other).acquires = true := (wake_acquires _).symm.trans acquires
    obtain ⟨held, deadline, found, computed⟩ := inv.computed other entered
    rw [set_call_calls]
    split
    · rename_i same
      subst same
      cases found.symm.trans made
      exact ⟨_, deadline, rfl, computed⟩
    · exact ⟨held, deadline, found, computed⟩
  · intro other held found fired awaiting
    have entered : (state.queue.goroutines other).awaiting = true := (wake_awaiting _).symm.trans awaiting
    rw [set_call_calls] at found
    split at found
    · rename_i same
      subst same
      cases found
      obtain ⟨before, deadline, known, computed, reached⟩ := inTime entered
      cases known.symm.trans made
      exact ⟨deadline, computed, reached⟩
    · exact inv.spent other held found fired entered
  · intro other held parked _
    exact absurd parked (wake_not_parked _)

theorem in_time_step (state : TimedQueue) (event : TimedEvent) (next : TimedQueue) (inv : InTime state)
    (inTime : CallbackInTime state event) (stepped : timedStep state event = some next) : InTime next := by
  cases event with
  | tick elapsed =>
      cases stepped
      exact in_time_tick state elapsed inv
  | afterFunc g =>
      simp only [timedStep] at stepped
      split at stepped <;> cases stepped
      rename_i free
      exact in_time_after_func state g inv free.1
  | computeDeadline g =>
      simp only [timedStep, queueStep] at stepped
      split at stepped
      · rename_i call made
        split at stepped
        · rename_i missing
          split at stepped <;> cases stepped
          exact in_time_compute state g call inv made missing (by assumption)
        · cases stepped
      · cases stepped
  | callback g =>
      simp only [timedStep] at stepped
      split at stepped
      · rename_i call made
        split at stepped <;> cases stepped
        exact in_time_callback state g call inv made inTime
      · cases stepped
  | lock g =>
      obtain ⟨queue, moved, same⟩ := Option.map_eq_some_iff.mp stepped
      cases same
      exact in_time_queue state queue _ inv (fun _ => by simp) (fun _ _ issued => by cases issued; rfl) moved
  | other event =>
      simp only [timedStep] at stepped
      split at stepped
      · rename_i admitted
        obtain ⟨queue, moved, same⟩ := Option.map_eq_some_iff.mp stepped
        cases same
        refine in_time_queue state queue event inv ?_ ?_ moved
        · intro goroutine issued
          subst issued
          cases admitted
        · intro goroutine late issued
          subst issued
          cases admitted
      · cases stepped

theorem acquire_deadline_not_missed (idleTimeout : Int) (clock : Nat) (events : List TimedEvent) (last : TimedQueue)
    (inTime : Along timedStep CallbackInTime (newTimedQueue idleTimeout clock) events)
    (ran : run timedStep (newTimedQueue idleTimeout clock) events = some last) (goroutine : GoroutineId)
    (parked : last.queue.goroutines goroutine = .acquireParked) :
    ∃ call, last.calls goroutine = some call ∧ call.fired = false := by
  have inv := run_preserves_along timedStep CallbackInTime InTime in_time_step _ last events
    (in_time_initial idleTimeout clock) inTime ran
  obtain ⟨call, _, made, _⟩ := inv.computed goroutine (by rw [parked]; rfl)
  exact ⟨call, made, inv.parked goroutine call parked made⟩

theorem acquire_deadline_not_missed_second_caller :
    ∃ last, run timedStep (newTimedQueue 30 0) [.afterFunc 1, .computeDeadline 1, .lock 1, .tick 5, .afterFunc 0,
        .computeDeadline 0, .lock 0, .tick 9999999995, .callback 1, .lock 0, .lock 1] = some last ∧
      last.queue.goroutines 1 = .returned ∧ last.queue.goroutines 0 = .acquireParked ∧
      ∃ call, last.calls 0 = some call ∧ call.fired = false := by
  refine ⟨_, rfl, rfl, rfl, ?_⟩
  apply acquire_deadline_not_missed 30 0 [.afterFunc 1, .computeDeadline 1, .lock 1, .tick 5, .afterFunc 0,
    .computeDeadline 0, .lock 0, .tick 9999999995, .callback 1, .lock 0, .lock 1] _ _ rfl 0 rfl
  iterate 8
    refine ⟨trivial, fun next stepped => ?_⟩
    cases stepped
  refine ⟨fun _ => ⟨⟨0, some 10000000000, false⟩, 10000000000, rfl, rfl, Nat.le_refl _⟩, fun next stepped => ?_⟩
  exact ⟨trivial, fun _ _ => ⟨trivial, fun _ _ => trivial⟩⟩

-- One nanosecond between AfterFunc and time.Now is enough: the callback runs ten
-- seconds after the first, the caller finds its deadline ahead and parks again.
theorem acquire_deadline_missed :
    ∃ last, run timedStep (newTimedQueue 30 0) [.afterFunc 0, .tick 1, .computeDeadline 0, .lock 0, .tick 9999999999,
        .callback 0, .lock 0] = some last ∧
      last.queue.goroutines 0 = .acquireParked ∧ (last.calls 0).map AcquireCall.fired = some true :=
  ⟨_, rfl, rfl, rfl⟩

end WarpStream
