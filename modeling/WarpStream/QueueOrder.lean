import WarpStream.WaitQueue
import WarpStream.FifoLedger

set_option autoImplicit false

namespace WarpStream

open GoSlice Transition FifoLedger

def WaitQueue.ledger (queue : WaitQueue) : Ledger WaiterId where
  queue := queue.waiting.toList
  appended := queue.appended
  handed := queue.handed
  finished := fun wait => (queue.waiters wait).done = true

def Pc.pendingEnqueue : Pc → Option WaiterId
  | .enqueueing wait => some wait
  | .enqueueParked wait => some wait
  | _ => none

def WaitQueue.pending (queue : WaitQueue) (goroutine : GoroutineId) : Option WaiterId :=
  (queue.goroutines goroutine).pendingEnqueue

-- Each waiter is enqueued by the one HandleClient call that made it: until its
-- append only that call holds it, and afterwards none does.
structure EnqueueOnce (queue : WaitQueue) : Prop where
  fresh : ∀ goroutine wait, queue.pending goroutine = some wait → wait < queue.nextWaiter ∧ wait ∉ queue.appended
  distinct : ∀ first second wait, queue.pending first = some wait → queue.pending second = some wait → first = second
  known : ∀ wait ∈ queue.appended, wait < queue.nextWaiter

@[simp] theorem wake_pending (pc : Pc) : pc.wake.pendingEnqueue = pc.pendingEnqueue := by
  cases pc <;> rfl

@[simp] theorem broadcast_pending (queue : WaitQueue) : queue.broadcast.pending = queue.pending := by
  funext goroutine
  exact wake_pending (queue.goroutines goroutine)

theorem set_pc_pending (queue : WaitQueue) (goroutine other : GoroutineId) (pc : Pc) :
    (queue.setPc goroutine pc).pending other = if other = goroutine then pc.pendingEnqueue else queue.pending other := by
  simp only [WaitQueue.pending, WaitQueue.setPc, Function.update_apply]
  split <;> rfl

theorem purge_to_list (queue : WaitQueue) :
    (purgeDoneWaitersLocked queue).waiting.toList = queue.waiting.toList.filter queue.live := by
  have kept := (reset_to_list (queue.waiting.compact queue.live)).trans (compact_to_list queue.waiting queue.live)
  unfold purgeDoneWaitersLocked
  split <;> exact kept

theorem purge_frame (queue : WaitQueue) :
    (purgeDoneWaitersLocked queue).waitCap = queue.waitCap ∧ (purgeDoneWaitersLocked queue).quit = queue.quit ∧
      (purgeDoneWaitersLocked queue).waiters = queue.waiters ∧
      (purgeDoneWaitersLocked queue).nextWaiter = queue.nextWaiter ∧
      (purgeDoneWaitersLocked queue).appended = queue.appended ∧
      (purgeDoneWaitersLocked queue).handed = queue.handed ∧
      (purgeDoneWaitersLocked queue).pending = queue.pending := by
  unfold purgeDoneWaitersLocked
  split
  · exact ⟨rfl, rfl, rfl, rfl, rfl, rfl, rfl⟩
  · exact ⟨rfl, rfl, rfl, rfl, rfl, rfl, broadcast_pending _⟩

theorem purge_settles (queue : WaitQueue) (capacity : Nat) :
    Step capacity queue.ledger (purgeDoneWaitersLocked queue).ledger := by
  obtain ⟨_, _, waiters, _, appended, handed, _⟩ := purge_frame queue
  have shrunk : Step capacity queue.ledger _ := Step.settle queue.ledger (queue.waiting.toList.filter queue.live)
    queue.ledger.finished List.filter_sublist ?_ (fun _ done => done)
  · simpa only [WaitQueue.ledger, purge_to_list, waiters, appended, handed] using shrunk
  · intro member waiting
    by_cases done : (queue.waiters member).done
    · exact .inr done
    · exact .inl (List.mem_filter.mpr ⟨waiting, by simp [WaitQueue.live, done]⟩)

theorem finish_done (waiter : Waiter) (closeConn : Bool) : (waiter.finish closeConn).done = true := by
  unfold Waiter.finish
  split
  · assumption
  · rfl

theorem finish_settles (queue : WaitQueue) (wait : WaiterId) (closeConn : Bool) (capacity : Nat) :
    Step capacity queue.ledger (queue.finishWaiter wait closeConn).ledger := by
  refine Step.settle queue.ledger queue.waiting.toList _ (List.Sublist.refl _) (fun _ waiting => .inl waiting) ?_
  intro member done
  simp only [WaitQueue.finishWaiter, Function.update_apply]
  split
  · exact finish_done _ closeConn
  · exact done

theorem enqueue_once_shrinks (queue next : WaitQueue) (once : EnqueueOnce queue)
    (issued : next.nextWaiter = queue.nextWaiter) (appended : next.appended = queue.appended)
    (pending : ∀ goroutine wait, next.pending goroutine = some wait → queue.pending goroutine = some wait) :
    EnqueueOnce next := by
  refine ⟨?_, ?_, ?_⟩
  · intro goroutine wait holds
    rw [issued, appended]
    exact once.fresh goroutine wait (pending goroutine wait holds)
  · intro first second wait left right
    exact once.distinct first second wait (pending first wait left) (pending second wait right)
  · rw [issued, appended]
    exact once.known

theorem set_pc_once (queue : WaitQueue) (goroutine : GoroutineId) (pc : Pc) (once : EnqueueOnce queue)
    (keeps : ∀ wait, pc.pendingEnqueue = some wait → queue.pending goroutine = some wait) :
    EnqueueOnce (queue.setPc goroutine pc) := by
  apply enqueue_once_shrinks queue (queue.setPc goroutine pc) once rfl rfl
  intro other wait holds
  rw [set_pc_pending] at holds
  split at holds
  · rename_i same
    exact same ▸ keeps wait holds
  · exact holds

theorem purge_once (queue : WaitQueue) (once : EnqueueOnce queue) : EnqueueOnce (purgeDoneWaitersLocked queue) := by
  obtain ⟨_, _, _, issued, appended, _, pending⟩ := purge_frame queue
  exact enqueue_once_shrinks queue _ once issued appended fun goroutine wait holds => pending ▸ holds

theorem handle_client_once (queue : WaitQueue) (goroutine : GoroutineId) (once : EnqueueOnce queue) :
    EnqueueOnce ({ queue with nextWaiter := queue.nextWaiter + 1 }.setPc goroutine (.enqueueing queue.nextWaiter)) := by
  refine ⟨?_, ?_, fun wait member => Nat.lt_succ_of_lt (once.known wait member)⟩
  · intro other wait holds
    rw [set_pc_pending] at holds
    split at holds
    · cases holds
      exact ⟨Nat.lt_succ_self _, fun member => Nat.lt_irrefl _ (once.known _ member)⟩
    · exact ⟨Nat.lt_succ_of_lt (once.fresh other wait holds).1, (once.fresh other wait holds).2⟩
  · intro first second wait left right
    rw [set_pc_pending] at left right
    split at left <;> split at right
    · rename_i one two
      rw [one, two]
    · cases left
      exact absurd (once.fresh second _ right).1 (Nat.lt_irrefl _)
    · cases right
      exact absurd (once.fresh first _ left).1 (Nat.lt_irrefl _)
    · exact once.distinct first second wait left right

theorem append_once (queue : WaitQueue) (goroutine : GoroutineId) (wait : WaiterId) (pc : Pc) (waiting : GoSlice.Slice WaiterId)
    (once : EnqueueOnce queue) (holds : queue.pending goroutine = some wait) (released : pc.pendingEnqueue = none) :
    EnqueueOnce ({ queue with waiting := waiting, appended := queue.appended ++ [wait] }.broadcast.setPc goroutine pc) := by
  -- Behind the append every goroutine but the appending one holds what it held.
  have others : ∀ other held, ({ queue with waiting := waiting, appended := queue.appended ++ [wait] }.broadcast.setPc
      goroutine pc).pending other = some held → other ≠ goroutine ∧ queue.pending other = some held := by
    intro other held pending
    rw [set_pc_pending] at pending
    split at pending
    · cases released.symm.trans pending
    · rw [broadcast_pending] at pending
      exact ⟨by assumption, pending⟩
  refine ⟨?_, ?_, ?_⟩
  · intro other held pending
    obtain ⟨different, earlier⟩ := others other held pending
    obtain ⟨bound, absent⟩ := once.fresh other held earlier
    refine ⟨bound, fun member => ?_⟩
    rcases List.mem_append.mp member with before | last
    · exact absent before
    · have same := List.mem_singleton.mp last
      exact different (once.distinct other goroutine held earlier (same ▸ holds))
  · intro first second held left right
    exact once.distinct first second held (others first held left).2 (others second held right).2
  · intro held member
    rcases List.mem_append.mp member with before | last
    · exact once.known held before
    · exact List.mem_singleton.mp last ▸ (once.fresh goroutine wait holds).1

theorem enqueue_section_refines (queue : WaitQueue) (goroutine : GoroutineId) (wait : WaiterId)
    (entered : queue.goroutines goroutine = .enqueueing wait) (once : EnqueueOnce queue) :
    Steps queue.waitCap queue.ledger (enqueueSection queue goroutine wait).ledger ∧
      EnqueueOnce (enqueueSection queue goroutine wait) ∧ (enqueueSection queue goroutine wait).waitCap = queue.waitCap := by
  have purged := purge_settles queue queue.waitCap
  have purgedOnce := purge_once queue once
  obtain ⟨cap, _, _, issued, appended, _, pending⟩ := purge_frame queue
  have holds : queue.pending goroutine = some wait := by simp only [WaitQueue.pending, entered, Pc.pendingEnqueue]
  have purgedHolds : (purgeDoneWaitersLocked queue).pending goroutine = some wait := pending ▸ holds
  dsimp only [enqueueSection]
  split
  · exact ⟨.single purged, set_pc_once _ _ _ purgedOnce (fun _ none => by cases none), cap⟩
  · split
    · rename_i room
      have fresh := (purgedOnce.fresh goroutine wait purgedHolds).2
      refine ⟨.tail (.single purged) ?_, append_once _ goroutine wait _ _ purgedOnce purgedHolds rfl, cap⟩
      have grown : Step queue.waitCap (purgeDoneWaitersLocked queue).ledger _ := Step.append _ wait fresh
        (by rw [cap] at room; simpa [WaitQueue.ledger] using room)
      simpa [WaitQueue.ledger, WaitQueue.setPc, WaitQueue.broadcast] using grown
    · exact ⟨.single purged, set_pc_once _ _ _ purgedOnce (fun held same => by cases same; exact purgedHolds), cap⟩

theorem mark_acquired_done (queue : WaitQueue) (wait held : WaiterId) :
    (Function.update queue.waiters wait (queue.waiters wait).markAcquired held).done = (queue.waiters held).done := by
  by_cases hit : held = wait
  · subst hit
    rw [Function.update_self]
    rfl
  · rw [Function.update_of_ne hit]

theorem acquire_section_refines (queue : WaitQueue) (goroutine : GoroutineId) (late : Bool) (once : EnqueueOnce queue) :
    Steps queue.waitCap queue.ledger (acquireSection queue goroutine late).ledger ∧
      EnqueueOnce (acquireSection queue goroutine late) ∧ (acquireSection queue goroutine late).waitCap = queue.waitCap := by
  have purged := purge_settles queue queue.waitCap
  have purgedOnce := purge_once queue once
  have cap := (purge_frame queue).1
  dsimp only [acquireSection]
  split
  · rename_i wait front
    obtain ⟨rest, split⟩ : ∃ rest, (purgeDoneWaitersLocked queue).waiting.toList = wait :: rest :=
      List.head?_eq_some_iff.mp front
    have popped : (if (purgeDoneWaitersLocked queue).waiting.tail.length = 0 then empty
        else (purgeDoneWaitersLocked queue).waiting.tail).toList = rest := by
      rw [reset_to_list, tail_to_list, split, List.tail_cons]
    have handed : Step queue.waitCap (purgeDoneWaitersLocked queue).ledger _ := Step.hand _ wait rest split
    refine ⟨.tail (.single purged) ?_, ?_, cap⟩
    · simpa only [WaitQueue.ledger, WaitQueue.setPc, WaitQueue.broadcast, popped, mark_acquired_done] using handed
    · apply set_pc_once _ _ _ _ (fun _ none => by cases none)
      exact enqueue_once_shrinks _ _ purgedOnce rfl rfl fun other held holds => by
        have woken := broadcast_pending { purgeDoneWaitersLocked queue with
          waiting := if (purgeDoneWaitersLocked queue).waiting.tail.length = 0 then empty
            else (purgeDoneWaitersLocked queue).waiting.tail,
          handed := (purgeDoneWaitersLocked queue).handed ++ [wait] }
        exact (congrFun woken other).symm.trans holds
  · split
    · exact ⟨.single purged, set_pc_once _ _ _ purgedOnce (fun _ none => by cases none), cap⟩
    · split
      · exact ⟨.single purged, set_pc_once _ _ _ purgedOnce (fun _ none => by cases none), cap⟩
      · exact ⟨.single purged, set_pc_once _ _ _ purgedOnce (fun _ none => by cases none), cap⟩

theorem pc_move_not_pending (queue : WaitQueue) (source target : Pc) (moved : PcMove queue source target) :
    target.pendingEnqueue = none := by
  cases moved <;> rfl

theorem finish_move_not_pending (source target : Pc) (wait : WaiterId) (closeConn : Bool)
    (moved : FinishMove source wait closeConn target) : target.pendingEnqueue = none := by
  cases moved <;> rfl

theorem set_pc_once_quiet (queue : WaitQueue) (goroutine : GoroutineId) (pc : Pc) (once : EnqueueOnce queue)
    (quiet : pc.pendingEnqueue = none) : EnqueueOnce (queue.setPc goroutine pc) :=
  set_pc_once queue goroutine pc once fun _ some => by rw [quiet] at some; cases some

theorem broadcast_once (queue : WaitQueue) (once : EnqueueOnce queue) : EnqueueOnce queue.broadcast :=
  enqueue_once_shrinks queue queue.broadcast once rfl rfl fun _ _ holds => broadcast_pending queue ▸ holds

theorem queue_step_refines (queue next : WaitQueue) (event : QueueEvent) (once : EnqueueOnce queue)
    (stepped : queueStep queue event = some next) :
    Steps queue.waitCap queue.ledger next.ledger ∧ EnqueueOnce next ∧ next.waitCap = queue.waitCap := by
  cases queue_step_moved queue next event stepped with
  | issue g _ => exact ⟨.refl, handle_client_once queue g once, rfl⟩
  | enqueue g late wait entered => exact enqueue_section_refines queue g wait entered once
  | acquire g late _ => exact acquire_section_refines queue g late once
  | move _ g target moved =>
      exact ⟨.refl, set_pc_once_quiet queue g target once (pc_move_not_pending queue _ target moved), rfl⟩
  | finishing _ g wait closeConn target moved =>
      refine ⟨.single (finish_settles queue wait closeConn queue.waitCap), ?_, rfl⟩
      exact set_pc_once_quiet (queue.finishWaiter wait closeConn) g target ⟨once.fresh, once.distinct, once.known⟩
        (finish_move_not_pending _ target wait closeConn moved)
  | purgeExpired g _ _ =>
      exact ⟨.single (purge_settles queue queue.waitCap), set_pc_once_quiet _ g .returned (purge_once queue once) rfl,
        (purge_frame queue).1⟩
  | deadlineBroadcast => exact ⟨.refl, broadcast_once queue once, rfl⟩
  | purge => exact ⟨.single (purge_settles queue queue.waitCap), purge_once queue once, (purge_frame queue).1⟩
  | closeListener => exact ⟨.refl, broadcast_once { queue with quit := true } ⟨once.fresh, once.distinct, once.known⟩, rfl⟩
  | finish wait closeConn _ =>
      exact ⟨.single (finish_settles queue wait closeConn queue.waitCap), ⟨once.fresh, once.distinct, once.known⟩, rfl⟩

structure QueueSound (capacity : Nat) (queue : WaitQueue) : Prop where
  ledger : Sound capacity queue.ledger
  once : EnqueueOnce queue
  cap : queue.waitCap = capacity

theorem queue_sound_initial (idleTimeout : Int) : QueueSound 10 (newWaitQueue idleTimeout) := by
  refine ⟨⟨Nat.zero_le _, List.Sublist.refl _, List.nodup_nil, ?_⟩, ⟨?_, ?_, ?_⟩, rfl⟩
  · intro wait present
    cases present
  · intro goroutine wait holds
    cases holds
  · intro first second wait holds
    cases holds
  · intro wait present
    cases present

theorem queue_sound_step (capacity : Nat) (queue : WaitQueue) (event : QueueEvent) (next : WaitQueue)
    (sound : QueueSound capacity queue) (stepped : queueStep queue event = some next) : QueueSound capacity next := by
  obtain ⟨steps, once, cap⟩ := queue_step_refines queue next event sound.once stepped
  rw [sound.cap] at steps cap
  exact ⟨steps_sound capacity queue.ledger next.ledger steps sound.ledger, once, cap⟩

theorem queue_sound_run (idleTimeout : Int) (events : List QueueEvent) (last : WaitQueue)
    (ran : run queueStep (newWaitQueue idleTimeout) events = some last) : QueueSound 10 last :=
  run_preserves queueStep (QueueSound 10) (queue_sound_step 10) _ last events (queue_sound_initial idleTimeout) ran

theorem waiting_queue_correct (idleTimeout : Int) (events : List QueueEvent) (last : WaitQueue)
    (ran : run queueStep (newWaitQueue idleTimeout) events = some last) :
    last.waitCap = 10 ∧ last.waiting.toList.length ≤ last.waitCap ∧ last.waiting.toList.Nodup ∧ last.handed.Nodup ∧
      last.handed.Sublist last.appended ∧ last.appended.Nodup ∧
      ∀ wait ∈ last.appended, wait ∈ last.waiting.toList ∨ wait ∈ last.handed ∨ (last.waiters wait).done = true := by
  have sound := queue_sound_run idleTimeout events last ran
  obtain ⟨waitingOnce, handedOnce⟩ := sound_nodup 10 last.ledger sound.ledger
  exact ⟨sound.cap, sound.cap ▸ sound.ledger.bounded, waitingOnce, handedOnce, sound_handed_order 10 last.ledger sound.ledger,
    sound.ledger.once, sound.ledger.accounted⟩

theorem waiting_queue_correct_skips_finished :
    ∃ last, run queueStep (newWaitQueue 30) [.handleClient 0, .lockQueue 0 false, .handleClient 1, .lockQueue 1 false,
        .finish 0 true, .handleIncoming 2, .lockQueue 2 false] = some last ∧
      last.handed = [1] ∧ last.appended = [0, 1] ∧ last.waiting.toList = [] ∧
      (last.waitCap = 10 ∧ last.waiting.toList.length ≤ last.waitCap ∧ last.waiting.toList.Nodup ∧ last.handed.Nodup ∧
        last.handed.Sublist last.appended ∧ last.appended.Nodup ∧
        ∀ wait ∈ last.appended, wait ∈ last.waiting.toList ∨ wait ∈ last.handed ∨ (last.waiters wait).done = true) := by
  refine ⟨_, rfl, rfl, rfl, rfl, ?_⟩
  exact waiting_queue_correct 30 [.handleClient 0, .lockQueue 0 false, .handleClient 1, .lockQueue 1 false,
    .finish 0 true, .handleIncoming 2, .lockQueue 2 false] _ rfl

end WarpStream
