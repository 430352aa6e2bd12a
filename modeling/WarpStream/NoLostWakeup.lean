import WarpStream.QueueOrder

set_option autoImplicit false

namespace WarpStream

open GoSlice Transition

-- What has to hold while a goroutine is parked and has not been signalled.
def WaitQueue.MayPark (queue : WaitQueue) : Pc → Prop
  | .enqueueParked _ => queue.waitCap ≤ queue.waiting.toList.length ∧ queue.quit = false
  | .acquireParked => queue.waiting.toList = [] ∧ queue.quit = false
  | _ => True

def NoLostWakeup (queue : WaitQueue) : Prop := ∀ goroutine, queue.MayPark (queue.goroutines goroutine)

theorem may_park_woken (queue : WaitQueue) (pc : Pc) : queue.MayPark pc.wake := by
  cases pc <;> trivial

theorem may_park_frame (queue next : WaitQueue) (pc : Pc) (waiting : next.waiting.toList = queue.waiting.toList)
    (cap : next.waitCap = queue.waitCap) (quit : next.quit = queue.quit) : next.MayPark pc ↔ queue.MayPark pc := by
  cases pc <;> simp only [WaitQueue.MayPark, waiting, cap, quit]

-- A broadcast leaves nobody parked, so it makes up for any change to the queue.
theorem broadcast_no_lost_wakeup (queue : WaitQueue) : NoLostWakeup queue.broadcast := by
  intro goroutine
  exact may_park_woken queue.broadcast (queue.goroutines goroutine)

theorem set_pc_no_lost_wakeup (queue : WaitQueue) (goroutine : GoroutineId) (pc : Pc) (awake : NoLostWakeup queue)
    (may : queue.MayPark pc) : NoLostWakeup (queue.setPc goroutine pc) := by
  intro other
  rw [may_park_frame queue (queue.setPc goroutine pc) _ rfl rfl rfl]
  simp only [WaitQueue.setPc, Function.update_apply]
  split
  · exact may
  · exact awake other

theorem purge_no_lost_wakeup (queue : WaitQueue) (awake : NoLostWakeup queue) :
    NoLostWakeup (purgeDoneWaitersLocked queue) := by
  have kept := purge_to_list queue
  unfold purgeDoneWaitersLocked at kept ⊢
  split
  · -- Nothing was removed: the queue is what the parked goroutines saw.
    rename_i allLive
    rw [if_pos allLive, List.filter_eq_self.mpr (List.all_eq_true.mp allLive)] at kept
    intro goroutine
    exact (may_park_frame queue _ _ kept rfl rfl).mpr (awake goroutine)
  · exact broadcast_no_lost_wakeup _

theorem enqueue_section_no_lost_wakeup (queue : WaitQueue) (goroutine : GoroutineId) (wait : WaiterId)
    (awake : NoLostWakeup queue) : NoLostWakeup (enqueueSection queue goroutine wait) := by
  have purged := purge_no_lost_wakeup queue awake
  dsimp only [enqueueSection]
  split
  · exact set_pc_no_lost_wakeup _ goroutine _ purged trivial
  · rename_i opened
    split
    · exact set_pc_no_lost_wakeup _ goroutine _ (broadcast_no_lost_wakeup _) trivial
    · rename_i full
      have entries := Nat.le_of_not_lt full
      rw [← length_to_list] at entries
      exact set_pc_no_lost_wakeup _ goroutine _ purged ⟨entries, Bool.eq_false_iff.mpr opened⟩

theorem acquire_section_no_lost_wakeup (queue : WaitQueue) (goroutine : GoroutineId) (late : Bool)
    (awake : NoLostWakeup queue) : NoLostWakeup (acquireSection queue goroutine late) := by
  have purged := purge_no_lost_wakeup queue awake
  dsimp only [acquireSection]
  split
  · apply set_pc_no_lost_wakeup
    · intro other
      exact may_park_woken _ ((purgeDoneWaitersLocked queue).goroutines other)
    · trivial
  · rename_i drained
    split
    · exact set_pc_no_lost_wakeup _ goroutine _ purged trivial
    · split
      · exact set_pc_no_lost_wakeup _ goroutine _ purged trivial
      · rename_i opened
        exact set_pc_no_lost_wakeup _ goroutine _ purged ⟨List.head?_eq_none_iff.mp drained, Bool.eq_false_iff.mpr opened⟩

theorem pc_move_may_park (queue : WaitQueue) (source target : Pc) (moved : PcMove queue source target) :
    queue.MayPark target := by
  cases moved <;> trivial

theorem finish_move_may_park (queue : WaitQueue) (source target : Pc) (wait : WaiterId) (closeConn : Bool)
    (moved : FinishMove source wait closeConn target) : queue.MayPark target := by
  cases moved <;> trivial

theorem no_lost_wakeup_step (queue : WaitQueue) (event : QueueEvent) (next : WaitQueue) (awake : NoLostWakeup queue)
    (stepped : queueStep queue event = some next) : NoLostWakeup next := by
  cases queue_step_moved queue next event stepped with
  | issue g _ =>
      exact set_pc_no_lost_wakeup { queue with nextWaiter := queue.nextWaiter + 1 } g _
        (fun other => (may_park_frame queue _ _ rfl rfl rfl).mpr (awake other)) trivial
  | enqueue g late wait _ => exact enqueue_section_no_lost_wakeup queue g wait awake
  | acquire g late _ => exact acquire_section_no_lost_wakeup queue g late awake
  | move _ g target moved =>
      exact set_pc_no_lost_wakeup queue g target awake (pc_move_may_park queue _ target moved)
  | finishing _ g wait closeConn target moved =>
      have finished : NoLostWakeup (queue.finishWaiter wait closeConn) :=
        fun other => (may_park_frame queue _ _ rfl rfl rfl).mpr (awake other)
      exact set_pc_no_lost_wakeup _ g target finished (finish_move_may_park _ _ target wait closeConn moved)
  | purgeExpired g _ _ => exact set_pc_no_lost_wakeup _ g .returned (purge_no_lost_wakeup queue awake) trivial
  | deadlineBroadcast => exact broadcast_no_lost_wakeup queue
  | purge => exact purge_no_lost_wakeup queue awake
  | closeListener => exact broadcast_no_lost_wakeup { queue with quit := true }
  | finish wait closeConn _ => exact fun other => (may_park_frame queue _ _ rfl rfl rfl).mpr (awake other)

theorem no_lost_wakeup_run (idleTimeout : Int) (events : List QueueEvent) (last : WaitQueue)
    (ran : run queueStep (newWaitQueue idleTimeout) events = some last) : NoLostWakeup last := by
  have initial : NoLostWakeup (newWaitQueue idleTimeout) := fun _ => trivial
  exact run_preserves queueStep NoLostWakeup no_lost_wakeup_step _ last events initial ran

theorem parked_goroutine_not_stranded (idleTimeout : Int) (events : List QueueEvent) (last : WaitQueue)
    (ran : run queueStep (newWaitQueue idleTimeout) events = some last) :
    (∀ goroutine wait, last.goroutines goroutine = .enqueueParked wait →
      last.waiting.toList.length = last.waitCap ∧ last.quit = false) ∧
    (∀ goroutine, last.goroutines goroutine = .acquireParked → last.waiting.toList = [] ∧ last.quit = false) := by
  have awake := no_lost_wakeup_run idleTimeout events last ran
  have sound := queue_sound_run idleTimeout events last ran
  refine ⟨?_, ?_⟩
  · intro goroutine wait parked
    have may := awake goroutine
    rw [parked] at may
    have bounded : last.waiting.toList.length ≤ last.waitCap := sound.cap ▸ sound.ledger.bounded
    exact ⟨Nat.le_antisymm bounded may.1, may.2⟩
  · intro goroutine parked
    have may := awake goroutine
    rw [parked] at may
    exact may

theorem parked_goroutine_not_stranded_incoming :
    ∃ last, run queueStep (newWaitQueue 30) [.handleClient 0, .lockQueue 0 false, .handleIncoming 1, .lockQueue 1 false,
        .handleIncoming 2, .lockQueue 2 false] = some last ∧
      last.goroutines 2 = .acquireParked ∧
      ((∀ goroutine wait, last.goroutines goroutine = .enqueueParked wait →
        last.waiting.toList.length = last.waitCap ∧ last.quit = false) ∧
      (∀ goroutine, last.goroutines goroutine = .acquireParked → last.waiting.toList = [] ∧ last.quit = false)) := by
  refine ⟨_, rfl, rfl, ?_⟩
  exact parked_goroutine_not_stranded 30 [.handleClient 0, .lockQueue 0 false, .handleIncoming 1, .lockQueue 1 false,
    .handleIncoming 2, .lockQueue 2 false] _ rfl

end WarpStream
