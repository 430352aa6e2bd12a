import WarpStream.QueueOrder

set_option autoImplicit false

namespace WarpStream

open GoSlice Transition

def TakesBack (queue : WaitQueue) : QueueEvent → Prop
  | .finishExpired g => ∃ wait, queue.goroutines g = .expired wait ∧ wait ∈ queue.handed
  | _ => False

-- The window of the defect: acquireWaitingConn takes the lock while the first
-- live waiter has already failed the isAcquired test of its own timeout.
def HandsOutExpired (queue : WaitQueue) : QueueEvent → Prop
  | .lockQueue g _ =>
      queue.goroutines g = .acquiring ∧
        ∃ wait other, (queue.waiting.toList.filter queue.live).head? = some wait ∧ queue.goroutines other = .expired wait
  | _ => False

structure TimeoutSpares (queue : WaitQueue) : Prop where
  flagged : ∀ wait ∈ queue.handed, (queue.waiters wait).acquired = true
  spared : ∀ goroutine wait, queue.goroutines goroutine = .expired wait → wait ∉ queue.handed

theorem wake_expired (pc : Pc) (wait : WaiterId) : pc.wake = .expired wait ↔ pc = .expired wait := by
  cases pc <;> simp [Pc.wake]

theorem timeout_spares_frame (queue next : WaitQueue) (spares : TimeoutSpares queue) (handed : next.handed = queue.handed)
    (flags : ∀ wait, (queue.waiters wait).acquired = true → (next.waiters wait).acquired = true)
    (expired : ∀ goroutine wait, next.goroutines goroutine = .expired wait → queue.goroutines goroutine = .expired wait) :
    TimeoutSpares next := by
  refine ⟨?_, ?_⟩
  · intro wait member
    exact flags wait (spares.flagged wait (handed ▸ member))
  · intro goroutine wait position member
    exact spares.spared goroutine wait (expired goroutine wait position) (handed ▸ member)

theorem set_pc_expired (queue : WaitQueue) (goroutine other : GoroutineId) (pc : Pc) (wait : WaiterId)
    (position : (queue.setPc goroutine pc).goroutines other = .expired wait) :
    (other = goroutine ∧ pc = .expired wait) ∨ queue.goroutines other = .expired wait := by
  simp only [WaitQueue.setPc, Function.update_apply] at position
  split at position
  · exact .inl ⟨by assumption, position⟩
  · exact .inr position

theorem set_pc_spares (queue : WaitQueue) (goroutine : GoroutineId) (pc : Pc) (spares : TimeoutSpares queue)
    (expired : ∀ wait, pc = .expired wait → wait ∉ queue.handed) : TimeoutSpares (queue.setPc goroutine pc) := by
  refine ⟨spares.flagged, ?_⟩
  intro other wait position
  rcases set_pc_expired queue goroutine other pc wait position with ⟨_, reached⟩ | earlier
  · exact expired wait reached
  · exact spares.spared other wait earlier

theorem broadcast_spares (queue : WaitQueue) (spares : TimeoutSpares queue) : TimeoutSpares queue.broadcast :=
  timeout_spares_frame queue queue.broadcast spares rfl (fun _ flag => flag)
    fun goroutine wait position => (wake_expired (queue.goroutines goroutine) wait).mp position

theorem purge_spares (queue : WaitQueue) (spares : TimeoutSpares queue) : TimeoutSpares (purgeDoneWaitersLocked queue) := by
  unfold purgeDoneWaitersLocked
  split
  · exact ⟨spares.flagged, spares.spared⟩
  · exact broadcast_spares _ ⟨spares.flagged, spares.spared⟩

theorem finish_acquired (waiter : Waiter) (closeConn : Bool) : (waiter.finish closeConn).acquired = waiter.acquired := by
  unfold Waiter.finish
  split <;> rfl

theorem finish_spares (queue : WaitQueue) (wait : WaiterId) (closeConn : Bool) (spares : TimeoutSpares queue) :
    TimeoutSpares (queue.finishWaiter wait closeConn) := by
  apply timeout_spares_frame queue (queue.finishWaiter wait closeConn) spares rfl
  · intro other flag
    simp only [WaitQueue.finishWaiter, Function.update_apply]
    split
    · rename_i same
      rw [finish_acquired, ← same]
      exact flag
    · exact flag
  · intro goroutine held position
    exact position

theorem enqueue_section_spares (queue : WaitQueue) (goroutine : GoroutineId) (wait : WaiterId)
    (spares : TimeoutSpares queue) : TimeoutSpares (enqueueSection queue goroutine wait) := by
  have purged := purge_spares queue spares
  dsimp only [enqueueSection]
  split
  · exact set_pc_spares _ _ _ purged (fun _ reached => by cases reached)
  · split
    · exact set_pc_spares _ _ _ (broadcast_spares _ ⟨purged.flagged, purged.spared⟩) (fun _ reached => by cases reached)
    · exact set_pc_spares _ _ _ purged (fun _ reached => by cases reached)

theorem acquire_section_spares (queue : WaitQueue) (goroutine : GoroutineId) (late : Bool) (spares : TimeoutSpares queue)
    (apart : ∀ wait other, (queue.waiting.toList.filter queue.live).head? = some wait →
      queue.goroutines other ≠ .expired wait) :
    TimeoutSpares (acquireSection queue goroutine late) := by
  have purged := purge_spares queue spares
  have positions : ∀ other wait, (purgeDoneWaitersLocked queue).goroutines other = .expired wait →
      queue.goroutines other = .expired wait := by
    intro other wait position
    unfold purgeDoneWaitersLocked at position
    split at position
    · exact position
    · exact (wake_expired (queue.goroutines other) wait).mp position
  dsimp only [acquireSection]
  split
  · rename_i wait front
    rw [purge_to_list] at front
    apply set_pc_spares _ _ _ _ (fun _ reached => by cases reached)
    refine ⟨?_, ?_⟩
    · intro held member
      by_cases same : held = wait
      · subst same
        simp [WaitQueue.broadcast, Waiter.markAcquired]
      · have earlier : held ∈ (purgeDoneWaitersLocked queue).handed := by
          rcases List.mem_append.mp member with before | last
          · exact before
          · exact absurd (List.mem_singleton.mp last) same
        simpa [WaitQueue.broadcast, Function.update_of_ne same] using purged.flagged held earlier
    · intro other held position member
      -- The section lengthens the history by its front, which the condition keeps
      -- apart from every expired position.
      have waited := (wake_expired _ held).mp position
      rcases List.mem_append.mp member with before | last
      · exact purged.spared other held waited before
      · exact apart wait other front (List.mem_singleton.mp last ▸ positions other held waited)
  · split
    · exact set_pc_spares _ _ _ purged (fun _ reached => by cases reached)
    · split
      · exact set_pc_spares _ _ _ purged (fun _ reached => by cases reached)
      · exact set_pc_spares _ _ _ purged (fun _ reached => by cases reached)

theorem pc_move_to_expired (queue : WaitQueue) (source : Pc) (wait : WaiterId)
    (moved : PcMove queue source (.expired wait)) : (queue.waiters wait).acquired = false := by
  cases moved
  assumption

theorem finish_move_not_expired (source : Pc) (wait held : WaiterId) (closeConn : Bool)
    (moved : FinishMove source wait closeConn (.expired held)) : False := by
  cases moved

theorem timeout_spares_step (queue : WaitQueue) (event : QueueEvent) (next : WaitQueue) (spares : TimeoutSpares queue)
    (safe : ¬ HandsOutExpired queue event) (stepped : queueStep queue event = some next) : TimeoutSpares next := by
  cases queue_step_moved queue next event stepped with
  | issue g _ => exact set_pc_spares _ g _ ⟨spares.flagged, spares.spared⟩ (fun _ reached => by cases reached)
  | enqueue g late wait _ => exact enqueue_section_spares queue g wait spares
  | acquire g late entered =>
      apply acquire_section_spares queue g late spares
      intro wait other front position
      exact safe ⟨entered, wait, other, front, position⟩
  | move _ g target moved =>
      apply set_pc_spares queue g target spares
      intro wait reached member
      subst reached
      have flag := pc_move_to_expired queue _ wait moved
      exact Bool.false_ne_true (flag.symm.trans (spares.flagged wait member))
  | finishing _ g wait closeConn target moved =>
      apply set_pc_spares _ g target (finish_spares queue wait closeConn spares)
      intro held reached
      subst reached
      exact False.elim (finish_move_not_expired _ wait held closeConn moved)
  | purgeExpired g _ _ => exact set_pc_spares _ g _ (purge_spares queue spares) (fun _ reached => by cases reached)
  | deadlineBroadcast => exact broadcast_spares queue spares
  | purge => exact purge_spares queue spares
  | closeListener => exact broadcast_spares _ ⟨spares.flagged, spares.spared⟩
  | finish wait closeConn _ => exact finish_spares queue wait closeConn spares

theorem timeout_spares_acquired (idleTimeout : Int) (events : List QueueEvent)
    (safe : Along queueStep (fun queue event => ¬ HandsOutExpired queue event) (newWaitQueue idleTimeout) events) :
    Along queueStep (fun queue event => ¬ TakesBack queue event) (newWaitQueue idleTimeout) events := by
  apply along_of_invariant queueStep _ _ TimeoutSpares timeout_spares_step _ _ events _ safe
  · intro queue event spares _ back
    cases event with
    | finishExpired g =>
        obtain ⟨wait, position, member⟩ := back
        exact spares.spared g wait position member
    | _ => exact back
  · refine ⟨?_, ?_⟩
    · intro wait member
      cases member
    · intro goroutine wait position
      cases position

def timeoutRace : List QueueEvent :=
  [.handleClient 0, .lockQueue 0 false, .timerFires 0, .checkAcquired 0, .handleIncoming 1, .lockQueue 1 false,
    .finishExpired 0]

-- The timer fires, the test finds the waiter free, handleIncoming acquires it
-- and forwards, and then the timeout closes the connection under it.
theorem timeout_takes_back_acquired :
    ¬ Along queueStep (fun queue event => ¬ TakesBack queue event) (newWaitQueue 30) timeoutRace ∧
      ∃ last, run queueStep (newWaitQueue 30) timeoutRace = some last ∧ last.quit = false ∧
        last.goroutines 1 = .forwarding 0 ∧ (last.waiters 0).closed = true := by
  refine ⟨?_, _, rfl, rfl, rfl, rfl⟩
  intro along
  obtain ⟨_, final⟩ := along_append queueStep _ (newWaitQueue 30) _ (timeoutRace.take 6) [.finishExpired 0] along rfl
  exact final.1 ⟨0, rfl, List.mem_singleton.mpr rfl⟩

def timeoutReprieve : List QueueEvent :=
  [.handleClient 0, .lockQueue 0 false, .timerFires 0, .handleIncoming 1, .lockQueue 1 false, .checkAcquired 0]

theorem timeout_spares_acquired_reprieve :
    Along queueStep (fun queue event => ¬ HandsOutExpired queue event) (newWaitQueue 30) timeoutReprieve ∧
      Along queueStep (fun queue event => ¬ TakesBack queue event) (newWaitQueue 30) timeoutReprieve ∧
      ∃ last, run queueStep (newWaitQueue 30) timeoutReprieve = some last ∧ last.goroutines 0 = .afterAcquire 0 := by
  have safe : Along queueStep (fun queue event => ¬ HandsOutExpired queue event) (newWaitQueue 30) timeoutReprieve := by
    refine ⟨fun bad => bad, fun _ first => ?_⟩
    cases first
    refine ⟨fun bad => (by cases bad.1), fun _ second => ?_⟩
    cases second
    refine ⟨fun bad => bad, fun _ third => ?_⟩
    cases third
    refine ⟨fun bad => bad, fun _ fourth => ?_⟩
    cases fourth
    refine ⟨?_, fun _ fifth => ?_⟩
    · -- Goroutine 0 stands before its test and no other one holds the waiter.
      intro handsOut
      obtain ⟨_, wait, other, _, position⟩ := handsOut
      match other with
      | 0 => cases position
      | 1 => cases position
      | _ + 2 => cases position
    · cases fifth
      exact ⟨fun bad => bad, fun _ _ => trivial⟩
  exact ⟨safe, timeout_spares_acquired 30 timeoutReprieve safe, _, rfl, rfl⟩

end WarpStream
