import WarpStream.HandlerLife

set_option autoImplicit false

namespace WarpStream

open FifoLedger Transition

def Pc.incoming : Pc → Bool
  | .acquiring | .acquireParked | .forwarding _ | .returned => true
  | _ => false

-- What a step of the queue does to one goroutine. Only an acquire starts to
-- forward, and it hands its waiter out.
inductive PcChange (queue next : WaitQueue) : Pc → Pc → Prop where
  | same (pc : Pc) : PcChange queue next pc pc
  | woken (pc : Pc) : PcChange queue next pc pc.wake
  | enter : PcChange queue next .idle .acquiring
  | acquired (wait : WaiterId) (handed : next.handed = queue.handed ++ [wait]) : PcChange queue next .acquiring (.forwarding wait)
  | parked : PcChange queue next .acquiring .acquireParked
  | gaveUp : PcChange queue next .acquiring .returned
  | finished (wait : WaiterId) : PcChange queue next (.forwarding wait) .returned
  | client (source target : Pc) (before : source.incoming = false) (after : ∀ wait, target ≠ .forwarding wait) :
      PcChange queue next source target

theorem pc_move_change (queue next : WaitQueue) (source target : Pc) (moved : PcMove queue source target) :
    PcChange queue next source target := by
  cases moved with
  | incoming => exact .enter
  | selectingDone | acquiredDone | selectingQuit | acquiredQuit | acquired | timer | reprieve | expire =>
      exact .client _ _ rfl (by simp)

theorem finish_move_change (queue next : WaitQueue) (source target : Pc) (wait : WaiterId) (closeConn : Bool)
    (moved : FinishMove source wait closeConn target) : PcChange queue next source target := by
  cases moved with
  | expired | closing => exact .client _ _ rfl (by simp)
  | forward => exact .finished wait

theorem set_pc_change (queue middle next : WaitQueue) (actor goroutine : GoroutineId) (target : Pc) (signalled : Signalled queue middle)
    (own : PcChange queue next (queue.goroutines actor) target) :
    PcChange queue next (queue.goroutines goroutine) ((middle.setPc actor target).goroutines goroutine) := by
  by_cases same : goroutine = actor
  · rw [same, set_pc_at]
    exact own
  · rcases set_pc_elsewhere queue middle actor goroutine target signalled same with still | woken
    · rw [still]
      exact .same _
    · rw [woken]
      exact .woken _

theorem queue_pc_change (queue next : WaitQueue) (event : QueueEvent) (stepped : queueStep queue event = some next)
    (goroutine : GoroutineId) : PcChange queue next (queue.goroutines goroutine) (next.goroutines goroutine) := by
  have same : Signalled queue queue := fun _ => .inl rfl
  have purged := signalled_purge queue
  cases queue_step_moved queue next event stepped with
  | issue g idle =>
      refine set_pc_change queue _ _ g goroutine _ (fun _ => .inl rfl) ?_
      rw [idle]
      exact .client _ _ rfl (by simp)
  | enqueue g late wait entered =>
      have client : ∀ next target, (∀ wait, target ≠ Pc.forwarding wait) → PcChange queue next (queue.goroutines g) target := by
        intro next target after
        rw [entered]
        exact .client _ _ rfl after
      dsimp only [enqueueSection]
      split
      · exact set_pc_change queue _ _ g goroutine _ purged (client _ _ (by simp))
      · split
        · exact set_pc_change queue _ _ g goroutine _ (signalled_broadcast queue _ _ purged rfl) (client _ _ (by simp))
        · exact set_pc_change queue _ _ g goroutine _ purged (client _ _ (by simp))
  | acquire g late entered =>
      have handed := (purge_frame queue).2.2.2.2.2.1
      dsimp only [acquireSection]
      split
      · refine set_pc_change queue _ _ g goroutine _ (signalled_broadcast queue _ _ purged rfl) ?_
        rw [entered]
        refine .acquired _ ?_
        simp only [WaitQueue.setPc, WaitQueue.broadcast, handed]
      · split
        · exact set_pc_change queue _ _ g goroutine _ purged (entered ▸ .gaveUp)
        · split
          · exact set_pc_change queue _ _ g goroutine _ purged (entered ▸ .gaveUp)
          · exact set_pc_change queue _ _ g goroutine _ purged (entered ▸ .parked)
  | move _ g target moved => exact set_pc_change queue _ _ g goroutine _ same (pc_move_change queue _ _ _ moved)
  | finishing _ g wait closeConn target moved =>
      exact set_pc_change queue _ _ g goroutine _ (fun _ => .inl rfl) (finish_move_change queue _ _ _ wait closeConn moved)
  | purgeExpired g wait entered =>
      refine set_pc_change queue _ _ g goroutine _ purged ?_
      rw [entered]
      exact .client _ _ rfl (by simp)
  | deadlineBroadcast | closeListener => exact .woken _
  | purge =>
      rcases purged goroutine with still | woken
      · rw [still]
        exact .same _
      · rw [woken]
        exact .woken _
  | finish => exact .same _

theorem change_forwarding (queue next : WaitQueue) (pc target : Pc) (wait : WaiterId) (changed : PcChange queue next pc target)
    (forwards : target = .forwarding wait) : pc = .forwarding wait ∨ pc = .acquiring ∧ next.handed = queue.handed ++ [wait] := by
  cases changed with
  | same => exact .inl forwards
  | woken => exact .inl ((wake_forwarding pc wait).mp forwards)
  | acquired held handed =>
      cases forwards
      exact .inr ⟨rfl, handed⟩
  | enter | parked | gaveUp | finished => cases forwards
  | client _ _ _ after => exact absurd forwards (after wait)

theorem change_incoming (queue next : WaitQueue) (pc target : Pc) (changed : PcChange queue next pc target)
    (before : pc.incoming = true) : target.incoming = true := by
  cases changed with
  | same => exact before
  | woken => cases pc <;> first | rfl | cases before
  | enter => cases before
  | acquired | parked | gaveUp | finished => rfl
  | client _ _ outside _ => cases outside.symm.trans before

-- A goroutine that forwards goes on until it returns, and stays there.
theorem change_served (queue next : WaitQueue) (pc target : Pc) (wait : WaiterId) (changed : PcChange queue next pc target)
    (before : pc = .forwarding wait ∨ pc = .returned) : target = .forwarding wait ∨ target = .returned := by
  rcases before with rfl | rfl
  · cases changed with
    | same | woken => exact .inl rfl
    | finished => exact .inr rfl
    | client _ _ outside _ => cases outside
  · cases changed with
    | same | woken => exact .inr rfl
    | client _ _ outside _ => cases outside

theorem queue_step_handed (queue next : WaitQueue) (event : QueueEvent) (stepped : queueStep queue event = some next)
    (wait : WaiterId) (member : wait ∈ queue.handed) : wait ∈ next.handed := by
  have purged : wait ∈ (purgeDoneWaitersLocked queue).handed := by
    rw [(purge_frame queue).2.2.2.2.2.1]
    exact member
  cases queue_step_moved queue next event stepped with
  | issue | move | finishing | deadlineBroadcast | closeListener | finish => exact member
  | enqueue g late entered =>
      dsimp only [enqueueSection]
      split
      · exact purged
      · split <;> exact purged
  | acquire g late =>
      dsimp only [acquireSection]
      split
      · exact List.mem_append_left _ purged
      · split
        · exact purged
        · split <;> exact purged
  | purgeExpired | purge => exact purged

-- No two goroutines forward to one client connection, and none to one that was
-- handed out before.
structure Forwards (queue : WaitQueue) : Prop where
  handed : ∀ goroutine wait, queue.goroutines goroutine = .forwarding wait → wait ∈ queue.handed
  single : ∀ first second wait, queue.goroutines first = .forwarding wait → queue.goroutines second = .forwarding wait → first = second

theorem forwarding_new (queue next : WaitQueue) (event : QueueEvent) (sound : QueueSound 10 queue)
    (stepped : queueStep queue event = some next) (goroutine : GoroutineId) (wait : WaiterId)
    (forwards : next.goroutines goroutine = .forwarding wait) :
    queue.goroutines goroutine = .forwarding wait ∨ wait ∉ queue.handed ∧ wait ∈ next.handed := by
  have changed := queue_pc_change queue next event stepped goroutine
  rcases change_forwarding queue next _ _ wait changed forwards with old | ⟨_, handed⟩
  · exact .inl old
  · have once : (queue.handed ++ [wait]).Nodup := handed ▸ (sound_nodup 10 _ (queue_sound_step 10 queue event next sound stepped).ledger).2
    refine .inr ⟨fun before => ?_, ?_⟩
    · exact (List.disjoint_of_nodup_append once) before (.head _)
    · rw [handed]
      exact List.mem_append_right _ (.head _)

theorem forwards_step (queue next : WaitQueue) (event : QueueEvent) (sound : QueueSound 10 queue) (forwards : Forwards queue)
    (stepped : queueStep queue event = some next) : Forwards next := by
  have fresh := forwarding_new queue next event sound stepped
  refine ⟨fun goroutine wait held => ?_, fun first second wait one two => ?_⟩
  · rcases fresh goroutine wait held with old | ⟨_, handed⟩
    · exact queue_step_handed queue next event stepped wait (forwards.handed goroutine wait old)
    · exact handed
  · rcases fresh first wait one with oldFirst | ⟨unhanded, _⟩
    · rcases fresh second wait two with oldSecond | ⟨unhanded, _⟩
      · exact forwards.single first second wait oldFirst oldSecond
      · exact absurd (forwards.handed first wait oldFirst) unhanded
    · obtain ⟨actor, elsewhere⟩ := queue_step_actor queue next event stepped
      -- Whoever is not the actor forwarded before the step.
      have own : ∀ goroutine, next.goroutines goroutine = .forwarding wait → goroutine = actor := by
        intro goroutine held
        by_contra other
        have before : queue.goroutines goroutine = .forwarding wait := by
          rcases elsewhere goroutine other with same | woken
          · exact same ▸ held
          · exact (wake_forwarding _ wait).mp (woken ▸ held)
        exact unhanded (forwards.handed goroutine wait before)
      exact (own first one).trans (own second two).symm

theorem forwards_initial (idleTimeout : Int) : Forwards (newWaitQueue idleTimeout) :=
  ⟨by rintro _ _ ⟨⟩, by rintro _ _ _ ⟨⟩⟩

end WarpStream
