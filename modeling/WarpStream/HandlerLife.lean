import Mathlib.Data.List.Dedup
import WarpStream.AcquireDeadline
import WarpStream.NoLostWakeup

set_option autoImplicit false

namespace WarpStream

open GoSlice Transition

-- The connection whose HandleClient call has not returned.
def Pc.handles : Pc → Option WaiterId
  | .enqueueing wait | .enqueueParked wait | .selecting wait | .timedOut wait | .expired wait | .purging wait
  | .afterAcquire wait | .closing wait => some wait
  | _ => none

@[simp] theorem wake_handles (pc : Pc) : pc.wake.handles = pc.handles := by
  cases pc <;> rfl

theorem wake_purging (pc : Pc) (wait : WaiterId) : pc.wake = .purging wait ↔ pc = .purging wait := by
  cases pc <;> simp [Pc.wake]

theorem wake_forwarding (pc : Pc) (wait : WaiterId) : pc.wake = .forwarding wait ↔ pc = .forwarding wait := by
  cases pc <;> simp [Pc.wake]

structure Handled (queue : WaitQueue) : Prop where
  issued : ∀ goroutine wait, (queue.goroutines goroutine).handles = some wait → wait < queue.nextWaiter
  single : ∀ first second wait, (queue.goroutines first).handles = some wait → (queue.goroutines second).handles = some wait →
    first = second
  attended : ∀ wait, wait < queue.nextWaiter →
    (∃ goroutine, (queue.goroutines goroutine).handles = some wait) ∨ (queue.waiters wait).done = true
  purged : ∀ goroutine wait, queue.goroutines goroutine = .purging wait → (queue.waiters wait).done = true

-- A finished connection was closed, unless it had been handed out.
structure Settled (queue : WaitQueue) : Prop where
  forwarded : ∀ goroutine wait, queue.goroutines goroutine = .forwarding wait → wait ∈ queue.handed
  settled : ∀ wait, (queue.waiters wait).done = true → (queue.waiters wait).closed = true ∨ wait ∈ queue.handed

section

variable (queue next : WaitQueue)

theorem handled_signalled (handled : Handled queue) (signalled : Signalled queue next) (same : next.nextWaiter = queue.nextWaiter)
    (done : ∀ wait, (queue.waiters wait).done = true → (next.waiters wait).done = true) : Handled next := by
  have handles : ∀ goroutine, (next.goroutines goroutine).handles = (queue.goroutines goroutine).handles := by
    intro goroutine
    rcases signalled goroutine with kept | woken
    · rw [kept]
    · rw [woken, wake_handles]
  refine ⟨?_, ?_, ?_, ?_⟩
  · intro goroutine wait handling
    rw [same]
    exact handled.issued goroutine wait (handles goroutine ▸ handling)
  · intro first second wait one two
    exact handled.single first second wait (handles first ▸ one) (handles second ▸ two)
  · intro wait issued
    rcases handled.attended wait (same ▸ issued) with ⟨goroutine, handling⟩ | finished
    · exact .inl ⟨goroutine, (handles goroutine).trans handling⟩
    · exact .inr (done wait finished)
  · intro goroutine wait purging
    refine done wait (handled.purged goroutine wait ?_)
    rcases signalled goroutine with kept | woken
    · exact kept ▸ purging
    · exact (wake_purging _ wait).mp (woken ▸ purging)

-- A goroutine moves on with its connection, or leaves it finished.
theorem handled_set_pc (handled : Handled queue) (goroutine : GoroutineId) (target : Pc)
    (keeps : ∀ wait, target.handles = some wait → (queue.goroutines goroutine).handles = some wait)
    (leaves : ∀ wait, (queue.goroutines goroutine).handles = some wait → target.handles ≠ some wait → (queue.waiters wait).done = true)
    (purges : ∀ wait, target = .purging wait → (queue.waiters wait).done = true) : Handled (queue.setPc goroutine target) := by
  have handles : ∀ other wait, ((queue.setPc goroutine target).goroutines other).handles = some wait →
      (queue.goroutines other).handles = some wait := by
    intro other wait
    simp only [WaitQueue.setPc, Function.update_apply]
    split
    · rename_i same
      exact same ▸ keeps wait
    · exact id
  refine ⟨?_, ?_, ?_, ?_⟩
  · intro other wait handling
    exact handled.issued other wait (handles other wait handling)
  · intro first second wait one two
    exact handled.single first second wait (handles first wait one) (handles second wait two)
  · intro wait issued
    rcases handled.attended wait issued with ⟨other, handling⟩ | finished
    · by_cases same : other = goroutine
      · subst same
        by_cases still : target.handles = some wait
        · exact .inl ⟨other, by simp only [WaitQueue.setPc, Function.update_self, still]⟩
        · exact .inr (leaves wait handling still)
      · exact .inl ⟨other, by simp only [WaitQueue.setPc, Function.update_of_ne same, handling]⟩
    · exact .inr finished
  · intro other wait
    simp only [WaitQueue.setPc, Function.update_apply]
    split
    · exact purges wait
    · exact handled.purged other wait

end

theorem finish_done_kept (queue : WaitQueue) (wait other : WaiterId) (closeConn : Bool) (done : (queue.waiters other).done = true) :
    ((queue.finishWaiter wait closeConn).waiters other).done = true := by
  simp only [WaitQueue.finishWaiter, Function.update_apply]
  split
  · exact finish_done _ closeConn
  · exact done

theorem finished_done (queue : WaitQueue) (wait : WaiterId) (closeConn : Bool) :
    ((queue.finishWaiter wait closeConn).waiters wait).done = true := by
  simp only [WaitQueue.finishWaiter, Function.update_self]
  exact finish_done _ closeConn

theorem purge_handled (queue : WaitQueue) (handled : Handled queue) : Handled (purgeDoneWaitersLocked queue) := by
  obtain ⟨_, _, waiters, issued, _⟩ := purge_frame queue
  refine handled_signalled queue _ handled (signalled_purge queue) issued ?_
  intro wait done
  rw [waiters]
  exact done

theorem purge_pc (queue : WaitQueue) (goroutine : GoroutineId) (pc : Pc) (entered : queue.goroutines goroutine = pc) (woken : pc.wake = pc) :
    (purgeDoneWaitersLocked queue).goroutines goroutine = pc := by
  rcases signalled_purge queue goroutine with same | signalled
  · rw [same, entered]
  · rw [signalled, entered, woken]

theorem enqueue_section_handled (queue : WaitQueue) (goroutine : GoroutineId) (wait : WaiterId) (handled : Handled queue)
    (entered : queue.goroutines goroutine = .enqueueing wait) : Handled (enqueueSection queue goroutine wait) := by
  have purged := purge_handled queue handled
  have place := purge_pc queue goroutine _ entered rfl
  have stays : ∀ (middle : WaitQueue) (target : Pc), Handled middle → (middle.goroutines goroutine).handles = some wait →
      target.handles = some wait → (∀ other, target ≠ .purging other) → Handled (middle.setPc goroutine target) := by
    intro middle target inv before after other
    refine handled_set_pc middle inv goroutine target (fun found handling => ?_) (fun found handling left => ?_)
      (fun found same => absurd same (other found))
    · rwa [before, ← after]
    · rw [before, ← after] at handling
      exact absurd handling left
  dsimp only [enqueueSection]
  split
  · exact stays _ _ purged (by rw [place]; rfl) rfl (by simp)
  · split
    · refine stays _ _ ?_ ?_ rfl (by simp)
      · exact handled_signalled (purgeDoneWaitersLocked queue) _ purged (fun _ => .inr rfl) rfl fun _ done => done
      · simp only [WaitQueue.broadcast, place, wake_handles]
        rfl
    · exact stays _ _ purged (by rw [place]; rfl) rfl (by simp)

theorem acquire_section_handled (queue : WaitQueue) (goroutine : GoroutineId) (late : Bool) (handled : Handled queue)
    (entered : queue.goroutines goroutine = .acquiring) : Handled (acquireSection queue goroutine late) := by
  have purged := purge_handled queue handled
  have place := purge_pc queue goroutine _ entered rfl
  have stays : ∀ (middle : WaitQueue) (target : Pc), Handled middle → (middle.goroutines goroutine).handles = none →
      target.handles = none → Handled (middle.setPc goroutine target) := by
    intro middle target inv before after
    refine handled_set_pc middle inv goroutine target (fun found handling => ?_) (fun found handling => ?_) (fun found same => ?_)
    · rw [after] at handling
      cases handling
    · rw [before] at handling
      cases handling
    · rw [same] at after
      cases after
  dsimp only [acquireSection]
  split
  · refine stays _ _ ?_ ?_ rfl
    · refine handled_signalled (purgeDoneWaitersLocked queue) _ purged (fun _ => .inr rfl) rfl fun other done => ?_
      exact (mark_acquired_done _ _ other).trans done
    · simp only [WaitQueue.broadcast, place, wake_handles]
      rfl
  · split
    · exact stays _ _ purged (by rw [place]; rfl) rfl
    · split
      · exact stays _ _ purged (by rw [place]; rfl) rfl
      · exact stays _ _ purged (by rw [place]; rfl) rfl

theorem issue_handled (queue : WaitQueue) (goroutine : GoroutineId) (handled : Handled queue) (idle : queue.goroutines goroutine = .idle) :
    Handled ({ queue with nextWaiter := queue.nextWaiter + 1 }.setPc goroutine (.enqueueing queue.nextWaiter)) := by
  have handles : ∀ other wait,
      ((({ queue with nextWaiter := queue.nextWaiter + 1 } : WaitQueue).setPc goroutine (.enqueueing queue.nextWaiter)).goroutines
        other).handles = some wait ↔
        other = goroutine ∧ wait = queue.nextWaiter ∨ other ≠ goroutine ∧ (queue.goroutines other).handles = some wait := by
    intro other wait
    simp only [WaitQueue.setPc, Function.update_apply]
    by_cases same : other = goroutine
    · simp only [same, if_true, Pc.handles, Option.some.injEq, true_and, ne_eq, not_true, false_and, or_false]
      exact eq_comm
    · simp [same]
  refine ⟨?_, ?_, ?_, ?_⟩
  · intro other wait handling
    rcases (handles other wait).mp handling with ⟨_, rfl⟩ | ⟨_, before⟩
    · exact Nat.lt_succ_self _
    · exact Nat.lt_succ_of_lt (handled.issued other wait before)
  · intro first second wait one two
    rcases (handles first wait).mp one with ⟨rfl, rfl⟩ | ⟨_, before⟩
    · rcases (handles second _).mp two with ⟨rfl, _⟩ | ⟨_, other⟩
      · rfl
      · exact absurd (handled.issued second _ other) (Nat.lt_irrefl _)
    · rcases (handles second wait).mp two with ⟨rfl, rfl⟩ | ⟨_, other⟩
      · exact absurd (handled.issued first _ before) (Nat.lt_irrefl _)
      · exact handled.single first second wait before other
  · intro wait issued
    by_cases fresh : wait = queue.nextWaiter
    · exact .inl ⟨goroutine, (handles goroutine wait).mpr (.inl ⟨rfl, fresh⟩)⟩
    · rcases handled.attended wait (Nat.lt_of_le_of_ne (Nat.le_of_lt_succ issued) fresh) with ⟨other, handling⟩ | finished
      · refine .inl ⟨other, (handles other wait).mpr (.inr ⟨?_, handling⟩)⟩
        rintro rfl
        rw [idle] at handling
        cases handling
      · exact .inr finished
  · intro other wait
    simp only [WaitQueue.setPc, Function.update_apply]
    split
    · intro impossible
      cases impossible
    · exact handled.purged other wait

theorem pc_move_handled (queue : WaitQueue) (goroutine : GoroutineId) (target : Pc) (handled : Handled queue)
    (moved : PcMove queue (queue.goroutines goroutine) target) : Handled (queue.setPc goroutine target) := by
  refine handled_set_pc queue handled goroutine target (fun wait handling => ?_) (fun wait handling left => ?_)
    (fun wait purging => ?_)
  · generalize queue.goroutines goroutine = source at moved
    cases moved <;> first | exact handling | cases handling
  · generalize queue.goroutines goroutine = source at moved handling
    cases moved with
    | incoming => cases handling
    | selectingDone held done | acquiredDone held done =>
        cases handling
        exact done
    | selectingQuit | acquiredQuit | acquired | timer | reprieve | expire => exact absurd handling left
  · subst purging
    generalize queue.goroutines goroutine = source at moved
    cases moved

theorem finish_move_handled (queue : WaitQueue) (goroutine : GoroutineId) (wait : WaiterId) (closeConn : Bool) (target : Pc)
    (handled : Handled queue) (moved : FinishMove (queue.goroutines goroutine) wait closeConn target) :
    Handled ((queue.finishWaiter wait closeConn).setPc goroutine target) := by
  have finished : Handled (queue.finishWaiter wait closeConn) :=
    handled_signalled queue _ handled (fun _ => .inl rfl) rfl fun other => finish_done_kept queue wait other closeConn
  have done := finished_done queue wait closeConn
  have place : (queue.finishWaiter wait closeConn).goroutines goroutine = queue.goroutines goroutine := rfl
  refine handled_set_pc _ finished goroutine target (fun other handling => ?_) (fun other handling left => ?_)
    (fun other purging => ?_)
  · rw [place]
    generalize queue.goroutines goroutine = source at moved
    cases moved <;> first | exact handling | cases handling
  · rw [place] at handling
    generalize queue.goroutines goroutine = source at moved handling
    cases moved with
    | expired => exact absurd handling left
    | closing =>
        cases handling
        exact done
    | forward => cases handling
  · subst purging
    generalize queue.goroutines goroutine = source at moved
    cases moved
    exact done

theorem handled_step (queue : WaitQueue) (event : QueueEvent) (next : WaitQueue) (handled : Handled queue)
    (stepped : queueStep queue event = some next) : Handled next := by
  cases queue_step_moved queue next event stepped with
  | issue g idle => exact issue_handled queue g handled idle
  | enqueue g late wait entered => exact enqueue_section_handled queue g wait handled entered
  | acquire g late entered => exact acquire_section_handled queue g late handled entered
  | move _ g target moved => exact pc_move_handled queue g target handled moved
  | finishing _ g wait closeConn target moved => exact finish_move_handled queue g wait closeConn target handled moved
  | purgeExpired g wait entered =>
      have place := purge_pc queue g _ entered rfl
      refine handled_set_pc _ (purge_handled queue handled) g .returned (fun _ handling => ?_) (fun other handling _ => ?_)
        (fun _ purging => ?_)
      · cases handling
      · rw [place] at handling
        cases handling
        exact (purge_handled queue handled).purged g wait place
      · cases purging
  | deadlineBroadcast => exact handled_signalled queue _ handled (fun _ => .inr rfl) rfl fun _ done => done
  | purge => exact purge_handled queue handled
  | closeListener => exact handled_signalled queue _ handled (fun _ => .inr rfl) rfl fun _ done => done
  | finish wait closeConn _ =>
      exact handled_signalled queue _ handled (fun _ => .inl rfl) rfl fun other => finish_done_kept queue wait other closeConn

theorem handled_run (idleTimeout : Int) (events : List QueueEvent) (last : WaitQueue)
    (ran : run queueStep (newWaitQueue idleTimeout) events = some last) : Handled last := by
  have initial : Handled (newWaitQueue idleTimeout) := by
    refine ⟨?_, ?_, ?_, ?_⟩
    · rintro _ _ ⟨⟩
    · rintro _ _ _ ⟨⟩
    · rintro _ ⟨⟩
    · rintro _ _ ⟨⟩
  exact run_preserves queueStep Handled handled_step _ last events initial ran

-- The calls of finish that the code itself makes.
def QueueEvent.isOwn : QueueEvent → Bool
  | .finish _ _ => false
  | _ => true

section

variable (queue next : WaitQueue)

theorem settled_frame (settled : Settled queue) (handed : ∀ wait ∈ queue.handed, wait ∈ next.handed)
    (forwards : ∀ goroutine wait, next.goroutines goroutine = .forwarding wait →
      queue.goroutines goroutine = .forwarding wait ∨ wait ∈ next.handed)
    (waiters : ∀ wait, (next.waiters wait).done = (queue.waiters wait).done ∧ (next.waiters wait).closed = (queue.waiters wait).closed) :
    Settled next := by
  constructor
  · intro goroutine wait forwarding
    rcases forwards goroutine wait forwarding with before | member
    · exact handed wait (settled.forwarded goroutine wait before)
    · exact member
  · intro wait done
    rw [(waiters wait).1] at done
    rw [(waiters wait).2]
    rcases settled.settled wait done with closed | member
    · exact .inl closed
    · exact .inr (handed wait member)

theorem signalled_settled (settled : Settled queue) (signalled : Signalled queue next) (handed : next.handed = queue.handed)
    (waiters : next.waiters = queue.waiters) : Settled next := by
  refine settled_frame queue next settled (fun _ member => handed ▸ member) (fun goroutine wait forwarding => .inl ?_)
    (fun wait => by rw [waiters]; exact ⟨rfl, rfl⟩)
  rcases signalled goroutine with same | woken
  · exact same ▸ forwarding
  · exact (wake_forwarding _ wait).mp (woken ▸ forwarding)

theorem set_pc_settled (settled : Settled queue) (goroutine : GoroutineId) (target : Pc)
    (forwards : ∀ wait, target = .forwarding wait → wait ∈ queue.handed) : Settled (queue.setPc goroutine target) := by
  refine settled_frame queue _ settled (fun _ member => member) (fun other wait => ?_) (fun _ => ⟨rfl, rfl⟩)
  simp only [WaitQueue.setPc, Function.update_apply]
  split
  · exact fun forwarding => .inr (forwards wait forwarding)
  · exact .inl

theorem purge_settled (settled : Settled queue) : Settled (purgeDoneWaitersLocked queue) := by
  obtain ⟨_, _, waiters, _, _, handed, _⟩ := purge_frame queue
  exact signalled_settled queue _ settled (signalled_purge queue) handed waiters

theorem finish_settled (settled : Settled queue) (wait : WaiterId) (closeConn : Bool)
    (reason : closeConn = true ∨ wait ∈ queue.handed) : Settled (queue.finishWaiter wait closeConn) := by
  constructor
  · exact settled.forwarded
  · intro other done
    simp only [WaitQueue.finishWaiter, Function.update_apply] at done ⊢
    split at done
    · rename_i same
      subst same
      rw [if_pos rfl]
      by_cases before : (queue.waiters other).done = true
      · rw [Waiter.finish, if_pos before]
        exact settled.settled other before
      · rw [Waiter.finish, if_neg before]
        exact reason
    · rename_i different
      rw [if_neg different]
      exact settled.settled other done

theorem enqueue_section_settled (goroutine : GoroutineId) (wait : WaiterId) (settled : Settled queue) :
    Settled (enqueueSection queue goroutine wait) := by
  have purged := purge_settled queue settled
  dsimp only [enqueueSection]
  split
  · exact set_pc_settled _ purged goroutine _ (by simp)
  · split
    · refine set_pc_settled _ ?_ goroutine _ (by simp)
      exact signalled_settled (purgeDoneWaitersLocked queue) _ purged (fun _ => .inr rfl) rfl rfl
    · exact set_pc_settled _ purged goroutine _ (by simp)

theorem acquire_section_settled (goroutine : GoroutineId) (late : Bool) (settled : Settled queue) :
    Settled (acquireSection queue goroutine late) := by
  have purged := purge_settled queue settled
  dsimp only [acquireSection]
  split
  · rename_i wait _
    refine set_pc_settled _ ?_ goroutine _ ?_
    · refine settled_frame (purgeDoneWaitersLocked queue) _ purged (fun _ member => List.mem_append_left _ member)
        (fun other held forwarding => .inl ((wake_forwarding _ held).mp forwarding)) (fun other => ?_)
      simp only [WaitQueue.broadcast, Function.update_apply]
      split
      · rename_i same
        subst same
        exact ⟨rfl, rfl⟩
      · exact ⟨rfl, rfl⟩
    · rintro held ⟨⟩
      exact List.mem_append_right _ (.head _)
  · split
    · exact set_pc_settled _ purged goroutine _ (by simp)
    · split
      · exact set_pc_settled _ purged goroutine _ (by simp)
      · exact set_pc_settled _ purged goroutine _ (by simp)

end

theorem settled_step (queue : WaitQueue) (event : QueueEvent) (next : WaitQueue) (settled : Settled queue) (own : event.isOwn = true)
    (stepped : queueStep queue event = some next) : Settled next := by
  cases queue_step_moved queue next event stepped with
  | issue g idle =>
      have kept : Settled { queue with nextWaiter := queue.nextWaiter + 1 } :=
        signalled_settled queue _ settled (fun _ => .inl rfl) rfl rfl
      exact set_pc_settled _ kept g _ (by simp)
  | enqueue g late wait entered => exact enqueue_section_settled queue g wait settled
  | acquire g late entered => exact acquire_section_settled queue g late settled
  | move _ g target moved =>
      refine set_pc_settled queue settled g target ?_
      rintro wait rfl
      generalize queue.goroutines g = source at moved
      cases moved
  | finishing _ g wait closeConn target moved =>
      have place := settled.forwarded g wait
      refine set_pc_settled _ (finish_settled queue settled wait closeConn ?_) g target ?_
      · generalize queue.goroutines g = source at moved place
        cases moved with
        | expired | closing => exact .inl rfl
        | forward => exact .inr (place rfl)
      · rintro held rfl
        generalize queue.goroutines g = source at moved
        cases moved
  | purgeExpired g wait entered => exact set_pc_settled _ (purge_settled queue settled) g _ (by simp)
  | deadlineBroadcast => exact signalled_settled queue _ settled (fun _ => .inr rfl) rfl rfl
  | purge => exact purge_settled queue settled
  | closeListener => exact signalled_settled queue _ settled (fun _ => .inr rfl) rfl rfl
  | finish wait closeConn _ => cases own

theorem settled_run (idleTimeout : Int) (events : List QueueEvent) (last : WaitQueue) (own : ∀ event ∈ events, event.isOwn = true)
    (ran : run queueStep (newWaitQueue idleTimeout) events = some last) : Settled last := by
  have initial : Settled (newWaitQueue idleTimeout) := ⟨by rintro _ _ ⟨⟩, by rintro _ ⟨⟩⟩
  exact run_preserves_along queueStep _ Settled settled_step _ last events initial (along_of_events queueStep _ _ events own) ran

-- No client connection is forgotten: its handler is still there, or it was
-- closed, or an incoming connection has been given it.
theorem client_connection_never_forgotten (idleTimeout : Int) (events : List QueueEvent) (last : WaitQueue)
    (own : ∀ event ∈ events, event.isOwn = true) (ran : run queueStep (newWaitQueue idleTimeout) events = some last)
    (wait : WaiterId) (issued : wait < last.nextWaiter) :
    (∃! goroutine, (last.goroutines goroutine).handles = some wait) ∨
      (last.waiters wait).done = true ∧ ((last.waiters wait).closed = true ∨ wait ∈ last.handed) := by
  have handled := handled_run idleTimeout events last ran
  rcases handled.attended wait issued with ⟨goroutine, handling⟩ | done
  · exact .inl ⟨goroutine, handling, fun other also => handled.single other goroutine wait also handling⟩
  · exact .inr ⟨done, (settled_run idleTimeout events last own ran).settled wait done⟩

theorem client_connection_never_forgotten_expired : ∃ last,
    run queueStep (newWaitQueue 30) [.handleClient 0, .lockQueue 0 false, .timerFires 0, .checkAcquired 0, .finishExpired 0,
      .purgeExpired 0] = some last ∧
    ((∃! goroutine, (last.goroutines goroutine).handles = some 0) ∨
      (last.waiters 0).done = true ∧ ((last.waiters 0).closed = true ∨ 0 ∈ last.handed)) :=
  ⟨_, rfl, client_connection_never_forgotten 30 [.handleClient 0, .lockQueue 0 false, .timerFires 0, .checkAcquired 0,
    .finishExpired 0, .purgeExpired 0] _ (by decide) rfl 0 (by decide)⟩

-- A goroutine inside HandleClient or handleIncoming that has neither returned nor been
-- handed a connection to forward.
def Pc.waits : Pc → Bool
  | .idle | .returned | .forwarding _ => false
  | _ => true

@[simp] theorem wake_waits (pc : Pc) : pc.wake.waits = pc.waits := by
  cases pc <;> rfl

theorem wake_settled (pc : Pc) (settled : pc.waits = false) : pc.wake = pc := by
  cases pc <;> first | rfl | cases settled

-- What a shutdown needs of the queue, and keeps.
structure ShutDown (queue : WaitQueue) : Prop where
  quit : queue.quit = true
  awake : NoLostWakeup queue

theorem queue_step_keeps_quit (queue next : WaitQueue) (event : QueueEvent) (other : event ≠ .closeListener)
    (stepped : queueStep queue event = some next) : next.quit = queue.quit := by
  have purged : (purgeDoneWaitersLocked queue).quit = queue.quit := (purge_frame queue).2.1
  cases queue_step_moved queue next event stepped with
  | issue | move | finishing | deadlineBroadcast | finish => rfl
  | enqueue g late wait =>
      dsimp only [enqueueSection]
      split
      · exact purged
      · split <;> exact purged
  | acquire g late =>
      dsimp only [acquireSection]
      split
      · exact purged
      · split
        · exact purged
        · split <;> exact purged
  | purgeExpired | purge => exact purged
  | closeListener => exact absurd rfl other

theorem queue_step_quit (queue next : WaitQueue) (event : QueueEvent) (stepped : queueStep queue event = some next)
    (quit : queue.quit = true) : next.quit = true := by
  by_cases closes : event = .closeListener
  · subst closes
    cases stepped
    rfl
  · exact (queue_step_keeps_quit queue next event closes stepped).trans quit

theorem shut_down_step (queue : WaitQueue) (event : QueueEvent) (next : WaitQueue) (down : ShutDown queue)
    (stepped : queueStep queue event = some next) : ShutDown next :=
  ⟨queue_step_quit queue next event stepped down.quit, no_lost_wakeup_step queue event next down.awake stepped⟩

theorem set_pc_elsewhere (queue middle : WaitQueue) (goroutine other : GoroutineId) (target : Pc) (signalled : Signalled queue middle)
    (different : other ≠ goroutine) : (middle.setPc goroutine target).goroutines other = queue.goroutines other ∨
      (middle.setPc goroutine target).goroutines other = (queue.goroutines other).wake := by
  simp only [WaitQueue.setPc, Function.update_of_ne different]
  exact signalled other

-- Those that do not wait stay where they are.
def Undisturbed (queue next : WaitQueue) : Prop :=
  ∀ other, (queue.goroutines other).waits = false → next.goroutines other = queue.goroutines other

theorem undisturbed_trans (first second third : WaitQueue) (one : Undisturbed first second) (two : Undisturbed second third) :
    Undisturbed first third := by
  intro other settled
  have same := one other settled
  exact (two other (same ▸ settled)).trans same

-- The goroutine that takes the step by itself, with no timer, deadline or other goroutine
-- behind it.
def QueueEvent.ownStep : QueueEvent → Option GoroutineId
  | .lockQueue g false | .seeDone g | .seeQuit g | .seeAcquired g | .checkAcquired g | .finishExpired g | .purgeExpired g
  | .finishClosing g => some g
  | _ => none

def Releases (goroutine : GoroutineId) (bound : Nat) (queue : WaitQueue) : Prop :=
  ∃ rest final, rest.length ≤ bound ∧ (∀ event ∈ rest, event.ownStep = some goroutine) ∧ run queueStep queue rest = some final ∧
    (final.goroutines goroutine).waits = false ∧ Undisturbed queue final

theorem releases_now (goroutine : GoroutineId) (bound : Nat) (queue : WaitQueue) (settled : (queue.goroutines goroutine).waits = false) :
    Releases goroutine bound queue :=
  ⟨[], queue, Nat.zero_le _, by simp, rfl, settled, fun _ _ => rfl⟩

theorem releases_step (goroutine : GoroutineId) (bound : Nat) (queue middle : WaitQueue) (event : QueueEvent) (target : Pc)
    (stepped : queueStep queue event = some (middle.setPc goroutine target)) (own : event.ownStep = some goroutine)
    (signalled : Signalled queue middle) (busy : (queue.goroutines goroutine).waits = true)
    (later : Releases goroutine bound (middle.setPc goroutine target)) :
    Releases goroutine (bound + 1) queue := by
  obtain ⟨rest, final, short, steps, ran, settled, still⟩ := later
  have undisturbed : Undisturbed queue (middle.setPc goroutine target) := by
    intro other quiet
    have different : other ≠ goroutine := by
      rintro rfl
      cases busy.symm.trans quiet
    rcases set_pc_elsewhere queue middle goroutine other target signalled different with same | woken
    · exact same
    · exact woken.trans (wake_settled _ quiet)
  refine ⟨event :: rest, final, Nat.succ_le_succ short, List.forall_mem_cons.mpr ⟨own, steps⟩, ?_, settled,
    undisturbed_trans queue _ final undisturbed still⟩
  rw [run_cons_some]
  exact ⟨_, stepped, ran⟩

theorem releases_more (goroutine : GoroutineId) (bound more : Nat) (queue : WaitQueue) (fewer : bound ≤ more)
    (releases : Releases goroutine bound queue) : Releases goroutine more queue := by
  obtain ⟨rest, final, short, result⟩ := releases
  exact ⟨rest, final, Nat.le_trans short fewer, result⟩

section

variable (goroutine : GoroutineId) (queue : WaitQueue) (down : ShutDown queue)

theorem set_pc_at (target : Pc) : (queue.setPc goroutine target).goroutines goroutine = target := by
  simp only [WaitQueue.setPc, Function.update_self]

theorem closing_releases (wait : WaiterId) (place : queue.goroutines goroutine = .closing wait) : Releases goroutine 1 queue := by
  have stepped : queueStep queue (.finishClosing goroutine) = some ((queue.finishWaiter wait true).setPc goroutine .returned) := by
    simp only [queueStep, place]
  refine releases_step goroutine 0 queue _ _ _ stepped rfl (fun _ => .inl rfl) (by rw [place]; rfl) (releases_now _ _ _ ?_)
  rw [set_pc_at]
  rfl

theorem purging_releases (wait : WaiterId) (place : queue.goroutines goroutine = .purging wait) : Releases goroutine 1 queue := by
  have stepped : queueStep queue (.purgeExpired goroutine) = some ((purgeDoneWaitersLocked queue).setPc goroutine .returned) := by
    simp only [queueStep, place]
  refine releases_step goroutine 0 queue _ _ _ stepped rfl (signalled_purge queue) (by rw [place]; rfl) (releases_now _ _ _ ?_)
  rw [set_pc_at]
  rfl

theorem expired_releases (wait : WaiterId) (place : queue.goroutines goroutine = .expired wait) : Releases goroutine 2 queue := by
  have stepped : queueStep queue (.finishExpired goroutine) =
      some ((queue.finishWaiter wait true).setPc goroutine (.purging wait)) := by
    simp only [queueStep, place]
  exact releases_step goroutine 1 queue _ _ _ stepped rfl (fun _ => .inl rfl) (by rw [place]; rfl)
    (purging_releases goroutine _ wait (set_pc_at goroutine _ _))

include down in
theorem selecting_releases (wait : WaiterId)
    (place : queue.goroutines goroutine = .selecting wait ∨ queue.goroutines goroutine = .afterAcquire wait) :
    Releases goroutine 2 queue := by
  have stepped : queueStep queue (.seeQuit goroutine) = some (queue.setPc goroutine (.closing wait)) := by
    rcases place with selecting | acquired
    · simp only [queueStep, selecting, down.quit, if_true]
    · simp only [queueStep, acquired, down.quit, if_true]
  have busy : (queue.goroutines goroutine).waits = true := by
    rcases place with selecting | acquired
    · rw [selecting]
      rfl
    · rw [acquired]
      rfl
  exact releases_step goroutine 1 queue queue _ _ stepped rfl (fun _ => .inl rfl) busy
    (closing_releases goroutine _ wait (set_pc_at goroutine _ _))

include down in
theorem timed_out_releases (wait : WaiterId) (place : queue.goroutines goroutine = .timedOut wait) : Releases goroutine 3 queue := by
  have stepped : queueStep queue (.checkAcquired goroutine) =
      some (queue.setPc goroutine (if (queue.waiters wait).acquired then .afterAcquire wait else .expired wait)) := by
    simp only [queueStep, place]
  refine releases_step goroutine 2 queue queue _ _ stepped rfl (fun _ => .inl rfl) (by rw [place]; rfl) ?_
  have still := shut_down_step queue _ _ down stepped
  by_cases acquired : (queue.waiters wait).acquired = true
  · rw [if_pos acquired] at still ⊢
    exact selecting_releases goroutine _ still wait (.inr (set_pc_at goroutine _ _))
  · rw [if_neg acquired]
    exact expired_releases goroutine _ wait (set_pc_at goroutine _ _)

include down in
theorem enqueueing_releases (wait : WaiterId) (place : queue.goroutines goroutine = .enqueueing wait) : Releases goroutine 2 queue := by
  have purged : (purgeDoneWaitersLocked queue).quit = true := (purge_frame queue).2.1.trans down.quit
  have closes : enqueueSection queue goroutine wait = (purgeDoneWaitersLocked queue).setPc goroutine (.closing wait) := by
    dsimp only [enqueueSection]
    rw [if_pos purged]
  have stepped : queueStep queue (.lockQueue goroutine false) =
      some ((purgeDoneWaitersLocked queue).setPc goroutine (.closing wait)) := by
    simp only [queueStep, place, closes]
  exact releases_step goroutine 1 queue _ _ _ stepped rfl (signalled_purge queue) (by rw [place]; rfl)
    (closing_releases goroutine _ wait (set_pc_at goroutine _ _))

theorem acquire_section_leaves (late : Bool) (quit : (purgeDoneWaitersLocked queue).quit = true) : ∃ middle target,
    acquireSection queue goroutine late = middle.setPc goroutine target ∧ Signalled queue middle ∧ target.waits = false := by
  have purged := signalled_purge queue
  dsimp only [acquireSection]
  split
  · exact ⟨_, _, rfl, signalled_broadcast queue _ _ purged rfl, rfl⟩
  · split
    · exact ⟨_, _, rfl, purged, rfl⟩
    · exact ⟨_, _, rfl, purged, rfl⟩

include down in
theorem acquiring_releases (place : queue.goroutines goroutine = .acquiring) : Releases goroutine 1 queue := by
  obtain ⟨middle, target, same, signalled, left⟩ :=
    acquire_section_leaves goroutine queue false ((purge_frame queue).2.1.trans down.quit)
  have stepped : queueStep queue (.lockQueue goroutine false) = some (middle.setPc goroutine target) := by
    simp only [queueStep, place, same]
  refine releases_step goroutine 0 queue _ _ _ stepped rfl signalled (by rw [place]; rfl) (releases_now _ _ _ ?_)
  rw [set_pc_at]
  exact left

include down in
theorem shut_down_releases : Releases goroutine 3 queue := by
  have awake := down.awake goroutine
  cases place : queue.goroutines goroutine with
  | idle | returned | forwarding => exact releases_now _ _ _ (by rw [place]; rfl)
  | enqueueing wait => exact releases_more _ _ _ _ (by decide) (enqueueing_releases goroutine queue down wait place)
  | selecting wait => exact releases_more _ _ _ _ (by decide) (selecting_releases goroutine queue down wait (.inl place))
  | timedOut wait => exact timed_out_releases goroutine queue down wait place
  | expired wait => exact releases_more _ _ _ _ (by decide) (expired_releases goroutine queue wait place)
  | purging wait => exact releases_more _ _ _ _ (by decide) (purging_releases goroutine queue wait place)
  | afterAcquire wait => exact releases_more _ _ _ _ (by decide) (selecting_releases goroutine queue down wait (.inr place))
  | closing wait => exact releases_more _ _ _ _ (by decide) (closing_releases goroutine queue wait place)
  | acquiring => exact releases_more _ _ _ _ (by decide) (acquiring_releases goroutine queue down place)
  | enqueueParked wait =>
      -- Nobody is parked on a queue that was shut down.
      rw [place] at awake
      cases down.quit.symm.trans awake.2
  | acquireParked =>
      rw [place] at awake
      cases down.quit.symm.trans awake.2

end

theorem shut_down_run (queue last : WaitQueue) (events : List QueueEvent) (down : ShutDown queue)
    (ran : run queueStep queue events = some last) : ShutDown last :=
  run_preserves queueStep ShutDown shut_down_step queue last events down ran

-- One goroutine after the other leaves, and those that left stay away.
theorem shut_down_drains (goroutines : List GoroutineId) (queue : WaitQueue) (down : ShutDown queue) :
    ∃ rest final, rest.length ≤ 3 * goroutines.length ∧ (∀ event ∈ rest, ∃ goroutine ∈ goroutines, event.ownStep = some goroutine) ∧
      run queueStep queue rest = some final ∧ (∀ goroutine ∈ goroutines, (final.goroutines goroutine).waits = false) ∧
      Undisturbed queue final := by
  induction goroutines generalizing queue with
  | nil => exact ⟨[], queue, Nat.le_refl _, by simp, rfl, by simp, fun _ _ => rfl⟩
  | cons goroutine others ih =>
      obtain ⟨first, middle, short, own, ran, left, undisturbed⟩ := shut_down_releases goroutine queue down
      obtain ⟨rest, final, bound, steps, finished, drained, still⟩ := ih middle (shut_down_run queue middle first down ran)
      refine ⟨first ++ rest, final, ?_, ?_, ?_, ?_, undisturbed_trans queue middle final undisturbed still⟩
      · simp only [List.length_append, List.length_cons]
        omega
      · refine List.forall_mem_append.mpr ⟨fun event member => ⟨goroutine, .head _, own event member⟩, fun event member => ?_⟩
        obtain ⟨other, inside, step⟩ := steps event member
        exact ⟨other, .tail _ inside, step⟩
      · rw [run_append queueStep queue middle first rest ran, finished]
      · refine List.forall_mem_cons.mpr ⟨?_, drained⟩
        rw [still goroutine left]
        exact left

theorem queue_step_actor (queue next : WaitQueue) (event : QueueEvent) (stepped : queueStep queue event = some next) :
    ∃ goroutine, ∀ other, other ≠ goroutine →
      next.goroutines other = queue.goroutines other ∨ next.goroutines other = (queue.goroutines other).wake := by
  have same : Signalled queue queue := fun _ => .inl rfl
  have purged := signalled_purge queue
  cases queue_step_moved queue next event stepped with
  | issue g _ | move _ g _ _ | finishing _ g _ _ _ _ => exact ⟨g, fun other => set_pc_elsewhere queue _ g other _ fun _ => .inl rfl⟩
  | enqueue g late wait _ =>
      refine ⟨g, fun other => ?_⟩
      dsimp only [enqueueSection]
      split
      · exact set_pc_elsewhere queue _ g other _ purged
      · split
        · exact set_pc_elsewhere queue _ g other _ (signalled_broadcast queue _ _ purged rfl)
        · exact set_pc_elsewhere queue _ g other _ purged
  | acquire g late _ =>
      refine ⟨g, fun other => ?_⟩
      dsimp only [acquireSection]
      split
      · exact set_pc_elsewhere queue _ g other _ (signalled_broadcast queue _ _ purged rfl)
      · split
        · exact set_pc_elsewhere queue _ g other _ purged
        · split <;> exact set_pc_elsewhere queue _ g other _ purged
  | purgeExpired g _ _ => exact ⟨g, fun other => set_pc_elsewhere queue _ g other _ purged⟩
  | deadlineBroadcast | closeListener => exact ⟨0, fun _ _ => .inr rfl⟩
  | purge => exact ⟨0, fun other _ => purged other⟩
  | finish wait closeConn _ => exact ⟨0, fun _ _ => .inl rfl⟩

-- Only finitely many goroutines have come so far.
def Bounded (queue : WaitQueue) : Prop := ∃ goroutines : List GoroutineId, ∀ other, (queue.goroutines other).waits = true → other ∈ goroutines

theorem bounded_step (queue : WaitQueue) (event : QueueEvent) (next : WaitQueue) (bounded : Bounded queue)
    (stepped : queueStep queue event = some next) : Bounded next := by
  obtain ⟨goroutines, covers⟩ := bounded
  obtain ⟨actor, elsewhere⟩ := queue_step_actor queue next event stepped
  refine ⟨actor :: goroutines, fun other waits => ?_⟩
  by_cases own : other = actor
  · exact own ▸ .head _
  · refine .tail _ (covers other ?_)
    rcases elsewhere other own with same | woken
    · exact same ▸ waits
    · rw [woken, wake_waits] at waits
      exact waits

theorem waiting_listed (queue : WaitQueue) (bounded : Bounded queue) :
    ∃ waiting : List GoroutineId, waiting.Nodup ∧ ∀ goroutine, goroutine ∈ waiting ↔ (queue.goroutines goroutine).waits = true := by
  obtain ⟨goroutines, covers⟩ := bounded
  refine ⟨(goroutines.filter fun goroutine => (queue.goroutines goroutine).waits).dedup, List.nodup_dedup _, fun goroutine => ?_⟩
  rw [List.mem_dedup, List.mem_filter]
  exact ⟨And.right, fun waits => ⟨covers goroutine waits, waits⟩⟩

theorem handles_waits (pc : Pc) (wait : WaiterId) (handles : pc.handles = some wait) : pc.waits = true := by
  cases pc <;> first | rfl | cases handles

-- closeTunnelListener strands nobody, whatever was going on before it: each goroutine that
-- waits gets away by itself in three steps, and all of them in three steps each.
theorem closed_listener_drains (idleTimeout : Int) (events : List QueueEvent) (last : WaitQueue)
    (ran : run queueStep (newWaitQueue idleTimeout) events = some last) (quit : last.quit = true) :
    (∀ goroutine, ∃ rest final, rest.length ≤ 3 ∧ (∀ event ∈ rest, event.ownStep = some goroutine) ∧
      run queueStep last rest = some final ∧ (final.goroutines goroutine).waits = false) ∧
    ∃ waiting : List GoroutineId, waiting.Nodup ∧ (∀ goroutine, goroutine ∈ waiting ↔ (last.goroutines goroutine).waits = true) ∧
      ∃ rest final, rest.length ≤ 3 * waiting.length ∧ (∀ event ∈ rest, ∃ goroutine ∈ waiting, event.ownStep = some goroutine) ∧
        run queueStep last rest = some final ∧ (∀ goroutine, (final.goroutines goroutine).waits = false) ∧
        ∀ wait, wait < final.nextWaiter → (final.waiters wait).done = true := by
  have initial : Bounded (newWaitQueue idleTimeout) := ⟨[], by rintro _ ⟨⟩⟩
  have down : ShutDown last := ⟨quit, no_lost_wakeup_run idleTimeout events last ran⟩
  constructor
  · intro goroutine
    obtain ⟨rest, final, short, own, finished, left, _⟩ := shut_down_releases goroutine last down
    exact ⟨rest, final, short, own, finished, left⟩
  · obtain ⟨waiting, nodup, listed⟩ := waiting_listed last (run_preserves queueStep Bounded bounded_step _ last events initial ran)
    obtain ⟨rest, final, short, own, finished, drained, undisturbed⟩ := shut_down_drains waiting last down
    have nobody : ∀ goroutine, (final.goroutines goroutine).waits = false := by
      intro goroutine
      cases waits : (last.goroutines goroutine).waits with
      | true => exact drained goroutine ((listed goroutine).mpr waits)
      | false => rw [undisturbed goroutine waits, waits]
    refine ⟨waiting, nodup, listed, rest, final, short, own, finished, nobody, ?_⟩
    intro wait issued
    have whole : run queueStep (newWaitQueue idleTimeout) (events ++ rest) = some final := by
      rw [run_append queueStep _ last events rest ran, finished]
    rcases (handled_run idleTimeout _ final whole).attended wait issued with ⟨goroutine, handling⟩ | done
    · cases (nobody goroutine).symm.trans (handles_waits _ wait handling)
    · exact done

theorem closed_listener_drains_waiting : ∃ last,
    run queueStep (newWaitQueue 30) [.handleClient 0, .lockQueue 0 false, .handleClient 1, .timerFires 0, .closeListener] = some last ∧
    (∃ rest final, rest.length ≤ 3 ∧ (∀ event ∈ rest, event.ownStep = some 1) ∧ run queueStep last rest = some final ∧
      (final.goroutines 1).waits = false) ∧
    ∃ waiting : List GoroutineId, 0 ∈ waiting ∧ 1 ∈ waiting ∧
      ∃ rest final, rest.length ≤ 3 * waiting.length ∧ (∀ event ∈ rest, ∃ goroutine ∈ waiting, event.ownStep = some goroutine) ∧
        run queueStep last rest = some final ∧ ∀ goroutine, (final.goroutines goroutine).waits = false := by
  refine ⟨_, rfl, ?_⟩
  obtain ⟨alone, waiting, _, listed, rest, final, short, own, finished, nobody, _⟩ := closed_listener_drains 30
    [.handleClient 0, .lockQueue 0 false, .handleClient 1, .timerFires 0, .closeListener] _ rfl rfl
  exact ⟨alone 1, waiting, (listed 0).mpr rfl, (listed 1).mpr rfl, rest, final, short, own, finished, nobody⟩

end WarpStream
