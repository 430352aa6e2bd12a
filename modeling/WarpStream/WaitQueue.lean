import Mathlib.Logic.Function.Basic
import WarpStream.GoSlice
import WarpStream.Transition

set_option autoImplicit false

namespace WarpStream

open GoSlice Transition

abbrev WaiterId := Nat
abbrev GoroutineId := Nat

structure Waiter where
  acquired : Bool
  done : Bool
  closed : Bool
deriving DecidableEq, Repr

def newWaiter : Waiter := ⟨false, false, false⟩

def Waiter.finish (waiter : Waiter) (closeConn : Bool) : Waiter :=
  if waiter.done then waiter else { waiter with done := true, closed := closeConn }

def Waiter.markAcquired (waiter : Waiter) : Waiter := { waiter with acquired := true }

-- Where a goroutine stands between two atomic steps. The first group runs a
-- HandleClient call behind getOrCreateListener, the second handleIncoming.
-- A parked goroutine is inside Wait and has not been signalled since it parked;
-- a signal moves it back to the point where it takes queueMu again.
inductive Pc where
  | idle
  | enqueueing (wait : WaiterId)
  | enqueueParked (wait : WaiterId)
  | selecting (wait : WaiterId)
  | timedOut (wait : WaiterId)
  | expired (wait : WaiterId)
  | purging (wait : WaiterId)
  | afterAcquire (wait : WaiterId)
  | closing (wait : WaiterId)
  | acquiring
  | acquireParked
  | forwarding (wait : WaiterId)
  | returned
deriving DecidableEq, Repr

def Pc.wake : Pc → Pc
  | .enqueueParked wait => .enqueueing wait
  | .acquireParked => .acquiring
  | pc => pc

-- The last two fields are history: the waiters in the order of their appends
-- and in the order in which acquireWaitingConn returned them.
structure WaitQueue where
  waiting : Slice WaiterId
  waitCap : Nat
  quit : Bool
  idleTimeout : Int
  waiters : WaiterId → Waiter
  nextWaiter : Nat
  goroutines : GoroutineId → Pc
  appended : List WaiterId
  handed : List WaiterId

def newWaitQueue (idleTimeout : Int) : WaitQueue where
  waiting := empty
  waitCap := 10
  quit := false
  idleTimeout := idleTimeout
  waiters := fun _ => newWaiter
  nextWaiter := 0
  goroutines := fun _ => .idle
  appended := []
  handed := []

def WaitQueue.setPc (queue : WaitQueue) (goroutine : GoroutineId) (pc : Pc) : WaitQueue :=
  { queue with goroutines := Function.update queue.goroutines goroutine pc }

def WaitQueue.broadcast (queue : WaitQueue) : WaitQueue :=
  { queue with goroutines := fun goroutine => (queue.goroutines goroutine).wake }

def WaitQueue.finishWaiter (queue : WaitQueue) (wait : WaiterId) (closeConn : Bool) : WaitQueue :=
  { queue with waiters := Function.update queue.waiters wait ((queue.waiters wait).finish closeConn) }

def WaitQueue.live (queue : WaitQueue) (wait : WaiterId) : Bool := !(queue.waiters wait).done

def purgeDoneWaitersLocked (queue : WaitQueue) : WaitQueue :=
  let pending := queue.waiting.compact queue.live
  let purged := { queue with waiting := if pending.length = 0 then empty else pending }
  if queue.waiting.toList.all queue.live then purged else purged.broadcast

-- What enqueueWaitingConn does with queueMu held, up to its Wait.
def enqueueSection (queue : WaitQueue) (goroutine : GoroutineId) (wait : WaiterId) : WaitQueue :=
  let purged := purgeDoneWaitersLocked queue
  if purged.quit then purged.setPc goroutine (.closing wait)
  else if purged.waiting.length < purged.waitCap then
    let grown := { purged with waiting := purged.waiting.append wait, appended := purged.appended ++ [wait] }
    grown.broadcast.setPc goroutine (.selecting wait)
  else purged.setPc goroutine (.enqueueParked wait)

-- What acquireWaitingConn does with queueMu held, up to its Wait; late says that time.Now
-- is not before the deadline. The test of quit comes after the test of the deadline.
def acquireSection (queue : WaitQueue) (goroutine : GoroutineId) (late : Bool) : WaitQueue :=
  let purged := purgeDoneWaitersLocked queue
  match purged.waiting.toList.head? with
  | some wait =>
      let rest := purged.waiting.tail
      let popped := { purged with waiting := if rest.length = 0 then empty else rest, handed := purged.handed ++ [wait] }
      let signalled := popped.broadcast
      { signalled with waiters := Function.update signalled.waiters wait (signalled.waiters wait).markAcquired }.setPc
        goroutine (.forwarding wait)
  | none =>
      if late then purged.setPc goroutine .returned
      else if purged.quit then purged.setPc goroutine .returned
      else purged.setPc goroutine .acquireParked

inductive QueueEvent where
  | handleClient (goroutine : GoroutineId)
  | handleIncoming (goroutine : GoroutineId)
  | lockQueue (goroutine : GoroutineId) (late : Bool)
  | seeDone (goroutine : GoroutineId)
  | seeQuit (goroutine : GoroutineId)
  | seeAcquired (goroutine : GoroutineId)
  | timerFires (goroutine : GoroutineId)
  | checkAcquired (goroutine : GoroutineId)
  | finishExpired (goroutine : GoroutineId)
  | purgeExpired (goroutine : GoroutineId)
  | finishClosing (goroutine : GoroutineId)
  | finishForward (goroutine : GoroutineId)
  | deadlineBroadcast
  | purge
  | closeListener
  | finish (wait : WaiterId) (closeConn : Bool)
deriving DecidableEq, Repr

-- The select statements of waitForUseOrTimeout and waitAfterAcquireOrShutdown
-- choose among their ready cases, so each case is an event of its own. Without
-- an idle timeout the select has neither the timer nor the acquired case.
def queueStep (queue : WaitQueue) : QueueEvent → Option WaitQueue
  | .handleClient g =>
      match queue.goroutines g with
      | .idle => some ({ queue with nextWaiter := queue.nextWaiter + 1 }.setPc g (.enqueueing queue.nextWaiter))
      | _ => none
  | .handleIncoming g =>
      match queue.goroutines g with
      | .idle => some (queue.setPc g .acquiring)
      | _ => none
  | .lockQueue g late =>
      match queue.goroutines g with
      | .enqueueing wait => some (enqueueSection queue g wait)
      | .acquiring => some (acquireSection queue g late)
      | _ => none
  | .seeDone g =>
      match queue.goroutines g with
      | .selecting wait | .afterAcquire wait => if (queue.waiters wait).done then some (queue.setPc g .returned) else none
      | _ => none
  | .seeQuit g =>
      match queue.goroutines g with
      | .selecting wait | .afterAcquire wait => if queue.quit then some (queue.setPc g (.closing wait)) else none
      | _ => none
  | .seeAcquired g =>
      match queue.goroutines g with
      | .selecting wait =>
          if 0 < queue.idleTimeout ∧ (queue.waiters wait).acquired then some (queue.setPc g (.afterAcquire wait)) else none
      | _ => none
  | .timerFires g =>
      match queue.goroutines g with
      | .selecting wait => if 0 < queue.idleTimeout then some (queue.setPc g (.timedOut wait)) else none
      | _ => none
  | .checkAcquired g =>
      match queue.goroutines g with
      | .timedOut wait =>
          some (queue.setPc g (if (queue.waiters wait).acquired then .afterAcquire wait else .expired wait))
      | _ => none
  | .finishExpired g =>
      match queue.goroutines g with
      | .expired wait => some ((queue.finishWaiter wait true).setPc g (.purging wait))
      | _ => none
  | .purgeExpired g =>
      match queue.goroutines g with
      | .purging _ => some ((purgeDoneWaitersLocked queue).setPc g .returned)
      | _ => none
  | .finishClosing g =>
      match queue.goroutines g with
      | .closing wait => some ((queue.finishWaiter wait true).setPc g .returned)
      | _ => none
  | .finishForward g =>
      match queue.goroutines g with
      | .forwarding wait => some ((queue.finishWaiter wait false).setPc g .returned)
      | _ => none
  | .deadlineBroadcast => some queue.broadcast
  | .purge => some (purgeDoneWaitersLocked queue)
  | .closeListener => some { queue with quit := true }.broadcast
  | .finish wait closeConn => if wait < queue.nextWaiter then some (queue.finishWaiter wait closeConn) else none

inductive PcMove (queue : WaitQueue) : Pc → Pc → Prop where
  | incoming : PcMove queue .idle .acquiring
  | selectingDone (wait : WaiterId) (done : (queue.waiters wait).done = true) : PcMove queue (.selecting wait) .returned
  | acquiredDone (wait : WaiterId) (done : (queue.waiters wait).done = true) : PcMove queue (.afterAcquire wait) .returned
  | selectingQuit (wait : WaiterId) (quit : queue.quit = true) : PcMove queue (.selecting wait) (.closing wait)
  | acquiredQuit (wait : WaiterId) (quit : queue.quit = true) : PcMove queue (.afterAcquire wait) (.closing wait)
  | acquired (wait : WaiterId) (enabled : 0 < queue.idleTimeout) (flag : (queue.waiters wait).acquired = true) :
      PcMove queue (.selecting wait) (.afterAcquire wait)
  | timer (wait : WaiterId) (enabled : 0 < queue.idleTimeout) : PcMove queue (.selecting wait) (.timedOut wait)
  | reprieve (wait : WaiterId) (flag : (queue.waiters wait).acquired = true) :
      PcMove queue (.timedOut wait) (.afterAcquire wait)
  | expire (wait : WaiterId) (flag : (queue.waiters wait).acquired = false) : PcMove queue (.timedOut wait) (.expired wait)

inductive FinishMove : Pc → WaiterId → Bool → Pc → Prop where
  | expired (wait : WaiterId) : FinishMove (.expired wait) wait true (.purging wait)
  | closing (wait : WaiterId) : FinishMove (.closing wait) wait true .returned
  | forward (wait : WaiterId) : FinishMove (.forwarding wait) wait false .returned

-- Everything a step can do. The invariants below are proved from this relation
-- and never unfold queueStep again.
inductive QueueMoved (queue : WaitQueue) : QueueEvent → WaitQueue → Prop where
  | issue (g : GoroutineId) (idle : queue.goroutines g = .idle) :
      QueueMoved queue (.handleClient g)
        ({ queue with nextWaiter := queue.nextWaiter + 1 }.setPc g (.enqueueing queue.nextWaiter))
  | enqueue (g : GoroutineId) (late : Bool) (wait : WaiterId) (entered : queue.goroutines g = .enqueueing wait) :
      QueueMoved queue (.lockQueue g late) (enqueueSection queue g wait)
  | acquire (g : GoroutineId) (late : Bool) (entered : queue.goroutines g = .acquiring) :
      QueueMoved queue (.lockQueue g late) (acquireSection queue g late)
  | move (event : QueueEvent) (g : GoroutineId) (target : Pc) (moved : PcMove queue (queue.goroutines g) target)
      (called : queue.goroutines g = .idle → event = .handleIncoming g) :
      QueueMoved queue event (queue.setPc g target)
  | finishing (event : QueueEvent) (g : GoroutineId) (wait : WaiterId) (closeConn : Bool) (target : Pc)
      (moved : FinishMove (queue.goroutines g) wait closeConn target) :
      QueueMoved queue event ((queue.finishWaiter wait closeConn).setPc g target)
  | purgeExpired (g : GoroutineId) (wait : WaiterId) (entered : queue.goroutines g = .purging wait) :
      QueueMoved queue (.purgeExpired g) ((purgeDoneWaitersLocked queue).setPc g .returned)
  | deadlineBroadcast : QueueMoved queue .deadlineBroadcast queue.broadcast
  | purge : QueueMoved queue .purge (purgeDoneWaitersLocked queue)
  | closeListener : QueueMoved queue .closeListener { queue with quit := true }.broadcast
  | finish (wait : WaiterId) (closeConn : Bool) (known : wait < queue.nextWaiter) :
      QueueMoved queue (.finish wait closeConn) (queue.finishWaiter wait closeConn)

theorem queue_step_moved (queue next : WaitQueue) (event : QueueEvent) (stepped : queueStep queue event = some next) :
    QueueMoved queue event next := by
  have move : ∀ event g source target, queue.goroutines g = source → PcMove queue source target → source ≠ .idle →
      QueueMoved queue event (queue.setPc g target) := by
    intro event g source target entered moved inside
    exact .move event g target (entered ▸ moved) fun idle => absurd (entered.symm.trans idle) inside
  have finishing : ∀ event g source wait closeConn target, queue.goroutines g = source →
      FinishMove source wait closeConn target →
      QueueMoved queue event ((queue.finishWaiter wait closeConn).setPc g target) := by
    intro event g source wait closeConn target entered moved
    exact .finishing event g wait closeConn target (entered ▸ moved)
  cases event with
  | handleClient g =>
      simp only [queueStep] at stepped
      split at stepped <;> cases stepped
      exact .issue g (by assumption)
  | handleIncoming g =>
      simp only [queueStep] at stepped
      split at stepped <;> cases stepped
      rename_i entered
      exact .move _ g _ (entered ▸ .incoming) fun _ => rfl
  | lockQueue g late =>
      simp only [queueStep] at stepped
      split at stepped <;> cases stepped
      · exact .enqueue g late _ (by assumption)
      · exact .acquire g late (by assumption)
  | seeDone g =>
      simp only [queueStep] at stepped
      split at stepped
      · split at stepped <;> cases stepped
        exact move _ g _ _ (by assumption) (.selectingDone _ (by assumption)) (by rintro ⟨⟩)
      · split at stepped <;> cases stepped
        exact move _ g _ _ (by assumption) (.acquiredDone _ (by assumption)) (by rintro ⟨⟩)
      · cases stepped
  | seeQuit g =>
      simp only [queueStep] at stepped
      split at stepped
      · split at stepped <;> cases stepped
        exact move _ g _ _ (by assumption) (.selectingQuit _ (by assumption)) (by rintro ⟨⟩)
      · split at stepped <;> cases stepped
        exact move _ g _ _ (by assumption) (.acquiredQuit _ (by assumption)) (by rintro ⟨⟩)
      · cases stepped
  | seeAcquired g =>
      simp only [queueStep] at stepped
      split at stepped
      · split at stepped <;> cases stepped
        rename_i entered ready
        exact move _ g _ _ entered (.acquired _ ready.1 ready.2) (by rintro ⟨⟩)
      · cases stepped
  | timerFires g =>
      simp only [queueStep] at stepped
      split at stepped
      · split at stepped <;> cases stepped
        exact move _ g _ _ (by assumption) (.timer _ (by assumption)) (by rintro ⟨⟩)
      · cases stepped
  | checkAcquired g =>
      simp only [queueStep] at stepped
      split at stepped <;> cases stepped
      rename_i wait entered
      by_cases flag : (queue.waiters wait).acquired = true
      · rw [if_pos flag]
        exact move _ g _ _ entered (.reprieve wait flag) (by rintro ⟨⟩)
      · rw [if_neg flag]
        exact move _ g _ _ entered (.expire wait (Bool.eq_false_iff.mpr flag)) (by rintro ⟨⟩)
  | finishExpired g =>
      simp only [queueStep] at stepped
      split at stepped <;> cases stepped
      exact finishing _ g _ _ _ _ (by assumption) (.expired _)
  | purgeExpired g =>
      simp only [queueStep] at stepped
      split at stepped <;> cases stepped
      exact .purgeExpired g _ (by assumption)
  | finishClosing g =>
      simp only [queueStep] at stepped
      split at stepped <;> cases stepped
      exact finishing _ g _ _ _ _ (by assumption) (.closing _)
  | finishForward g =>
      simp only [queueStep] at stepped
      split at stepped <;> cases stepped
      exact finishing _ g _ _ _ _ (by assumption) (.forward _)
  | deadlineBroadcast =>
      cases stepped
      exact .deadlineBroadcast
  | purge =>
      cases stepped
      exact .purge
  | closeListener =>
      cases stepped
      exact .closeListener
  | finish wait closeConn =>
      simp only [queueStep] at stepped
      split at stepped <;> cases stepped
      exact .finish wait closeConn (by assumption)

end WarpStream
