import WarpStream.IdlePeriods
import WarpStream.Transition

set_option autoImplicit false

namespace WarpStream

open Transition

def idlePeriod (timeout : Int64) : Nat := (newIdleTimeoutConn timeout).toInt.toNat

theorem idle_period_positive (timeout : Int64) : 0 < idlePeriod timeout := by
  rw [idlePeriod, newIdleTimeoutConn]
  by_cases absent : timeout ≤ 0
  · rw [if_pos absent]
    decide
  · rw [if_neg absent]
    have positive : ¬ timeout.toInt ≤ 0 := fun below => absent (Int64.le_iff_toInt_le.mpr below)
    omega

-- The calls of one kind are alike, so they are counted: touching are the Reads
-- and Writes that have moved bytes and wait for mu, closers and callbacks the
-- Closes that wait for it, of a caller and of the timer, closing those behind
-- their section. timer is the time at which an armed timer is due.
structure IdleTimeoutConn where
  timeout : Int64
  clock : Nat
  timer : Option Nat
  closed : Bool
  touching : Nat
  closers : Nat
  callbacks : Nat
  closing : Nat
  underlyingCloses : Nat
deriving DecidableEq, Repr

def newIdleConn (timeout : Int64) (clock : Nat) : IdleTimeoutConn :=
  ⟨timeout, clock, some (clock + idlePeriod timeout), false, 0, 0, 0, 0, 0⟩

inductive CloseCaller where
  | user
  | timer
deriving DecidableEq, Repr

def IdleTimeoutConn.waiting (conn : IdleTimeoutConn) : CloseCaller → Nat
  | .user => conn.closers
  | .timer => conn.callbacks

def IdleTimeoutConn.leave (conn : IdleTimeoutConn) : CloseCaller → IdleTimeoutConn
  | .user => { conn with closers := conn.closers - 1 }
  | .timer => { conn with callbacks := conn.callbacks - 1 }

-- A Reset of a timer whose callback has started arms it once more.
def IdleTimeoutConn.touch (conn : IdleTimeoutConn) : IdleTimeoutConn :=
  if conn.closed then conn else { conn with timer := some (conn.clock + idlePeriod conn.timeout) }

def IdleTimeoutConn.closeSection (conn : IdleTimeoutConn) : IdleTimeoutConn :=
  if conn.closed then conn else { conn with closed := true, timer := none, closing := conn.closing + 1 }

inductive IdleEvent where
  | tick (elapsed : Nat)
  | moved (count : Nat)
  | touch
  | close
  | fire
  | closeSection (caller : CloseCaller)
  | closeUnderlying
deriving DecidableEq, Repr

def idleStep : Step IdleTimeoutConn IdleEvent := fun conn event =>
  match event with
  | .tick elapsed => some { conn with clock := conn.clock + elapsed }
  | .moved count => some (if 0 < count then { conn with touching := conn.touching + 1 } else conn)
  | .touch => if 0 < conn.touching then some { conn.touch with touching := conn.touching - 1 } else none
  | .close => some { conn with closers := conn.closers + 1 }
  | .fire =>
      match conn.timer with
      | some due => if due ≤ conn.clock then some { conn with timer := none, callbacks := conn.callbacks + 1 } else none
      | none => none
  | .closeSection caller => if 0 < conn.waiting caller then some (conn.leave caller).closeSection else none
  | .closeUnderlying =>
      if 0 < conn.closing then
        some { conn with closing := conn.closing - 1, underlyingCloses := conn.underlyingCloses + 1 }
      else none

-- What a step does to the flag, the timer and the Close behind the flag. The
-- clock of the other steps stands.
inductive IdleMoved (conn : IdleTimeoutConn) : IdleEvent → IdleTimeoutConn → Prop where
  | quiet (event : IdleEvent) (next : IdleTimeoutConn) (untouched : event ≠ .touch) (unfired : event ≠ .fire)
      (later : conn.clock ≤ next.clock) (timeout : next.timeout = conn.timeout) (timer : next.timer = conn.timer)
      (closed : next.closed = conn.closed)
      (closes : next.closing + next.underlyingCloses = conn.closing + conn.underlyingCloses) : IdleMoved conn event next
  | touchedClosed (next : IdleTimeoutConn) (closed : conn.closed = true)
      (same : next = { conn with touching := conn.touching - 1 }) : IdleMoved conn .touch next
  | touched (next : IdleTimeoutConn) (opened : conn.closed = false)
      (armed : next = { conn with timer := some (conn.clock + idlePeriod conn.timeout), touching := conn.touching - 1 }) :
      IdleMoved conn .touch next
  | fired (next : IdleTimeoutConn) (due : Nat) (armed : conn.timer = some due) (passed : due ≤ conn.clock)
      (started : next = { conn with timer := none, callbacks := conn.callbacks + 1 }) : IdleMoved conn .fire next
  | shut (caller : CloseCaller) (next : IdleTimeoutConn) (opened : conn.closed = false) (clock : next.clock = conn.clock)
      (timeout : next.timeout = conn.timeout) (timer : next.timer = none) (closed : next.closed = true)
      (closes : next.closing + next.underlyingCloses = conn.closing + conn.underlyingCloses + 1) :
      IdleMoved conn (.closeSection caller) next

theorem close_section_moved (conn : IdleTimeoutConn) (caller : CloseCaller) :
    IdleMoved conn (.closeSection caller) (conn.leave caller).closeSection := by
  have kept : (conn.leave caller).closed = conn.closed := by cases caller <;> rfl
  rw [IdleTimeoutConn.closeSection]
  by_cases closed : conn.closed = true
  · rw [if_pos (kept.trans closed)]
    cases caller <;> exact .quiet _ _ (by decide) (by decide) (Nat.le_refl _) rfl rfl rfl rfl
  · have opened : conn.closed = false := Bool.eq_false_iff.mpr closed
    rw [if_neg (by rw [kept]; exact closed)]
    cases caller <;> exact .shut _ _ opened rfl rfl rfl rfl (Nat.add_right_comm _ _ _)

theorem idle_step_moved (conn next : IdleTimeoutConn) (event : IdleEvent) (stepped : idleStep conn event = some next) :
    IdleMoved conn event next := by
  cases event with
  | tick elapsed =>
      cases stepped
      exact .quiet _ _ (by simp) (by simp) (Nat.le_add_right _ _) rfl rfl rfl rfl
  | moved count =>
      cases stepped
      by_cases some : 0 < count
      · rw [if_pos some]
        exact .quiet _ _ (by simp) (by simp) (Nat.le_refl _) rfl rfl rfl rfl
      · rw [if_neg some]
        exact .quiet _ _ (by simp) (by simp) (Nat.le_refl _) rfl rfl rfl rfl
  | touch =>
      obtain ⟨_, moved⟩ := Option.ite_none_right_eq_some.mp stepped
      cases moved
      rw [IdleTimeoutConn.touch]
      by_cases closed : conn.closed = true
      · rw [if_pos closed]
        exact .touchedClosed _ closed rfl
      · rw [if_neg closed]
        exact .touched _ (Bool.eq_false_iff.mpr closed) rfl
  | close =>
      cases stepped
      exact .quiet _ _ (by simp) (by simp) (Nat.le_refl _) rfl rfl rfl rfl
  | fire =>
      cases armed : conn.timer with
      | none => simp [idleStep, armed] at stepped
      | some due =>
          simp only [idleStep, armed] at stepped
          obtain ⟨passed, moved⟩ := Option.ite_none_right_eq_some.mp stepped
          cases moved
          exact .fired _ due armed passed rfl
  | closeSection caller =>
      obtain ⟨_, moved⟩ := Option.ite_none_right_eq_some.mp stepped
      cases moved
      exact close_section_moved conn caller
  | closeUnderlying =>
      obtain ⟨pending, moved⟩ := Option.ite_none_right_eq_some.mp stepped
      cases moved
      refine .quiet _ _ (by simp) (by simp) (Nat.le_refl _) rfl rfl rfl ?_
      simp only
      omega

-- The flag is set together with the one Close that it stands for, and stops the
-- timer.
structure ClosesOnce (timeout : Int64) (conn : IdleTimeoutConn) : Prop where
  period : conn.timeout = timeout
  once : conn.closing + conn.underlyingCloses = if conn.closed then 1 else 0
  stopped : conn.closed = true → conn.timer = none

theorem closes_once_step (timeout : Int64) (conn : IdleTimeoutConn) (event : IdleEvent) (next : IdleTimeoutConn)
    (sound : ClosesOnce timeout conn) (stepped : idleStep conn event = some next) : ClosesOnce timeout next := by
  obtain ⟨period, once, stopped⟩ := sound
  cases idle_step_moved conn next event stepped with
  | quiet _ _ _ _ _ sameTimeout timer closed closes =>
      refine ⟨sameTimeout.trans period, ?_, ?_⟩
      · rw [closes, closed]
        exact once
      · rw [timer, closed]
        exact stopped
  | touchedClosed _ _ same =>
      rw [same]
      exact ⟨period, once, stopped⟩
  | touched _ opened armed =>
      rw [armed]
      refine ⟨period, once, ?_⟩
      intro closed
      cases opened.symm.trans closed
  | fired _ _ _ _ started =>
      rw [started]
      exact ⟨period, once, fun _ => rfl⟩
  | shut _ _ opened _ sameTimeout timer closed closes =>
      refine ⟨sameTimeout.trans period, ?_, fun _ => timer⟩
      rw [opened] at once
      rw [closes, once, closed]
      rfl

theorem closes_once_run (timeout : Int64) (start : Nat) (events : List IdleEvent) (last : IdleTimeoutConn)
    (ran : run idleStep (newIdleConn timeout start) events = some last) : ClosesOnce timeout last :=
  run_preserves idleStep (ClosesOnce timeout) (closes_once_step timeout) _ last events ⟨rfl, rfl, by rintro ⟨⟩⟩ ran

-- From the given time on, no timer is due before a whole period has passed.
structure Rested (timeout : Int64) (since : Nat) (conn : IdleTimeoutConn) : Prop where
  period : conn.timeout = timeout
  reached : since ≤ conn.clock
  due : ∀ due, conn.timer = some due → since + idlePeriod timeout ≤ due

theorem rested_step (timeout : Int64) (since : Nat) (conn : IdleTimeoutConn) (event : IdleEvent) (next : IdleTimeoutConn)
    (rested : Rested timeout since conn) (stepped : idleStep conn event = some next) : Rested timeout since next := by
  obtain ⟨period, reached, due⟩ := rested
  cases idle_step_moved conn next event stepped with
  | quiet _ _ _ _ later sameTimeout timer _ _ =>
      refine ⟨sameTimeout.trans period, Nat.le_trans reached later, ?_⟩
      rw [timer]
      exact due
  | touchedClosed _ _ same =>
      rw [same]
      exact ⟨period, reached, due⟩
  | touched _ _ armed =>
      rw [armed]
      refine ⟨period, reached, ?_⟩
      rintro _ ⟨⟩
      rw [period]
      exact Nat.add_le_add_right reached _
  | fired _ _ _ _ started =>
      rw [started]
      exact ⟨period, reached, by rintro _ ⟨⟩⟩
  | shut _ _ _ clock sameTimeout timer _ _ =>
      refine ⟨sameTimeout.trans period, by rw [clock]; exact reached, ?_⟩
      rw [timer]
      rintro _ ⟨⟩

-- A touch arms the timer anew, or comes to a closed connection, which has none.
theorem touch_rests (timeout : Int64) (conn next : IdleTimeoutConn) (sound : ClosesOnce timeout conn)
    (stepped : idleStep conn .touch = some next) : Rested timeout conn.clock next := by
  obtain ⟨period, _, stopped⟩ := sound
  cases idle_step_moved conn next .touch stepped with
  | quiet _ _ untouched => exact absurd rfl untouched
  | touchedClosed _ closed same =>
      rw [same]
      refine ⟨period, Nat.le_refl _, ?_⟩
      rw [stopped closed]
      rintro _ ⟨⟩
  | touched _ _ armed =>
      rw [armed]
      refine ⟨period, Nat.le_refl _, ?_⟩
      rintro _ ⟨⟩
      exact Nat.le_of_eq (by rw [period])

theorem rested_fire (timeout : Int64) (since : Nat) (conn next : IdleTimeoutConn) (rested : Rested timeout since conn)
    (stepped : idleStep conn .fire = some next) : since + idlePeriod timeout ≤ conn.clock := by
  cases idle_step_moved conn next .fire stepped with
  | quiet _ _ _ unfired => exact absurd rfl unfired
  | fired _ due armed passed _ => exact Nat.le_trans (rested.due due armed) passed

theorem closed_stays (conn : IdleTimeoutConn) (event : IdleEvent) (next : IdleTimeoutConn) (closed : conn.closed = true)
    (stepped : idleStep conn event = some next) : next.closed = true := by
  cases idle_step_moved conn next event stepped with
  | quiet _ _ _ _ _ _ _ same _ => exact same.trans closed
  | touchedClosed _ _ same => rw [same]; exact closed
  | touched _ _ armed => rw [armed]; exact closed
  | fired _ _ _ _ started => rw [started]; exact closed
  | shut _ _ _ _ _ _ shut _ => exact shut

theorem idle_closing_after_idleness (timeout : Int64) (start : Nat) (before : List IdleEvent) (conn : IdleTimeoutConn)
    (ran : run idleStep (newIdleConn timeout start) before = some conn) :
    0 < idlePeriod timeout ∧ conn.underlyingCloses ≤ 1 ∧
    (∀ next, idleStep conn .fire = some next →
      start + idlePeriod timeout ≤ conn.clock ∧
        ∀ earlier later touched, before = earlier ++ .touch :: later →
          run idleStep (newIdleConn timeout start) earlier = some touched → touched.clock + idlePeriod timeout ≤ conn.clock) ∧
    (conn.closed = true → ∀ after last, run idleStep conn after = some last → last.closed = true ∧ last.timer = none) := by
  have sound := closes_once_run timeout start before conn ran
  refine ⟨idle_period_positive timeout, ?_, ?_, ?_⟩
  · have once := sound.once
    split at once <;> omega
  · intro next stepped
    constructor
    · have created : Rested timeout start (newIdleConn timeout start) := ⟨rfl, Nat.le_refl _, by rintro _ ⟨⟩; exact Nat.le_refl _⟩
      exact rested_fire timeout start conn next (run_preserves idleStep _ (rested_step timeout start) _ conn before created ran) stepped
    · rintro earlier later touched rfl reached
      rw [run_append idleStep _ touched earlier _ reached] at ran
      obtain ⟨middle, touching, finished⟩ := (run_cons_some idleStep touched conn .touch later).mp ran
      have rests := touch_rests timeout touched middle (closes_once_run timeout start earlier touched reached) touching
      exact rested_fire timeout touched.clock conn next
        (run_preserves idleStep _ (rested_step timeout touched.clock) middle conn later rests finished) stepped
  · intro closed after last continued
    have whole : run idleStep (newIdleConn timeout start) (before ++ after) = some last := by
      rw [run_append idleStep _ conn before after ran]
      exact continued
    have shut := run_preserves idleStep (·.closed = true) closed_stays conn last after closed continued
    exact ⟨shut, (closes_once_run timeout start _ last whole).stopped shut⟩

-- Bytes that move while the callback waits for mu arm the timer once more; the
-- callback closes all the same, and the touch that comes last finds it closed.
def idleRun : List IdleEvent :=
  [.moved 3, .tick 2, .touch, .tick 5, .fire, .moved 1, .touch, .moved 1, .closeSection .timer, .close, .closeUnderlying,
    .touch, .closeSection .user, .tick 9]

theorem idle_closing_of_five :
    ∃ conn, run idleStep (newIdleConn 5 0) idleRun = some conn ∧ conn.underlyingCloses ≤ 1 ∧ conn.timer = none := by
  have closes := idle_closing_after_idleness 5 0 idleRun ⟨5, 16, none, true, 0, 0, 0, 0, 1⟩ (by decide)
  exact ⟨_, by decide, closes.2.1, (closes.2.2.2 rfl [] _ rfl).2⟩

end WarpStream
