import WarpStream.Accounting
import WarpStream.HandlerLife

set_option autoImplicit false

namespace WarpStream

open GoSlice Transition

-- Where runListener or runUdpListener stands: an error of Accept makes it shut
-- the listener down, take it out of the map and close the socket.
inductive AcceptPc where
  | unborn
  | accepting
  | failing
  | removing
  | leaving
  | ended
deriving DecidableEq, Repr

-- Where the reaper or Close stands with a listener that it has deleted from the
-- map: closeTunnelListener raises quit first and closes the socket after that.
inductive ClosingPc where
  | idle
  | taken
  | quitting
deriving DecidableEq, Repr

structure ListenerLife where
  manager : Manager
  sockets : ListenerId → Bool
  loops : ListenerId → AcceptPc
  closing : ListenerId → ClosingPc

def newListenerLife (idleTimeout : Int) : ListenerLife :=
  ⟨newManager idleTimeout, fun _ => false, fun _ => .unborn, fun _ => .idle⟩

def ManagerEvent.isService : ManagerEvent → Bool
  | .enqueue _ | .touch _ _ | .beginIncoming _ _ | .endIncoming _ _ => true
  | .queue _ event => decide (event ≠ .closeListener)
  | _ => false

inductive LifeEvent where
  | join (goroutine : GoroutineId) (client : Client) (listens : Bool) (now : Nat)
  | serve (event : ManagerEvent)
  | reap (now : Nat)
  | close
  | quitTaken (listener : ListenerId)
  | closeTaken (listener : ListenerId)
  | acceptFails (listener : ListenerId)
  | loopQuits (listener : ListenerId)
  | loopRemoves (listener : ListenerId)
  | loopCloses (listener : ListenerId)

def ListenerLife.take (state : ListenerLife) (next : Manager) : ListenerLife :=
  { state with
    manager := next
    closing := fun listener =>
      if state.manager.current listener && !next.current listener then .taken else state.closing listener }

def ListenerLife.born (state : ListenerLife) (next : Manager) : ListenerLife :=
  if state.manager.nextListener < next.nextListener then
    { state with
      manager := next
      sockets := Function.update state.sockets state.manager.nextListener true
      loops := Function.update state.loops state.manager.nextListener .accepting }
  else { state with manager := next }

def lifeStep : Step ListenerLife LifeEvent := fun state event =>
  match event with
  | .join g client listens now => (managerStep state.manager (.join g client listens now)).map state.born
  | .serve event => if event.isService then (managerStep state.manager event).map fun next => { state with manager := next } else none
  | .reap now => (managerStep state.manager (.reap now)).map state.take
  | .close => (managerStep state.manager .close).map state.take
  | .quitTaken listener =>
      if state.closing listener = .taken then
        (managerStep state.manager (.queue listener .closeListener)).map fun next =>
          { state with manager := next, closing := Function.update state.closing listener .quitting }
      else none
  | .closeTaken listener =>
      if state.closing listener = .quitting then
        some { state with
          sockets := Function.update state.sockets listener false
          closing := Function.update state.closing listener .idle }
      else none
  | .acceptFails listener =>
      if state.loops listener = .accepting then some { state with loops := Function.update state.loops listener .failing } else none
  | .loopQuits listener =>
      if state.loops listener = .failing then
        (managerStep state.manager (.queue listener .closeListener)).map fun next =>
          { state with manager := next, loops := Function.update state.loops listener .removing }
      else none
  | .loopRemoves listener =>
      if state.loops listener = .removing then
        (managerStep state.manager (.unregister listener)).map fun next =>
          { state with manager := next, loops := Function.update state.loops listener .leaving }
      else none
  | .loopCloses listener =>
      if state.loops listener = .leaving then
        some { state with
          sockets := Function.update state.sockets listener false
          loops := Function.update state.loops listener .ended }
      else none

-- One listener, seen apart from all others.
structure LifeView where
  current : Bool
  quit : Bool
  socket : Bool
  loop : AcceptPc
  closing : ClosingPc
deriving DecidableEq, Repr

def ListenerLife.view (state : ListenerLife) (listener : ListenerId) : LifeView where
  current := state.manager.current listener
  quit := (state.manager.store listener).queue.quit
  socket := state.sockets listener
  loop := state.loops listener
  closing := state.closing listener

inductive ViewStep : LifeView → LifeView → Prop where
  | stay (view : LifeView) : ViewStep view view
  | born (view : LifeView) (place : view.loop = .unborn) :
      ViewStep view { view with current := true, quit := false, socket := true, loop := .accepting }
  | take (view : LifeView) (registered : view.current = true) : ViewStep view { view with current := false, closing := .taken }
  | quitTaken (view : LifeView) (taken : view.closing = .taken) : ViewStep view { view with quit := true, closing := .quitting }
  | closeTaken (view : LifeView) (quitting : view.closing = .quitting) : ViewStep view { view with socket := false, closing := .idle }
  | fail (view : LifeView) (place : view.loop = .accepting) : ViewStep view { view with loop := .failing }
  | quit (view : LifeView) (place : view.loop = .failing) : ViewStep view { view with quit := true, loop := .removing }
  | remove (view : LifeView) (place : view.loop = .removing) : ViewStep view { view with current := false, loop := .leaving }
  | leave (view : LifeView) (place : view.loop = .leaving) : ViewStep view { view with socket := false, loop := .ended }

def AcceptPc.quits : AcceptPc → Bool
  | .removing | .leaving | .ended => true
  | _ => false

-- A registered listener is up, or is being removed by its own loop; an open
-- socket that is not registered has somebody who closes it; and who closes it has
-- raised quit before.
structure ViewSound (view : LifeView) : Prop where
  unborn : view.loop = .unborn → view.current = false ∧ view.socket = false ∧ view.closing = .idle
  up : view.current = true → view.socket = true ∧ view.closing = .idle ∧
    ((view.loop = .accepting ∨ view.loop = .failing) ∧ view.quit = false ∨ view.loop = .removing ∧ view.quit = true)
  closes : view.current = false → view.socket = true → view.closing ≠ .idle ∨ view.loop = .leaving
  quits : view.closing = .quitting ∨ view.loop.quits = true ∨ (view.loop ≠ .unborn ∧ view.socket = false) → view.quit = true

theorem view_step_sound (view next : LifeView) (sound : ViewSound view) (stepped : ViewStep view next) : ViewSound next := by
  obtain ⟨current, quit, socket, loop, closing⟩ := view
  obtain ⟨unborn, up, closes, quits⟩ := sound
  dsimp only at unborn up closes quits
  cases stepped with
  | stay => exact ⟨unborn, up, closes, quits⟩
  | born place =>
      obtain ⟨_, _, idle⟩ := unborn place
      exact ⟨by rintro ⟨⟩, fun _ => ⟨rfl, idle, .inl ⟨.inl rfl, rfl⟩⟩, by rintro ⟨⟩, by simp [idle, AcceptPc.quits]⟩
  | take registered =>
      obtain ⟨opened, idle, places⟩ := up registered
      refine ⟨fun place => ?_, by rintro ⟨⟩, fun _ _ => .inl (by rintro ⟨⟩), fun ends => ?_⟩
      · cases (unborn place).1.symm.trans registered
      · rcases ends with ⟨⟨⟩⟩ | ends
        exact quits (.inr ends)
  | quitTaken taken =>
      refine ⟨fun place => ?_, fun registered => ?_, fun _ _ => .inl (by rintro ⟨⟩), fun _ => rfl⟩
      · cases (unborn place).2.2.symm.trans taken
      · cases (up registered).2.1.symm.trans taken
  | closeTaken quitting =>
      refine ⟨fun place => ?_, fun registered => ?_, by rintro _ ⟨⟩, fun _ => quits (.inl quitting)⟩
      · cases (unborn place).2.2.symm.trans quitting
      · cases (up registered).2.1.symm.trans quitting
  | fail place =>
      subst place
      refine ⟨by rintro ⟨⟩, fun registered => ?_, fun gone opened => ?_, fun ends => ?_⟩
      · obtain ⟨opened, idle, ⟨_, running⟩ | ⟨⟨⟩, _⟩⟩ := up registered
        exact ⟨opened, idle, .inl ⟨.inr rfl, running⟩⟩
      · obtain taken | ⟨⟨⟩⟩ := closes gone opened
        exact .inl taken
      · rcases ends with quitting | ⟨⟨⟩⟩ | ⟨_, closed⟩
        · exact quits (.inl quitting)
        · exact quits (.inr (.inr ⟨by rintro ⟨⟩, closed⟩))
  | quit place =>
      subst place
      refine ⟨by rintro ⟨⟩, fun registered => ?_, fun gone opened => ?_, fun _ => rfl⟩
      · obtain ⟨opened, idle, _⟩ := up registered
        exact ⟨opened, idle, .inr ⟨rfl, rfl⟩⟩
      · obtain taken | ⟨⟨⟩⟩ := closes gone opened
        exact .inl taken
  | remove place =>
      subst place
      exact ⟨by rintro ⟨⟩, by rintro ⟨⟩, fun _ _ => .inr rfl, fun _ => quits (.inr (.inl rfl))⟩
  | leave place =>
      subst place
      refine ⟨by rintro ⟨⟩, fun registered => ?_, by rintro _ ⟨⟩, fun _ => quits (.inr (.inl rfl))⟩
      obtain ⟨_, _, ⟨⟨⟨⟩⟩ | ⟨⟨⟩⟩, _⟩ | ⟨⟨⟩, _⟩⟩ := up registered

structure LifeSound (state : ListenerLife) : Prop where
  unborn : ∀ listener, state.manager.nextListener ≤ listener → state.loops listener = .unborn
  views : ∀ listener, ViewSound (state.view listener)

-- What the manager's own step may do to a listener.
def SameView (manager next : Manager) (listener : ListenerId) : Prop :=
  next.current listener = manager.current listener ∧
    (next.store listener).queue.quit = (manager.store listener).queue.quit

theorem set_listener_view (manager : Manager) (target : ListenerId) (value : TunnelListener)
    (addr : value.addr = (manager.store target).addr) (listener : ListenerId)
    (quit : value.queue.quit = (manager.store target).queue.quit) :
    SameView manager (manager.setListener target value) listener := by
  have stored := set_listener_store manager target listener value
  by_cases same : listener = target
  · subst same
    rw [if_pos rfl] at stored
    refine ⟨?_, ?_⟩
    · rw [Manager.current, Manager.current, stored, addr]
      rfl
    · rw [stored, quit]
  · rw [if_neg same] at stored
    refine ⟨?_, ?_⟩
    · rw [Manager.current, Manager.current, stored]
      rfl
    · rw [stored]

theorem step_queue_view (manager next : Manager) (target : ListenerId) (event : QueueEvent) (other : event ≠ .closeListener)
    (stepped : manager.stepQueue target event = some next) (listener : ListenerId) : SameView manager next listener := by
  obtain ⟨queue, moved, rfl⟩ := Option.map_eq_some_iff.mp stepped
  exact set_listener_view manager target _ (by rfl) listener (queue_step_keeps_quit _ queue event other moved)

theorem service_view (manager next : Manager) (event : ManagerEvent) (service : event.isService = true)
    (stepped : managerStep manager event = some next) (listener : ListenerId) : SameView manager next listener := by
  cases event with
  | enqueue g =>
      simp only [managerStep] at stepped
      split at stepped
      · obtain ⟨middle, moved, rfl⟩ := Option.map_eq_some_iff.mp stepped
        exact step_queue_view manager middle _ _ (by rintro ⟨⟩) moved listener
      · cases stepped
  | queue target event =>
      simp only [managerStep] at stepped
      split at stepped
      · cases stepped
      · exact step_queue_view manager next target event (of_decide_eq_true service) stepped listener
  | touch target now =>
      cases stepped
      rw [touchListener]
      split
      · exact set_listener_view manager target _ (by rfl) listener (by rfl)
      · exact ⟨rfl, rfl⟩
  | beginIncoming target now | endIncoming target now =>
      cases stepped
      simp only [beginIncoming, updateActivePipes]
      split
      · exact set_listener_view manager target _ (by rfl) listener (by rfl)
      · exact ⟨rfl, rfl⟩
  | join | reap | unregister | close => cases service

theorem view_eq (state : ListenerLife) (next : Manager) (listener : ListenerId) (same : SameView state.manager next listener) :
    ({ state with manager := next } : ListenerLife).view listener = state.view listener := by
  simp only [ListenerLife.view, same.1, same.2]

theorem taken_view (state : ListenerLife) (next : Manager) (listener : ListenerId)
    (shrinks : next.current listener = true → state.manager.current listener = true)
    (quit : (next.store listener).queue.quit = (state.manager.store listener).queue.quit) :
    ViewStep (state.view listener) ((state.take next).view listener) := by
  cases before : state.manager.current listener with
  | false =>
      have after : next.current listener = false := by
        cases still : next.current listener with
        | false => rfl
        | true => cases before.symm.trans (shrinks still)
      have same : (state.take next).view listener = state.view listener := by
        simp [ListenerLife.view, ListenerLife.take, before, after, quit]
      exact same ▸ .stay _
  | true =>
      cases after : next.current listener with
      | true =>
          have same : (state.take next).view listener = state.view listener := by
            simp [ListenerLife.view, ListenerLife.take, before, after, quit]
          exact same ▸ .stay _
      | false =>
          have moved : (state.take next).view listener = { state.view listener with current := false, closing := .taken } := by
            simp [ListenerLife.view, ListenerLife.take, before, after, quit]
          exact moved ▸ .take _ before

theorem join_moved (manager next : Manager) (g : GoroutineId) (client : Client) (listens : Bool) (now : Nat)
    (stepped : managerStep manager (.join g client listens now) = some next) :
    (next.nextListener = manager.nextListener ∧ next.listeners = manager.listeners ∧ ∀ listener, SameView manager next listener) ∨
      ∃ addr, manager.listeners addr = none ∧ next.listeners = Function.update manager.listeners addr (some manager.nextListener) ∧
        next.nextListener = manager.nextListener + 1 ∧ (next.store manager.nextListener).addr = addr ∧
        (next.store manager.nextListener).queue.quit = false ∧
        ∀ other, other ≠ manager.nextListener → next.store other = manager.store other := by
  simp only [managerStep] at stepped
  split at stepped
  · cases stepped
    simp only [getOrCreateListener]
    split
    · rename_i target _
      refine .inl ⟨rfl, rfl, fun listener => ?_⟩
      exact set_listener_view manager target _ (by rfl) listener (by rfl)
    · rename_i free
      split
      · refine .inr ⟨(bindTarget client.claims).addr, free, rfl, rfl, ?_, ?_, ?_⟩
        · simp only [Manager.setListener, Function.update_self]
          rfl
        · simp only [Manager.setListener, Function.update_self]
          rfl
        · intro other different
          simp only [Manager.setListener, Function.update_of_ne different]
      · exact .inl ⟨rfl, rfl, fun _ => ⟨rfl, rfl⟩⟩
  · cases stepped

-- The listener that was created is born, and the view of no other one changes.
theorem born_view (state : ListenerLife) (sound : LifeSound state) (next : Manager) (g : GoroutineId) (client : Client) (listens : Bool)
    (now : Nat) (stepped : managerStep state.manager (.join g client listens now) = some next) (listener : ListenerId) :
    ViewStep (state.view listener) ((state.born next).view listener) := by
  rcases join_moved state.manager next g client listens now stepped with ⟨count, _, same⟩ | ⟨addr, free, map, count, own, quit, others⟩
  · rw [ListenerLife.born, if_neg (by omega), view_eq state next listener (same listener)]
    exact .stay _
  · rw [ListenerLife.born, if_pos (by omega)]
    by_cases fresh : listener = state.manager.nextListener
    · subst fresh
      have current : next.current state.manager.nextListener = true := by
        rw [Manager.current, own, map, Function.update_self]
        exact decide_eq_true rfl
      have moved : (ListenerLife.view { state with
          manager := next
          sockets := Function.update state.sockets state.manager.nextListener true
          loops := Function.update state.loops state.manager.nextListener .accepting } state.manager.nextListener) =
          { state.view state.manager.nextListener with current := true, quit := false, socket := true, loop := .accepting } := by
        simp only [ListenerLife.view, current, quit, Function.update_self]
      rw [moved]
      exact .born _ (sound.unborn _ (Nat.le_refl _))
    · have current : next.current listener = state.manager.current listener := by
        rw [Manager.current, Manager.current, others listener fresh, map]
        by_cases named : (state.manager.store listener).addr = addr
        · rw [named, Function.update_self, free]
          exact decide_eq_decide.mpr ⟨fun same => absurd (Option.some.inj same).symm fresh, by rintro ⟨⟩⟩
        · rw [Function.update_of_ne named]
      have same : (ListenerLife.view { state with
          manager := next
          sockets := Function.update state.sockets state.manager.nextListener true
          loops := Function.update state.loops state.manager.nextListener .accepting } listener) = state.view listener := by
        simp only [ListenerLife.view, current, others listener fresh, Function.update_of_ne fresh]
      rw [same]
      exact .stay _

-- closeTunnelListener raises quit and does no more to the map.
theorem close_listener_moved (manager next : Manager) (target : ListenerId)
    (stepped : managerStep manager (.queue target .closeListener) = some next) :
    next.listeners = manager.listeners ∧ next.nextListener = manager.nextListener ∧
      (∀ listener, next.current listener = manager.current listener) ∧
      ∀ listener, (next.store listener).queue.quit =
        if listener = target then true else (manager.store listener).queue.quit := by
  cases stepped
  refine ⟨rfl, rfl, fun listener => ?_, fun listener => ?_⟩
  · have stored := set_listener_store manager target listener
      { manager.store target with queue := ({ (manager.store target).queue with quit := true } : WaitQueue).broadcast }
    rw [Manager.current, Manager.current, stored]
    split
    · rename_i same
      subst same
      rfl
    · rfl
  · have stored := set_listener_store manager target listener
      { manager.store target with queue := ({ (manager.store target).queue with quit := true } : WaitQueue).broadcast }
    rw [stored]
    split <;> rfl

theorem unregister_store (manager : Manager) (target : ListenerId) : (unregister manager target).store = manager.store := by
  rw [unregister]
  split <;> rfl

theorem unregister_current (manager : Manager) (target listener : ListenerId) :
    (unregister manager target).current listener = (manager.current listener && decide (listener ≠ target)) := by
  rw [unregister]
  split
  · rename_i registered
    have own := of_decide_eq_true registered
    rw [Bool.eq_iff_iff]
    simp only [Manager.current, Bool.and_eq_true, decide_eq_true_eq, Function.update_apply]
    split
    · rename_i named
      rw [named, own]
      simp only [reduceCtorEq, false_iff, Option.some.injEq, not_and, not_not]
      exact Eq.symm
    · rename_i named
      have different : listener ≠ target := fun same => named (by rw [same])
      simp [different]
  · rename_i gone
    by_cases same : listener = target
    · rw [same, Bool.eq_false_iff.mpr gone]
      rfl
    · simp [same]

theorem view_step_at (state next : ListenerLife) (target listener : ListenerId)
    (moved : ViewStep (state.view target) (next.view target))
    (others : ∀ other, other ≠ target → next.view other = state.view other) : ViewStep (state.view listener) (next.view listener) := by
  by_cases same : listener = target
  · exact same ▸ moved
  · rw [others listener same]
    exact .stay _

theorem life_step_view (state : ListenerLife) (event : LifeEvent) (next : ListenerLife) (sound : LifeSound state)
    (stepped : lifeStep state event = some next) (listener : ListenerId) : ViewStep (state.view listener) (next.view listener) := by
  cases event with
  | join g client listens now =>
      obtain ⟨manager, moved, rfl⟩ := Option.map_eq_some_iff.mp stepped
      exact born_view state sound manager g client listens now moved listener
  | serve event =>
      obtain ⟨service, moved⟩ := Option.ite_none_right_eq_some.mp stepped
      obtain ⟨manager, served, rfl⟩ := Option.map_eq_some_iff.mp moved
      rw [view_eq state manager listener (service_view state.manager manager event service served listener)]
      exact .stay _
  | reap now =>
      cases stepped
      refine taken_view state _ listener (fun still => ?_) rfl
      have kept := of_decide_eq_true still
      exact decide_eq_true (Option.filter_eq_some_iff.mp kept).1
  | close =>
      cases stepped
      refine taken_view state _ listener (fun still => ?_) rfl
      cases of_decide_eq_true still
  | quitTaken target =>
      obtain ⟨taken, moved⟩ := Option.ite_none_right_eq_some.mp stepped
      obtain ⟨manager, closed, rfl⟩ := Option.map_eq_some_iff.mp moved
      obtain ⟨_, _, current, quit⟩ := close_listener_moved state.manager manager target closed
      refine view_step_at state _ target listener ?_ fun other different => ?_
      · have after := ViewStep.quitTaken (state.view target) taken
        simpa only [ListenerLife.view, current, quit, if_true, Function.update_self] using after
      · simp only [ListenerLife.view, current, quit, if_neg different, Function.update_of_ne different]
  | closeTaken target =>
      obtain ⟨quitting, moved⟩ := Option.ite_none_right_eq_some.mp stepped
      cases moved
      refine view_step_at state _ target listener ?_ fun other different => ?_
      · have after := ViewStep.closeTaken (state.view target) quitting
        simpa only [ListenerLife.view, Function.update_self] using after
      · simp only [ListenerLife.view, Function.update_of_ne different]
  | acceptFails target =>
      obtain ⟨place, moved⟩ := Option.ite_none_right_eq_some.mp stepped
      cases moved
      refine view_step_at state _ target listener ?_ fun other different => ?_
      · have after := ViewStep.fail (state.view target) place
        simpa only [ListenerLife.view, Function.update_self] using after
      · simp only [ListenerLife.view, Function.update_of_ne different]
  | loopQuits target =>
      obtain ⟨place, moved⟩ := Option.ite_none_right_eq_some.mp stepped
      obtain ⟨manager, closed, rfl⟩ := Option.map_eq_some_iff.mp moved
      obtain ⟨_, _, current, quit⟩ := close_listener_moved state.manager manager target closed
      refine view_step_at state _ target listener ?_ fun other different => ?_
      · have after := ViewStep.quit (state.view target) place
        simpa only [ListenerLife.view, current, quit, if_true, Function.update_self] using after
      · simp only [ListenerLife.view, current, quit, if_neg different, Function.update_of_ne different]
  | loopRemoves target =>
      obtain ⟨place, moved⟩ := Option.ite_none_right_eq_some.mp stepped
      cases moved
      have current := unregister_current state.manager target
      have store := unregister_store state.manager target
      refine view_step_at state _ target listener ?_ fun other different => ?_
      · have after := ViewStep.remove (state.view target) place
        simpa [ListenerLife.view, current, store] using after
      · simp [ListenerLife.view, current, store, different]
  | loopCloses target =>
      obtain ⟨place, moved⟩ := Option.ite_none_right_eq_some.mp stepped
      cases moved
      refine view_step_at state _ target listener ?_ fun other different => ?_
      · have after := ViewStep.leave (state.view target) place
        simpa only [ListenerLife.view, Function.update_self] using after
      · simp only [ListenerLife.view, Function.update_of_ne different]

theorem step_queue_count (manager next : Manager) (target : ListenerId) (event : QueueEvent)
    (stepped : manager.stepQueue target event = some next) : next.nextListener = manager.nextListener := by
  obtain ⟨_, _, rfl⟩ := Option.map_eq_some_iff.mp stepped
  rfl

theorem manager_step_count (manager next : Manager) (event : ManagerEvent) (stepped : managerStep manager event = some next) :
    manager.nextListener ≤ next.nextListener := by
  cases event with
  | join g client listens now =>
      rcases join_moved manager next g client listens now stepped with ⟨count, _⟩ | ⟨_, _, _, count, _⟩ <;> omega
  | enqueue g =>
      simp only [managerStep] at stepped
      split at stepped
      · obtain ⟨middle, moved, rfl⟩ := Option.map_eq_some_iff.mp stepped
        exact Nat.le_of_eq (step_queue_count manager middle _ _ moved).symm
      · cases stepped
  | queue target event =>
      simp only [managerStep] at stepped
      split at stepped
      · cases stepped
      · exact Nat.le_of_eq (step_queue_count manager next target event stepped).symm
  | touch target now =>
      cases stepped
      rw [touchListener]
      split <;> exact Nat.le_refl _
  | beginIncoming target now | endIncoming target now =>
      cases stepped
      simp only [beginIncoming, updateActivePipes]
      split <;> exact Nat.le_refl _
  | reap now | close =>
      cases stepped
      exact Nat.le_refl _
  | unregister target =>
      cases stepped
      rw [unregister]
      split <;> exact Nat.le_refl _

-- A loop that moves was born, so that the unborn ones are still those to come.
theorem life_step_unborn (state : ListenerLife) (event : LifeEvent) (next : ListenerLife) (sound : LifeSound state)
    (stepped : lifeStep state event = some next) (listener : ListenerId) (late : next.manager.nextListener ≤ listener) :
    next.loops listener = .unborn := by
  have moves : ∀ target (place : AcceptPc) manager, state.loops target ≠ .unborn → state.manager.nextListener ≤ manager →
      manager ≤ listener → Function.update state.loops target place listener = .unborn := by
    intro target place manager born count after
    have before := sound.unborn listener (Nat.le_trans count after)
    have different : listener ≠ target := by
      rintro rfl
      exact born before
    rw [Function.update_of_ne different, before]
  cases event with
  | join g client listens now =>
      obtain ⟨manager, moved, rfl⟩ := Option.map_eq_some_iff.mp stepped
      have count := manager_step_count state.manager manager _ moved
      revert late
      rw [ListenerLife.born]
      split
      · rename_i grown
        intro late
        have after : state.manager.nextListener < listener := Nat.lt_of_lt_of_le grown late
        exact (Function.update_of_ne (Nat.ne_of_gt after) _ _).trans (sound.unborn listener (Nat.le_of_lt after))
      · exact fun late => sound.unborn listener (Nat.le_trans count late)
  | serve event =>
      obtain ⟨_, moved⟩ := Option.ite_none_right_eq_some.mp stepped
      obtain ⟨manager, served, rfl⟩ := Option.map_eq_some_iff.mp moved
      exact sound.unborn listener (Nat.le_trans (manager_step_count state.manager manager event served) late)
  | reap now | close =>
      cases stepped
      exact sound.unborn listener late
  | closeTaken target =>
      obtain ⟨_, moved⟩ := Option.ite_none_right_eq_some.mp stepped
      cases moved
      exact sound.unborn listener late
  | quitTaken target =>
      obtain ⟨_, moved⟩ := Option.ite_none_right_eq_some.mp stepped
      obtain ⟨manager, closed, rfl⟩ := Option.map_eq_some_iff.mp moved
      exact sound.unborn listener (Nat.le_trans (manager_step_count state.manager manager _ closed) late)
  | acceptFails target | loopCloses target =>
      obtain ⟨place, moved⟩ := Option.ite_none_right_eq_some.mp stepped
      cases moved
      exact moves target _ _ (by rw [place]; decide) (Nat.le_refl _) late
  | loopQuits target | loopRemoves target =>
      obtain ⟨place, moved⟩ := Option.ite_none_right_eq_some.mp stepped
      obtain ⟨manager, closed, rfl⟩ := Option.map_eq_some_iff.mp moved
      exact moves target _ _ (by rw [place]; decide) (manager_step_count state.manager manager _ closed) late

theorem life_sound_step (state : ListenerLife) (event : LifeEvent) (next : ListenerLife) (sound : LifeSound state)
    (stepped : lifeStep state event = some next) : LifeSound next where
  unborn := life_step_unborn state event next sound stepped
  views := fun listener => view_step_sound _ _ (sound.views listener) (life_step_view state event next sound stepped listener)

theorem life_sound_run (idleTimeout : Int) (events : List LifeEvent) (last : ListenerLife)
    (ran : run lifeStep (newListenerLife idleTimeout) events = some last) : LifeSound last := by
  have initial : LifeSound (newListenerLife idleTimeout) := by
    refine ⟨fun _ _ => rfl, fun listener => ⟨fun _ => ⟨rfl, rfl, rfl⟩, by rintro ⟨⟩, by rintro _ ⟨⟩, ?_⟩⟩
    rintro (⟨⟨⟩⟩ | ⟨⟨⟩⟩ | ⟨born, _⟩)
    exact absurd rfl born
  exact run_preserves lifeStep LifeSound life_sound_step _ last events initial ran

-- No socket of a listener leaks, whatever the reaper, Close, the clients and the
-- accept loops do between each other's steps: an open one is registered or is on
-- its way to be closed. A registered listener is never closed, and a closed one
-- has released the handlers that wait at it.
theorem listener_sockets_accounted (idleTimeout : Int) (events : List LifeEvent) (last : ListenerLife)
    (ran : run lifeStep (newListenerLife idleTimeout) events = some last) (listener : ListenerId) :
    (last.manager.current listener = true → last.sockets listener = true ∧
      ((last.manager.store listener).queue.quit = true ↔ last.loops listener = .removing)) ∧
    (last.sockets listener = true →
      last.manager.current listener = true ∨ last.closing listener ≠ .idle ∨ last.loops listener = .leaving) ∧
    (last.loops listener ≠ .unborn → last.sockets listener = false →
      last.manager.current listener = false ∧ (last.manager.store listener).queue.quit = true) := by
  have sound := (life_sound_run idleTimeout events last ran).views listener
  refine ⟨fun registered => ?_, fun opened => ?_, fun born closed => ?_⟩
  · obtain ⟨opened, _, ⟨place, running⟩ | ⟨place, quitting⟩⟩ := sound.up registered
    · refine ⟨opened, fun quitting => ?_, fun removing => ?_⟩
      · cases running.symm.trans quitting
      · rcases place with accepting | failing
        · cases accepting.symm.trans removing
        · cases failing.symm.trans removing
    · exact ⟨opened, fun _ => place, fun _ => quitting⟩
  · cases registered : last.manager.current listener with
    | true => exact .inl rfl
    | false => exact .inr (sound.closes registered opened)
  · refine ⟨?_, sound.quits (.inr (.inr ⟨born, closed⟩))⟩
    cases registered : last.manager.current listener with
    | false => rfl
    | true => cases closed.symm.trans (sound.up registered).1

def reapedListener : List LifeEvent :=
  [.join 0 tcpClient true 0, .reap 5000, .join 1 tcpClient true 5000, .quitTaken 0, .closeTaken 0, .acceptFails 0, .loopQuits 0,
    .loopRemoves 0]

-- The second client has a listener of its own while the first one leaves.
theorem listener_sockets_accounted_reaped : ∃ last, run lifeStep (newListenerLife 100) reapedListener = some last ∧
    last.manager.current 1 = true ∧ last.loops 0 = .leaving ∧
    last.sockets 1 = true ∧ last.manager.current 0 = false ∧ (last.manager.store 0).queue.quit = true := by
  refine ⟨_, rfl, by decide, by decide, ?_, ?_⟩
  · exact ((listener_sockets_accounted 100 reapedListener _ rfl 1).1 (by decide)).1
  · exact (listener_sockets_accounted 100 reapedListener _ rfl 0).2.2 (by decide) (by decide)

end WarpStream
