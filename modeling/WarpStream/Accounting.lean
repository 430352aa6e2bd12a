import Mathlib.Data.List.Count
import WarpStream.Homogeneous

set_option autoImplicit false

namespace WarpStream

open GoText Transition

-- The manager with one entry in incoming for each connection between its
-- beginIncoming and the deferred updateActivePipes(-1) of its handleIncoming.
structure Accounting where
  manager : Manager
  incoming : List ListenerId

def newAccounting (idleTimeout : Int) : Accounting := ⟨newManager idleTimeout, []⟩

-- runListener and runUdpListener run for a listener that was created, whether
-- it is still registered or not, and each connection they begin ends once.
def accountingStep (state : Accounting) (event : ManagerEvent) : Option Accounting :=
  match event with
  | .beginIncoming listener _ =>
      if listener < state.manager.nextListener then
        (managerStep state.manager event).map fun next => ⟨next, listener :: state.incoming⟩
      else none
  | .endIncoming listener _ =>
      if listener ∈ state.incoming then
        (managerStep state.manager event).map fun next => ⟨next, state.incoming.erase listener⟩
      else none
  | _ => (managerStep state.manager event).map fun next => ⟨next, state.incoming⟩

def Manager.actsFor (manager : Manager) : ManagerEvent → Option ListenerId
  | .enqueue g =>
      match manager.calls g with
      | .joining listener _ => some listener
      | _ => none
  | .queue listener _ | .touch listener _ | .beginIncoming listener _ | .endIncoming listener _ | .unregister listener =>
      some listener
  | .join _ _ _ _ | .reap _ | .close => none

-- A listener found under an address was created for it and never left the map
-- since, so it saw every beginIncoming and every decrement of its connections.
structure Accounted (state : Accounting) : Prop where
  created : ∀ addr listener, state.manager.listeners addr = some listener → listener < state.manager.nextListener
  addr : ∀ addr listener, state.manager.listeners addr = some listener → (state.manager.store listener).addr = addr
  active : ∀ addr listener, state.manager.listeners addr = some listener →
    (state.manager.store listener).active = state.incoming.count listener
  known : ∀ listener ∈ state.incoming, listener < state.manager.nextListener

structure KeepsCounts (manager next : Manager) : Prop where
  listeners : ∀ addr listener, next.listeners addr = some listener → manager.listeners addr = some listener
  addr : ∀ listener, (next.store listener).addr = (manager.store listener).addr
  active : ∀ listener, (next.store listener).active = (manager.store listener).active
  nextListener : next.nextListener = manager.nextListener

theorem keeps_counts_refl (manager : Manager) : KeepsCounts manager manager :=
  ⟨fun _ _ registered => registered, fun _ => rfl, fun _ => rfl, rfl⟩

theorem set_listener_keeps_counts (manager : Manager) (listener : ListenerId) (value : TunnelListener)
    (addr : value.addr = (manager.store listener).addr) (active : value.active = (manager.store listener).active) :
    KeepsCounts manager (manager.setListener listener value) := by
  refine ⟨fun _ _ registered => registered, ?_, ?_, rfl⟩
  · intro other
    rw [set_listener_store]
    split
    · rename_i same
      rw [same, addr]
    · rfl
  · intro other
    rw [set_listener_store]
    split
    · rename_i same
      rw [same, active]
    · rfl

theorem step_queue_keeps_counts (manager next : Manager) (listener : ListenerId) (event : QueueEvent)
    (stepped : manager.stepQueue listener event = some next) : KeepsCounts manager next := by
  obtain ⟨queue, _, same⟩ := Option.map_eq_some_iff.mp stepped
  exact same ▸ set_listener_keeps_counts manager listener { manager.store listener with queue := queue } rfl rfl

theorem keeps_counts_accounted (state : Accounting) (next : Manager) (accounted : Accounted state)
    (keeps : KeepsCounts state.manager next) : Accounted ⟨next, state.incoming⟩ := by
  refine ⟨?_, ?_, ?_, ?_⟩
  · intro addr listener registered
    exact keeps.nextListener ▸ accounted.created addr listener (keeps.listeners addr listener registered)
  · intro addr listener registered
    exact (keeps.addr listener).trans (accounted.addr addr listener (keeps.listeners addr listener registered))
  · intro addr listener registered
    exact (keeps.active listener).trans (accounted.active addr listener (keeps.listeners addr listener registered))
  · intro listener member
    exact keeps.nextListener ▸ accounted.known listener member

theorem register_accounted (state : Accounting) (claims : JwtTunnelConfig) (now : Nat) (accounted : Accounted state) :
    Accounted ⟨state.manager.register claims now, state.incoming⟩ := by
  have entry : ∀ addr listener, (state.manager.register claims now).listeners addr = some listener →
      listener = state.manager.nextListener ∧ addr = (bindTarget claims).addr ∨
        listener ≠ state.manager.nextListener ∧ state.manager.listeners addr = some listener := by
    intro addr listener registered
    simp only [Manager.register, Function.update_apply] at registered
    split at registered
    · rename_i same
      cases registered
      exact .inl ⟨rfl, same⟩
    · exact .inr ⟨Nat.ne_of_lt (accounted.created addr listener registered), registered⟩
  refine ⟨?_, ?_, ?_, fun listener member => Nat.lt_succ_of_lt (accounted.known listener member)⟩
  · intro addr listener registered
    rcases entry addr listener registered with ⟨same, _⟩ | ⟨_, before⟩
    · exact same ▸ Nat.lt_succ_self _
    · exact Nat.lt_succ_of_lt (accounted.created addr listener before)
  · intro addr listener registered
    rcases entry addr listener registered with ⟨same, target⟩ | ⟨different, before⟩
    · simp only [Manager.register, set_listener_store, if_pos same, newListener, target]
    · simpa only [Manager.register, set_listener_store, if_neg different] using accounted.addr addr listener before
  · intro addr listener registered
    rcases entry addr listener registered with ⟨same, _⟩ | ⟨different, before⟩
    · -- Nothing can be in flight for an identity that did not exist yet.
      have absent : listener ∉ state.incoming := fun member => Nat.lt_irrefl _ (same ▸ accounted.known listener member)
      simp only [Manager.register, set_listener_store, if_pos same, newListener, List.count_eq_zero_of_not_mem absent]
      rfl
    · simpa only [Manager.register, set_listener_store, if_neg different] using accounted.active addr listener before

theorem registered_current (state : Accounting) (accounted : Accounted state) (addr : String) (listener : ListenerId)
    (registered : state.manager.listeners addr = some listener) : state.manager.current listener = true := by
  simp only [Manager.current, accounted.addr addr listener registered, registered, decide_true]

theorem update_active_accounted (state : Accounting) (listener : ListenerId) (delta : Int) (now : Nat)
    (incoming : List ListenerId) (accounted : Accounted state)
    (counted : (incoming.count listener : Int) = state.incoming.count listener + delta)
    (others : ∀ other, other ≠ listener → incoming.count other = state.incoming.count other)
    (known : ∀ other ∈ incoming, other < state.manager.nextListener) :
    Accounted ⟨updateActivePipes state.manager listener delta now, incoming⟩ := by
  unfold updateActivePipes
  split
  · refine ⟨accounted.created, ?_, ?_, known⟩
    · intro addr other registered
      rw [set_listener_store]
      split
      · rename_i same
        exact same ▸ accounted.addr addr other registered
      · exact accounted.addr addr other registered
    · intro addr other registered
      rw [set_listener_store]
      split
      · rename_i same
        subst same
        rw [counted, ← accounted.active addr other registered]
      · rename_i different
        rw [others other different]
        exact accounted.active addr other registered
  · rename_i stale
    refine ⟨accounted.created, accounted.addr, ?_, known⟩
    intro addr other registered
    have different : other ≠ listener := fun same => stale (same ▸ registered_current state accounted addr other registered)
    rw [others other different]
    exact accounted.active addr other registered

theorem join_accounted (state : Accounting) (claims : JwtTunnelConfig) (listens : Bool) (now : Nat)
    (calls : GoroutineId → ClientCall) (accounted : Accounted state) :
    Accounted ⟨{ (getOrCreateListener state.manager claims listens now).1 with calls := calls }, state.incoming⟩ := by
  dsimp only [getOrCreateListener]
  split
  · rename_i listener _
    have touched := set_listener_keeps_counts state.manager listener
      { state.manager.store listener with lastUsed := now } rfl rfl
    exact keeps_counts_accounted state _ accounted ⟨touched.listeners, touched.addr, touched.active, rfl⟩
  · split
    · have registered := register_accounted state claims now accounted
      exact ⟨registered.created, registered.addr, registered.active, registered.known⟩
    · exact ⟨accounted.created, accounted.addr, accounted.active, accounted.known⟩

theorem accounting_step (state : Accounting) (event : ManagerEvent) (next : Accounting) (accounted : Accounted state)
    (stepped : accountingStep state event = some next) : Accounted next := by
  cases event with
  | join g client listens now =>
      simp only [accountingStep, managerStep] at stepped
      split at stepped <;> cases stepped
      exact join_accounted state client.claims listens now _ accounted
  | enqueue g =>
      simp only [accountingStep, managerStep] at stepped
      split at stepped
      · rename_i listener client _
        obtain ⟨manager, joined, same⟩ := Option.map_eq_some_iff.mp stepped
        obtain ⟨queued, entered, called⟩ := Option.map_eq_some_iff.mp joined
        subst same called
        have keeps := step_queue_keeps_counts state.manager queued listener _ entered
        exact keeps_counts_accounted state _ accounted ⟨keeps.listeners, keeps.addr, keeps.active, keeps.nextListener⟩
      · cases stepped
  | queue listener event =>
      simp only [accountingStep, managerStep] at stepped
      split at stepped
      · cases stepped
      · obtain ⟨manager, moved, same⟩ := Option.map_eq_some_iff.mp stepped
        exact same ▸ keeps_counts_accounted state manager accounted (step_queue_keeps_counts _ _ listener event moved)
  | touch listener now =>
      cases stepped
      apply keeps_counts_accounted state _ accounted
      unfold touchListener
      split
      · exact set_listener_keeps_counts state.manager listener _ rfl rfl
      · exact keeps_counts_refl state.manager
  | beginIncoming listener now =>
      simp only [accountingStep, managerStep] at stepped
      split at stepped <;> cases stepped
      rename_i existing
      apply update_active_accounted state listener 1 now _ accounted
      · rw [List.count_cons_self, Int.natCast_succ]
      · exact fun other different => List.count_cons_of_ne (Ne.symm different)
      · intro other member
        rcases List.mem_cons.mp member with same | before
        · exact same ▸ existing
        · exact accounted.known other before
  | endIncoming listener now =>
      simp only [accountingStep, managerStep] at stepped
      split at stepped <;> cases stepped
      rename_i flying
      apply update_active_accounted state listener (-1) now _ accounted
      · have positive := List.count_pos_iff.mpr flying
        rw [List.count_erase_self]
        omega
      · exact fun other different => List.count_erase_of_ne different
      · exact fun other member => accounted.known other (List.mem_of_mem_erase member)
  | reap now =>
      cases stepped
      have reaped := reap_keeps_books state.manager now
      exact keeps_counts_accounted state _ accounted ⟨reaped.listeners, fun _ => rfl, fun _ => rfl, rfl⟩
  | unregister listener =>
      cases stepped
      have removed := unregister_keeps_books state.manager listener
      have store : (unregister state.manager listener).store = state.manager.store := by
        unfold unregister
        split <;> rfl
      exact keeps_counts_accounted state _ accounted
        ⟨removed.listeners, fun _ => by rw [store], fun _ => by rw [store], removed.nextListener⟩
  | close =>
      cases stepped
      have closed := close_keeps_books state.manager
      exact keeps_counts_accounted state _ accounted ⟨closed.listeners, fun _ => rfl, fun _ => rfl, rfl⟩

theorem accounting_run (idleTimeout : Int) (events : List ManagerEvent) (last : Accounting)
    (ran : run accountingStep (newAccounting idleTimeout) events = some last) : Accounted last := by
  have initial : Accounted (newAccounting idleTimeout) := by
    refine ⟨?_, ?_, ?_, ?_⟩
    · intro addr listener registered
      cases registered
    · intro addr listener registered
      cases registered
    · intro addr listener registered
      cases registered
    · intro listener member
      cases member
  exact run_preserves accountingStep Accounted accounting_step _ last events initial ran

theorem reap_keeps_active (manager : Manager) (now : Nat) (addr : String) (listener : ListenerId)
    (registered : manager.listeners addr = some listener) (busy : 0 < (manager.store listener).active) :
    (reapIdleListenersOnce manager now).listeners addr = some listener := by
  simp only [reapIdleListenersOnce, registered, Option.filter_some, busy, true_or, decide_true, if_true]

theorem step_queue_spares (manager next : Manager) (listener other : ListenerId) (event : QueueEvent)
    (different : other ≠ listener) (stepped : manager.stepQueue listener event = some next) :
    next.listeners = manager.listeners ∧ next.store other = manager.store other := by
  obtain ⟨queue, _, same⟩ := Option.map_eq_some_iff.mp stepped
  subst same
  exact ⟨rfl, (set_listener_store manager listener other _).trans (if_neg different)⟩

theorem stale_step_spares (manager next : Manager) (event : ManagerEvent) (listener other : ListenerId)
    (acts : manager.actsFor event = some listener) (stale : manager.current listener = false) (different : other ≠ listener)
    (stepped : managerStep manager event = some next) :
    next.listeners = manager.listeners ∧ next.store other = manager.store other := by
  have guarded : ¬ manager.current listener = true := Bool.eq_false_iff.mp stale
  cases event with
  | enqueue g =>
      simp only [Manager.actsFor] at acts
      split at acts <;> cases acts
      rename_i client joining
      simp only [managerStep, joining] at stepped
      obtain ⟨queued, entered, called⟩ := Option.map_eq_some_iff.mp stepped
      subst called
      exact step_queue_spares manager queued listener other _ different entered
  | queue target event =>
      cases acts
      simp only [managerStep] at stepped
      split at stepped
      · cases stepped
      · exact step_queue_spares manager next listener other event different stepped
  | touch target now =>
      cases acts
      cases stepped
      rw [touchListener, if_neg guarded]
      exact ⟨rfl, rfl⟩
  | beginIncoming target now | endIncoming target now =>
      cases acts
      cases stepped
      simp only [beginIncoming, updateActivePipes, if_neg guarded, and_self]
  | unregister target =>
      cases acts
      cases stepped
      rw [unregister, if_neg guarded]
      exact ⟨rfl, rfl⟩
  | join => cases acts
  | reap => cases acts
  | close => cases acts

theorem listener_accounting (idleTimeout : Int) (events : List ManagerEvent) (last : Accounting)
    (ran : run accountingStep (newAccounting idleTimeout) events = some last) :
    (∀ addr listener, last.manager.listeners addr = some listener →
      (last.manager.store listener).active = last.incoming.count listener) ∧
    (∀ now addr listener, last.manager.listeners addr = some listener → listener ∈ last.incoming →
      (reapIdleListenersOnce last.manager now).listeners addr = some listener) ∧
    (∀ event listener successor next, last.manager.actsFor event = some listener → successor ≠ listener →
      last.manager.listeners (last.manager.store listener).addr = some successor →
      managerStep last.manager event = some next →
      (next.store successor).active = (last.manager.store successor).active ∧
        (next.store successor).lastUsed = (last.manager.store successor).lastUsed ∧
        next.listeners (last.manager.store listener).addr = some successor) := by
  have accounted := accounting_run idleTimeout events last ran
  refine ⟨accounted.active, ?_, ?_⟩
  · intro now addr listener registered flying
    apply reap_keeps_active last.manager now addr listener registered
    rw [accounted.active addr listener registered]
    exact Int.natCast_pos.mpr (List.count_pos_iff.mpr flying)
  · intro event listener successor next acts different registered stepped
    have stale : last.manager.current listener = false := by
      simp only [Manager.current, registered, Option.some.injEq, different, decide_false]
    obtain ⟨listeners, store⟩ := stale_step_spares last.manager next event listener successor acts stale different stepped
    rw [store, listeners]
    exact ⟨rfl, rfl, registered⟩

-- The address is reaped when its connection is over and re-created, and the old
-- listener then accepts once more.
def recreatedAddress : List ManagerEvent :=
  [.join 0 tcpClient true 0, .beginIncoming 0 0, .reap 1000, .endIncoming 0 1000, .reap 5000, .join 1 tcpClient true 5000,
    .beginIncoming 0 5000, .beginIncoming 1 5000]

theorem listener_accounting_recreated :
    ∃ last, run accountingStep (newAccounting 100) recreatedAddress = some last ∧ last.incoming = [1, 0] ∧
      (last.manager.store 1).active = last.incoming.count 1 ∧
      (reapIdleListenersOnce last.manager 9000).listeners "0.0.0.0:8080" = some 1 ∧
      ((unregister last.manager 0).store 1).active = 1 := by
  refine ⟨_, rfl, rfl, ?_⟩
  obtain ⟨active, reaped, spared⟩ := listener_accounting 100 recreatedAddress _ rfl
  refine ⟨active "0.0.0.0:8080" 1 (by decide), reaped 9000 "0.0.0.0:8080" 1 (by decide) (by decide), ?_⟩
  exact (spared (.unregister 0) 0 1 _ rfl (by decide) (by decide) rfl).1

end WarpStream
