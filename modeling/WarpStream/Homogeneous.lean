import WarpStream.Manager

set_option autoImplicit false

namespace WarpStream

open GoText Transition FifoLedger

structure ReverseKinds where
  tcp : Bool
  udp : Bool
  socks5 : Bool
  httpProxy : Bool
  unix : Bool
deriving DecidableEq, Repr

def reverseKinds (protocol : LocalProtocol) : ReverseKinds :=
  ⟨protocol.reverseTcp.isSome, protocol.reverseUdp.isSome, protocol.reverseSocks5.isSome,
    protocol.reverseHttpProxy.isSome, protocol.reverseUnix.isSome⟩

-- The test in StartReverseTunnel before readTargetFrame, and the test in
-- handleIncoming before the frame is written.
def expectsTargetFrame (protocol : LocalProtocol) : Bool :=
  protocol.reverseSocks5.isSome || protocol.reverseHttpProxy.isSome

def writesTargetFrame (listener : TunnelListener) : Bool :=
  listener.protocol.reverseSocks5.isSome || listener.protocol.reverseHttpProxy.isSome

theorem same_kinds_same_frame (protocol : LocalProtocol) (listener : TunnelListener)
    (same : reverseKinds protocol = reverseKinds listener.protocol) :
    expectsTargetFrame protocol = writesTargetFrame listener := by
  simp only [reverseKinds, ReverseKinds.mk.injEq] at same
  simp only [expectsTargetFrame, writesTargetFrame, same]

def JoinsOwnKind (manager : Manager) : ManagerEvent → Prop
  | .join _ client _ _ =>
      ∀ listener, manager.listeners (bindTarget client.claims).addr = some listener →
        reverseKinds client.claims.protocol = reverseKinds (manager.store listener).protocol
  | _ => True

def OwnKind (manager : Manager) (listener : ListenerId) (client : Client) : Prop :=
  reverseKinds client.claims.protocol = reverseKinds (manager.store listener).protocol

structure Homogeneous (manager : Manager) : Prop where
  allocated : ∀ addr listener, manager.listeners addr = some listener → listener < manager.nextListener
  sound : ∀ listener, QueueSound 10 (manager.store listener).queue
  joining : ∀ g listener client, manager.calls g = .joining listener client →
    listener < manager.nextListener ∧ OwnKind manager listener client
  waiters : ∀ listener wait, wait < (manager.store listener).queue.nextWaiter →
    ∃ client, manager.clients listener wait = some client ∧ OwnKind manager listener client

theorem set_listener_store (manager : Manager) (listener other : ListenerId) (value : TunnelListener) :
    (manager.setListener listener value).store other = if other = listener then value else manager.store other := by
  simp only [Manager.setListener, Function.update_apply]

-- Steps that only keep the books: registrations may go, time stamps and
-- counters may change, but no listener changes its protocol or its queue.
structure KeepsBooks (manager next : Manager) : Prop where
  listeners : ∀ addr listener, next.listeners addr = some listener → manager.listeners addr = some listener
  protocol : ∀ listener, (next.store listener).protocol = (manager.store listener).protocol
  queue : ∀ listener, (next.store listener).queue = (manager.store listener).queue
  nextListener : next.nextListener = manager.nextListener
  calls : next.calls = manager.calls
  clients : next.clients = manager.clients

theorem keeps_books_homogeneous (manager next : Manager) (keeps : KeepsBooks manager next)
    (homogeneous : Homogeneous manager) : Homogeneous next := by
  have own : ∀ listener client, OwnKind manager listener client → OwnKind next listener client := by
    intro listener client same
    simpa only [OwnKind, keeps.protocol] using same
  refine ⟨?_, ?_, ?_, ?_⟩
  · intro addr listener registered
    rw [keeps.nextListener]
    exact homogeneous.allocated addr listener (keeps.listeners addr listener registered)
  · intro listener
    rw [keeps.queue]
    exact homogeneous.sound listener
  · intro g listener client joining
    rw [keeps.calls] at joining
    obtain ⟨bound, same⟩ := homogeneous.joining g listener client joining
    exact ⟨keeps.nextListener ▸ bound, own listener client same⟩
  · intro listener wait issued
    rw [keeps.queue] at issued
    rw [keeps.clients]
    obtain ⟨client, recorded, same⟩ := homogeneous.waiters listener wait issued
    exact ⟨client, recorded, own listener client same⟩

theorem keeps_books_refl (manager : Manager) : KeepsBooks manager manager :=
  ⟨fun _ _ registered => registered, fun _ => rfl, fun _ => rfl, rfl, rfl, rfl⟩

theorem set_listener_keeps_books (manager : Manager) (listener : ListenerId) (value : TunnelListener)
    (protocol : value.protocol = (manager.store listener).protocol) (queue : value.queue = (manager.store listener).queue) :
    KeepsBooks manager (manager.setListener listener value) := by
  refine ⟨fun _ _ registered => registered, ?_, ?_, rfl, rfl, rfl⟩
  · intro other
    rw [set_listener_store]
    split
    · rename_i same
      rw [same, protocol]
    · rfl
  · intro other
    rw [set_listener_store]
    split
    · rename_i same
      rw [same, queue]
    · rfl

theorem touch_keeps_books (manager : Manager) (listener : ListenerId) (now : Nat) :
    KeepsBooks manager (touchListener manager listener now) := by
  unfold touchListener
  split
  · exact set_listener_keeps_books manager listener _ rfl rfl
  · exact keeps_books_refl manager

theorem update_active_keeps_books (manager : Manager) (listener : ListenerId) (delta : Int) (now : Nat) :
    KeepsBooks manager (updateActivePipes manager listener delta now) := by
  unfold updateActivePipes
  split
  · exact set_listener_keeps_books manager listener _ rfl rfl
  · exact keeps_books_refl manager

theorem reap_keeps_books (manager : Manager) (now : Nat) : KeepsBooks manager (reapIdleListenersOnce manager now) := by
  refine ⟨?_, fun _ => rfl, fun _ => rfl, rfl, rfl, rfl⟩
  intro addr listener registered
  exact (Option.filter_eq_some_iff.mp registered).1

theorem unregister_keeps_books (manager : Manager) (listener : ListenerId) :
    KeepsBooks manager (unregister manager listener) := by
  unfold unregister
  split
  · refine ⟨?_, fun _ => rfl, fun _ => rfl, rfl, rfl, rfl⟩
    intro addr other registered
    simp only [Function.update_apply] at registered
    split at registered
    · cases registered
    · exact registered
  · exact keeps_books_refl manager

theorem close_keeps_books (manager : Manager) : KeepsBooks manager (closeManager manager) :=
  ⟨fun _ _ none => (by cases none), fun _ => rfl, fun _ => rfl, rfl, rfl, rfl⟩

def Manager.register (manager : Manager) (claims : JwtTunnelConfig) (now : Nat) : Manager :=
  { manager.setListener manager.nextListener (newListener (bindTarget claims) claims.protocol manager.idleTimeout now) with
    listeners := Function.update manager.listeners (bindTarget claims).addr (some manager.nextListener)
    nextListener := manager.nextListener + 1 }

theorem register_homogeneous (manager : Manager) (claims : JwtTunnelConfig) (now : Nat) (homogeneous : Homogeneous manager) :
    Homogeneous (manager.register claims now) := by
  refine ⟨?_, ?_, ?_, ?_⟩
  · intro addr other registered
    simp only [Manager.register, Function.update_apply] at registered
    split at registered
    · cases registered
      exact Nat.lt_succ_self _
    · exact Nat.lt_succ_of_lt (homogeneous.allocated addr other registered)
  · intro other
    simp only [Manager.register, set_listener_store]
    split
    · exact queue_sound_initial manager.idleTimeout
    · exact homogeneous.sound other
  · -- A new identity: no call can point at it yet.
    intro h other client call
    obtain ⟨bound, same⟩ := homogeneous.joining h other client call
    refine ⟨Nat.lt_succ_of_lt bound, ?_⟩
    simpa only [OwnKind, Manager.register, set_listener_store, if_neg (Nat.ne_of_lt bound)] using same
  · intro other wait issued
    simp only [OwnKind, Manager.register, set_listener_store] at issued ⊢
    split at issued
    · exact absurd issued (Nat.not_lt_zero wait)
    · rename_i different
      simp only [if_neg different]
      exact homogeneous.waiters other wait issued

theorem join_homogeneous (manager : Manager) (g : GoroutineId) (client : Client) (listens : Bool) (now : Nat)
    (homogeneous : Homogeneous manager) (own : JoinsOwnKind manager (.join g client listens now)) :
    let found := getOrCreateListener manager client.claims listens now
    Homogeneous found.1 ∧ ∀ listener, found.2 = some listener →
      listener < found.1.nextListener ∧ OwnKind found.1 listener client := by
  dsimp only [getOrCreateListener]
  split
  · rename_i listener registered
    have keeps := set_listener_keeps_books manager listener { manager.store listener with lastUsed := now } rfl rfl
    refine ⟨keeps_books_homogeneous manager _ keeps homogeneous, ?_⟩
    intro other same
    cases same
    have kinds := congrArg reverseKinds (keeps.protocol listener).symm
    exact ⟨homogeneous.allocated _ listener registered, (own listener registered).trans kinds⟩
  · split
    · refine ⟨register_homogeneous manager client.claims now homogeneous, ?_⟩
      intro other same
      cases same
      exact ⟨Nat.lt_succ_self _, by simp only [OwnKind, set_listener_store, if_pos, newListener]⟩
    · exact ⟨homogeneous, fun _ none => by cases none⟩

theorem set_call_homogeneous (manager : Manager) (g : GoroutineId) (call : ClientCall) (homogeneous : Homogeneous manager)
    (own : ∀ listener client, call = .joining listener client →
      listener < manager.nextListener ∧ OwnKind manager listener client) :
    Homogeneous { manager with calls := Function.update manager.calls g call } := by
  refine ⟨homogeneous.allocated, homogeneous.sound, ?_, homogeneous.waiters⟩
  intro other listener client joining
  simp only [Function.update_apply] at joining
  split at joining
  · exact own listener client joining
  · exact homogeneous.joining other listener client joining

theorem queue_event_issues_none (queue next : WaitQueue) (event : QueueEvent) (other : event.isHandleClient = false)
    (stepped : queueStep queue event = some next) : next.nextWaiter = queue.nextWaiter := by
  have purged := (purge_frame queue).2.2.2.1
  cases queue_step_moved queue next event stepped with
  | issue => cases other
  | enqueue g late wait _ =>
      dsimp only [enqueueSection]
      split
      · exact purged
      · split <;> exact purged
  | acquire g late _ =>
      dsimp only [acquireSection]
      split
      · exact purged
      · split
        · exact purged
        · split <;> exact purged
  | purgeExpired => exact purged
  | purge => exact purged
  | _ => rfl

theorem set_queue_own_kind (manager : Manager) (listener target : ListenerId) (queue : WaitQueue) (client : Client)
    (own : OwnKind manager target client) :
    OwnKind (manager.setListener listener { manager.store listener with queue := queue }) target client := by
  simp only [OwnKind, set_listener_store]
  split
  · rename_i hit
    exact hit ▸ own
  · exact own

theorem set_queue_sound (manager : Manager) (listener target : ListenerId) (event : QueueEvent) (queue : WaitQueue)
    (homogeneous : Homogeneous manager) (stepped : queueStep (manager.store listener).queue event = some queue) :
    QueueSound 10 ((manager.setListener listener { manager.store listener with queue := queue }).store target).queue := by
  rw [set_listener_store]
  split
  · exact queue_sound_step 10 _ event queue (homogeneous.sound listener) stepped
  · exact homogeneous.sound target

theorem step_queue_homogeneous (manager : Manager) (listener : ListenerId) (event : QueueEvent) (queue : WaitQueue)
    (homogeneous : Homogeneous manager) (stepped : queueStep (manager.store listener).queue event = some queue)
    (other : event.isHandleClient = false) :
    Homogeneous (manager.setListener listener { manager.store listener with queue := queue }) := by
  have issued := queue_event_issues_none _ queue event other stepped
  have own := fun target => set_queue_own_kind manager listener target queue
  refine ⟨homogeneous.allocated, fun target => set_queue_sound manager listener target event queue homogeneous stepped, ?_, ?_⟩
  · intro g target client joining
    obtain ⟨bound, same⟩ := homogeneous.joining g target client joining
    exact ⟨bound, own target client same⟩
  · intro target wait known
    have earlier : wait < (manager.store target).queue.nextWaiter := by
      rw [set_listener_store] at known
      split at known
      · rename_i hit
        rw [hit, ← issued]
        exact known
      · exact known
    obtain ⟨client, recorded, same⟩ := homogeneous.waiters target wait earlier
    exact ⟨client, recorded, own target client same⟩

theorem enqueue_homogeneous (manager : Manager) (g : GoroutineId) (listener : ListenerId) (client : Client)
    (queue : WaitQueue) (homogeneous : Homogeneous manager) (joining : manager.calls g = .joining listener client)
    (stepped : queueStep (manager.store listener).queue (.handleClient g) = some queue) :
    let moved := manager.setListener listener { manager.store listener with queue := queue }
    Homogeneous { moved with
      clients := Function.update moved.clients listener
        (Function.update (moved.clients listener) (manager.store listener).queue.nextWaiter (some client)) } := by
  obtain ⟨_, same⟩ := homogeneous.joining g listener client joining
  have issued : queue.nextWaiter = (manager.store listener).queue.nextWaiter + 1 := by
    simp only [queueStep] at stepped
    split at stepped <;> cases stepped
    rfl
  have own := fun target => set_queue_own_kind manager listener target queue
  refine ⟨homogeneous.allocated,
    fun target => set_queue_sound manager listener target (.handleClient g) queue homogeneous stepped, ?_, ?_⟩
  · intro other target joined call
    obtain ⟨bound, kinds⟩ := homogeneous.joining other target joined call
    exact ⟨bound, own target joined kinds⟩
  · intro target wait known
    simp only [set_listener_store] at known
    by_cases hit : target = listener
    · subst hit
      rw [if_pos rfl, issued] at known
      by_cases last : wait = (manager.store target).queue.nextWaiter
      · subst last
        exact ⟨client, by simp [Manager.setListener], own target client same⟩
      · obtain ⟨earlier, recorded, kinds⟩ := homogeneous.waiters target wait (by omega)
        exact ⟨earlier, by simpa [Manager.setListener, Function.update_of_ne last] using recorded, own target earlier kinds⟩
    · rw [if_neg hit] at known
      obtain ⟨earlier, recorded, kinds⟩ := homogeneous.waiters target wait known
      exact ⟨earlier, by simpa [Manager.setListener, Function.update_of_ne hit] using recorded, own target earlier kinds⟩

theorem homogeneous_step (manager : Manager) (event : ManagerEvent) (next : Manager) (homogeneous : Homogeneous manager)
    (own : JoinsOwnKind manager event) (stepped : managerStep manager event = some next) : Homogeneous next := by
  cases event with
  | join g client listens now =>
      simp only [managerStep] at stepped
      split at stepped <;> cases stepped
      obtain ⟨found, joined⟩ := join_homogeneous manager g client listens now homogeneous own
      apply set_call_homogeneous _ g _ found
      intro listener joining call
      cases outcome : (getOrCreateListener manager client.claims listens now).2 with
      | none =>
          rw [outcome] at call
          cases call
      | some listener =>
          rw [outcome] at call
          cases call
          exact joined listener outcome
  | enqueue g =>
      simp only [managerStep] at stepped
      split at stepped
      · rename_i listener client joining
        simp only [Manager.stepQueue, Option.map_map, Option.map_eq_some_iff] at stepped
        obtain ⟨queue, moved, rfl⟩ := stepped
        exact set_call_homogeneous _ g (.joined listener)
          (enqueue_homogeneous manager g listener client queue homogeneous joining moved) (fun _ _ call => by cases call)
      · cases stepped
  | queue listener event =>
      simp only [managerStep] at stepped
      split at stepped
      · cases stepped
      · rename_i other
        simp only [Manager.stepQueue, Option.map_eq_some_iff] at stepped
        obtain ⟨queue, moved, rfl⟩ := stepped
        exact step_queue_homogeneous manager listener event queue homogeneous moved (Bool.eq_false_iff.mpr other)
  | touch listener now =>
      cases stepped
      exact keeps_books_homogeneous manager _ (touch_keeps_books manager listener now) homogeneous
  | beginIncoming listener now =>
      cases stepped
      exact keeps_books_homogeneous manager _ (update_active_keeps_books manager listener 1 now) homogeneous
  | endIncoming listener now =>
      cases stepped
      exact keeps_books_homogeneous manager _ (update_active_keeps_books manager listener (-1) now) homogeneous
  | reap now =>
      cases stepped
      exact keeps_books_homogeneous manager _ (reap_keeps_books manager now) homogeneous
  | unregister listener =>
      cases stepped
      exact keeps_books_homogeneous manager _ (unregister_keeps_books manager listener) homogeneous
  | close =>
      cases stepped
      exact keeps_books_homogeneous manager _ (close_keeps_books manager) homogeneous

theorem homogeneous_initial (idleTimeout : Int) : Homogeneous (newManager idleTimeout) := by
  refine ⟨?_, fun _ => queue_sound_initial idleTimeout, ?_, ?_⟩
  · intro addr listener registered
    cases registered
  · intro g listener client joining
    cases joining
  · intro listener wait issued
    exact absurd issued (Nat.not_lt_zero wait)

theorem homogeneous_member (manager : Manager) (homogeneous : Homogeneous manager) (listener : ListenerId) (wait : WaiterId)
    (member : wait ∈ (manager.store listener).queue.waiting.toList ∨ wait ∈ (manager.store listener).queue.handed) :
    ∃ client, manager.clients listener wait = some client ∧ OwnKind manager listener client := by
  have sound := homogeneous.sound listener
  have appended := sound_member 10 (manager.store listener).queue.ledger sound.ledger wait member
  exact homogeneous.waiters listener wait (sound.once.known wait appended)

def ProtocolHomogeneous (manager : Manager) : Prop :=
  ∀ listener wait, wait ∈ (manager.store listener).queue.waiting.toList ∨ wait ∈ (manager.store listener).queue.handed →
    ∃ client, manager.clients listener wait = some client ∧
      reverseKinds client.claims.protocol = reverseKinds (manager.store listener).protocol ∧
      expectsTargetFrame client.claims.protocol = writesTargetFrame (manager.store listener)

theorem listener_queues_homogeneous (idleTimeout : Int) (events : List ManagerEvent) (last : Manager)
    (own : Along managerStep JoinsOwnKind (newManager idleTimeout) events)
    (ran : run managerStep (newManager idleTimeout) events = some last) : ProtocolHomogeneous last := by
  have homogeneous := run_preserves_along managerStep JoinsOwnKind Homogeneous homogeneous_step _ last events
    (homogeneous_initial idleTimeout) own ran
  intro listener wait member
  obtain ⟨client, recorded, same⟩ := homogeneous_member last homogeneous listener wait member
  exact ⟨client, recorded, same, same_kinds_same_frame client.claims.protocol (last.store listener) same⟩

def tcpClient : Client := ⟨.wst, ⟨"a", { reverseTcp := some () }, "0.0.0.0", 8080⟩⟩
def socks5Client : Client := ⟨.wst, ⟨"b", { reverseSocks5 := some ⟨none, none⟩ }, "0.0.0.0", 8080⟩⟩

def mixedClients : List ManagerEvent :=
  [.join 0 tcpClient true 0, .enqueue 0, .queue 0 (.lockQueue 0 false), .join 1 socks5Client true 0, .enqueue 1,
    .queue 0 (.lockQueue 1 false)]

-- The SOCKS5 client waits for a target frame on a listener that writes none.
theorem listener_queue_mixes_kinds :
    ∃ last, run managerStep (newManager 0) mixedClients = some last ∧ ¬ ProtocolHomogeneous last := by
  refine ⟨_, rfl, ?_⟩
  intro homogeneous
  obtain ⟨client, recorded, same, _⟩ := homogeneous 0 1 (.inl (by decide))
  cases recorded
  revert same
  decide

def sameClients : List ManagerEvent :=
  [.join 0 socks5Client true 0, .enqueue 0, .queue 0 (.lockQueue 0 false), .join 1 socks5Client true 0]

theorem listener_queues_homogeneous_same_kind :
    ∃ last, run managerStep (newManager 0) sameClients = some last ∧ ProtocolHomogeneous last := by
  refine ⟨_, rfl, ?_⟩
  apply listener_queues_homogeneous 0 sameClients _ _ rfl
  refine ⟨fun listener none => (by cases none), fun _ first => ?_⟩
  cases first
  refine ⟨trivial, fun _ second => ?_⟩
  cases second
  refine ⟨trivial, fun _ third => ?_⟩
  cases third
  refine ⟨fun listener registered => ?_, fun _ _ => trivial⟩
  cases registered
  rfl

end WarpStream
