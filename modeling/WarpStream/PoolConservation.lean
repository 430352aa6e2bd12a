import WarpStream.Custody
import WarpStream.Pool

set_option autoImplicit false

namespace WarpStream

open Transition Custody

inductive PoolPlace where
  | maintain
  | get (goroutine : GoroutineId)
  | buffered
  | handed (goroutine : GoroutineId)
  | shut
deriving DecidableEq, Repr

def ConnectionPool.holds (pool : ConnectionPool) (conn : ConnId) : PoolPlace → Prop
  | .maintain => pool.maintain.holding = some conn
  | .get g => (pool.gets g).holding = some conn
  | .buffered => conn ∈ pool.conns
  | .handed g => (pool.gets g).handedOut = some conn
  | .shut => conn ∈ pool.shut

def InCustody (pool : ConnectionPool) : Prop :=
  ∃ holder, Kept pool.holds holder ∧ ∀ conn, (holder conn).isSome = true ↔ conn < pool.nextConn

theorem in_custody_same (pool next : ConnectionPool) (custody : InCustody pool)
    (same : ∀ conn place, next.holds conn place ↔ pool.holds conn place) (dialled : next.nextConn = pool.nextConn) :
    InCustody next := by
  obtain ⟨holder, kept, issued⟩ := custody
  exact ⟨holder, kept_same pool.holds next.holds holder kept same, dialled ▸ issued⟩

theorem in_custody_transfer (pool next : ConnectionPool) (conn : ConnId) (source target : PoolPlace)
    (custody : InCustody pool) (here : pool.holds conn source)
    (moved : ∀ other place, next.holds other place ↔
      pool.holds other place ∧ ¬ (other = conn ∧ place = source) ∨ other = conn ∧ place = target)
    (dialled : next.nextConn = pool.nextConn) : InCustody next := by
  obtain ⟨holder, kept, issued⟩ := custody
  refine ⟨_, kept_transfer pool.holds next.holds holder conn source target kept here moved, ?_⟩
  intro other
  rw [dialled, ← issued, Function.update_apply]
  split
  · rename_i same
    subst same
    simp only [Option.isSome_some, (kept other source).mp here]
  · rfl

theorem in_custody_admit (pool next : ConnectionPool) (target : PoolPlace) (custody : InCustody pool)
    (moved : ∀ other place, next.holds other place ↔ pool.holds other place ∨ other = pool.nextConn ∧ place = target)
    (dialled : next.nextConn = pool.nextConn + 1) : InCustody next := by
  obtain ⟨holder, kept, issued⟩ := custody
  have nowhere : holder pool.nextConn = none := by
    rw [← Option.not_isSome_iff_eq_none, issued]
    exact Nat.lt_irrefl _
  refine ⟨_, kept_admit pool.holds next.holds holder pool.nextConn target kept nowhere moved, ?_⟩
  intro other
  rw [dialled, Function.update_apply]
  split
  · rename_i same
    subst same
    simp
  · rename_i different
    rw [issued, Nat.lt_succ_iff_lt_or_eq]
    exact ⟨.inl, fun below => below.resolve_right different⟩

theorem held_elsewhere (pool : ConnectionPool) (conn : ConnId) (first second : PoolPlace) (custody : InCustody pool)
    (here : pool.holds conn first) (different : first ≠ second) : ¬ pool.holds conn second := by
  obtain ⟨holder, kept, _⟩ := custody
  exact kept_apart pool.holds holder conn first second kept here different

theorem set_get_holds (pool : ConnectionPool) (g : GoroutineId) (pc : GetPc) (conn : ConnId) (place : PoolPlace) :
    (pool.setGet g pc).holds conn place ↔
      match place with
      | .get other => (if other = g then pc.holding else (pool.gets other).holding) = some conn
      | .handed other => (if other = g then pc.handedOut else (pool.gets other).handedOut) = some conn
      | other => pool.holds conn other := by
  cases place with
  | get other | handed other =>
      simp only [ConnectionPool.holds, ConnectionPool.setGet, Function.update_apply]
      split <;> rfl
  | _ => rfl

theorem holding_not_handed (pc : GetPc) (conn : ConnId) (held : pc.holding = some conn) : pc.handedOut = none := by
  cases pc <;> first | rfl | cases held

theorem running_not_handed (pc : GetPc) (running : ∀ result, pc ≠ .returned result) : pc.handedOut = none := by
  cases pc <;> first | rfl | exact absurd rfl (running _)

theorem pool_moved_custody (pool next : ConnectionPool) (custody : InCustody pool) (once : pool.conns.Nodup)
    (moved : PoolMoved pool next) : InCustody next := by
  cases moved with
  | maintain pc running before after =>
      refine in_custody_same pool _ custody ?_ rfl
      intro conn place
      cases place <;> simp only [ConnectionPool.holds, before, after]
  | fill dialling =>
      refine in_custody_admit pool _ .maintain custody ?_ rfl
      intro conn place
      cases place <;> grind [ConnectionPool.holds, MaintainPc.holding]
  | offer conn offering room =>
      refine in_custody_transfer pool _ conn .maintain .buffered custody (by rw [ConnectionPool.holds, offering]; rfl) ?_ rfl
      intro other place
      cases place <;> grind [ConnectionPool.holds, MaintainPc.holding]
  | discard conn pc offering after =>
      refine in_custody_transfer pool _ conn .maintain .shut custody (by rw [ConnectionPool.holds, offering]; rfl) ?_ rfl
      intro other place
      cases place <;> grind [ConnectionPool.holds, ConnectionPool.shutConn, MaintainPc.holding]
  | get g pc before running after empty _ _ =>
      have unreturned := running_not_handed _ running
      refine in_custody_same pool _ custody ?_ rfl
      intro conn place
      cases place <;> grind [set_get_holds, ConnectionPool.holds]
  | dial g dialling =>
      refine in_custody_admit pool _ (.get g) custody ?_ rfl
      intro conn place
      cases place <;> grind [set_get_holds, ConnectionPool.holds, GetPc.holding, GetPc.handedOut]
  | receive g conn rest selecting front =>
      refine in_custody_transfer pool _ conn .buffered (.get g) custody (by simp [ConnectionPool.holds, front]) ?_ rfl
      intro other place
      cases place <;> grind [set_get_holds, ConnectionPool.holds, GetPc.holding, GetPc.handedOut]
  | release g conn held shutting =>
      refine in_custody_transfer pool _ conn (.get g) .shut custody held ?_ rfl
      intro other place
      have unreturned := holding_not_handed _ conn held
      rw [set_get_holds]
      cases place <;> simp only [ConnectionPool.holds, ConnectionPool.shutConn] <;> grind [GetPc.holding, GetPc.handedOut]
  | hand g conn held opened =>
      refine in_custody_transfer pool _ conn (.get g) (.handed g) custody held ?_ rfl
      intro other place
      have unreturned := holding_not_handed _ conn held
      cases place <;> grind [set_get_holds, ConnectionPool.holds, GetPc.holding, GetPc.handedOut]
  | close g pc closed ctxDone _ _ _ _ =>
      refine in_custody_same pool _ custody ?_ rfl
      intro conn place
      cases place <;> rfl
  | drain g conn rest draining front =>
      refine in_custody_transfer pool _ conn .buffered .shut custody (by simp [ConnectionPool.holds, front]) ?_ rfl
      intro other place
      cases place <;> grind [ConnectionPool.holds, ConnectionPool.shutConn]

theorem held_below (pool : ConnectionPool) (conn : ConnId) (place : PoolPlace) (custody : InCustody pool)
    (here : pool.holds conn place) : conn < pool.nextConn := by
  obtain ⟨holder, kept, issued⟩ := custody
  rw [← issued, (kept conn place).mp here]
  rfl

structure PoolLists (pool : ConnectionPool) : Prop where
  bufferedOnce : pool.conns.Nodup
  shutOnce : pool.shut.Nodup
  bounded : pool.conns.length ≤ pool.minIdle

-- A connection is appended to either list when it comes from another place, so
-- it is not in the list yet.
theorem pool_moved_lists (pool next : ConnectionPool) (custody : InCustody pool) (lists : PoolLists pool)
    (moved : PoolMoved pool next) : PoolLists next := by
  have shut : ∀ conn place, pool.holds conn place → place ≠ .shut → (conn :: pool.shut).Nodup := by
    intro conn place here different
    exact List.nodup_cons.mpr ⟨held_elsewhere pool conn place .shut custody here different, lists.shutOnce⟩
  cases moved with
  | maintain | fill | get | dial | hand | close => exact ⟨lists.bufferedOnce, lists.shutOnce, lists.bounded⟩
  | offer conn offering room =>
      have here : pool.holds conn .maintain := by rw [ConnectionPool.holds, offering]; rfl
      have absent := held_elsewhere pool conn .maintain .buffered custody here (by simp)
      refine ⟨?_, lists.shutOnce, ?_⟩
      · exact List.nodup_append.mpr ⟨lists.bufferedOnce, by simp, fun first member second last =>
          fun same => absent (List.mem_singleton.mp last ▸ same ▸ member)⟩
      · rw [List.length_append]
        exact room
  | discard conn pc offering _ =>
      have here : pool.holds conn .maintain := by rw [ConnectionPool.holds, offering]; rfl
      exact ⟨lists.bufferedOnce, shut conn .maintain here (by simp), lists.bounded⟩
  | receive g conn rest _ front =>
      have once := front ▸ lists.bufferedOnce
      have bounded := front ▸ lists.bounded
      exact ⟨(List.nodup_cons.mp once).2, lists.shutOnce, Nat.le_of_succ_le bounded⟩
  | release g conn held _ => exact ⟨lists.bufferedOnce, shut conn (.get g) held (by simp), lists.bounded⟩
  | drain g conn rest _ front =>
      have once := front ▸ lists.bufferedOnce
      have bounded := front ▸ lists.bounded
      have here : pool.holds conn .buffered := by simp [ConnectionPool.holds, front]
      exact ⟨(List.nodup_cons.mp once).2, shut conn .buffered here (by simp), Nat.le_of_succ_le bounded⟩

structure FillsFresh (pool : ConnectionPool) : Prop where
  known : ∀ conn ∈ pool.filled, conn < pool.nextConn
  own : ∀ g conn, pool.gets g = .dialled conn → conn ∉ pool.filled

theorem set_get_fresh (pool : ConnectionPool) (g : GoroutineId) (pc : GetPc) (fresh : FillsFresh pool)
    (own : ∀ conn, pc = .dialled conn → conn ∉ pool.filled) : FillsFresh (pool.setGet g pc) := by
  refine ⟨fresh.known, ?_⟩
  intro other conn dialled
  simp only [ConnectionPool.setGet, Function.update_apply] at dialled
  split at dialled
  · exact own conn dialled
  · exact fresh.own other conn dialled

theorem pool_moved_fresh (pool next : ConnectionPool) (custody : InCustody pool) (fresh : FillsFresh pool)
    (moved : PoolMoved pool next) : FillsFresh next := by
  have unfilled : pool.nextConn ∉ pool.filled := fun member => Nat.lt_irrefl _ (fresh.known _ member)
  cases moved with
  | maintain | offer | discard | close | drain => exact ⟨fresh.known, fresh.own⟩
  | fill _ =>
      refine ⟨?_, ?_⟩
      · intro conn member
        rcases List.mem_cons.mp member with same | before
        · exact same ▸ Nat.lt_succ_self _
        · exact Nat.lt_succ_of_lt (fresh.known conn before)
      · intro g conn dialled member
        have below := held_below pool conn (.get g) custody (by rw [ConnectionPool.holds, dialled]; rfl)
        rcases List.mem_cons.mp member with same | before
        · exact Nat.lt_irrefl _ (same ▸ below)
        · exact fresh.own g conn dialled before
  | get g pc _ _ after =>
      exact set_get_fresh pool g pc fresh fun conn dialled => by rw [dialled] at after; cases after
  | dial g _ =>
      have grown : FillsFresh { pool with nextConn := pool.nextConn + 1 } :=
        ⟨fun conn member => Nat.lt_succ_of_lt (fresh.known conn member), fresh.own⟩
      exact set_get_fresh _ g _ grown fun conn dialled => by cases dialled; exact unfilled
  | receive g conn rest _ _ => exact set_get_fresh _ g _ ⟨fresh.known, fresh.own⟩ fun _ other => by cases other
  | release g conn _ _ => exact set_get_fresh _ g _ ⟨fresh.known, fresh.own⟩ fun _ other => by cases other
  | hand g conn _ _ => exact set_get_fresh pool g _ fresh fun _ other => by cases other

-- Close sets the flag first, drains only behind the end of maintain and returns
-- only from an empty buffer; with maintain over nothing is sent any more.
structure ShutsDown (pool : ConnectionPool) : Prop where
  begun : ∀ g, pool.closes g ≠ .idle → pool.closed = true
  stopped : ∀ g, pool.closes g = .draining ∨ pool.closes g = .returned → pool.maintain = .finished
  drained : ∀ g, pool.closes g = .returned → pool.conns = []

theorem shuts_down_running (pool next : ConnectionPool) (shuts : ShutsDown pool) (running : pool.maintain ≠ .finished)
    (closes : next.closes = pool.closes) (closed : next.closed = pool.closed) : ShutsDown next := by
  refine ⟨?_, ?_, ?_⟩
  · intro g busy
    rw [closed]
    exact shuts.begun g (closes ▸ busy)
  · intro g finished
    exact absurd (shuts.stopped g (closes ▸ finished)) running
  · intro g finished
    exact absurd (shuts.stopped g (.inr (closes ▸ finished))) running

theorem pool_moved_shuts_down (pool next : ConnectionPool) (shuts : ShutsDown pool) (moved : PoolMoved pool next) :
    ShutsDown next := by
  cases moved with
  | maintain pc running _ _ => exact shuts_down_running pool _ shuts running rfl rfl
  | fill dialling => exact shuts_down_running pool _ shuts (by simp [dialling]) rfl rfl
  | offer conn offering _ => exact shuts_down_running pool _ shuts (by simp [offering]) rfl rfl
  | discard conn pc offering _ => exact shuts_down_running pool _ shuts (by simp [offering]) rfl rfl
  | get | dial | release | hand => exact ⟨shuts.begun, shuts.stopped, shuts.drained⟩
  | receive g conn rest _ front =>
      refine ⟨shuts.begun, shuts.stopped, fun other finished => ?_⟩
      cases (shuts.drained other finished).symm.trans front
  | close g pc closed ctxDone _ begun stopped drained =>
      have flag : pool.closed = true → closed = true := by
        intro before
        rcases begun with now | ⟨same, _⟩
        · exact now
        · exact same.trans before
      have closes : ∀ other, ({ pool with closed := closed, ctxDone := ctxDone }.setClose g pc).closes other =
          if other = g then pc else pool.closes other := fun other => Function.update_apply _ _ _ _
      refine ⟨?_, ?_, ?_⟩
      · intro other busy
        rw [closes] at busy
        split at busy
        · rcases begun with now | ⟨same, entered⟩
          · exact now
          · exact same.trans (shuts.begun g entered)
        · exact flag (shuts.begun other busy)
      · intro other finished
        rw [closes] at finished
        split at finished
        · rcases finished with draining | returned
          · exact stopped draining
          · exact shuts.stopped g (.inl (drained returned).1)
        · exact shuts.stopped other finished
      · intro other finished
        rw [closes] at finished
        split at finished
        · exact (drained finished).2
        · exact shuts.drained other finished
  | drain g conn rest _ front =>
      refine ⟨shuts.begun, shuts.stopped, fun other finished => ?_⟩
      cases (shuts.drained other finished).symm.trans front

structure PoolSound (minIdle : Nat) (pool : ConnectionPool) : Prop where
  capacity : pool.minIdle = minIdle
  custody : InCustody pool
  lists : PoolLists pool
  fresh : FillsFresh pool
  shuts : ShutsDown pool

theorem pool_sound_initial (minIdle : Nat) : PoolSound minIdle (newConnectionPool minIdle) := by
  refine ⟨rfl, ⟨fun _ => none, ?_, ?_⟩, ⟨List.nodup_nil, List.nodup_nil, Nat.zero_le _⟩, ⟨?_, ?_⟩, ⟨?_, ?_, ?_⟩⟩
  · intro conn place
    cases place with
    | maintain =>
        simp only [ConnectionPool.holds, newConnectionPool]
        split <;> exact ⟨nofun, nofun⟩
    | _ => exact ⟨nofun, nofun⟩
  · intro conn
    exact ⟨nofun, nofun⟩
  · exact nofun
  · exact nofun
  · exact fun _ busy => absurd rfl busy
  · intro g finished
    rcases finished with draining | returned
    · cases draining
    · cases returned
  · exact nofun

theorem pool_moved_min_idle (pool next : ConnectionPool) (moved : PoolMoved pool next) : next.minIdle = pool.minIdle := by
  cases moved <;> rfl

theorem pool_sound_step (minIdle : Nat) (pool : ConnectionPool) (event : PoolEvent) (next : ConnectionPool)
    (sound : PoolSound minIdle pool) (stepped : poolStep pool event = some next) : PoolSound minIdle next := by
  have moved := pool_step_moved pool next event stepped
  exact ⟨(pool_moved_min_idle pool next moved).trans sound.capacity,
    pool_moved_custody pool next sound.custody sound.lists.bufferedOnce moved,
    pool_moved_lists pool next sound.custody sound.lists moved, pool_moved_fresh pool next sound.custody sound.fresh moved,
    pool_moved_shuts_down pool next sound.shuts moved⟩

theorem pool_sound_run (minIdle : Nat) (events : List PoolEvent) (last : ConnectionPool)
    (ran : run poolStep (newConnectionPool minIdle) events = some last) : PoolSound minIdle last :=
  run_preserves poolStep (PoolSound minIdle) (pool_sound_step minIdle) _ last events (pool_sound_initial minIdle) ran

-- A Get that has not passed its first load when the flag is already set.
def LateGet (g : GoroutineId) (pool : ConnectionPool) : Prop :=
  pool.closed = true ∧ (pool.gets g = .idle ∨ pool.gets g = .started ∨ pool.gets g = .returned none)

theorem set_get_late (pool : ConnectionPool) (g other : GoroutineId) (pc : GetPc) (late : LateGet g pool)
    (own : other = g → pc = .idle ∨ pc = .started ∨ pc = .returned none) : LateGet g (pool.setGet other pc) := by
  refine ⟨late.1, ?_⟩
  simp only [ConnectionPool.setGet, Function.update_apply]
  split
  · rename_i same
    exact own same.symm
  · exact late.2

theorem late_get_holds_none (g : GoroutineId) (pool : ConnectionPool) (late : LateGet g pool) : (pool.gets g).holding = none := by
  rcases late.2 with idle | started | returned
  · rw [idle]; rfl
  · rw [started]; rfl
  · rw [returned]; rfl

theorem late_get_step (g : GoroutineId) (pool : ConnectionPool) (event : PoolEvent) (next : ConnectionPool)
    (late : LateGet g pool) (stepped : poolStep pool event = some next) : LateGet g next := by
  cases pool_step_moved pool next event stepped with
  | maintain | fill | offer | discard | drain => exact late
  | get other pc _ running _ _ started loaded =>
      refine set_get_late pool g other pc late fun same => ?_
      subst same
      rcases late.2 with idle | begun | returned
      · exact .inr (.inl (started idle))
      · exact .inr (.inr (loaded begun late.1))
      · exact absurd returned (running none)
  | dial other dialling =>
      refine set_get_late { pool with nextConn := pool.nextConn + 1 } g other _ late fun same => ?_
      subst same
      simp [LateGet, dialling] at late
  | receive other conn rest selecting _ =>
      refine set_get_late { pool with conns := rest } g other _ late fun same => ?_
      subst same
      simp [LateGet, selecting] at late
  | release other conn held _ =>
      exact set_get_late (pool.shutConn conn) g other _ late fun _ => .inr (.inr rfl)
  | hand other conn held _ =>
      refine set_get_late pool g other _ late fun same => ?_
      subst same
      cases (late_get_holds_none other pool late).symm.trans held
  | close other pc closed ctxDone _ begun _ _ =>
      refine ⟨?_, late.2⟩
      rcases begun with now | ⟨same, _⟩
      · exact now
      · exact same.trans late.1

theorem close_returned_step (g : GoroutineId) (pool : ConnectionPool) (event : PoolEvent) (next : ConnectionPool)
    (finished : pool.closes g = .returned) (stepped : poolStep pool event = some next) : next.closes g = .returned := by
  cases pool_step_moved pool next event stepped with
  | close other pc closed ctxDone running _ _ _ =>
      simp only [ConnectionPool.setClose, Function.update_apply]
      split
      · rename_i same
        exact absurd finished (same ▸ running)
      · exact finished
  | _ => exact finished

-- Behind the end of Close a connection of maintain is in none of its own places.
theorem filled_settled (minIdle : Nat) (pool : ConnectionPool) (closer : GoroutineId) (conn : ConnId)
    (sound : PoolSound minIdle pool) (finished : pool.closes closer = .returned) (filled : conn ∈ pool.filled) :
    conn ∈ pool.shut ∨ ∃ g, pool.gets g = .received conn ∨ pool.gets g = .returned (some conn) := by
  obtain ⟨holder, kept, issued⟩ := sound.custody
  obtain ⟨place, here, _⟩ := kept_unique pool.holds holder conn kept ((issued conn).mpr (sound.fresh.known conn filled))
  cases place with
  | maintain =>
      simp only [ConnectionPool.holds, sound.shuts.stopped closer (.inr finished), MaintainPc.holding] at here
      cases here
  | buffered =>
      simp only [ConnectionPool.holds, sound.shuts.drained closer finished] at here
      cases here
  | shut => exact .inl here
  | get g =>
      refine .inr ⟨g, .inl ?_⟩
      simp only [ConnectionPool.holds] at here
      cases pc : pool.gets g with
      | received held =>
          rw [pc] at here
          cases here
          rfl
      | dialled held =>
          rw [pc] at here
          cases here
          exact absurd filled (sound.fresh.own g _ pc)
      | _ =>
          rw [pc] at here
          cases here
  | handed g =>
      refine .inr ⟨g, .inr ?_⟩
      simp only [ConnectionPool.holds] at here
      cases pc : pool.gets g with
      | returned result =>
          rw [pc] at here
          exact congrArg GetPc.returned here
      | _ =>
          rw [pc] at here
          cases here

theorem connection_pool_conservation (minIdle : Nat) (before after : List PoolEvent) (middle last : ConnectionPool)
    (ran : run poolStep (newConnectionPool minIdle) before = some middle) (continued : run poolStep middle after = some last) :
    (∀ conn, conn < last.nextConn → ∃! place, last.holds conn place) ∧ last.conns.Nodup ∧ last.shut.Nodup ∧
    last.conns.length ≤ minIdle ∧
    (∀ closer g conn, middle.closes closer ≠ .idle → middle.gets g = .idle → last.gets g ≠ .returned (some conn)) ∧
    (∀ closer, middle.closes closer = .returned → last.conns = [] ∧ ∀ conn ∈ last.filled,
      conn ∈ last.shut ∨ ∃ g, last.gets g = .received conn ∨ last.gets g = .returned (some conn)) := by
  have halfway := pool_sound_run minIdle before middle ran
  have sound := run_preserves poolStep (PoolSound minIdle) (pool_sound_step minIdle) middle last after halfway continued
  refine ⟨?_, sound.lists.bufferedOnce, sound.lists.shutOnce, sound.capacity ▸ sound.lists.bounded, ?_, ?_⟩
  · intro conn dialled
    obtain ⟨holder, kept, issued⟩ := sound.custody
    exact kept_unique last.holds holder conn kept ((issued conn).mpr dialled)
  · intro closer g conn begun idle returned
    have late : LateGet g middle := ⟨halfway.shuts.begun closer begun, .inl idle⟩
    have still := run_preserves poolStep (LateGet g) (late_get_step g) middle last after late continued
    simp [LateGet, returned] at still
  · intro closer returned
    have finished := run_preserves poolStep (fun pool => pool.closes closer = .returned) (close_returned_step closer) middle last
      after returned continued
    exact ⟨sound.shuts.drained closer finished, fun conn filled => filled_settled minIdle last closer conn sound finished filled⟩

-- A Get takes the connection of maintain out of the buffer, Close runs to its
-- end, and only then does the Get see the flag.
def racingGet : List PoolEvent :=
  [.maintainTick, .maintainFill, .maintainProceed, .maintainDial true, .maintainOffer, .getStart 0, .getLoad 0, .getSelect 0,
    .closeStore 9, .closeCancel 9, .maintainFill, .maintainCancelled, .closeWait 9, .closeDrain 9]

def racedPool : ConnectionPool := (run poolStep (newConnectionPool 1) racingGet).get (by decide)

def settledPool : ConnectionPool := (run poolStep racedPool [.getStart 1, .getLoad 1, .getLoad 0]).get (by decide)

theorem connection_pool_conservation_racing_get :
    racedPool.closes 9 = .returned ∧ racedPool.gets 0 = .received 0 ∧ settledPool.shut = [0] ∧
      settledPool.conns.length ≤ 1 ∧ settledPool.gets 1 ≠ .returned (some 0) ∧ settledPool.conns = [] ∧
      ∃! place, settledPool.holds 0 place := by
  obtain ⟨once, _, _, bounded, late, closed⟩ :=
    connection_pool_conservation 1 racingGet [.getStart 1, .getLoad 1, .getLoad 0] racedPool settledPool
      (Option.some_get _).symm (Option.some_get _).symm
  exact ⟨by decide, by decide, by decide, bounded, late 9 1 0 (by decide) (by decide), (closed 9 (by decide)).1,
    once 0 (by decide)⟩

end WarpStream
