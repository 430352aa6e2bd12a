import WarpStream.WaitQueue

set_option autoImplicit false

namespace WarpStream

open Transition

abbrev ConnId := Nat

-- Between the atomic operations of maintain. finished stands for a wait group at
-- zero: the goroutine has returned or was never started.
inductive MaintainPc where
  | ticking
  | filling
  | checking
  | dialling
  | backingOff
  | offering (conn : ConnId)
  | finished
deriving DecidableEq, Repr

inductive GetPc where
  | idle
  | started
  | selecting
  | received (conn : ConnId)
  | missed
  | dialling
  | dialled (conn : ConnId)
  | returned (result : Option ConnId)
deriving DecidableEq, Repr

inductive ClosePc where
  | idle
  | cancelling
  | waiting
  | draining
  | returned
deriving DecidableEq, Repr

-- The last three fields are history: the next fresh connection, those closed so
-- far and those that maintain dialled.
structure ConnectionPool where
  minIdle : Nat
  conns : List ConnId
  ctxDone : Bool
  closed : Bool
  maintain : MaintainPc
  gets : GoroutineId → GetPc
  closes : GoroutineId → ClosePc
  nextConn : ConnId
  shut : List ConnId
  filled : List ConnId

def newConnectionPool (minIdle : Nat) : ConnectionPool where
  minIdle := minIdle
  conns := []
  ctxDone := false
  closed := false
  maintain := if 0 < minIdle then .ticking else .finished
  gets := fun _ => .idle
  closes := fun _ => .idle
  nextConn := 0
  shut := []
  filled := []

def ConnectionPool.setGet (pool : ConnectionPool) (goroutine : GoroutineId) (pc : GetPc) : ConnectionPool :=
  { pool with gets := Function.update pool.gets goroutine pc }

def ConnectionPool.setClose (pool : ConnectionPool) (goroutine : GoroutineId) (pc : ClosePc) : ConnectionPool :=
  { pool with closes := Function.update pool.closes goroutine pc }

def ConnectionPool.shutConn (pool : ConnectionPool) (conn : ConnId) : ConnectionPool :=
  { pool with shut := conn :: pool.shut }

inductive PoolEvent where
  | maintainCancelled
  | maintainTick
  | maintainFill
  | maintainProceed
  | maintainDial (connected : Bool)
  | maintainBackoff
  | maintainOffer
  | maintainDiscard
  | getStart (goroutine : GoroutineId)
  | getLoad (goroutine : GoroutineId)
  | getSelect (goroutine : GoroutineId)
  | getDial (goroutine : GoroutineId) (connected : Bool)
  | closeStore (goroutine : GoroutineId)
  | closeCancel (goroutine : GoroutineId)
  | closeWait (goroutine : GoroutineId)
  | closeDrain (goroutine : GoroutineId)
deriving DecidableEq, Repr

-- case <-p.ctx.Done(): of each of the four selects, with the connection closed
-- in the one that offers it.
def maintainCancelled (pool : ConnectionPool) : Option ConnectionPool :=
  if pool.ctxDone then
    match pool.maintain with
    | .ticking | .checking | .backingOff => some { pool with maintain := .finished }
    | .offering conn => some { pool.shutConn conn with maintain := .finished }
    | _ => none
  else none

def maintainDial (pool : ConnectionPool) (connected : Bool) : ConnectionPool :=
  if connected then
    { pool with
      maintain := .offering pool.nextConn
      nextConn := pool.nextConn + 1
      filled := pool.nextConn :: pool.filled }
  else { pool with maintain := .backingOff }

-- The channel has room for minIdle connections and nobody waits to receive, so
-- the send is ready when the buffer is not full.
def maintainOffer (pool : ConnectionPool) (conn : ConnId) : Option ConnectionPool :=
  if pool.conns.length < pool.minIdle then some { pool with conns := pool.conns ++ [conn], maintain := .filling } else none

-- default: neither ctx.Done nor the send is ready.
def maintainDiscard (pool : ConnectionPool) (conn : ConnId) : Option ConnectionPool :=
  if pool.ctxDone = false ∧ ¬ pool.conns.length < pool.minIdle then some { pool.shutConn conn with maintain := .filling }
  else none

-- p.closed.Load() at each of the four places where Get tests it.
def getLoad (pool : ConnectionPool) (g : GoroutineId) : Option ConnectionPool :=
  match pool.gets g with
  | .started => some (pool.setGet g (if pool.closed then .returned none else .selecting))
  | .missed => some (pool.setGet g (if pool.closed then .returned none else .dialling))
  | .received conn | .dialled conn =>
      some (if pool.closed then (pool.shutConn conn).setGet g (.returned none) else pool.setGet g (.returned (some conn)))
  | _ => none

def getSelect (pool : ConnectionPool) (g : GoroutineId) : ConnectionPool :=
  match pool.conns with
  | conn :: rest => { pool with conns := rest }.setGet g (.received conn)
  | [] => pool.setGet g .missed

def getDial (pool : ConnectionPool) (g : GoroutineId) (connected : Bool) : ConnectionPool :=
  if connected then { pool with nextConn := pool.nextConn + 1 }.setGet g (.dialled pool.nextConn)
  else pool.setGet g (.returned none)

def closeDrain (pool : ConnectionPool) (g : GoroutineId) : ConnectionPool :=
  match pool.conns with
  | conn :: rest => { pool with conns := rest }.shutConn conn
  | [] => pool.setClose g .returned

def poolStep (pool : ConnectionPool) : PoolEvent → Option ConnectionPool
  | .maintainCancelled => maintainCancelled pool
  | .maintainTick => if pool.maintain = .ticking then some { pool with maintain := .filling } else none
  | .maintainFill =>
      if pool.maintain = .filling then
        some { pool with maintain := if pool.conns.length < pool.minIdle then .checking else .ticking }
      else none
  | .maintainProceed =>
      if pool.maintain = .checking ∧ pool.ctxDone = false then some { pool with maintain := .dialling } else none
  | .maintainDial connected => if pool.maintain = .dialling then some (maintainDial pool connected) else none
  | .maintainBackoff => if pool.maintain = .backingOff then some { pool with maintain := .filling } else none
  | .maintainOffer =>
      match pool.maintain with
      | .offering conn => maintainOffer pool conn
      | _ => none
  | .maintainDiscard =>
      match pool.maintain with
      | .offering conn => maintainDiscard pool conn
      | _ => none
  | .getStart g => if pool.gets g = .idle then some (pool.setGet g .started) else none
  | .getLoad g => getLoad pool g
  | .getSelect g => if pool.gets g = .selecting then some (getSelect pool g) else none
  | .getDial g connected => if pool.gets g = .dialling then some (getDial pool g connected) else none
  | .closeStore g => if pool.closes g = .idle then some ({ pool with closed := true }.setClose g .cancelling) else none
  | .closeCancel g => if pool.closes g = .cancelling then some ({ pool with ctxDone := true }.setClose g .waiting) else none
  | .closeWait g =>
      if pool.closes g = .waiting ∧ pool.maintain = .finished then some (pool.setClose g .draining) else none
  | .closeDrain g => if pool.closes g = .draining then some (closeDrain pool g) else none

def MaintainPc.holding : MaintainPc → Option ConnId
  | .offering conn => some conn
  | _ => none

def GetPc.holding : GetPc → Option ConnId
  | .received conn | .dialled conn => some conn
  | _ => none

def GetPc.handedOut : GetPc → Option ConnId
  | .returned result => result
  | _ => none

-- Everything a step can do, by what happens to a connection.
inductive PoolMoved (pool : ConnectionPool) : ConnectionPool → Prop where
  | maintain (pc : MaintainPc) (running : pool.maintain ≠ .finished) (before : pool.maintain.holding = none)
      (after : pc.holding = none) : PoolMoved pool { pool with maintain := pc }
  | fill (dialling : pool.maintain = .dialling) :
      PoolMoved pool { pool with maintain := .offering pool.nextConn, nextConn := pool.nextConn + 1, filled := pool.nextConn :: pool.filled }
  | offer (conn : ConnId) (offering : pool.maintain = .offering conn) (room : pool.conns.length < pool.minIdle) :
      PoolMoved pool { pool with conns := pool.conns ++ [conn], maintain := .filling }
  | discard (conn : ConnId) (pc : MaintainPc) (offering : pool.maintain = .offering conn) (after : pc.holding = none) :
      PoolMoved pool { pool.shutConn conn with maintain := pc }
  | get (g : GoroutineId) (pc : GetPc) (before : (pool.gets g).holding = none)
      (running : ∀ result, pool.gets g ≠ .returned result) (after : pc.holding = none) (empty : pc.handedOut = none)
      (started : pool.gets g = .idle → pc = .started)
      (loaded : pool.gets g = .started → pool.closed = true → pc = .returned none) : PoolMoved pool (pool.setGet g pc)
  | dial (g : GoroutineId) (dialling : pool.gets g = .dialling) :
      PoolMoved pool ({ pool with nextConn := pool.nextConn + 1 }.setGet g (.dialled pool.nextConn))
  | receive (g : GoroutineId) (conn : ConnId) (rest : List ConnId) (selecting : pool.gets g = .selecting)
      (front : pool.conns = conn :: rest) : PoolMoved pool ({ pool with conns := rest }.setGet g (.received conn))
  | release (g : GoroutineId) (conn : ConnId) (held : (pool.gets g).holding = some conn) (shutting : pool.closed = true) :
      PoolMoved pool ((pool.shutConn conn).setGet g (.returned none))
  | hand (g : GoroutineId) (conn : ConnId) (held : (pool.gets g).holding = some conn) (opened : pool.closed = false) :
      PoolMoved pool (pool.setGet g (.returned (some conn)))
  | close (g : GoroutineId) (pc : ClosePc) (closed ctxDone : Bool) (running : pool.closes g ≠ .returned)
      (begun : closed = true ∨ closed = pool.closed ∧ pool.closes g ≠ .idle)
      (stopped : pc = .draining → pool.maintain = .finished)
      (drained : pc = .returned → pool.closes g = .draining ∧ pool.conns = []) :
      PoolMoved pool ({ pool with closed := closed, ctxDone := ctxDone }.setClose g pc)
  | drain (g : GoroutineId) (conn : ConnId) (rest : List ConnId) (draining : pool.closes g = .draining)
      (front : pool.conns = conn :: rest) : PoolMoved pool ({ pool with conns := rest }.shutConn conn)

section

variable (pool next : ConnectionPool)

theorem maintain_moved (source pc : MaintainPc) (entered : pool.maintain = source) (running : source ≠ .finished)
    (before : source.holding = none) (after : pc.holding = none) : PoolMoved pool { pool with maintain := pc } :=
  .maintain pc (entered ▸ running) (entered ▸ before) after

theorem get_moved (g : GoroutineId) (source pc : GetPc) (entered : pool.gets g = source) (before : source.holding = none)
    (running : ∀ result, source ≠ .returned result) (after : pc.holding = none) (empty : pc.handedOut = none)
    (started : source = .idle → pc = .started) (loaded : source = .started → pool.closed = true → pc = .returned none) :
    PoolMoved pool (pool.setGet g pc) := by
  subst entered
  exact .get g pc before running after empty started loaded

theorem close_moved (g : GoroutineId) (source pc : ClosePc) (ctxDone : Bool) (entered : pool.closes g = source)
    (begun : source ≠ .idle) (running : source ≠ .returned) (stopped : pc = .draining → pool.maintain = .finished)
    (drained : pc = .returned → source = .draining ∧ pool.conns = []) :
    PoolMoved pool ({ pool with ctxDone := ctxDone }.setClose g pc) := by
  subst entered
  exact .close g pc pool.closed ctxDone running (.inr ⟨rfl, begun⟩) stopped drained

theorem maintain_cancelled_moved (stepped : maintainCancelled pool = some next) : PoolMoved pool next := by
  unfold maintainCancelled at stepped
  split at stepped
  · split at stepped <;> cases stepped
    · exact maintain_moved pool _ _ (by assumption) (by simp) rfl rfl
    · exact maintain_moved pool _ _ (by assumption) (by simp) rfl rfl
    · exact maintain_moved pool _ _ (by assumption) (by simp) rfl rfl
    · exact .discard _ .finished (by assumption) rfl
  · cases stepped

-- Behind a receive or a dial, Get hands its connection out or closes it.
theorem get_load_holding (g : GoroutineId) (conn : ConnId) (held : (pool.gets g).holding = some conn) :
    PoolMoved pool
      (if pool.closed then (pool.shutConn conn).setGet g (.returned none) else pool.setGet g (.returned (some conn))) := by
  cases flag : pool.closed with
  | false => exact .hand g conn held flag
  | true => exact .release g conn held flag

theorem get_load_moved (g : GoroutineId) (stepped : getLoad pool g = some next) : PoolMoved pool next := by
  unfold getLoad at stepped
  split at stepped
  · rename_i started
    cases stepped
    cases flag : pool.closed with
    | false => exact get_moved pool g _ .selecting started rfl (by simp) rfl rfl (by simp) (by simp [flag])
    | true => exact get_moved pool g _ (.returned none) started rfl (by simp) rfl rfl (by simp) (fun _ _ => rfl)
  · rename_i missed
    cases stepped
    cases flag : pool.closed with
    | false => exact get_moved pool g _ .dialling missed rfl (by simp) rfl rfl (by simp) (by simp)
    | true => exact get_moved pool g _ (.returned none) missed rfl (by simp) rfl rfl (by simp) (fun _ _ => rfl)
  · rename_i conn received
    cases stepped
    exact get_load_holding pool g conn (by rw [received]; rfl)
  · rename_i conn dialled
    cases stepped
    exact get_load_holding pool g conn (by rw [dialled]; rfl)
  · cases stepped

end

theorem pool_step_moved (pool next : ConnectionPool) (event : PoolEvent) (stepped : poolStep pool event = some next) :
    PoolMoved pool next := by
  cases event with
  | maintainCancelled => exact maintain_cancelled_moved pool next stepped
  | maintainTick =>
      simp only [poolStep] at stepped
      split at stepped <;> cases stepped
      exact maintain_moved pool _ _ (by assumption) (by simp) rfl rfl
  | maintainFill =>
      simp only [poolStep] at stepped
      split at stepped <;> cases stepped
      apply maintain_moved pool _ _ (by assumption) (by simp) rfl
      split <;> rfl
  | maintainProceed =>
      simp only [poolStep] at stepped
      split at stepped <;> cases stepped
      rename_i ready
      exact maintain_moved pool _ _ ready.1 (by simp) rfl rfl
  | maintainDial connected =>
      simp only [poolStep] at stepped
      split at stepped <;> cases stepped
      cases connected with
      | false => exact maintain_moved pool _ _ (by assumption) (by simp) rfl rfl
      | true => exact .fill (by assumption)
  | maintainBackoff =>
      simp only [poolStep] at stepped
      split at stepped <;> cases stepped
      exact maintain_moved pool _ _ (by assumption) (by simp) rfl rfl
  | maintainOffer =>
      simp only [poolStep, maintainOffer] at stepped
      split at stepped
      · split at stepped <;> cases stepped
        exact .offer _ (by assumption) (by assumption)
      · cases stepped
  | maintainDiscard =>
      simp only [poolStep, maintainDiscard] at stepped
      split at stepped
      · split at stepped <;> cases stepped
        exact .discard _ .filling (by assumption) rfl
      · cases stepped
  | getStart g =>
      simp only [poolStep] at stepped
      split at stepped <;> cases stepped
      rename_i idle
      exact get_moved pool g _ .started idle rfl (by simp) rfl rfl (fun _ => rfl) (by simp)
  | getLoad g => exact get_load_moved pool next g stepped
  | getSelect g =>
      simp only [poolStep, getSelect] at stepped
      split at stepped
      · rename_i selecting
        split at stepped <;> cases stepped
        · exact .receive g _ _ selecting (by assumption)
        · exact get_moved pool g _ .missed selecting rfl (by simp) rfl rfl (by simp) (by simp)
      · cases stepped
  | getDial g connected =>
      simp only [poolStep] at stepped
      split at stepped <;> cases stepped
      rename_i dialling
      cases connected with
      | false =>
          exact get_moved pool g _ (.returned none) dialling rfl (by simp) rfl rfl (by simp) (fun _ _ => rfl)
      | true => exact .dial g dialling
  | closeStore g =>
      simp only [poolStep] at stepped
      split at stepped <;> cases stepped
      rename_i idle
      exact .close g .cancelling true pool.ctxDone (by simp [idle]) (.inl rfl) (by simp) (by simp)
  | closeCancel g =>
      simp only [poolStep] at stepped
      split at stepped <;> cases stepped
      exact close_moved pool g _ .waiting true (by assumption) (by simp) (by simp) (by simp) (by simp)
  | closeWait g =>
      simp only [poolStep] at stepped
      split at stepped <;> cases stepped
      rename_i ready
      exact close_moved pool g _ .draining pool.ctxDone ready.1 (by simp) (by simp) (fun _ => ready.2) (by simp)
  | closeDrain g =>
      simp only [poolStep, closeDrain] at stepped
      split at stepped
      · rename_i draining
        split at stepped <;> cases stepped
        · exact .drain g _ _ draining (by assumption)
        · exact close_moved pool g _ .returned pool.ctxDone draining (by simp) (by simp) (by simp) (fun _ => ⟨rfl, by assumption⟩)
      · cases stepped

end WarpStream
