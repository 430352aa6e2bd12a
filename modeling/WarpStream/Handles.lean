import Mathlib.Algebra.GroupWithZero.Nat
import Mathlib.Data.List.Basic
import WarpStream.Transition

set_option autoImplicit false

namespace Handles

open Transition

-- What a thread does in one step. It opens one handle at most, under the next free number.
structure Effect (Thread : Type) where
  thread : Thread
  closes : List Nat := []
  opens : Bool := false

structure World (Thread : Type) where
  handles : List Bool
  threads : List Thread

inductive Happens (Seed Event : Type) where
  | spawn (seed : Seed)
  | act (index : Nat) (event : Event)
deriving DecidableEq

section

variable {Thread : Type}

def closeAll (closes : List Nat) (handles : List Bool) : List Bool :=
  handles.mapIdx fun id opened => opened && !closes.contains id

def Effect.settle (effect : Effect Thread) (handles : List Bool) : List Bool :=
  closeAll effect.closes (handles ++ if effect.opens then [true] else [])

-- The handles within reach of a thread during a step.
def Effect.reach (effect : Effect Thread) (before : List Nat) (fresh : Nat) : List Nat :=
  before ++ if effect.opens then [fresh] else []

theorem close_all_open (closes : List Nat) (handles : List Bool) (id : Nat) :
    (closeAll closes handles)[id]? = some true ↔ handles[id]? = some true ∧ id ∉ closes := by
  simp [closeAll, and_comm]

theorem close_all_other (closes : List Nat) (handles : List Bool) (id : Nat) (other : id ∉ closes) :
    (closeAll closes handles)[id]? = handles[id]? := by
  simp [closeAll, other]

theorem settle_length (effect : Effect Thread) (handles : List Bool) :
    (effect.settle handles).length = handles.length + if effect.opens then 1 else 0 := by
  cases opens : effect.opens with
  | true => simp [Effect.settle, closeAll, opens]
  | false => simp [Effect.settle, closeAll, opens]

theorem settle_open (effect : Effect Thread) (handles : List Bool) (id : Nat) :
    (effect.settle handles)[id]? = some true ↔
      (handles[id]? = some true ∨ effect.opens = true ∧ id = handles.length) ∧ id ∉ effect.closes := by
  rw [Effect.settle, close_all_open]
  refine and_congr_left fun _ => ?_
  cases opens : effect.opens with
  | false => simp
  | true =>
      rcases Nat.lt_trichotomy id handles.length with less | same | more
      · simp [List.getElem?_append_left less, Nat.ne_of_lt less]
      · simp [same]
      · have past : (handles ++ [true]).length ≤ id := by
          rw [List.length_append]
          exact more
        simp [List.getElem?_eq_none (Nat.le_of_lt more), List.getElem?_eq_none past, Nat.ne_of_gt more]

theorem settle_other (effect : Effect Thread) (handles : List Bool) (id : Nat) (known : id < handles.length)
    (other : id ∉ effect.closes) : (effect.settle handles)[id]? = handles[id]? := by
  rw [Effect.settle, close_all_other _ _ id other, List.getElem?_append_left known]

end

-- A thread gives up a handle only by closing it, and closes only what it has.
structure Conserves {Thread : Type} (held : Thread → List Nat) (before : List Nat) (fresh : Nat) (effect : Effect Thread) : Prop where
  own : held effect.thread ⊆ effect.reach before fresh
  kept : effect.reach before fresh ⊆ held effect.thread ++ effect.closes
  closes : effect.closes ⊆ effect.reach before fresh

section

variable {Thread Seed Event : Type} (start : Seed → Nat → Effect Thread) (act : Thread → Nat → Event → Option (Effect Thread))

def worldStep : Step (World Thread) (Happens Seed Event)
  | world, .spawn seed =>
      let effect := start seed world.handles.length
      some ⟨effect.settle world.handles, world.threads ++ [effect.thread]⟩
  | world, .act index event =>
      world.threads[index]?.bind fun thread =>
        (act thread world.handles.length event).map fun effect =>
          ⟨effect.settle world.handles, world.threads.set index effect.thread⟩

-- Every step is that of one thread, whose number it has, before it or from now on.
inductive Moved (world : World Thread) : Happens Seed Event → World Thread → Prop
  | spawned (seed : Seed) : Moved world (.spawn seed)
      ⟨(start seed world.handles.length).settle world.handles, world.threads ++ [(start seed world.handles.length).thread]⟩
  | acted (index : Nat) (event : Event) (thread : Thread) (effect : Effect Thread) (found : world.threads[index]? = some thread)
      (acts : act thread world.handles.length event = some effect) :
      Moved world (.act index event) ⟨effect.settle world.handles, world.threads.set index effect.thread⟩

theorem world_moved (world next : World Thread) (event : Happens Seed Event) (stepped : worldStep start act world event = some next) :
    Moved start act world event next := by
  cases event with
  | spawn seed =>
      cases stepped
      exact .spawned seed
  | act index event =>
      obtain ⟨thread, found, rest⟩ := Option.bind_eq_some_iff.mp stepped
      obtain ⟨effect, acts, rfl⟩ := Option.map_eq_some_iff.mp rest
      exact .acted index event thread effect found acts

theorem all_threads_step (Inv : Thread → Prop) (starts : ∀ seed fresh, Inv (start seed fresh).thread)
    (preserved : ∀ thread fresh event effect, Inv thread → act thread fresh event = some effect → Inv effect.thread)
    (world : World Thread) (event : Happens Seed Event) (next : World Thread) (all : ∀ thread ∈ world.threads, Inv thread)
    (stepped : worldStep start act world event = some next) : ∀ thread ∈ next.threads, Inv thread := by
  cases world_moved start act world next event stepped with
  | spawned seed =>
      intro thread member
      rcases List.mem_append.mp member with old | new
      · exact all thread old
      · rw [List.mem_singleton.mp new]
        exact starts seed _
  | acted index event thread effect found acts =>
      intro other member
      rcases List.mem_or_eq_of_mem_set member with old | rfl
      · exact all other old
      · exact preserved thread _ event effect (all thread (List.mem_of_getElem? found)) acts

-- What is counted of all threads together, and what an event adds to it.
def World.total (world : World Thread) (count : Thread → Nat) : Nat := (world.threads.map count).sum

def Happens.price (price : Event → Nat) : Happens Seed Event → Nat
  | .spawn _ => 0
  | .act _ event => price event

theorem sum_set (count : Thread → Nat) (threads : List Thread) (index : Nat) (thread next : Thread)
    (found : threads[index]? = some thread) :
    ((threads.set index next).map count).sum + count thread = (threads.map count).sum + count next := by
  induction threads generalizing index with
  | nil => cases found
  | cons first rest ih =>
      cases index with
      | zero =>
          cases found
          simp only [List.set_cons_zero, List.map_cons, List.sum_cons]
          omega
      | succ index =>
          have later := ih index found
          simp only [List.set_cons_succ, List.map_cons, List.sum_cons]
          omega

theorem total_step (count : Thread → Nat) (price : Event → Nat) (starts : ∀ seed fresh, count (start seed fresh).thread = 0)
    (adds : ∀ thread fresh event effect, act thread fresh event = some effect → count effect.thread = count thread + price event)
    (world : World Thread) (event : Happens Seed Event) (next : World Thread) (stepped : worldStep start act world event = some next) :
    next.total count = world.total count + event.price price := by
  cases world_moved start act world next event stepped with
  | spawned seed => simp [World.total, Happens.price, starts seed]
  | acted index event thread effect found acts =>
      have replaced := sum_set count world.threads index thread effect.thread found
      rw [adds thread _ event effect acts] at replaced
      simp only [World.total, Happens.price]
      omega

theorem total_run (count : Thread → Nat) (price : Event → Nat) (starts : ∀ seed fresh, count (start seed fresh).thread = 0)
    (adds : ∀ thread fresh event effect, act thread fresh event = some effect → count effect.thread = count thread + price event)
    (world last : World Thread) (events : List (Happens Seed Event)) (ran : run (worldStep start act) world events = some last) :
    last.total count = world.total count + (events.map (Happens.price price)).sum := by
  induction events generalizing world with
  | nil =>
      cases ran
      rfl
  | cons event rest ih =>
      obtain ⟨next, stepped, finished⟩ := (run_cons_some _ world last event rest).mp ran
      rw [ih next finished, total_step start act count price starts adds world event next stepped, List.map_cons, List.sum_cons,
        Nat.add_assoc]

end

structure Sound {Thread : Type} (held : Thread → List Nat) (world : World Thread) : Prop where
  known : ∀ thread ∈ world.threads, ∀ id ∈ held thread, id < world.handles.length
  apart : ∀ (first second : Nat) (one other : Thread) (id : Nat), world.threads[first]? = some one → world.threads[second]? = some other →
    id ∈ held one → id ∈ held other → first = second
  accounted : ∀ id : Nat, world.handles[id]? = some true → ∃ thread ∈ world.threads, id ∈ held thread

def HeldBy {Thread : Type} (held : Thread → List Nat) (world : World Thread) (id index : Nat) : Prop :=
  ∃ thread, world.threads[index]? = some thread ∧ id ∈ held thread

theorem open_held_once {Thread : Type} (held : Thread → List Nat) (world : World Thread) (sound : Sound held world) (id : Nat)
    (opened : world.handles[id]? = some true) : ∃! index, HeldBy held world id index := by
  obtain ⟨thread, member, holds⟩ := sound.accounted id opened
  obtain ⟨index, found⟩ := List.mem_iff_getElem?.mp member
  refine ⟨index, ⟨thread, found, holds⟩, ?_⟩
  rintro other ⟨another, there, again⟩
  exact sound.apart other index another thread id there found again holds

theorem sound_empty {Thread : Type} (held : Thread → List Nat) : Sound held ⟨[], []⟩ where
  known _ member := absurd member List.not_mem_nil
  apart _ _ _ _ _ found := by cases found
  accounted _ opened := by cases opened

theorem mem_reach {Thread : Type} (effect : Effect Thread) (before : List Nat) (fresh id : Nat) :
    id ∈ effect.reach before fresh ↔ id ∈ before ∨ effect.opens = true ∧ id = fresh := by
  cases opens : effect.opens with
  | true => simp [Effect.reach, opens]
  | false => simp [Effect.reach, opens]

theorem conserves_parts {Thread : Type} (held : Thread → List Nat) (before : List Nat) (fresh : Nat) (effect : Effect Thread)
    (parts : ∀ id, (id ∈ before ∨ effect.opens = true ∧ id = fresh) ↔ id ∈ held effect.thread ∨ id ∈ effect.closes) :
    Conserves held before fresh effect where
  own id member := (mem_reach effect before fresh id).mpr ((parts id).mpr (.inl member))
  kept id member := List.mem_append.mpr ((parts id).mp ((mem_reach effect before fresh id).mp member))
  closes id member := (mem_reach effect before fresh id).mpr ((parts id).mpr (.inr member))

section

variable {Thread : Type} (held : Thread → List Nat) (world : World Thread) (sound : Sound held world)

include sound

-- One thread has taken a step, or is new; before is what it held until then.
theorem sound_settle (index : Nat) (before : List Nat) (effect : Effect Thread) (threads : List Thread)
    (conserves : Conserves held before world.handles.length effect) (own : threads[index]? = some effect.thread)
    (others : ∀ other, other ≠ index → threads[other]? = world.threads[other]?)
    (held_before : ∀ id, id ∈ before ↔ ∃ thread, world.threads[index]? = some thread ∧ id ∈ held thread) :
    Sound held ⟨effect.settle world.handles, threads⟩ := by
  have acting : ∀ id ∈ held effect.thread, id ∈ before ∨ effect.opens = true ∧ id = world.handles.length :=
    fun id member => (mem_reach effect before _ id).mp (conserves.own member)
  have foreign : ∀ other thread id, other ≠ index → threads[other]? = some thread → id ∈ held thread → id ∉ held effect.thread := by
    intro other thread id apart found member again
    rw [others other apart] at found
    rcases acting id again with old | ⟨_, rfl⟩
    · obtain ⟨was, there, had⟩ := (held_before id).mp old
      exact apart (sound.apart other index thread was id found there member had)
    · exact Nat.lt_irrefl _ (sound.known thread (List.mem_of_getElem? found) _ member)
  refine ⟨?_, ?_, ?_⟩
  · intro thread member id holds
    obtain ⟨place, found⟩ := List.mem_iff_getElem?.mp member
    rw [settle_length]
    by_cases same : place = index
    · subst same
      rw [own] at found
      cases found
      rcases acting id holds with old | ⟨opens, rfl⟩
      · obtain ⟨was, there, had⟩ := (held_before id).mp old
        exact Nat.lt_of_lt_of_le (sound.known was (List.mem_of_getElem? there) id had) (Nat.le_add_right _ _)
      · rw [if_pos opens]
        exact Nat.lt_succ_self _
    · rw [others place same] at found
      exact Nat.lt_of_lt_of_le (sound.known thread (List.mem_of_getElem? found) id holds) (Nat.le_add_right _ _)
  · intro first second one other id there here holds again
    by_cases left : first = index
    · by_cases right : second = index
      · rw [left, right]
      · subst left
        rw [own] at there
        cases there
        exact absurd holds (foreign second other id right here again)
    · by_cases right : second = index
      · subst right
        rw [own] at here
        cases here
        exact absurd again (foreign first one id left there holds)
      · rw [others first left] at there
        rw [others second right] at here
        exact sound.apart first second one other id there here holds again
  · intro id opened
    obtain ⟨was, still⟩ := (settle_open effect world.handles id).mp opened
    have reached : id ∈ effect.reach before world.handles.length → ∃ thread ∈ threads, id ∈ held thread := by
      intro within
      refine ⟨effect.thread, List.mem_of_getElem? own, ?_⟩
      exact (List.mem_append.mp (conserves.kept within)).resolve_right still
    rcases was with old | fresh
    · obtain ⟨thread, member, holds⟩ := sound.accounted id old
      obtain ⟨place, found⟩ := List.mem_iff_getElem?.mp member
      by_cases same : place = index
      · subst same
        exact reached ((mem_reach effect before _ id).mpr (.inl ((held_before id).mpr ⟨thread, found, holds⟩)))
      · rw [← others place same] at found
        exact ⟨thread, List.mem_of_getElem? found, holds⟩
    · exact reached ((mem_reach effect before _ id).mpr (.inr fresh))

end

section

variable {Thread Seed Event : Type} (start : Seed → Nat → Effect Thread) (act : Thread → Nat → Event → Option (Effect Thread))
  (held : Thread → List Nat) (Inv : Thread → Prop)

-- Every thread keeps its own invariant, and the handles as long as that holds.
structure Disciplined : Prop where
  starts : ∀ seed fresh, Inv (start seed fresh).thread ∧ Conserves held [] fresh (start seed fresh)
  acts : ∀ thread fresh event effect, Inv thread → act thread fresh event = some effect →
    Inv effect.thread ∧ Conserves held (held thread) fresh effect

variable (disciplined : Disciplined start act held Inv)

include disciplined

theorem sound_step (world : World Thread) (event : Happens Seed Event) (next : World Thread) (sound : Sound held world)
    (all : ∀ thread ∈ world.threads, Inv thread) (stepped : worldStep start act world event = some next) : Sound held next := by
  cases world_moved start act world next event stepped with
  | spawned seed =>
      refine sound_settle held world sound world.threads.length [] _ _ (disciplined.starts seed _).2 ?_ ?_ ?_
      · exact List.getElem?_concat_length
      · intro other apart
        rcases Nat.lt_or_ge other world.threads.length with less | more
        · exact List.getElem?_append_left less
        · have past : world.threads.length < other := Nat.lt_of_le_of_ne more (Ne.symm apart)
          rw [List.getElem?_eq_none more, List.getElem?_eq_none]
          rw [List.length_append]
          exact past
      · simp
  | acted index event thread effect found acted =>
      have within : index < world.threads.length := (List.getElem?_eq_some_iff.mp found).1
      have conserves := (disciplined.acts thread _ event effect (all thread (List.mem_of_getElem? found)) acted).2
      refine sound_settle held world sound index (held thread) effect _ conserves ?_ ?_ ?_
      · exact List.getElem?_set_self within
      · intro other apart
        exact List.getElem?_set_ne (Ne.symm apart)
      · simp [found]

theorem sound_run (events : List (Happens Seed Event)) (world : World Thread)
    (ran : run (worldStep start act) ⟨[], []⟩ events = some world) : Sound held world ∧ ∀ thread ∈ world.threads, Inv thread := by
  refine run_preserves (worldStep start act) (fun world => Sound held world ∧ ∀ thread ∈ world.threads, Inv thread) ?_ _ world events
    ⟨sound_empty held, by simp⟩ ran
  intro before event next ⟨sound, all⟩ stepped
  refine ⟨sound_step start act held Inv disciplined before event next sound all stepped, ?_⟩
  exact all_threads_step start act Inv (fun seed fresh => (disciplined.starts seed fresh).1)
    (fun thread fresh event effect inv acted => (disciplined.acts thread fresh event effect inv acted).1) before event next all stepped

-- What other threads hold is left as it is.
theorem step_apart (world : World Thread) (index : Nat) (event : Event) (next : World Thread) (sound : Sound held world)
    (all : ∀ thread ∈ world.threads, Inv thread) (stepped : worldStep start act world (.act index event) = some next)
    (other id : Nat) (apart : other ≠ index) (foreign : HeldBy held world id other) : next.handles[id]? = world.handles[id]? := by
  obtain ⟨thread, found, holds⟩ := foreign
  cases world_moved start act world next _ stepped with
  | acted index event actor effect here acted =>
      have known := sound.known thread (List.mem_of_getElem? found) id holds
      have conserves := (disciplined.acts actor _ event effect (all actor (List.mem_of_getElem? here)) acted).2
      refine settle_other effect world.handles id known fun closed => ?_
      rcases (mem_reach effect _ _ id).mp (conserves.closes closed) with own | ⟨_, rfl⟩
      · exact apart (sound.apart other index thread actor id found here holds own)
      · exact Nat.lt_irrefl _ known

end

end Handles
