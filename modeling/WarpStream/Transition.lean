set_option autoImplicit false

namespace Transition

-- An event carries every choice of the scheduler and of the environment, so a
-- step is a partial function: none means that the event is not enabled.
abbrev Step (State Event : Type) := State → Event → Option State

def run {State Event : Type} (step : Step State Event) : State → List Event → Option State
  | state, [] => some state
  | state, event :: rest => (step state event).bind fun next => run step next rest

def Along {State Event : Type} (step : Step State Event) (condition : State → Event → Prop) :
    State → List Event → Prop
  | _, [] => True
  | state, event :: rest => condition state event ∧ ∀ next, step state event = some next → Along step condition next rest

section

variable {State Event : Type} (step : Step State Event)

theorem run_cons_some (state last : State) (event : Event) (rest : List Event) :
    run step state (event :: rest) = some last ↔
      ∃ next, step state event = some next ∧ run step next rest = some last := by
  simp only [run, Option.bind_eq_some_iff]

theorem run_append (state middle : State) (before after : List Event) (ran : run step state before = some middle) :
    run step state (before ++ after) = run step middle after := by
  induction before generalizing state with
  | nil =>
      cases ran
      rfl
  | cons event rest ih =>
      obtain ⟨next, stepped, finished⟩ := (run_cons_some step state middle event rest).mp ran
      simp only [List.cons_append, run, stepped, Option.bind_some]
      exact ih next finished

theorem run_preserves_along (condition : State → Event → Prop) (Inv : State → Prop)
    (preserved : ∀ state event next, Inv state → condition state event → step state event = some next → Inv next)
    (state last : State) (events : List Event) (initial : Inv state)
    (along : Along step condition state events) (ran : run step state events = some last) : Inv last := by
  induction events generalizing state with
  | nil =>
      cases ran
      exact initial
  | cons event rest ih =>
      obtain ⟨next, stepped, finished⟩ := (run_cons_some step state last event rest).mp ran
      exact ih next (preserved state event next initial along.1 stepped) (along.2 next stepped) finished

theorem along_trivial (state : State) (events : List Event) : Along step (fun _ _ => True) state events := by
  induction events generalizing state with
  | nil => trivial
  | cons event rest ih => exact ⟨trivial, fun next _ => ih next⟩

theorem along_of_events (condition : Event → Prop) (state : State) (events : List Event) (holds : ∀ event ∈ events, condition event) :
    Along step (fun _ event => condition event) state events := by
  induction events generalizing state with
  | nil => trivial
  | cons event rest ih =>
      obtain ⟨here, later⟩ := List.forall_mem_cons.mp holds
      exact ⟨here, fun next _ => ih next later⟩

theorem run_preserves (Inv : State → Prop)
    (preserved : ∀ state event next, Inv state → step state event = some next → Inv next)
    (state last : State) (events : List Event) (initial : Inv state)
    (ran : run step state events = some last) : Inv last :=
  run_preserves_along step (fun _ _ => True) Inv (fun state event next inv _ => preserved state event next inv)
    state last events initial (along_trivial step state events) ran

theorem along_append (condition : State → Event → Prop) (state middle : State) (before after : List Event)
    (along : Along step condition state (before ++ after)) (ran : run step state before = some middle) :
    Along step condition state before ∧ Along step condition middle after := by
  induction before generalizing state with
  | nil =>
      cases ran
      exact ⟨trivial, along⟩
  | cons event rest ih =>
      obtain ⟨next, stepped, finished⟩ := (run_cons_some step state middle event rest).mp ran
      obtain ⟨prior, later⟩ := ih next (along.2 next stepped) finished
      refine ⟨⟨along.1, fun other taken => ?_⟩, later⟩
      have same : next = other := Option.some.inj (stepped.symm.trans taken)
      exact same ▸ prior

theorem along_of_invariant (condition claim : State → Event → Prop) (Inv : State → Prop)
    (preserved : ∀ state event next, Inv state → condition state event → step state event = some next → Inv next)
    (sound : ∀ state event, Inv state → condition state event → claim state event)
    (state : State) (events : List Event) (initial : Inv state) (along : Along step condition state events) :
    Along step claim state events := by
  induction events generalizing state with
  | nil => trivial
  | cons event rest ih =>
      refine ⟨sound state event initial along.1, fun next stepped => ?_⟩
      exact ih next (preserved state event next initial along.1 stepped) (along.2 next stepped)

-- Where a value that steps either keep or take from the state before comes from.
theorem run_origin {Value : Type} (read : State → Value) (source : State → Value → Prop)
    (taken : ∀ state event next, step state event = some next → read next = read state ∨ source state (read next))
    (state last : State) (events : List Event) (ran : run step state events = some last) :
    read last = read state ∨
      ∃ before after middle, events = before ++ after ∧ run step state before = some middle ∧ source middle (read last) := by
  induction events generalizing state with
  | nil =>
      cases ran
      exact .inl rfl
  | cons event rest ih =>
      obtain ⟨next, stepped, finished⟩ := (run_cons_some step state last event rest).mp ran
      rcases ih next finished with kept | ⟨before, after, middle, parts, reached, origin⟩
      · rcases taken state event next stepped with same | origin
        · exact .inl (kept.trans same)
        · exact .inr ⟨[], event :: rest, state, rfl, rfl, kept ▸ origin⟩
      · refine .inr ⟨event :: before, after, middle, by rw [parts]; rfl, ?_, origin⟩
        exact (run_cons_some step state middle event before).mpr ⟨next, stepped, reached⟩

theorem run_length_le (work : State → Nat) (spends : ∀ state event next, step state event = some next → work next < work state)
    (state last : State) (events : List Event) (ran : run step state events = some last) :
    events.length + work last ≤ work state := by
  induction events generalizing state with
  | nil =>
      cases ran
      exact Nat.le_of_eq (Nat.zero_add _)
  | cons event rest ih =>
      obtain ⟨next, stepped, finished⟩ := (run_cons_some step state last event rest).mp ran
      have spent := spends state event next stepped
      have later := ih next finished
      rw [List.length_cons]
      omega

-- A system that spends with every step comes to rest.
theorem run_rests (work : State → Nat) (spends : ∀ state event next, step state event = some next → work next < work state)
    (state : State) : ∃ events last, run step state events = some last ∧ ∀ event, step last event = none := by
  induction size : work state using Nat.strongRecOn generalizing state with
  | ind bound ih =>
      by_cases stuck : ∀ event, step state event = none
      · exact ⟨[], state, rfl, stuck⟩
      · obtain ⟨event, moves⟩ := Classical.not_forall.mp stuck
        obtain ⟨next, stepped⟩ := Option.ne_none_iff_exists'.mp moves
        obtain ⟨events, last, ran, rests⟩ := ih (work next) (size ▸ spends state event next stepped) next rfl
        exact ⟨event :: events, last, (run_cons_some step state last event events).mpr ⟨next, stepped, ran⟩, rests⟩

end

end Transition
