import Mathlib.Logic.Relation
import Mathlib.Data.List.Nodup

set_option autoImplicit false

namespace FifoLedger

-- A bounded first-in first-out queue whose members may be finished while they
-- wait. The two histories record appends and hand-outs in order.
structure Ledger (α : Type) where
  queue : List α
  appended : List α
  handed : List α
  finished : α → Prop

section

variable {α : Type} (capacity : Nat)

inductive Step : Ledger α → Ledger α → Prop where
  | settle (old : Ledger α) (queue : List α) (finished : α → Prop) (shrunk : queue.Sublist old.queue)
      (dropped : ∀ member ∈ old.queue, member ∈ queue ∨ finished member)
      (grown : ∀ member, old.finished member → finished member) :
      Step old { old with queue := queue, finished := finished }
  | append (old : Ledger α) (member : α) (fresh : member ∉ old.appended) (room : old.queue.length < capacity) :
      Step old { old with queue := old.queue ++ [member], appended := old.appended ++ [member] }
  | hand (old : Ledger α) (member : α) (rest : List α) (front : old.queue = member :: rest) :
      Step old { old with queue := rest, handed := old.handed ++ [member] }

abbrev Steps : Ledger α → Ledger α → Prop := Relation.ReflTransGen (Step capacity)

structure Sound (ledger : Ledger α) : Prop where
  bounded : ledger.queue.length ≤ capacity
  ordered : (ledger.handed ++ ledger.queue).Sublist ledger.appended
  once : ledger.appended.Nodup
  accounted : ∀ member ∈ ledger.appended, member ∈ ledger.queue ∨ member ∈ ledger.handed ∨ ledger.finished member

theorem step_sound (old new : Ledger α) (step : Step capacity old new) (sound : Sound capacity old) : Sound capacity new := by
  cases step with
  | settle queue finished shrunk dropped grown =>
      refine ⟨Nat.le_trans shrunk.length_le sound.bounded, ?_, sound.once, ?_⟩
      · exact (shrunk.append_left old.handed).trans sound.ordered
      · intro member present
        rcases sound.accounted member present with waiting | handed | done
        · rcases dropped member waiting with stays | gone
          · exact .inl stays
          · exact .inr (.inr gone)
        · exact .inr (.inl handed)
        · exact .inr (.inr (grown member done))
  | append member fresh room =>
      refine ⟨by simpa using Nat.succ_le_of_lt room, ?_, ?_, ?_⟩
      · simpa only [List.append_assoc] using sound.ordered.append_right [member]
      · rw [List.nodup_append]
        refine ⟨sound.once, List.nodup_singleton member, ?_⟩
        intro earlier present last single same
        exact fresh (List.mem_singleton.mp single ▸ same ▸ present)
      · intro other present
        rcases List.mem_append.mp present with earlier | last
        · rcases sound.accounted other earlier with waiting | settled
          · exact .inl (List.mem_append_left _ waiting)
          · exact .inr settled
        · exact .inl (List.mem_append_right _ last)
  | hand member rest front =>
      have bounded := sound.bounded
      have ordered := sound.ordered
      rw [front] at bounded ordered
      refine ⟨Nat.le_of_succ_le bounded, by simpa using ordered, sound.once, ?_⟩
      intro other present
      rcases sound.accounted other present with waiting | handed | done
      · rw [front] at waiting
        rcases List.mem_cons.mp waiting with same | behind
        · exact .inr (.inl (List.mem_append_right _ (List.mem_singleton.mpr same)))
        · exact .inl behind
      · exact .inr (.inl (List.mem_append_left _ handed))
      · exact .inr (.inr done)

theorem steps_sound (old new : Ledger α) (steps : Steps capacity old new) (sound : Sound capacity old) :
    Sound capacity new := by
  induction steps with
  | refl => exact sound
  | tail _ last ih => exact step_sound capacity _ _ last ih

theorem sound_nodup (ledger : Ledger α) (sound : Sound capacity ledger) :
    ledger.queue.Nodup ∧ ledger.handed.Nodup := by
  have all := sound.ordered.nodup sound.once
  exact ⟨(List.nodup_append.mp all).2.1, (List.nodup_append.mp all).1⟩

theorem sound_handed_order (ledger : Ledger α) (sound : Sound capacity ledger) :
    ledger.handed.Sublist ledger.appended :=
  (List.sublist_append_left ledger.handed ledger.queue).trans sound.ordered

theorem sound_member (ledger : Ledger α) (sound : Sound capacity ledger) (member : α)
    (present : member ∈ ledger.queue ∨ member ∈ ledger.handed) : member ∈ ledger.appended := by
  apply sound.ordered.subset
  rcases present with waiting | handed
  · exact List.mem_append_right _ waiting
  · exact List.mem_append_left _ handed

end

end FifoLedger
