import Mathlib.Logic.Function.Basic
import Mathlib.Logic.ExistsUnique

set_option autoImplicit false

namespace Custody

section

variable {Item Place : Type}

-- Each item that is anywhere is in the one place that holder names.
def Kept (held : Item → Place → Prop) (holder : Item → Option Place) : Prop :=
  ∀ item place, held item place ↔ holder item = some place

theorem kept_unique (held : Item → Place → Prop) (holder : Item → Option Place) (item : Item) (kept : Kept held holder)
    (somewhere : (holder item).isSome = true) : ∃! place, held item place := by
  obtain ⟨place, found⟩ := Option.isSome_iff_exists.mp somewhere
  refine ⟨place, (kept item place).mpr found, ?_⟩
  intro other elsewhere
  exact Option.some.inj (((kept item other).mp elsewhere).symm.trans found)

theorem kept_apart (held : Item → Place → Prop) (holder : Item → Option Place) (item : Item) (first second : Place)
    (kept : Kept held holder) (here : held item first) (different : first ≠ second) : ¬ held item second := by
  intro there
  exact different (Option.some.inj (((kept item first).mp here).symm.trans ((kept item second).mp there)))

theorem kept_same (held next : Item → Place → Prop) (holder : Item → Option Place) (kept : Kept held holder)
    (same : ∀ item place, next item place ↔ held item place) : Kept next holder := by
  intro item place
  rw [same]
  exact kept item place

variable [DecidableEq Item]

theorem kept_admit (held next : Item → Place → Prop) (holder : Item → Option Place) (item : Item) (target : Place)
    (kept : Kept held holder) (nowhere : holder item = none)
    (admitted : ∀ other place, next other place ↔ held other place ∨ other = item ∧ place = target) :
    Kept next (Function.update holder item (some target)) := by
  intro other place
  rw [admitted, Function.update_apply]
  by_cases same : other = item
  · subst same
    have absent : ¬ held other place := fun here => by cases nowhere.symm.trans ((kept other place).mp here)
    simp only [absent, true_and, false_or, if_true, Option.some.injEq]
    exact eq_comm
  · simp only [same, false_and, or_false, if_false]
    exact kept other place

theorem kept_transfer (held next : Item → Place → Prop) (holder : Item → Option Place) (item : Item) (source target : Place)
    (kept : Kept held holder) (here : held item source)
    (moved : ∀ other place, next other place ↔
      held other place ∧ ¬ (other = item ∧ place = source) ∨ other = item ∧ place = target) :
    Kept next (Function.update holder item (some target)) := by
  intro other place
  rw [moved, Function.update_apply]
  by_cases same : other = item
  · subst same
    have left : ¬ (held other place ∧ ¬ (true = true ∧ place = source)) := by
      intro remains
      exact kept_apart held holder other source place kept here (fun equal => remains.2 ⟨rfl, equal.symm⟩) remains.1
    simp only [true_and] at left
    simp only [true_and, left, false_or, if_true, Option.some.injEq]
    exact eq_comm
  · simp only [same, false_and, not_false_eq_true, and_true, or_false, if_false]
    exact kept other place

end

end Custody
