set_option autoImplicit false

namespace GoChan

structure Chan (α : Type) where
  buffer : List α
  capacity : Nat
  closed : Bool
deriving DecidableEq, Repr

def makeChan {α : Type} (capacity : Nat) : Chan α := ⟨[], capacity, false⟩

inductive Sent (α : Type) where
  | panicked
  | full
  | sent (chan : Chan α)

inductive Received (α : Type) where
  | blocks
  | closed
  | value (value : α) (chan : Chan α)

-- A send as one case of a select with a default: where it would block the
-- default is taken, on a closed channel it panics all the same.
def Chan.trySend {α : Type} (chan : Chan α) (value : α) : Sent α :=
  if chan.closed then .panicked
  else if chan.buffer.length < chan.capacity then .sent { chan with buffer := chan.buffer ++ [value] }
  else .full

def Chan.receive {α : Type} (chan : Chan α) : Received α :=
  match chan.buffer with
  | value :: rest => .value value { chan with buffer := rest }
  | [] => if chan.closed then .closed else .blocks

def Chan.close {α : Type} (chan : Chan α) : Option (Chan α) :=
  if chan.closed then none else some { chan with closed := true }

-- The values sent and the values received so far, each in order.
structure Conveys {α : Type} (chan : Chan α) (sent received : List α) : Prop where
  flow : sent = received ++ chan.buffer
  bounded : chan.buffer.length ≤ chan.capacity

section

variable {α : Type} (chan next : Chan α) (sent received : List α) (value : α)

theorem try_send_room (opened : chan.closed = false) (room : chan.buffer.length < chan.capacity) :
    chan.trySend value = .sent { chan with buffer := chan.buffer ++ [value] } := by
  rw [Chan.trySend, if_neg (by rw [opened]; decide), if_pos room]

theorem try_send_full (opened : chan.closed = false) (full : ¬ chan.buffer.length < chan.capacity) :
    chan.trySend value = .full := by
  rw [Chan.trySend, if_neg (by rw [opened]; decide), if_neg full]

theorem close_open (opened : chan.closed = false) : chan.close = some { chan with closed := true } := by
  rw [Chan.close, if_neg (by rw [opened]; decide)]

theorem receive_value_iff :
    chan.receive = .value value next ↔ chan.buffer = value :: next.buffer ∧ next = { chan with buffer := next.buffer } := by
  cases shape : chan.buffer with
  | nil =>
      simp only [Chan.receive, shape]
      split <;> simp
  | cons first rest =>
      simp only [Chan.receive, shape, Received.value.injEq, List.cons.injEq]
      constructor
      · rintro ⟨rfl, rfl⟩
        exact ⟨⟨rfl, rfl⟩, rfl⟩
      · rintro ⟨⟨rfl, rfl⟩, same⟩
        exact ⟨rfl, same.symm⟩

theorem receive_closed_iff : chan.receive = .closed ↔ chan.buffer = [] ∧ chan.closed = true := by
  cases shape : chan.buffer with
  | nil =>
      simp only [Chan.receive, shape]
      split <;> simp_all
  | cons first rest => simp [Chan.receive, shape]

theorem conveys_send (conveys : Conveys chan sent received) (room : chan.buffer.length < chan.capacity) :
    Conveys { chan with buffer := chan.buffer ++ [value] } (sent ++ [value]) received := by
  refine ⟨?_, ?_⟩
  · rw [conveys.flow, List.append_assoc]
  · rw [List.length_append]
    exact room

theorem conveys_receive (conveys : Conveys chan sent received) (taken : chan.receive = .value value next) :
    Conveys next sent (received ++ [value]) := by
  obtain ⟨front, same⟩ := (receive_value_iff chan next value).mp taken
  have capacity : next.capacity = chan.capacity := by rw [same]
  refine ⟨?_, ?_⟩
  · rw [conveys.flow, front, List.append_assoc]
    rfl
  · have bounded := conveys.bounded
    rw [front] at bounded
    rw [capacity]
    exact Nat.le_of_succ_le bounded

end

end GoChan
