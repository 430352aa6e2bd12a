import Mathlib.Algebra.Group.Int.Defs
import WarpStream.ClientSessions

set_option autoImplicit false

namespace WarpStream

open Handles Transition

def secondLength : Nat := 1000000000

-- How long the loop waits, in nanoseconds, behind so many connects in vain.
def backoff (maxDelay failures : Nat) : Nat := if failures = 0 then secondLength else min (2 ^ failures * secondLength) maxDelay

theorem backoff_next (maxDelay failures : Nat) : backoff maxDelay (failures + 1) = min (2 * backoff maxDelay failures) maxDelay := by
  have next : 2 ^ (failures + 1) * secondLength = 2 * (2 ^ failures * secondLength) := by
    rw [Nat.pow_succ, Nat.mul_comm (2 ^ failures) 2, Nat.mul_assoc]
  rw [backoff, if_neg (Nat.succ_ne_zero failures), next, backoff]
  by_cases first : failures = 0
  · rw [if_pos first, first, Nat.pow_zero, Nat.one_mul]
  · rw [if_neg first]
    omega

theorem backoff_least (maxDelay failures : Nat) : min secondLength maxDelay ≤ backoff maxDelay failures := by
  have grows : secondLength ≤ 2 ^ failures * secondLength := Nat.le_mul_of_pos_left secondLength (Nat.two_pow_pos failures)
  rw [backoff]
  split <;> omega

theorem backoff_most (maxDelay failures : Nat) : backoff maxDelay failures ≤ max secondLength maxDelay := by
  rw [backoff]
  split <;> omega

-- The doubling does not overflow as long as the product fits.
theorem doubled_to_int (delay : Int64) (length : Nat) (same : delay.toInt = length) (short : length < 2 ^ 62) :
    (delay * 2).toInt = 2 * length := by
  rw [Int64.toInt_mul, same, show (2 : Int64).toInt = 2 from rfl, Int.bmod_eq_of_le]
  all_goals omega

theorem next_delay (delay maxDelay : Int64) (limit failures : Nat) (same : delay.toInt = backoff limit failures)
    (bound : maxDelay.toInt = limit) (short : limit < 2 ^ 62) :
    (if delay * 2 > maxDelay then maxDelay else delay * 2).toInt = backoff limit (failures + 1) := by
  have most := backoff_most limit failures
  have twice := doubled_to_int delay (backoff limit failures) same (by rw [secondLength] at most; omega)
  rw [backoff_next]
  by_cases longer : delay * 2 > maxDelay
  · have above := Int64.lt_iff_toInt_lt.mp longer
    rw [if_pos longer, bound]
    omega
  · have below := mt Int64.lt_iff_toInt_lt.mpr longer
    rw [if_neg longer, twice]
    omega

def ClientPc.nap : ClientPc → Nat
  | .sleeping length => length.toNatClampNeg
  | _ => 0

structure Paced (limit : Nat) (session : ClientSession) : Prop where
  delayed : session.delay.toInt = backoff limit session.failures
  rested : session.fruitless * min secondLength limit ≤ session.slept + session.pc.nap
  place : match session.pc with
    | .framing _ => session.failures = 0
    | .dialling _ => session.failures = 0
    | .sleeping length => length.toInt = backoff limit (session.failures - 1)
    | _ => True

theorem paced_starts (limit : Nat) (tunnel : ClientTunnel) (fresh : Nat) : Paced limit (startSession tunnel fresh).thread := by
  have rested : 0 * min secondLength limit ≤ 0 := Nat.le_of_eq (Nat.zero_mul _)
  cases tunnel <;> exact ⟨rfl, rested, trivial⟩

section

variable (maxDelay : Int64) (limit : Nat) (session : ClientSession) (paced : Paced limit session)

include paced

-- Going to sleep behind a round that did not come to its pipe.
theorem paced_asleep (ends : PipedEnds) (length delay : Int64) (failures carriers : Nat) (awake : session.pc.nap = 0)
    (asleep : length.toInt = backoff limit (failures - 1)) (delayed : delay.toInt = backoff limit failures) :
    Paced limit { session with
      toPipedEnds := ends, pc := .sleeping length, delay := delay, failures := failures, fruitless := session.fruitless + 1
      carriers := carriers } := by
  refine ⟨delayed, ?_, asleep⟩
  have least := backoff_least limit (failures - 1)
  have rested := paced.rested
  have clamped : length.toNatClampNeg = backoff limit (failures - 1) := by
    rw [← Int64.toNat_toInt, asleep, Int.toNat_natCast]
  have longer : (session.fruitless + 1) * min secondLength limit ≤ session.slept + length.toNatClampNeg := by
    rw [awake] at rested
    rw [Nat.succ_mul, clamped]
    omega
  exact longer

end

theorem paced_acts (maxDelay : Int64) (limit : Nat) (bound : maxDelay.toInt = limit) (short : limit < 2 ^ 62) (session : ClientSession)
    (fresh : Nat) (action : ClientAction) (effect : Effect ClientSession) (paced : Paced limit session)
    (acted : clientAct maxDelay session fresh action = some effect) : Paced limit effect.thread := by
  have asleep := paced_asleep limit session paced
  obtain ⟨delayed, rested, place⟩ := paced
  have awake : session.pc.nap = 0 → session.fruitless * min secondLength limit ≤ session.slept + 0 := by
    intro none
    rwa [none] at rested
  have moved := client_moved maxDelay session fresh action effect acted
  generalize action.carriers = added at moved
  cases moved with
  | learned pc => exact ⟨delayed, awake (by rw [pc]; rfl), trivial⟩
  | gaveUp _ pc => exact ⟨delayed, awake (by rcases pc with pc | ⟨pc, _⟩ <;> rw [pc] <;> rfl), trivial⟩
  | failed _ dynamic pc back =>
      exact asleep _ session.delay _ (session.failures + 1) _ (by rw [pc]; rfl) delayed
        (next_delay session.delay maxDelay limit session.failures delayed bound short)
  | connected _ transport pc forward => exact ⟨delayed, awake (by rw [pc]; rfl), trivial⟩
  | returned _ dynamic transport pc back =>
      cases dynamic with
      | true => exact ⟨rfl, awake (by rw [pc]; rfl), rfl⟩
      | false => exact ⟨rfl, awake (by rw [pc]; rfl), rfl⟩
  | framed transport pc =>
      simp only [pc] at place
      exact ⟨delayed, awake (by rw [pc]; rfl), place⟩
  | dropped transport length pc =>
      rcases pc with ⟨pc, rfl⟩ | ⟨pc, rfl⟩
      · simp only [pc] at place
        exact asleep _ _ session.delay session.failures session.carriers (by rw [pc]; rfl) (by rw [delayed, place]) delayed
      · simp only [pc] at place
        exact asleep _ second session.delay session.failures session.carriers (by rw [pc]; rfl) (by rw [place]; rfl) delayed
  | dialled transport pc => exact ⟨delayed, awake (by rw [pc]; rfl), trivial⟩
  | pinged transport outDone inDone pc =>
      simp only [pc] at place rested
      exact ⟨delayed, by simpa only [pc] using rested, by simp only [pc]⟩
  | finishedOut transport inDone pc => exact ⟨delayed, awake (by rw [pc]; rfl), trivial⟩
  | finishedIn transport outDone pc => exact ⟨delayed, awake (by rw [pc]; rfl), trivial⟩
  | left transport pc forward => exact ⟨delayed, awake (by rw [pc]; rfl), trivial⟩
  | leftBack dynamic transport pc back => exact ⟨delayed, awake (by rw [pc]; rfl), trivial⟩
  | woke length pc =>
      rw [pc] at rested
      exact ⟨delayed, rested, trivial⟩

theorem max_delay_limit (configured : Int64) (positive : 0 ≤ configured.toInt) :
    (retryMaxDelay configured).toInt = (retryMaxDelay configured).toInt.toNat := by
  have natural : 0 ≤ (retryMaxDelay configured).toInt := by
    rw [retryMaxDelay]
    split
    · decide
    · exact positive
  exact (Int.toNat_of_nonneg natural).symm

-- A loop whose connects fail again and again tries ever more seldom, up to the configured
-- period. The rounds that do not come to their pipe are on the whole not more than the
-- shortest of its sleeps allows; a round that does is followed by the next without one.
theorem reverse_tunnel_backs_off (configured : Int64) (positive : 0 ≤ configured.toInt) (short : configured.toInt < 2 ^ 62)
    (events : List (Happens ClientTunnel ClientAction)) (world : World ClientSession)
    (ran : run (clientStep configured) ⟨[], []⟩ events = some world) (session : ClientSession) (member : session ∈ world.threads) :
    (∀ length, session.pc = .sleeping length →
      length.toInt = if session.failures ≤ 1 then secondLength
        else min (2 ^ (session.failures - 1) * secondLength) (retryMaxDelay configured).toInt.toNat) ∧
    session.fruitless * min secondLength (retryMaxDelay configured).toInt.toNat ≤ session.slept + session.pc.nap := by
  have bound := max_delay_limit configured positive
  have fits : (retryMaxDelay configured).toInt.toNat < 2 ^ 62 := by
    rw [retryMaxDelay]
    split
    · decide
    · omega
  have paced := run_preserves (clientStep configured)
    (fun world => ∀ session ∈ world.threads, Paced (retryMaxDelay configured).toInt.toNat session)
    (all_threads_step startSession _ _ (paced_starts _)
      (fun session fresh action effect paced acted => paced_acts _ _ bound fits session fresh action effect paced acted))
    _ world events (by simp) ran session member
  refine ⟨fun length asleep => ?_, paced.rested⟩
  have slept := paced.place
  simp only [asleep] at slept
  rw [slept, backoff]
  by_cases first : session.failures ≤ 1
  · rw [if_pos first, if_pos (Nat.sub_eq_zero_of_le first)]
  · rw [if_neg first, if_neg (by omega)]

def clientWorld : World ClientSession := (run (clientStep 0) ⟨[], []⟩ clientEvents).get (by decide)

theorem reverse_tunnel_backs_off_thrice :
    (second * 4).toInt = min (2 ^ 2 * secondLength) (retryMaxDelay 0).toInt.toNat ∧
      3 * min secondLength (retryMaxDelay 0).toInt.toNat ≤ 3 * secondLength + (second * 4).toNatClampNeg := by
  obtain ⟨asleep, paced⟩ := reverse_tunnel_backs_off 0 (by decide) (by decide) clientEvents clientWorld (Option.some_get _).symm
    ⟨{}, .reverse false, .sleeping (second * 4), second * 8, 3, 3, 3 * secondLength, 1⟩ (by decide)
  exact ⟨asleep _ rfl, paced⟩

end WarpStream
