import WarpStream.BufWriter
import WarpStream.ByteReader
import WarpStream.ByteBuffer

set_option autoImplicit false

namespace Dialogue

open BufWriter ByteBuffer ByteReader

structure Wire where
  input : List UInt8
  socket : Socket

def Talk (ε α : Type) : Type := Wire → Except (Fault ε × Wire) (α × Wire)

section

variable {ε α β : Type}

def Talk.pure (value : α) : Talk ε α := fun wire => .ok (value, wire)

def Talk.bind (talk : Talk ε α) (next : α → Talk ε β) : Talk ε β := fun wire =>
  match talk wire with
  | .ok (value, after) => next value after
  | .error failure => .error failure

instance : Monad (Talk ε) where
  pure := Talk.pure
  bind := Talk.bind

def refuse (error : ε) : Talk ε α := fun wire => .error (.other error, wire)

def require (condition : Bool) (error : ε) : Talk ε Unit := fun wire =>
  if condition then .ok ((), wire) else .error (.other error, wire)

def hear (reader : Reader ε α) : Talk ε α := fun wire =>
  match reader wire.input with
  | .ok (value, rest) => .ok (value, ⟨rest, wire.socket⟩)
  | .error (fault, rest) => .error (fault, ⟨rest, wire.socket⟩)

def say (bytes : List UInt8) (error : ε) : Talk ε Unit := fun wire =>
  let written := wire.socket.write bytes
  if written.done then .ok ((), ⟨wire.input, written.socket⟩) else .error (.other error, ⟨wire.input, written.socket⟩)

def mention (bytes : List UInt8) : Talk ε Unit := fun wire => .ok ((), ⟨wire.input, (wire.socket.write bytes).socket⟩)

def Sends : Socket → List (List UInt8) → Socket → Prop
  | socket, [], after => after = socket
  | socket, reply :: replies, after => (socket.write reply).done = true ∧ Sends (socket.write reply).socket replies after

-- What a conversation accepts: the bytes it hears, the replies it makes to them
-- and the value it comes to.
abbrev Language (α : Type) := List UInt8 → List (List UInt8) → α → Prop

def Recognises (talk : Talk ε α) (language : Language α) : Prop :=
  ∀ wire value after, talk wire = .ok (value, after) ↔
    ∃ heard replies, language heard replies value ∧ wire.input = heard ++ after.input ∧ Sends wire.socket replies after.socket

theorem sends_append (socket after : Socket) (first second : List (List UInt8)) :
    Sends socket (first ++ second) after ↔ ∃ middle, Sends socket first middle ∧ Sends middle second after := by
  induction first generalizing socket with
  | nil => simp [Sends]
  | cons reply replies next => simp [Sends, next, and_assoc]

theorem bind_iff (talk : Talk ε α) (next : α → Talk ε β) (wire after : Wire) (result : β) :
    (talk >>= next) wire = .ok (result, after) ↔
      ∃ value middle, talk wire = .ok (value, middle) ∧ next value middle = .ok (result, after) := by
  change talk.bind next wire = .ok (result, after) ↔ _
  unfold Talk.bind
  cases talk wire with
  | error failure => simp
  | ok outcome =>
      obtain ⟨value, middle⟩ := outcome
      constructor
      · exact fun done => ⟨value, middle, rfl, done⟩
      · intro found
        obtain ⟨_, _, same, done⟩ := found
        cases same
        exact done

theorem hear_iff (reader : Reader ε α) (wire after : Wire) (value : α) :
    hear reader wire = .ok (value, after) ↔ reader wire.input = .ok (value, after.input) ∧ after.socket = wire.socket := by
  unfold hear
  cases reader wire.input with
  | error failure => simp
  | ok outcome =>
      obtain ⟨found, rest⟩ := outcome
      cases after
      simp [eq_comm, and_assoc]

theorem recognises_of_iff (talk : Talk ε α) (language other : Language α) (recognises : Recognises talk language)
    (same : ∀ heard replies value, language heard replies value ↔ other heard replies value) : Recognises talk other := by
  intro wire value after
  simp only [recognises wire value after, same]

theorem wire_unchanged (wire after : Wire) (input : wire.input = [] ++ after.input) (sends : Sends wire.socket [] after.socket) :
    wire = after := by
  cases wire
  cases after
  cases input
  cases sends
  rfl

theorem recognises_pure (value : α) :
    Recognises (pure value : Talk ε α) fun heard replies result => heard = [] ∧ replies = [] ∧ result = value := by
  intro wire result after
  constructor
  · intro done
    cases done
    exact ⟨[], [], ⟨rfl, rfl, rfl⟩, rfl, rfl⟩
  · intro spoken
    obtain ⟨_, _, ⟨rfl, rfl, rfl⟩, input, sends⟩ := spoken
    rw [wire_unchanged wire after input sends]
    rfl

theorem recognises_bind (talk : Talk ε α) (next : α → Talk ε β) (first : Language α) (second : α → Language β)
    (recognises : Recognises talk first) (continues : ∀ value, Recognises (next value) (second value)) :
    Recognises (talk >>= next) fun heard replies result => ∃ value before behind answers others,
      heard = before ++ behind ∧ replies = answers ++ others ∧ first before answers value ∧ second value behind others result := by
  intro wire result after
  rw [bind_iff]
  constructor
  · intro talked
    obtain ⟨value, middle, heardFirst, heardSecond⟩ := talked
    obtain ⟨before, answers, member, input, sends⟩ := (recognises wire value middle).mp heardFirst
    obtain ⟨behind, others, memberNext, rest, sendsNext⟩ := (continues value middle result after).mp heardSecond
    exact ⟨before ++ behind, answers ++ others, ⟨value, before, behind, answers, others, rfl, rfl, member, memberNext⟩,
      by rw [input, rest, List.append_assoc], (sends_append _ _ _ _).mpr ⟨middle.socket, sends, sendsNext⟩⟩
  · intro spoken
    obtain ⟨_, _, ⟨value, before, behind, answers, others, rfl, rfl, member, memberNext⟩, input, sends⟩ := spoken
    obtain ⟨middle, sends, sendsNext⟩ := (sends_append _ _ _ _).mp sends
    refine ⟨value, ⟨behind ++ after.input, middle⟩, (recognises wire value _).mpr ⟨before, answers, member, ?_, sends⟩,
      (continues value _ result after).mpr ⟨behind, others, memberNext, rfl, sendsNext⟩⟩
    rw [input, List.append_assoc]

theorem recognises_refuse (error : ε) : Recognises (refuse error : Talk ε α) fun _ _ _ => False := by
  intro wire value after
  simp [refuse]

theorem recognises_require (condition : Bool) (error : ε) :
    Recognises (require condition error) fun heard replies _ => condition = true ∧ heard = [] ∧ replies = [] := by
  intro wire value after
  cases condition with
  | false => simp [require]
  | true =>
      constructor
      · intro done
        cases done
        exact ⟨[], [], ⟨rfl, rfl, rfl⟩, rfl, rfl⟩
      · intro spoken
        obtain ⟨_, _, ⟨_, rfl, rfl⟩, input, sends⟩ := spoken
        rw [wire_unchanged wire after input sends]
        rfl

theorem recognises_full (count : Nat) :
    Recognises (hear (readFull count) : Talk ε (List UInt8)) fun heard replies value =>
      heard.length = count ∧ value = heard ∧ replies = [] := by
  intro wire value after
  rw [hear_iff, read_full_iff]
  constructor
  · intro read
    obtain ⟨⟨input, length⟩, socket⟩ := read
    exact ⟨value, [], ⟨length, rfl, rfl⟩, input, socket⟩
  · intro spoken
    obtain ⟨_, _, ⟨length, rfl, rfl⟩, input, socket⟩ := spoken
    exact ⟨⟨input, length⟩, socket⟩

theorem recognises_say (bytes : List UInt8) (error : ε) :
    Recognises (say bytes error) fun heard replies _ => heard = [] ∧ replies = [bytes] := by
  intro wire value after
  constructor
  · intro said
    simp only [say] at said
    split at said
    · rename_i done
      cases said
      exact ⟨[], [bytes], ⟨rfl, rfl⟩, rfl, done, rfl⟩
    · cases said
  · intro spoken
    obtain ⟨_, _, ⟨rfl, rfl⟩, input, done, socket⟩ := spoken
    cases after
    cases input
    cases socket
    exact if_pos done

theorem recognises_require_bind (condition : Bool) (error : ε) (next : Unit → Talk ε β) (language : Language β)
    (continues : Recognises (next ()) language) :
    Recognises (require condition error >>= next) fun heard replies result => condition = true ∧ language heard replies result := by
  refine recognises_of_iff _ _ _
    (recognises_bind _ _ _ _ (recognises_require condition error) fun _ => continues) fun heard replies result => ?_
  constructor
  · intro composed
    obtain ⟨_, _, _, _, _, rfl, rfl, ⟨holds, rfl, rfl⟩, member⟩ := composed
    exact ⟨holds, member⟩
  · intro plain
    obtain ⟨holds, member⟩ := plain
    exact ⟨(), [], heard, [], replies, rfl, rfl, ⟨holds, rfl, rfl⟩, member⟩

theorem recognises_full_bind (count : Nat) (next : List UInt8 → Talk ε β) (language : List UInt8 → Language β)
    (continues : ∀ bytes, Recognises (next bytes) (language bytes)) :
    Recognises (hear (readFull count) >>= next) fun heard replies result =>
      ∃ bytes behind, bytes.length = count ∧ heard = bytes ++ behind ∧ language bytes behind replies result := by
  refine recognises_of_iff _ _ _ (recognises_bind _ _ _ _ (recognises_full count) continues) fun heard replies result => ?_
  constructor
  · intro composed
    obtain ⟨bytes, _, behind, _, _, rfl, rfl, ⟨length, rfl, rfl⟩, member⟩ := composed
    exact ⟨bytes, behind, length, rfl, member⟩
  · intro plain
    obtain ⟨bytes, behind, length, rfl, member⟩ := plain
    exact ⟨bytes, bytes, behind, [], replies, rfl, rfl, ⟨length, rfl, rfl⟩, member⟩

theorem recognises_say_bind (reply : List UInt8) (error : ε) (next : Unit → Talk ε β) (language : Language β)
    (continues : Recognises (next ()) language) :
    Recognises (say reply error >>= next) fun heard replies result =>
      ∃ others, replies = reply :: others ∧ language heard others result := by
  refine recognises_of_iff _ _ _
    (recognises_bind _ _ _ _ (recognises_say reply error) fun _ => continues) fun heard replies result => ?_
  constructor
  · intro composed
    obtain ⟨_, _, _, _, others, rfl, rfl, ⟨rfl, rfl⟩, member⟩ := composed
    exact ⟨others, rfl, member⟩
  · intro plain
    obtain ⟨others, rfl, member⟩ := plain
    exact ⟨(), [], heard, [reply], others, rfl, rfl, ⟨rfl, rfl⟩, member⟩

theorem recognises_full_then (count : Nat) (convert : List UInt8 → α) :
    Recognises (hear (readFull count) >>= fun bytes => pure (convert bytes) : Talk ε α) fun heard replies value =>
      heard.length = count ∧ value = convert heard ∧ replies = [] := by
  refine recognises_of_iff _ _ _ (recognises_full_bind count _ _ fun bytes => recognises_pure (convert bytes))
    fun heard replies value => ?_
  constructor
  · intro composed
    obtain ⟨bytes, _, length, rfl, rfl, rfl, rfl⟩ := composed
    exact ⟨by rwa [List.append_nil], by rw [List.append_nil], rfl⟩
  · intro plain
    obtain ⟨length, rfl, rfl⟩ := plain
    exact ⟨heard, [], length, (List.append_nil _).symm, rfl, rfl, rfl⟩

theorem bind_error_iff (talk : Talk ε α) (next : α → Talk ε β) (wire : Wire) (failure : Fault ε × Wire) :
    (talk >>= next) wire = .error failure ↔
      talk wire = .error failure ∨ ∃ value middle, talk wire = .ok (value, middle) ∧ next value middle = .error failure := by
  change talk.bind next wire = .error failure ↔ _
  unfold Talk.bind
  cases talk wire with
  | error found => simp
  | ok outcome =>
      obtain ⟨value, middle⟩ := outcome
      constructor
      · exact fun failed => .inr ⟨value, middle, rfl, failed⟩
      · rintro (failed | ⟨_, _, same, failed⟩)
        · cases failed
        · cases same
          exact failed

theorem bind_of_ok (talk : Talk ε α) (next : α → Talk ε β) (wire middle : Wire) (value : α)
    (talked : talk wire = .ok (value, middle)) : (talk >>= next) wire = next value middle := by
  change talk.bind next wire = _
  rw [Talk.bind, talked]

theorem bind_of_error (talk : Talk ε α) (next : α → Talk ε β) (wire : Wire) (failure : Fault ε × Wire)
    (failed : talk wire = .error failure) : (talk >>= next) wire = .error failure :=
  (bind_error_iff talk next wire failure).mpr (.inl failed)

theorem talk_bind_assoc {γ : Type} (talk : Talk ε α) (next : α → Talk ε β) (last : β → Talk ε γ) :
    (talk >>= next) >>= last = talk >>= fun value => next value >>= last := by
  funext wire
  change (talk.bind next).bind last wire = talk.bind (fun value => (next value).bind last) wire
  simp only [Talk.bind]
  cases talk wire with
  | ok outcome => rfl
  | error failure => rfl

theorem talk_pure_bind (value : α) (next : α → Talk ε β) : (pure value : Talk ε α) >>= next = next value := rfl

theorem talk_bind_congr (talk : Talk ε α) (next other : α → Talk ε β) (same : ∀ value, next value = other value) :
    talk >>= next = talk >>= other := by
  rw [funext same]

-- The same conversation with errors of another type.
def adapt {δ : Type} (convert : ε → δ) (talk : Talk ε α) : Talk δ α := fun wire =>
  match talk wire with
  | .ok outcome => .ok outcome
  | .error (fault, after) => .error (fault.map convert, after)

section

variable {δ : Type} (convert : ε → δ)

theorem adapt_ok_iff (talk : Talk ε α) (wire : Wire) (outcome : α × Wire) :
    adapt convert talk wire = .ok outcome ↔ talk wire = .ok outcome := by
  unfold adapt
  cases talk wire <;> simp

theorem adapt_error_iff (talk : Talk ε α) (wire after : Wire) (fault : Fault δ) :
    adapt convert talk wire = .error (fault, after) ↔
      ∃ original, talk wire = .error (original, after) ∧ fault = original.map convert := by
  unfold adapt
  cases talk wire with
  | ok outcome => simp
  | error failure =>
      obtain ⟨original, left⟩ := failure
      simp only [Except.error.injEq, Prod.mk.injEq]
      constructor
      · rintro ⟨rfl, rfl⟩
        exact ⟨original, ⟨rfl, rfl⟩, rfl⟩
      · rintro ⟨_, ⟨rfl, rfl⟩, rfl⟩
        exact ⟨rfl, rfl⟩

@[simp] theorem adapt_pure (value : α) : adapt convert (pure value : Talk ε α) = pure value := rfl

@[simp] theorem adapt_refuse (error : ε) : adapt convert (refuse error : Talk ε α) = refuse (convert error) := rfl

@[simp] theorem adapt_require (condition : Bool) (error : ε) :
    adapt convert (require condition error) = require condition (convert error) := by
  funext wire
  cases condition <;> rfl

@[simp] theorem adapt_full (count : Nat) :
    adapt convert (hear (readFull count) : Talk ε (List UInt8)) = hear (readFull count) := by
  funext wire
  simp only [adapt, hear, readFull]
  by_cases enough : count ≤ wire.input.length
  · simp only [if_pos enough]
  · simp only [if_neg enough]
    by_cases empty : wire.input = []
    · simp only [if_pos empty, Fault.map]
    · simp only [if_neg empty, Fault.map]

@[simp] theorem adapt_say (bytes : List UInt8) (error : ε) : adapt convert (say bytes error) = say bytes (convert error) := by
  funext wire
  simp only [adapt, say]
  cases (wire.socket.write bytes).done <;> rfl

@[simp] theorem adapt_bind (talk : Talk ε α) (next : α → Talk ε β) :
    adapt convert (talk >>= next) = adapt convert talk >>= fun value => adapt convert (next value) := by
  funext wire
  change adapt convert (talk.bind next) wire = (adapt convert talk).bind (fun value => adapt convert (next value)) wire
  simp only [adapt, Talk.bind]
  cases talk wire with
  | ok outcome => rfl
  | error failure => rfl

theorem recognises_adapt (talk : Talk ε α) (language : Language α) (recognises : Recognises talk language) :
    Recognises (adapt convert talk) language := by
  intro wire value after
  rw [adapt_ok_iff]
  exact recognises wire value after

end

-- io.ReadFull(conn, buffer[:count]).
def fill (outOfRange : ε) (count : Nat) (buffer : List UInt8) : Talk ε (List UInt8) :=
  if count ≤ buffer.length then do
    let bytes ← hear (readFull count)
    pure (splice buffer 0 bytes)
  else refuse outOfRange

-- A program that reads back no more of the buffer than it has just filled needs
-- no buffer.
theorem fill_then (outOfRange : ε) (count : Nat) (buffer : List UInt8) (next plain : List UInt8 → Talk ε β)
    (room : count ≤ buffer.length) (same : ∀ bytes, bytes.length = count → next (splice buffer 0 bytes) = plain bytes) :
    fill outOfRange count buffer >>= next = hear (readFull count) >>= plain := by
  rw [fill, if_pos room, talk_bind_assoc]
  funext wire
  change (hear (readFull count)).bind (fun bytes => next (splice buffer 0 bytes)) wire = (hear (readFull count)).bind plain wire
  simp only [Talk.bind]
  cases read : hear (readFull count : Reader ε (List UInt8)) wire with
  | error failure => rfl
  | ok outcome =>
      obtain ⟨bytes, after⟩ := outcome
      have length := ((read_full_iff count wire.input bytes after.input).mp ((hear_iff _ wire after bytes).mp read).1).2
      exact congrFun (same bytes length) after

theorem socket_write_faultless (socket : Socket) (data : List UInt8) (faultless : socket.faults = []) :
    (socket.write data).done = true ∧ (socket.write data).socket = ⟨socket.sent ++ data, []⟩ := by
  cases socket
  cases faultless
  exact ⟨rfl, rfl⟩

theorem sends_faultless (socket after : Socket) (replies : List (List UInt8)) (faultless : socket.faults = []) :
    Sends socket replies after ↔ after = ⟨socket.sent ++ replies.flatten, []⟩ := by
  induction replies generalizing socket with
  | nil =>
      cases socket
      cases faultless
      simp [Sends]
  | cons reply others ih =>
      obtain ⟨done, written⟩ := socket_write_faultless socket reply faultless
      rw [Sends, written, ih _ rfl, List.flatten_cons, List.append_assoc]
      exact and_iff_right done

-- A conversation that fails has said no more than the given number of bytes, and
-- fails in no other way than the given ones.
def FailsWithin (talk : Talk ε α) (limit : Nat) (refusal : Fault ε → Prop) : Prop :=
  ∀ wire fault after, wire.socket.faults = [] → talk wire = .error (fault, after) →
    refusal fault ∧ ∃ said, said.length ≤ limit ∧ after.socket = ⟨wire.socket.sent ++ said, []⟩

section

variable (refusal : Fault ε → Prop)

theorem faultless_silent (socket : Socket) (limit : Nat) (faultless : socket.faults = []) :
    ∃ said : List UInt8, said.length ≤ limit ∧ socket = ⟨socket.sent ++ said, []⟩ := by
  refine ⟨[], Nat.zero_le limit, ?_⟩
  rw [List.append_nil, ← faultless]

theorem fails_refuse (error : ε) (limit : Nat) (allowed : refusal (.other error)) :
    FailsWithin (refuse error : Talk ε α) limit refusal := by
  intro wire fault after faultless failed
  cases failed
  exact ⟨allowed, faultless_silent _ limit faultless⟩

theorem fails_require (condition : Bool) (error : ε) (limit : Nat) (allowed : refusal (.other error)) :
    FailsWithin (require condition error) limit refusal := by
  intro wire fault after faultless failed
  cases condition with
  | true => cases failed
  | false =>
      cases failed
      exact ⟨allowed, faultless_silent _ limit faultless⟩

theorem fails_full (count limit : Nat) (cut : refusal .eof ∧ refusal .unexpectedEof) :
    FailsWithin (hear (readFull count) : Talk ε (List UInt8)) limit refusal := by
  intro wire fault after faultless failed
  simp only [hear, readFull] at failed
  by_cases enough : count ≤ wire.input.length
  · simp only [if_pos enough] at failed
    cases failed
  · simp only [if_neg enough] at failed
    cases failed
    refine ⟨?_, faultless_silent _ limit faultless⟩
    split
    · exact cut.1
    · exact cut.2

theorem fails_say (bytes : List UInt8) (error : ε) (limit : Nat) : FailsWithin (say bytes error) limit refusal := by
  intro wire fault after faultless failed
  simp only [say, if_pos (socket_write_faultless wire.socket bytes faultless).1] at failed
  cases failed

theorem fails_bind (talk : Talk ε α) (next : α → Talk ε β) (language : Language α) (spoken limit : Nat)
    (recognises : Recognises talk language)
    (short : ∀ heard replies value, language heard replies value → replies.flatten.length ≤ spoken)
    (first : FailsWithin talk (spoken + limit) refusal) (second : ∀ value, FailsWithin (next value) limit refusal) :
    FailsWithin (talk >>= next) (spoken + limit) refusal := by
  intro wire fault after faultless failed
  rcases (bind_error_iff talk next wire _).mp failed with early | ⟨value, middle, talked, late⟩
  · exact first wire fault after faultless early
  · obtain ⟨heard, answers, member, _, sends⟩ := (recognises wire value middle).mp talked
    rw [sends_faultless _ _ _ faultless] at sends
    obtain ⟨allowed, said, few, socket⟩ := second value middle fault after (by rw [sends]) late
    refine ⟨allowed, answers.flatten ++ said, ?_, ?_⟩
    · rw [List.length_append]
      exact Nat.add_le_add (short heard answers value member) few
    · rw [socket, sends, List.append_assoc]

theorem fails_full_bind (count limit : Nat) (next : List UInt8 → Talk ε β) (cut : refusal .eof ∧ refusal .unexpectedEof)
    (continues : ∀ bytes, FailsWithin (next bytes) limit refusal) :
    FailsWithin (hear (readFull count) >>= next) limit refusal := by
  rw [← Nat.zero_add limit]
  refine fails_bind refusal _ _ _ 0 limit (recognises_full count) ?_ (fails_full refusal count _ cut) continues
  rintro _ _ _ ⟨_, _, rfl⟩
  exact Nat.le_refl 0

theorem fails_require_bind (condition : Bool) (error : ε) (limit : Nat) (next : Unit → Talk ε β) (allowed : refusal (.other error))
    (continues : ∀ value, FailsWithin (next value) limit refusal) :
    FailsWithin (require condition error >>= next) limit refusal := by
  rw [← Nat.zero_add limit]
  refine fails_bind refusal _ _ _ 0 limit (recognises_require condition error) ?_
    (fails_require refusal condition error _ allowed) continues
  rintro _ _ _ ⟨_, _, rfl⟩
  exact Nat.le_refl 0

theorem fails_say_bind (reply : List UInt8) (error : ε) (limit : Nat) (next : Unit → Talk ε β)
    (continues : ∀ value, FailsWithin (next value) limit refusal) :
    FailsWithin (say reply error >>= next) (reply.length + limit) refusal := by
  refine fails_bind refusal _ _ _ reply.length limit (recognises_say reply error) ?_ (fails_say refusal reply error _) continues
  rintro _ _ _ ⟨_, rfl⟩
  exact Nat.le_of_eq (congrArg List.length List.flatten_singleton)

theorem fails_bind_pure (talk : Talk ε α) (convert : α → β) (limit : Nat) (fails : FailsWithin talk limit refusal) :
    FailsWithin (talk >>= fun value => pure (convert value)) limit refusal := by
  intro wire fault after faultless failed
  rcases (bind_error_iff _ _ wire _).mp failed with early | ⟨value, middle, _, late⟩
  · exact fails wire fault after faultless early
  · cases late

theorem fails_adapt {δ : Type} (convert : ε → δ) (permitted : Fault δ → Prop) (talk : Talk ε α) (limit : Nat)
    (fails : FailsWithin talk limit fun fault => permitted (fault.map convert)) : FailsWithin (adapt convert talk) limit permitted := by
  intro wire fault after faultless failed
  obtain ⟨original, found, rfl⟩ := (adapt_error_iff convert talk wire after fault).mp failed
  exact fails wire original after faultless found

end

def leftover : Except (Fault ε × Wire) (α × Wire) → Wire
  | .ok (_, after) => after
  | .error (_, after) => after

-- Both come to the same value or both fail, with the same bytes heard and said.
def Agree {δ : Type} : Except (Fault ε × Wire) (α × Wire) → Except (Fault δ × Wire) (α × Wire) → Prop
  | .ok left, .ok right => left = right
  | .error (_, left), .error (_, right) => left = right
  | _, _ => False

theorem adapt_agrees {δ : Type} (convert : ε → δ) (talk : Talk ε α) (wire : Wire) :
    Agree (talk wire) (adapt convert talk wire) ∧ leftover (adapt convert talk wire) = leftover (talk wire) := by
  unfold adapt
  cases talk wire with
  | ok outcome => exact ⟨rfl, rfl⟩
  | error failure => exact ⟨rfl, rfl⟩

theorem say_then (bytes : List UInt8) (error : ε) (next : Unit → Talk ε β) (wire : Wire) (faultless : wire.socket.faults = []) :
    (say bytes error >>= next) wire = next () ⟨wire.input, ⟨wire.socket.sent ++ bytes, []⟩⟩ := by
  obtain ⟨done, written⟩ := socket_write_faultless wire.socket bytes faultless
  refine bind_of_ok _ next wire _ () ?_
  simp only [say, if_pos done, written]

theorem leftover_appends (talk : Talk ε α) (language : Language α) (limit : Nat) (refusal : Fault ε → Prop)
    (recognises : Recognises talk language) (fails : FailsWithin talk limit refusal) (wire : Wire)
    (faultless : wire.socket.faults = []) : ∃ said, (leftover (talk wire)).socket = ⟨wire.socket.sent ++ said, []⟩ := by
  cases talked : talk wire with
  | ok outcome =>
      obtain ⟨value, after⟩ := outcome
      obtain ⟨_, replies, _, _, sends⟩ := (recognises wire value after).mp talked
      exact ⟨replies.flatten, (sends_faultless _ _ _ faultless).mp sends⟩
  | error failure =>
      obtain ⟨fault, after⟩ := failure
      obtain ⟨_, said, _, socket⟩ := fails wire fault after faultless talked
      exact ⟨said, socket⟩

end

end Dialogue
