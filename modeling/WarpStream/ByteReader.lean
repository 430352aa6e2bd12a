set_option autoImplicit false

namespace ByteReader

inductive Fault (ε : Type) where
  | eof
  | unexpectedEof
  | other (error : ε)
deriving DecidableEq, Repr

def Fault.map {ε δ : Type} (convert : ε → δ) : Fault ε → Fault δ
  | .eof => .eof
  | .unexpectedEof => .unexpectedEof
  | .other error => .other (convert error)

def Reader (ε α : Type) : Type := List UInt8 → Except (Fault ε × List UInt8) (α × List UInt8)

section

variable {ε α β : Type}

def Reader.pure (value : α) : Reader ε α := fun input => .ok (value, input)

def Reader.bind (reader : Reader ε α) (next : α → Reader ε β) : Reader ε β := fun input =>
  match reader input with
  | .ok (value, rest) => next value rest
  | .error fault => .error fault

instance : Monad (Reader ε) where
  pure := Reader.pure
  bind := Reader.bind

def fail (error : ε) : Reader ε α := fun input => .error (.other error, input)

def readByte : Reader ε UInt8
  | [] => .error (.eof, [])
  | byte :: rest => .ok (byte, rest)

-- ReadFull tells an end before the first byte from one in the middle.
def readFull (count : Nat) : Reader ε (List UInt8) := fun input =>
  if count ≤ input.length then .ok (input.take count, input.drop count)
  else .error (if input = [] then .eof else .unexpectedEof, [])

def Reads (reader : Reader ε α) (bytes : List UInt8) (value : α) : Prop :=
  ∀ rest, reader (bytes ++ rest) = .ok (value, rest)

def Progress (reader : Reader ε α) (count : Nat) : Prop :=
  ∀ input value rest, reader input = .ok (value, rest) → rest.length + count ≤ input.length

-- Bytes that arrive behind what was read do not change it.
def Stable (reader : Reader ε α) : Prop :=
  ∀ input value rest more, reader input = .ok (value, rest) → reader (input ++ more) = .ok (value, rest ++ more)

def left (result : Except (Fault ε × List UInt8) (α × List UInt8)) : List UInt8 :=
  match result with
  | .ok (_, rest) => rest
  | .error (_, rest) => rest

-- What is unread, behind a value or an error, is no more than there was.
def Shrinks (reader : Reader ε α) : Prop := ∀ input, (left (reader input)).length ≤ input.length

theorem bind_ok (reader : Reader ε α) (next : α → Reader ε β) (input : List UInt8) (result : β × List UInt8)
    (read : (reader >>= next) input = .ok result) :
    ∃ value rest, reader input = .ok (value, rest) ∧ next value rest = .ok result := by
  change reader.bind next input = .ok result at read
  unfold Reader.bind at read
  split at read
  · rename_i value rest first
    exact ⟨value, rest, first, read⟩
  · cases read

theorem read_full_iff (count : Nat) (input bytes rest : List UInt8) :
    (readFull count : Reader ε (List UInt8)) input = .ok (bytes, rest) ↔ input = bytes ++ rest ∧ bytes.length = count := by
  unfold readFull
  constructor
  · intro read
    split at read
    · rename_i enough
      cases read
      exact ⟨(List.take_append_drop count input).symm, List.length_take_of_le enough⟩
    · cases read
  · intro parts
    obtain ⟨whole, length⟩ := parts
    subst whole length
    simp

theorem read_byte_iff (input rest : List UInt8) (byte : UInt8) :
    (readByte : Reader ε UInt8) input = .ok (byte, rest) ↔ input = byte :: rest := by
  cases input with
  | nil => simp [readByte]
  | cons first tail => simp [readByte]

theorem full_then_ok (count : Nat) (convert : List UInt8 → α) (input rest : List UInt8) (value : α)
    (read : (readFull count >>= fun bytes => pure (convert bytes) : Reader ε α) input = .ok (value, rest)) :
    ∃ bytes, input = bytes ++ rest ∧ bytes.length = count ∧ value = convert bytes := by
  obtain ⟨bytes, left, first, second⟩ := bind_ok _ _ input (value, rest) read
  obtain ⟨whole, length⟩ := (read_full_iff count input bytes left).mp first
  cases second
  exact ⟨bytes, whole, length, rfl⟩

theorem reads_pure (value : α) : Reads (pure value : Reader ε α) [] value := fun _ => rfl

theorem bind_reads (reader : Reader ε α) (next : α → Reader ε β) (bytes rest : List UInt8) (value : α)
    (reads : Reads reader bytes value) : (reader >>= next) (bytes ++ rest) = next value rest := by
  change reader.bind next (bytes ++ rest) = next value rest
  rw [Reader.bind, reads rest]

theorem reads_bind (reader : Reader ε α) (next : α → Reader ε β) (first second : List UInt8) (value : α) (result : β)
    (reads : Reads reader first value) (continues : Reads (next value) second result) :
    Reads (reader >>= next) (first ++ second) result := by
  intro rest
  rw [List.append_assoc, bind_reads reader next first (second ++ rest) value reads]
  exact continues rest

theorem reads_byte (byte : UInt8) : Reads (readByte : Reader ε UInt8) [byte] byte := fun _ => rfl

theorem reads_full (bytes : List UInt8) : Reads (readFull bytes.length : Reader ε (List UInt8)) bytes bytes := by
  intro rest
  simp [readFull]

theorem reads_full_then (bytes : List UInt8) (count : Nat) (length : bytes.length = count) (convert : List UInt8 → α) :
    Reads (readFull count >>= fun read => pure (convert read) : Reader ε α) bytes (convert bytes) := by
  subst length
  have whole := reads_bind (readFull bytes.length : Reader ε (List UInt8)) (fun read => pure (convert read)) bytes [] bytes
    (convert bytes) (reads_full bytes) (reads_pure (convert bytes))
  rwa [List.append_nil] at whole

theorem progress_pure (value : α) : Progress (pure value : Reader ε α) 0 := by
  intro input found rest read
  cases read
  exact Nat.le_refl _

theorem progress_fail (error : ε) (count : Nat) : Progress (fail error : Reader ε α) count := by
  intro input found rest read
  cases read

theorem progress_bind (reader : Reader ε α) (next : α → Reader ε β) (first second : Nat) (progress : Progress reader first)
    (continues : ∀ value, Progress (next value) second) : Progress (reader >>= next) (first + second) := by
  intro input result rest read
  obtain ⟨value, middle, before, after⟩ := bind_ok reader next input (result, rest) read
  have start := progress input value middle before
  have finish := continues value middle result rest after
  omega

theorem progress_byte : Progress (readByte : Reader ε UInt8) 1 := by
  intro input value rest read
  cases input with
  | nil => cases read
  | cons byte tail =>
      cases read
      exact Nat.le_refl _

theorem progress_full (count : Nat) : Progress (readFull count : Reader ε (List UInt8)) count := by
  intro input bytes rest read
  unfold readFull at read
  split at read
  · rename_i enough
    cases read
    simp only [List.length_drop]
    omega
  · cases read

theorem stable_pure (value : α) : Stable (pure value : Reader ε α) := by
  intro input found rest more read
  cases read
  rfl

theorem stable_fail (error : ε) : Stable (fail error : Reader ε α) := by
  intro input found rest more read
  cases read

theorem stable_bind (reader : Reader ε α) (next : α → Reader ε β) (stable : Stable reader)
    (continues : ∀ value, Stable (next value)) : Stable (reader >>= next) := by
  intro input result rest more read
  obtain ⟨value, middle, before, after⟩ := bind_ok reader next input (result, rest) read
  change reader.bind next (input ++ more) = .ok (result, rest ++ more)
  rw [Reader.bind, stable input value middle more before]
  exact continues value middle result rest more after

theorem stable_byte : Stable (readByte : Reader ε UInt8) := by
  intro input value rest more read
  cases input with
  | nil => cases read
  | cons byte tail =>
      cases read
      rfl

theorem stable_full (count : Nat) : Stable (readFull count : Reader ε (List UInt8)) := by
  intro input bytes rest more read
  obtain ⟨whole, length⟩ := (read_full_iff count input bytes rest).mp read
  apply (read_full_iff count (input ++ more) bytes (rest ++ more)).mpr
  exact ⟨by rw [whole, List.append_assoc], length⟩

theorem shrinks_pure (value : α) : Shrinks (pure value : Reader ε α) := fun _ => Nat.le_refl _

theorem shrinks_fail (error : ε) : Shrinks (fail error : Reader ε α) := fun _ => Nat.le_refl _

theorem shrinks_full (count : Nat) : Shrinks (readFull count : Reader ε (List UInt8)) := by
  intro input
  unfold readFull
  split
  · simp [left]
  · exact Nat.zero_le _

theorem shrinks_bind (reader : Reader ε α) (next : α → Reader ε β) (shrinks : Shrinks reader)
    (continues : ∀ value, Shrinks (next value)) : Shrinks (reader >>= next) := by
  intro input
  change (left (reader.bind next input)).length ≤ input.length
  have first := shrinks input
  unfold Reader.bind
  split
  · rename_i value rest read
    rw [read] at first
    exact Nat.le_trans (continues value rest) first
  · rename_i fault read
    rw [read] at first
    exact first

theorem bind_assoc {γ : Type} (reader : Reader ε α) (next : α → Reader ε β) (last : β → Reader ε γ) :
    (reader >>= next) >>= last = reader >>= fun value => next value >>= last := by
  funext input
  change (reader.bind next).bind last input = reader.bind (fun value => (next value).bind last) input
  simp only [Reader.bind]
  cases reader input with
  | ok result => rfl
  | error fault => rfl

theorem progress_weaken (reader : Reader ε α) (count fewer : Nat) (progress : Progress reader count) (less : fewer ≤ count) :
    Progress reader fewer := by
  intro input value rest read
  have bound := progress input value rest read
  omega

end

end ByteReader
