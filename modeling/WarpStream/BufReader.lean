import WarpStream.BufWriter
import WarpStream.ByteReader

set_option autoImplicit false

namespace BufReader

open ByteReader

-- bufio.Reader over a connection that gives one segment for each Read.
structure Buffered where
  held : List UInt8
  conn : List (List UInt8)
deriving DecidableEq, Repr

def newReader (conn : List (List UInt8)) : Buffered := ⟨[], conn⟩

def Buffered.unread (reader : Buffered) : List UInt8 := reader.held ++ reader.conn.flatten

-- A connection: what each Read of it gives, and where its writes go.
structure NetConn where
  segments : List (List UInt8)
  socket : BufWriter.Socket

-- The head stands at the end of a Read.
def EndsAtRead (head : List UInt8) (segments : List (List UInt8)) : Prop :=
  ∃ before after, segments = before ++ after ∧ before.flatten = head

-- A new reader on the connection misses nothing only where the old one holds nothing.
theorem new_reader_unread_iff (reader : Buffered) : (newReader reader.conn).unread = reader.unread ↔ reader.held = [] := by
  simp only [Buffered.unread, newReader, List.nil_append]
  constructor
  · intro same
    have lengths := congrArg List.length same
    rw [List.length_append] at lengths
    exact List.eq_nil_of_length_eq_zero (by omega)
  · intro none
    rw [none, List.nil_append]

section

variable {ε α : Type}

-- A parser on the reader: another segment is taken in only where what is held is too little.
def parse (parser : Reader ε α) (held : List UInt8) : List (List UInt8) → Except (Fault ε) (α × Buffered)
  | [] =>
      match parser held with
      | .ok (value, rest) => .ok (value, ⟨rest, []⟩)
      | .error (fault, _) => .error fault
  | segment :: later =>
      match parser held with
      | .ok (value, rest) => .ok (value, ⟨rest, segment :: later⟩)
      | .error _ => parse parser (held ++ segment) later

theorem parse_held (parser : Reader ε α) (held rest : List UInt8) (segments : List (List UInt8)) (value : α)
    (read : parser held = .ok (value, rest)) : parse parser held segments = .ok (value, ⟨rest, segments⟩) := by
  cases segments with
  | nil => simp [parse, read]
  | cons segment later => simp [parse, read]

theorem parse_fill (parser : Reader ε α) (held segment : List UInt8) (later : List (List UInt8))
    (fault : Fault ε × List UInt8) (short : parser held = .error fault) :
    parse parser held (segment :: later) = parse parser (held ++ segment) later := by
  simp [parse, short]

theorem parse_ok (parser : Reader ε α) (stable : Stable parser) (held : List UInt8) (segments : List (List UInt8)) (value : α)
    (reader : Buffered) (parsed : parse parser held segments = .ok (value, reader)) :
    parser (held ++ segments.flatten) = .ok (value, reader.unread) := by
  induction segments generalizing held with
  | nil =>
      cases read : parser held with
      | ok result =>
          obtain ⟨found, rest⟩ := result
          rw [parse_held parser held rest [] found read] at parsed
          cases parsed
          rw [List.flatten_nil, List.append_nil, read, Buffered.unread, List.flatten_nil, List.append_nil]
      | error fault => simp [parse, read] at parsed
  | cons segment later ih =>
      cases read : parser held with
      | ok result =>
          obtain ⟨found, rest⟩ := result
          rw [parse_held parser held rest _ found read] at parsed
          cases parsed
          exact stable held value rest _ read
      | error fault =>
          rw [parse_fill parser held segment later fault read] at parsed
          have whole := ih (held ++ segment) parsed
          rwa [List.append_assoc, ← List.flatten_cons] at whole

theorem parse_error (parser : Reader ε α) (held : List UInt8) (segments : List (List UInt8)) (fault : Fault ε)
    (failed : parse parser held segments = .error fault) :
    ∃ rest, parser (held ++ segments.flatten) = .error (fault, rest) := by
  induction segments generalizing held with
  | nil =>
      cases read : parser held with
      | ok result => simp [parse, read] at failed
      | error other =>
          obtain ⟨cause, rest⟩ := other
          simp only [parse, read] at failed
          cases failed
          exact ⟨rest, by rw [List.flatten_nil, List.append_nil, read]⟩
  | cons segment later ih =>
      cases read : parser held with
      | ok result =>
          rw [parse_held parser held result.2 _ result.1 read] at failed
          cases failed
      | error other =>
          rw [parse_fill parser held segment later other read] at failed
          obtain ⟨rest, whole⟩ := ih (held ++ segment) failed
          rw [List.append_assoc, ← List.flatten_cons] at whole
          exact ⟨rest, whole⟩

-- A parser that accepts a head accepts no shorter part of it.
theorem held_past_head (parser : Reader ε α) (stable : Stable parser) (head held behind data : List UInt8) (value : α)
    (reads : Reads parser head value) (whole : held ++ behind = head ++ data) (result : α × List UInt8)
    (read : parser held = .ok result) : result.1 = value ∧ held = head ++ result.2 := by
  have longer := stable held result.1 result.2 behind read
  rw [whole, reads data] at longer
  obtain ⟨same, rest⟩ := Prod.mk.inj (Except.ok.inj longer)
  refine ⟨same.symm, ?_⟩
  rw [rest, ← List.append_assoc] at whole
  exact List.append_cancel_right whole

theorem parse_head (parser : Reader ε α) (stable : Stable parser) (head held data : List UInt8) (value : α)
    (reads : Reads parser head value) (segments : List (List UInt8)) (whole : held ++ segments.flatten = head ++ data) :
    ∃ before after leftover, segments = before ++ after ∧ held ++ before.flatten = head ++ leftover ∧
      parse parser held segments = .ok (value, ⟨leftover, after⟩) := by
  induction segments generalizing held with
  | nil =>
      rw [List.flatten_nil, List.append_nil] at whole
      have read : parser held = .ok (value, data) := by rw [whole, reads data]
      exact ⟨[], [], data, rfl, by simpa using whole, parse_held parser held data [] value read⟩
  | cons segment later ih =>
      cases read : parser held with
      | ok result =>
          obtain ⟨same, past⟩ := held_past_head parser stable head held _ data value reads whole result read
          refine ⟨[], segment :: later, result.2, rfl, by simpa using past, ?_⟩
          rw [parse_held parser held result.2 _ result.1 read, same]
      | error fault =>
          rw [List.flatten_cons, ← List.append_assoc] at whole
          obtain ⟨before, after, leftover, parts, taken, parsed⟩ := ih (held ++ segment) whole
          refine ⟨segment :: before, after, leftover, by rw [parts, List.cons_append], ?_, ?_⟩
          · rw [List.flatten_cons, ← List.append_assoc, taken]
          · rw [parse_fill parser held segment later fault read, parsed]

theorem parse_ends_at_read (parser : Reader ε α) (stable : Stable parser) (head held : List UInt8) (value : α)
    (reads : Reads parser head value) (before after : List (List UInt8)) (whole : held ++ before.flatten = head) :
    ∃ conn, parse parser held (before ++ after) = .ok (value, ⟨[], conn⟩) := by
  induction before generalizing held with
  | nil =>
      rw [List.flatten_nil, List.append_nil] at whole
      have read : parser held = .ok (value, []) := by
        have alone := reads []
        rwa [List.append_nil, ← whole] at alone
      exact ⟨after, parse_held parser held [] after value read⟩
  | cons segment before ih =>
      cases read : parser held with
      | ok result =>
          have split : held ++ (segment :: before).flatten = head ++ [] := by rw [whole, List.append_nil]
          obtain ⟨same, past⟩ := held_past_head parser stable head held _ [] value reads split result read
          have none : result.2 = [] := by
            have lengths := congrArg List.length whole
            rw [past] at lengths
            simp only [List.length_append] at lengths
            exact List.eq_nil_of_length_eq_zero (by omega)
          refine ⟨segment :: before ++ after, ?_⟩
          rw [parse_held parser held result.2 _ result.1 read, same, none]
      | error fault =>
          rw [List.flatten_cons, ← List.append_assoc] at whole
          obtain ⟨conn, parsed⟩ := ih (held ++ segment) whole
          exact ⟨conn, by rw [List.cons_append, parse_fill parser held segment _ fault read, parsed]⟩

-- What a reader has taken in behind a head, and when it has taken nothing in.
theorem parse_behind_head (parser : Reader ε α) (stable : Stable parser) (head data : List UInt8) (value : α)
    (reads : Reads parser head value) (segments : List (List UInt8)) (whole : segments.flatten = head ++ data) :
    ∃ reader, parse parser [] segments = .ok (value, reader) ∧ reader.unread = data ∧
      (reader.held = [] ↔ EndsAtRead head segments) := by
  obtain ⟨before, after, leftover, parts, taken, parsed⟩ := parse_head parser stable head [] data value reads segments whole
  refine ⟨⟨leftover, after⟩, parsed, ?_, ?_⟩
  · rw [List.nil_append] at taken
    rw [parts, List.flatten_append, taken, List.append_assoc] at whole
    exact List.append_cancel_left whole
  · constructor
    · intro none
      have empty : leftover = [] := none
      rw [List.nil_append, empty, List.append_nil] at taken
      exact ⟨before, after, parts, taken⟩
    · intro ends
      obtain ⟨front, back, split, whole⟩ := ends
      obtain ⟨conn, again⟩ := parse_ends_at_read parser stable head [] value reads front back whole
      rw [← split, parsed] at again
      exact congrArg Buffered.held (Prod.mk.inj (Except.ok.inj again)).2

def halt : Reader ε α := fun _ => .error (.unexpectedEof, [])

-- A parser that knows one head.
def expect (head : List UInt8) (value : α) : Reader ε α := do
  let bytes ← readFull head.length
  if bytes = head then pure value else halt

theorem expect_stable (head : List UInt8) (value : α) : Stable (expect head value : Reader ε α) := by
  refine stable_bind _ _ (stable_full _) fun bytes => ?_
  split
  · exact stable_pure value
  · intro input found rest more read
    cases read

theorem expect_reads (head : List UInt8) (value : α) : Reads (expect head value : Reader ε α) head value := by
  have whole := reads_bind (readFull head.length : Reader ε (List UInt8))
    (fun bytes => if bytes = head then pure value else halt) head [] head value
    (reads_full head) (by rw [if_pos rfl]; exact reads_pure value)
  rwa [List.append_nil] at whole

theorem expect_parse (head data : List UInt8) (value : α) (later : List (List UInt8)) (some : head ≠ []) :
    parse (expect head value : Reader ε α) [] ((head ++ data) :: later) = .ok (value, ⟨data, later⟩) := by
  have few : ¬ head.length ≤ ([] : List UInt8).length := by
    rw [List.length_nil, Nat.le_zero]
    exact fun none => some (List.eq_nil_of_length_eq_zero none)
  have short : (expect head value : Reader ε α) [] = .error (.eof, []) := by
    change Reader.bind (readFull head.length) _ [] = _
    simp only [Reader.bind, readFull, if_neg few, if_true]
  rw [parse_fill _ [] _ later _ short, List.nil_append]
  exact parse_held _ _ data later value (expect_reads head value data)

end

def connRead (size : Nat) : List (List UInt8) → Option (List UInt8 × List (List UInt8))
  | [] => none
  | segment :: later =>
      if segment.length ≤ size then some (segment, later) else some (segment.take size, segment.drop size :: later)

-- io.MultiReader of a bytes.Reader over what was held and the connection.
def multiRead (size : Nat) (reader : Buffered) : Option (List UInt8 × Buffered) :=
  if reader.held = [] then (connRead size reader.conn).map fun (bytes, conn) => (bytes, ⟨[], conn⟩)
  else some (reader.held.take size, ⟨reader.held.drop size, reader.conn⟩)

structure ReadThrough where
  bytes : List UInt8
  reader : Buffered
  ended : Bool

-- Reads into buffers of the given sizes, up to the end of the stream.
def readThrough : List Nat → Buffered → ReadThrough
  | [], reader => ⟨[], reader, false⟩
  | size :: sizes, reader =>
      match multiRead size reader with
      | none => ⟨[], reader, true⟩
      | some (bytes, next) =>
          let later := readThrough sizes next
          ⟨bytes ++ later.bytes, later.reader, later.ended⟩

def Buffered.work (reader : Buffered) : Nat := reader.held.length + reader.conn.flatten.length + reader.conn.length

theorem multi_read_end (size : Nat) (reader : Buffered) (ended : multiRead size reader = none) : reader.unread = [] := by
  unfold multiRead at ended
  split at ended
  · rename_i empty
    cases conn : reader.conn with
    | nil => simp [Buffered.unread, empty, conn]
    | cons segment later =>
        rw [conn, connRead] at ended
        split at ended <;> cases ended
  · cases ended

theorem multi_read_some (size : Nat) (reader next : Buffered) (bytes : List UInt8)
    (read : multiRead size reader = some (bytes, next)) :
    reader.unread = bytes ++ next.unread ∧ (0 < size → next.work < reader.work) := by
  unfold multiRead at read
  split at read
  · rename_i empty
    cases conn : reader.conn with
    | nil =>
        rw [conn, connRead] at read
        cases read
    | cons segment later =>
        rw [conn, connRead] at read
        split at read
        · cases read
          simp only [Buffered.unread, Buffered.work, empty, conn]
          exact ⟨rfl, fun _ => by simp; omega⟩
        · rename_i longer
          cases read
          simp only [Buffered.unread, Buffered.work, empty, conn]
          refine ⟨by rw [List.flatten_cons, List.flatten_cons, List.nil_append, List.nil_append, ← List.append_assoc,
            List.take_append_drop], fun positive => ?_⟩
          simp only [List.length_nil, List.flatten_cons, List.length_append, List.length_drop, List.length_cons]
          omega
  · rename_i some
    cases read
    have positive : 0 < reader.held.length := List.length_pos_iff.mpr some
    simp only [Buffered.unread, Buffered.work]
    refine ⟨by rw [← List.append_assoc, List.take_append_drop], fun _ => ?_⟩
    rw [List.length_drop]
    omega

theorem read_through_bytes (sizes : List Nat) (reader : Buffered) :
    reader.unread = (readThrough sizes reader).bytes ++ (readThrough sizes reader).reader.unread ∧
      ((readThrough sizes reader).ended = true → (readThrough sizes reader).reader.unread = []) := by
  induction sizes generalizing reader with
  | nil => exact ⟨rfl, fun ended => absurd ended Bool.false_ne_true⟩
  | cons size sizes ih =>
      cases read : multiRead size reader with
      | none =>
          have ended := multi_read_end size reader read
          simp only [readThrough, read]
          exact ⟨rfl, fun _ => ended⟩
      | some result =>
          obtain ⟨bytes, next⟩ := result
          obtain ⟨whole, _⟩ := multi_read_some size reader next bytes read
          obtain ⟨rest, finished⟩ := ih next
          simp only [readThrough, read]
          exact ⟨by rw [whole, List.append_assoc, ← rest], finished⟩

theorem read_through_ends (sizes : List Nat) (reader : Buffered) (positive : ∀ size ∈ sizes, 0 < size)
    (enough : reader.work < sizes.length) : (readThrough sizes reader).ended = true := by
  induction sizes generalizing reader with
  | nil => cases enough
  | cons size sizes ih =>
      obtain ⟨here, later⟩ := List.forall_mem_cons.mp positive
      cases read : multiRead size reader with
      | none => simp only [readThrough, read]
      | some result =>
          obtain ⟨bytes, next⟩ := result
          have less := (multi_read_some size reader next bytes read).2 here
          simp only [readThrough, read]
          rw [List.length_cons] at enough
          exact ih next later (by omega)

end BufReader
