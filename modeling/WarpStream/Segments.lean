import WarpStream.ByteReader

set_option autoImplicit false

namespace Segments

open ByteReader

-- io.ReadFull on a stream whose bytes arrive in segments: each Read takes what it can use
-- of the next one. An end in the middle is told from one before the first byte.
def readFull {ε : Type} (count : Nat) : List (List UInt8) → Except (Fault ε) (List UInt8 × List (List UInt8))
  | [] => if count = 0 then .ok ([], []) else .error .eof
  | segment :: rest =>
      if count ≤ segment.length then .ok (segment.take count, segment.drop count :: rest)
      else
        match readFull (count - segment.length) rest with
        | .ok (bytes, left) => .ok (segment ++ bytes, left)
        | .error fault => .error (if segment = [] then fault else .unexpectedEof)

def flatten {ε : Type} : Except (Fault ε) (List UInt8 × List (List UInt8)) → Except (Fault ε × List UInt8) (List UInt8 × List UInt8)
  | .ok (bytes, left) => .ok (bytes, left.flatten)
  | .error fault => .error (fault, [])

-- However the stream is cut, ReadFull sees the bytes alone.
theorem read_full_flatten {ε : Type} (count : Nat) (segments : List (List UInt8)) :
    flatten (readFull count segments : Except (Fault ε) _) = ByteReader.readFull count segments.flatten := by
  induction segments generalizing count with
  | nil =>
      rw [readFull]
      split
      · rename_i none
        simp [flatten, ByteReader.readFull, none]
      · rename_i some
        simp [flatten, ByteReader.readFull, some]
  | cons segment rest ih =>
      rw [readFull, List.flatten_cons]
      split
      · rename_i enough
        have within : count ≤ (segment ++ rest.flatten).length := by
          rw [List.length_append]
          omega
        rw [flatten, ByteReader.readFull, if_pos within, List.take_append_of_le_length enough,
          List.drop_append_of_le_length enough]
        rfl
      · rename_i short
        have later := ih (count - segment.length)
        cases read : (readFull (count - segment.length) rest : Except (Fault ε) _) with
        | ok outcome =>
            obtain ⟨bytes, left⟩ := outcome
            rw [read, flatten] at later
            obtain ⟨whole, length⟩ := (read_full_iff _ _ _ _).mp later.symm
            refine ((read_full_iff _ _ _ _).mpr ⟨?_, ?_⟩).symm
            · rw [whole, List.append_assoc]
            · rw [List.length_append]
              omega
        | error fault =>
            rw [read, flatten, ByteReader.readFull] at later
            split at later
            · cases later
            · rename_i few
              have same := Except.error.inj later
              have beyond : ¬ count ≤ (segment ++ rest.flatten).length := by
                rw [List.length_append]
                omega
              simp only [flatten, ByteReader.readFull, if_neg beyond, List.append_eq_nil_iff]
              by_cases empty : segment = []
              · simp only [empty, true_and, if_true]
                exact congrArg Except.error same
              · simp only [empty, false_and, if_false]

theorem read_full_split (ε : Type) (segments : List (List UInt8)) (bytes rest : List UInt8) (count : Nat)
    (whole : segments.flatten = bytes ++ rest) (length : bytes.length = count) :
    ∃ left, (readFull count segments : Except (Fault ε) _) = .ok (bytes, left) ∧ left.flatten = rest := by
  have read : (ByteReader.readFull count : Reader ε (List UInt8)) segments.flatten = .ok (bytes, rest) :=
    (read_full_iff count segments.flatten bytes rest).mpr ⟨whole, length⟩
  rw [← read_full_flatten] at read
  cases found : (readFull count segments : Except (Fault ε) _) with
  | ok outcome =>
      obtain ⟨taken, left⟩ := outcome
      rw [found] at read
      obtain ⟨same, behind⟩ := Prod.mk.inj (Except.ok.inj read)
      exact ⟨left, by rw [same], behind⟩
  | error fault =>
      rw [found] at read
      cases read

end Segments
