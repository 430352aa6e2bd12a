import WarpStream.Datagrams

set_option autoImplicit false

namespace WarpStream

open Transition

inductive H2Direction where
  | toServer
  | toClient
deriving DecidableEq

-- io.Copy, which PipeBiDir runs both ways at the server.
def copyBuffer : Nat := 32 * 1024

-- What a datagram is read into before it is written to the stream.
def H2Direction.writeBuffer : H2Direction → Nat
  | .toServer => 64 * 1024
  | .toClient => copyBuffer

def H2Direction.readBuffer : H2Direction → Nat
  | .toServer => copyBuffer
  | .toClient => 64 * 1024

structure H2Tunnel where
  arriving : List Datagram
  stream : List UInt8
  sentOn : List (List UInt8)

def newH2Tunnel (datagrams : List Datagram) : H2Tunnel := ⟨datagrams, [], []⟩

inductive H2Event where
  | write
  | read (count : Nat)
deriving DecidableEq

-- The socket refuses what is longer than a datagram can be.
def writeToUDP (chunk : List UInt8) : List (List UInt8) := if chunk.length ≤ 65507 then [chunk] else []

-- A Read takes any part of what the stream holds that fits into its buffer.
def h2Step (direction : H2Direction) : Step H2Tunnel H2Event
  | tunnel, .write =>
      match tunnel.arriving with
      | datagram :: rest =>
          some { tunnel with arriving := rest, stream := tunnel.stream ++ datagram.payload.take direction.writeBuffer }
      | [] => none
  | tunnel, .read count =>
      if 0 < count ∧ count ≤ direction.readBuffer ∧ count ≤ tunnel.stream.length then
        some { tunnel with
          stream := tunnel.stream.drop count
          sentOn := tunnel.sentOn ++ writeToUDP (tunnel.stream.take count) }
      else none

def H2Direction.written (direction : H2Direction) (datagrams : List Datagram) : List UInt8 :=
  datagrams.flatMap fun datagram => datagram.payload.take direction.writeBuffer

-- The bytes keep their order; nothing in the state remembers where one Write ended.
structure H2Sound (direction : H2Direction) (entered : List Datagram) (tunnel : H2Tunnel) : Prop where
  bytes : tunnel.sentOn.flatten ++ (tunnel.stream ++ direction.written tunnel.arriving) = direction.written entered
  filled : ∀ chunk ∈ tunnel.sentOn, chunk ≠ []

section

variable (direction : H2Direction)

theorem h2_step_sound (entered : List Datagram) (short : (direction.written entered).length ≤ 65507) (tunnel : H2Tunnel)
    (event : H2Event) (next : H2Tunnel) (sound : H2Sound direction entered tunnel)
    (stepped : h2Step direction tunnel event = some next) : H2Sound direction entered next := by
  cases event with
  | write =>
      simp only [h2Step] at stepped
      split at stepped
      · rename_i datagram rest arriving
        cases stepped
        refine ⟨?_, sound.filled⟩
        have bytes := sound.bytes
        rw [arriving, H2Direction.written, List.flatMap_cons] at bytes
        rw [List.append_assoc]
        exact bytes
      · cases stepped
  | read count =>
      obtain ⟨⟨some, _, held⟩, moved⟩ := Option.ite_none_right_eq_some.mp stepped
      cases moved
      have size : (tunnel.stream.take count).length = count := List.length_take_of_le held
      have within : (tunnel.stream.take count).length ≤ 65507 := by
        have lengths := congrArg List.length sound.bytes
        simp only [List.length_append] at lengths
        omega
      have sent : writeToUDP (tunnel.stream.take count) = [tunnel.stream.take count] := if_pos within
      refine ⟨?_, ?_⟩
      · simp only [sent, List.flatten_append, List.flatten_singleton, List.append_assoc]
        rw [← List.append_assoc (tunnel.stream.take count), List.take_append_drop]
        exact sound.bytes
      · rw [sent]
        intro chunk member
        rcases List.mem_append.mp member with earlier | last
        · exact sound.filled chunk earlier
        · rw [List.mem_singleton.mp last]
          exact List.ne_nil_of_length_pos (by omega)

theorem h2_bytes_kept (entered : List Datagram) (short : (direction.written entered).length ≤ 65507) (events : List H2Event)
    (last : H2Tunnel) (ran : run (h2Step direction) (newH2Tunnel entered) events = some last) : H2Sound direction entered last :=
  run_preserves (h2Step direction) (H2Sound direction entered) (h2_step_sound direction entered short) _ last events
    ⟨rfl, by simp [newH2Tunnel]⟩ ran

theorem h2_writes (tunnel : H2Tunnel) :
    run (h2Step direction) tunnel (List.replicate tunnel.arriving.length .write) =
      some { tunnel with arriving := [], stream := tunnel.stream ++ direction.written tunnel.arriving } := by
  generalize waiting : tunnel.arriving = datagrams
  induction datagrams generalizing tunnel with
  | nil =>
      cases tunnel
      cases waiting
      simp [run, H2Direction.written]
  | cons datagram rest ih =>
      have step : h2Step direction tunnel .write =
          some { tunnel with arriving := rest, stream := tunnel.stream ++ datagram.payload.take direction.writeBuffer } := by
        simp only [h2Step, waiting]
      rw [List.length_cons, List.replicate_succ, run, step, Option.bind_some, ih _ rfl]
      simp only [H2Direction.written, List.flatMap_cons, List.append_assoc]

-- Any cut of the stream into parts that fit is a way it may be read.
theorem h2_reads (tunnel : H2Tunnel) (chunks : List (List UInt8)) (rest : List UInt8)
    (whole : tunnel.stream = chunks.flatten ++ rest)
    (fit : ∀ chunk ∈ chunks, 0 < chunk.length ∧ chunk.length ≤ direction.readBuffer ∧ chunk.length ≤ 65507) :
    run (h2Step direction) tunnel (chunks.map fun chunk => .read chunk.length) =
      some { tunnel with stream := rest, sentOn := tunnel.sentOn ++ chunks } := by
  induction chunks generalizing tunnel with
  | nil =>
      rw [List.append_nil]
      cases tunnel
      cases whole
      rfl
  | cons chunk chunks ih =>
      obtain ⟨filled, buffered, short⟩ := fit chunk List.mem_cons_self
      rw [List.flatten_cons, List.append_assoc] at whole
      have step : h2Step direction tunnel (.read chunk.length) =
          some { tunnel with stream := chunks.flatten ++ rest, sentOn := tunnel.sentOn ++ [chunk] } := by
        have within : chunk.length ≤ tunnel.stream.length := by
          rw [whole, List.length_append]
          exact Nat.le_add_right _ _
        rw [h2Step, if_pos ⟨filled, buffered, within⟩, whole, List.drop_left, List.take_left, writeToUDP, if_pos short]
      rw [List.map_cons, run, step, Option.bind_some,
        ih _ rfl (fun later member => fit later (List.mem_cons_of_mem _ member)), List.append_assoc]
      rfl

theorem h2_rechunked (entered : List Datagram) (chunks : List (List UInt8)) (whole : chunks.flatten = direction.written entered)
    (fit : ∀ chunk ∈ chunks, 0 < chunk.length ∧ chunk.length ≤ direction.readBuffer ∧ chunk.length ≤ 65507) :
    ∃ events, run (h2Step direction) (newH2Tunnel entered) events = some ⟨[], [], chunks⟩ := by
  have writes := h2_writes direction (newH2Tunnel entered)
  refine ⟨List.replicate entered.length .write ++ chunks.map fun chunk => .read chunk.length, ?_⟩
  refine (run_append _ _ _ _ _ writes).trans ?_
  refine h2_reads direction _ chunks [] ?_ fit
  rw [whole, List.append_nil]
  rfl

theorem h2_buffers : 0 < direction.writeBuffer ∧ 2 ≤ direction.readBuffer := by
  cases direction <;> decide

end

def singles (bytes : List UInt8) : List (List UInt8) := bytes.map fun byte => [byte]

theorem singles_flatten (bytes : List UInt8) : (singles bytes).flatten = bytes := List.flatMap_singleton' bytes

theorem singles_length (bytes chunk : List UInt8) (member : chunk ∈ singles bytes) : chunk.length = 1 := by
  obtain ⟨byte, _, rfl⟩ := List.mem_map.mp member
  rfl

-- The stream read byte by byte, and read byte by byte behind a first Read of two.
theorem h2_boundaries_lost (direction : H2Direction) (entered : List Datagram)
    (survive : ∀ chunks, chunks.flatten = direction.written entered →
      (∀ chunk ∈ chunks, 0 < chunk.length ∧ chunk.length ≤ 2) → chunks = entered.map Datagram.payload) :
    entered = [] ∨ ∃ byte, entered.map Datagram.payload = [[byte]] := by
  have split := survive (singles (direction.written entered)) (singles_flatten _) (by
    intro chunk member
    rw [singles_length _ chunk member]
    decide)
  cases bytes : direction.written entered with
  | nil =>
      rw [bytes] at split
      exact .inl (List.map_eq_nil_iff.mp split.symm)
  | cons first rest =>
      rw [bytes] at split
      cases rest with
      | nil => exact .inr ⟨first, split.symm⟩
      | cons second rest =>
          have joined := survive ([first, second] :: singles rest) (by
            rw [bytes, List.flatten_cons, singles_flatten]
            rfl) (by
            intro chunk member
            rcases List.mem_cons.mp member with merged | single
            · rw [merged]
              exact ⟨Nat.succ_pos _, Nat.le_refl _⟩
            · rw [singles_length rest chunk single]
              decide)
          rw [← split] at joined
          cases (List.cons.inj joined).1

theorem filled_flatten_nil (chunks : List (List UInt8)) (filled : ∀ chunk ∈ chunks, chunk ≠ []) (whole : chunks.flatten = []) :
    chunks = [] := by
  cases chunks with
  | nil => rfl
  | cons chunk chunks =>
      exact absurd (List.flatten_eq_nil_iff.mp whole chunk List.mem_cons_self) (filled chunk List.mem_cons_self)

theorem filled_flatten_single (chunks : List (List UInt8)) (byte : UInt8) (filled : ∀ chunk ∈ chunks, chunk ≠ [])
    (whole : chunks.flatten = [byte]) : chunks = [[byte]] := by
  cases chunks with
  | nil => cases whole
  | cons chunk chunks =>
      cases chunk with
      | nil => exact absurd rfl (filled [] List.mem_cons_self)
      | cons first rest =>
          obtain ⟨same, none⟩ := List.cons.inj whole
          obtain ⟨short, empty⟩ := List.append_eq_nil_iff.mp none
          have last := filled_flatten_nil chunks (fun later member => filled later (List.mem_cons_of_mem _ member)) empty
          rw [same, short, last]

theorem h2_boundaries_survive_iff (direction : H2Direction) (entered : List Datagram) :
    (∀ events last, run (h2Step direction) (newH2Tunnel entered) events = some last → last.arriving = [] → last.stream = [] →
        last.sentOn = entered.map Datagram.payload) ↔
      entered = [] ∨ ∃ byte, entered.map Datagram.payload = [[byte]] := by
  obtain ⟨positive, room⟩ := h2_buffers direction
  constructor
  · intro survive
    apply h2_boundaries_lost direction entered
    intro chunks whole fit
    have fits : ∀ chunk ∈ chunks, 0 < chunk.length ∧ chunk.length ≤ direction.readBuffer ∧ chunk.length ≤ 65507 := by
      intro chunk member
      obtain ⟨filled, two⟩ := fit chunk member
      exact ⟨filled, Nat.le_trans two room, Nat.le_trans two (by decide)⟩
    obtain ⟨events, ran⟩ := h2_rechunked direction entered chunks whole fits
    exact survive events _ ran rfl rfl
  · intro few events last ran arrived emptied
    have delivered : ∀ bytes, bytes.length ≤ 1 → direction.written entered = bytes →
        last.sentOn.flatten = bytes ∧ ∀ chunk ∈ last.sentOn, chunk ≠ [] := by
      intro bytes one written
      have short : (direction.written entered).length ≤ 65507 := by
        rw [written]
        exact Nat.le_trans one (by decide)
      have sound := h2_bytes_kept direction entered short events last ran
      have kept := sound.bytes
      rw [arrived, emptied, written, H2Direction.written, List.flatMap_nil, List.append_nil, List.append_nil] at kept
      exact ⟨kept, sound.filled⟩
    rcases few with none | ⟨byte, single⟩
    · obtain ⟨whole, filled⟩ := delivered [] (by decide) (by rw [none]; rfl)
      rw [filled_flatten_nil last.sentOn filled whole, none]
      rfl
    · obtain ⟨datagram, alone, payload⟩ := List.map_eq_singleton_iff.mp single
      have written : direction.written entered = [byte] := by
        rw [alone, H2Direction.written, List.flatMap_singleton, payload]
        exact List.take_of_length_le positive
      obtain ⟨whole, filled⟩ := delivered [byte] (Nat.le_refl 1) written
      rw [filled_flatten_single last.sentOn byte filled whole, single]

theorem h2_datagrams_merged :
    ∃ events last, run (h2Step .toServer) (newH2Tunnel [⟨[1], by decide⟩, ⟨[2], by decide⟩]) events = some last ∧
      last.arriving = [] ∧ last.stream = [] ∧ last.sentOn = [[1, 2]] ∧ last.sentOn ≠ [[1], [2]] :=
  ⟨[.write, .write, .read 2], ⟨[], [], [[1, 2]]⟩, rfl, rfl, rfl, rfl, by decide⟩

end WarpStream
