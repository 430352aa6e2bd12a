import WarpStream.TunnelArg

set_option autoImplicit false

namespace WarpStream

open GoText

-- A field the scanner passes in one piece, and leaves outside of brackets.
def Scanned (field : List Char) : Prop :=
  ∀ fields current, field.foldl scanRune ⟨fields, current, false⟩ = ⟨fields, current ++ field, false⟩

theorem scan_plain (field : List Char) (inBrackets : Bool)
    (plain : ∀ rune ∈ field, rune ≠ '[' ∧ rune ≠ ']' ∧ (rune = ':' → inBrackets = true)) (fields : List (List Char))
    (current : List Char) : field.foldl scanRune ⟨fields, current, inBrackets⟩ = ⟨fields, current ++ field, inBrackets⟩ := by
  induction field generalizing current with
  | nil => rw [List.append_nil]; rfl
  | cons rune rest ih =>
      obtain ⟨⟨opening, closing, colon⟩, others⟩ := List.forall_mem_cons.mp plain
      have kept : scanBrackets inBrackets rune = inBrackets := by rw [scanBrackets, if_neg opening, if_neg closing]
      have inside : ¬ (rune = ':' ∧ inBrackets = false) := by
        rintro ⟨ends, outside⟩
        cases (colon ends).symm.trans outside
      rw [List.foldl_cons, scanRune]
      simp only [kept, if_neg inside]
      rw [ih others, List.append_assoc]
      rfl

def writeHost (host : List Char) : List Char := if ':' ∈ host then '[' :: (host ++ [']']) else host

theorem host_scanned (host : List Char) (plain : ∀ rune ∈ host, rune ≠ '[' ∧ rune ≠ ']') : Scanned (writeHost host) := by
  intro fields current
  rw [writeHost]
  by_cases colon : ':' ∈ host
  · have inside := scan_plain host true (fun rune member => ⟨(plain rune member).1, (plain rune member).2, fun _ => rfl⟩) fields
      (current ++ ['['])
    have opened : scanRune ⟨fields, current, false⟩ '[' = ⟨fields, current ++ ['['], true⟩ := rfl
    have closed : scanRune ⟨fields, current ++ ['['] ++ host, true⟩ ']' = ⟨fields, current ++ ['['] ++ host ++ [']'], false⟩ := rfl
    rw [if_pos colon, List.foldl_cons, List.foldl_append, opened, inside, List.foldl_cons, closed, List.foldl_nil]
    simp
  · rw [if_neg colon]
    refine scan_plain host false ?_ fields current
    intro rune member
    refine ⟨(plain rune member).1, (plain rune member).2, ?_⟩
    rintro rfl
    exact absurd member colon

theorem scan_joined (first : List Char) (others done : List (List Char)) (whole : ∀ field ∈ first :: others, Scanned field) :
    let scan := ([':'].intercalate (first :: others)).foldl scanRune ⟨done, [], false⟩
    scan.fields ++ [scan.current] = done ++ first :: others := by
  induction others generalizing first done with
  | nil =>
      have last := whole first (by simp) done []
      simp [last]
  | cons second rest ih =>
      obtain ⟨head, tail⟩ := List.forall_mem_cons.mp whole
      have turn : scanRune ⟨done, first, false⟩ ':' = ⟨done ++ [first], [], false⟩ := rfl
      have later := ih second (done ++ [first]) tail
      rw [List.intercalate_cons_cons]
      simp only [List.foldl_append, head done [], List.nil_append, List.foldl_cons, List.foldl_nil, turn]
      simpa using later

theorem split_fields_joined (fields : List (List Char)) (some : fields ≠ []) (whole : ∀ field ∈ fields, Scanned field) :
    splitFields ([':'].intercalate fields) = fields := by
  cases fields with
  | nil => exact absurd rfl some
  | cons first others => exact scan_joined first others [] whole

theorem absent_joined (rune : Char) (fields : List (List Char)) (other : rune ≠ ':') (absent : ∀ field ∈ fields, rune ∉ field) :
    rune ∉ [':'].intercalate fields := by
  induction fields with
  | nil => simp
  | cons first others ih =>
      obtain ⟨head, tail⟩ := List.forall_mem_cons.mp absent
      cases others with
      | nil => simpa using head
      | cons second rest =>
          rw [List.intercalate_cons_cons]
          simp [head, other, ih tail]

def argSchemes : List String := ["tcp", "udp", "socks5", "http", "tproxy+tcp", "tproxy+udp"]

structure HostText where
  runes : List Char
  plain : ∀ rune ∈ runes, rune ≠ '[' ∧ rune ≠ ']' ∧ rune ≠ '?'

structure RemoteText where
  host : HostText
  portText : List Char
  port : Nat
  decimal : IsPort portText port

-- The parts of an argument as a user means them; the text is how they are written.
structure WrittenArg where
  scheme : String
  known : scheme ∈ argSchemes
  bind : Option HostText
  port : List Char
  portPlain : ∀ rune ∈ port, rune ≠ ':' ∧ rune ≠ '[' ∧ rune ≠ ']' ∧ rune ≠ '?'
  remote : Option RemoteText
  query : Option (List Char)

def WrittenArg.fields (arg : WrittenArg) : List (List Char) :=
  (arg.bind.map fun host => writeHost host.runes).toList ++ arg.port ::
    (arg.remote.map fun remote => [writeHost remote.host.runes, remote.portText]).getD []

def WrittenArg.text (arg : WrittenArg) : String :=
  String.ofList (arg.scheme.toList ++ ("://".toList ++ ([':'].intercalate arg.fields ++
    (arg.query.map ('?' :: ·)).getD [])))

theorem write_host_plain (host : HostText) : '?' ∉ writeHost host.runes := by
  have absent : '?' ∉ host.runes := fun member => (host.plain '?' member).2.2 rfl
  rw [writeHost]
  split
  · simp [absent]
  · exact absent

theorem host_text_scanned (host : HostText) : Scanned (writeHost host.runes) :=
  host_scanned host.runes fun rune member => ⟨(host.plain rune member).1, (host.plain rune member).2.1⟩

theorem port_scanned (text : List Char) (port : Nat) (decimal : IsPort text port) : Scanned text := by
  refine scan_plain text false ?_
  intro rune member
  refine ⟨?_, ?_, ?_⟩
  all_goals
    rintro rfl
    exact absurd member (decimal_plain text port decimal.1 _ (by decide))

-- Every field of the text is scanned in one piece and holds no question mark.
theorem written_fields (arg : WrittenArg) (field : List Char) (member : field ∈ arg.fields) : Scanned field ∧ '?' ∉ field := by
  rw [WrittenArg.fields, List.mem_append, List.mem_cons] at member
  rcases member with bound | rfl | target
  · obtain ⟨host, _, rfl⟩ := Option.map_eq_some_iff.mp (Option.mem_toList.mp bound)
    exact ⟨host_text_scanned host, write_host_plain host⟩
  · refine ⟨scan_plain arg.port false ?_, fun mark => (arg.portPlain '?' mark).2.2.2 rfl⟩
    intro rune inside
    obtain ⟨colon, opening, closing, _⟩ := arg.portPlain rune inside
    exact ⟨opening, closing, fun same => absurd same colon⟩
  · cases shape : arg.remote with
    | none => simp [shape] at target
    | some remote =>
        simp only [shape, Option.map_some, Option.getD_some, List.mem_cons, List.not_mem_nil, or_false] at target
        rcases target with rfl | rfl
        · exact ⟨host_text_scanned remote.host, write_host_plain remote.host⟩
        · exact ⟨port_scanned remote.portText remote.port remote.decimal,
            decimal_plain remote.portText remote.port remote.decimal.1 '?' (by decide)⟩

theorem scheme_plain (arg : WrittenArg) : ':' ∉ arg.scheme.toList := by
  have plain : ∀ scheme ∈ argSchemes, ':' ∉ scheme.toList := by decide
  exact plain arg.scheme arg.known

theorem split_written (arg : WrittenArg) :
    splitArg arg.text = some ⟨arg.scheme, [':'].intercalate arg.fields, arg.query⟩ := by
  have absent := absent_joined '?' arg.fields (by decide) fun field member => (written_fields arg field member).2
  have first := cut_found ':' ['/', '/'] arg.scheme.toList
    ([':'].intercalate arg.fields ++ (arg.query.map ('?' :: ·)).getD []) (scheme_plain arg)
  have second : cut ['?'] ([':'].intercalate arg.fields ++ (arg.query.map ('?' :: ·)).getD []) =
      arg.query.map fun query => ([':'].intercalate arg.fields, query) := by
    cases arg.query with
    | none => simpa using cut_absent '?' [] _ absent
    | some query => exact cut_found '?' [] _ query absent
  have separated : cut [':', '/', '/'] arg.text.toList = some (arg.scheme.toList, [':'].intercalate arg.fields ++
      (arg.query.map ('?' :: ·)).getD []) := by
    rw [WrittenArg.text, String.toList_ofList]
    exact first
  rw [splitArg, separated, Option.map_some]
  simp only [second, String.ofList_toList]
  cases shape : arg.query with
  | none => simp
  | some query => rfl

theorem fields_written (arg : WrittenArg) : argFields arg.fields = some
    { localBind := (arg.bind.map fun host => String.ofList (writeHost host.runes)).getD "127.0.0.1"
      localPort := String.ofList arg.port
      remoteHost := (arg.remote.map fun remote => String.ofList (writeHost remote.host.runes)).getD "0.0.0.0"
      remotePort := (arg.remote.map fun remote => portValue (String.ofList remote.portText)).getD 0 } := by
  obtain ⟨scheme, known, bind, port, portPlain, remote, query⟩ := arg
  cases bind <;> cases remote <;> rfl

theorem trim_host (host : HostText) : trim (String.ofList (writeHost host.runes)) brackets = String.ofList host.runes := by
  have outside : ∀ rune ∈ host.runes, brackets.contains rune = false := by
    intro rune member
    simp [brackets, (host.plain rune member).1, (host.plain rune member).2.1]
  have first : ∀ rune, host.runes.head? = some rune → brackets.contains rune = false :=
    fun rune head => outside rune (List.mem_of_mem_head? head)
  have last : ∀ rune, host.runes.getLast? = some rune → brackets.contains rune = false :=
    fun rune ending => outside rune (List.mem_of_mem_getLast? ending)
  rw [writeHost]
  split
  · exact trim_padded brackets ['['] host.runes [']'] (all_runes _ _ (by decide)) (all_runes _ _ (by decide)) first last
  · have bare := trim_padded brackets [] host.runes [] (by simp) (by simp) first last
    rwa [List.nil_append, List.append_nil] at bare

theorem trim_defaults : trim "127.0.0.1" brackets = "127.0.0.1" ∧ trim "0.0.0.0" brackets = "0.0.0.0" := by
  decide

theorem scheme_known (time : TimeLibrary) (query : Option (List Char)) (isReverse : Bool) (scheme : String)
    (known : scheme ∈ argSchemes) : ∃ protocol, schemeProtocol time query isReverse scheme = some protocol := by
  simp only [argSchemes, List.mem_cons, List.not_mem_nil, or_false] at known
  rcases known with rfl | rfl | rfl | rfl | rfl | rfl <;> exact ⟨_, rfl⟩

theorem tunnel_arg_round_trip (time : TimeLibrary) (arg : WrittenArg) (isReverse : Bool) :
    ∃ ltr, parseTunnelArg time arg.text isReverse = .ok ltr ∧
      ltr.localAddr = joinHostPort ((arg.bind.map fun host => String.ofList host.runes).getD "127.0.0.1") (String.ofList arg.port) ∧
      ltr.remote = (arg.remote.map fun remote => String.ofList remote.host.runes).getD "0.0.0.0" ∧
      ltr.port.toNat = (arg.remote.map RemoteText.port).getD 0 := by
  obtain ⟨protocol, made⟩ := scheme_known time arg.query isReverse arg.scheme arg.known
  have split := split_fields_joined arg.fields (by simp [WrittenArg.fields]) fun field member => (written_fields arg field member).1
  have special : arg.scheme ≠ "stdio" ∧ arg.scheme ≠ "unix" := by
    have listed : ∀ scheme ∈ argSchemes, scheme ≠ "stdio" ∧ scheme ≠ "unix" := by decide
    exact listed arg.scheme arg.known
  rw [parseTunnelArg, split_written]
  simp only [if_neg special.1, if_neg special.2, split, fields_written, made]
  refine ⟨_, rfl, ?_, ?_, ?_⟩
  · cases arg.bind with
    | none => simp only [Option.map_none, Option.getD_none, trim_defaults.1]
    | some host => simp only [Option.map_some, Option.getD_some, trim_host host]
  · cases arg.remote with
    | none => simp only [Option.map_none, Option.getD_none, trim_defaults.2]
    | some remote => simp only [Option.map_some, Option.getD_some, trim_host remote.host]
  · cases arg.remote with
    | none => rfl
    | some remote => exact port_number remote.portText remote.port remote.decimal

-- Brackets on both sides, and a query.
example : WrittenArg.text
    { scheme := "tcp"
      known := by decide
      bind := some ⟨"::1".toList, all_runes _ _ (by decide)⟩
      port := "8080".toList
      portPlain := all_runes _ _ (by decide)
      remote := some ⟨⟨"fe80::2".toList, all_runes _ _ (by decide)⟩, "443".toList, 443,
        ⟨by decide, all_runes _ _ (by decide), by decide⟩, by decide⟩
      query := some "proxy_protocol".toList } = "tcp://[::1]:8080:[fe80::2]:443?proxy_protocol" := by
  decide

end WarpStream
