import WarpStream.Server

set_option autoImplicit false

namespace WarpStream

open GoText

def eventsPath (pathPrefix : String) : String :=
  let trimmed := trim pathPrefix ['/']
  if trimmed = "" then "/events" else "/" ++ trimmed ++ "/events"

def behindSlash (trimmed part : List Char) : List Char := if trimmed = [] then part else trimmed ++ '/' :: part

theorem events_path_shape (client : String) :
    (eventsPath client).toList = '/' :: behindSlash (trim client ['/']).toList "events".toList := by
  rw [eventsPath, behindSlash]
  by_cases bare : trim client ['/'] = ""
  · simp only [bare, if_pos, String.toList_empty]
    rfl
  · have some : (trim client ['/']).toList ≠ [] := by
      intro empty
      exact bare (String.toList_eq_nil_iff.mp empty)
    simp only [if_neg bare, if_neg some, String.toList_append]
    rfl

theorem path_check (config : Config) (request : Request) (client : String) (configured : config.pathPrefix ≠ "")
    (asked : request.path = eventsPath client) :
    underPathPrefix config request = true ↔
      config.pathPrefix.toList <+: behindSlash (trim client ['/']).toList "events".toList := by
  rw [underPathPrefix, decide_eq_false configured, Bool.false_or, hasPrefix, List.isPrefixOf_iff_prefix, asked,
    events_path_shape, String.toList_append]
  exact List.cons_prefix_cons.trans (and_iff_right rfl)

theorem slashes_around (text : String) : ∃ before after, text.toList =
    List.replicate before '/' ++ ((trim text ['/']).toList ++ List.replicate after '/') := by
  obtain ⟨before, after, whole, front, back⟩ := trim_parts text ['/']
  refine ⟨before.length, after.length, ?_⟩
  have all : ∀ runes : List Char, (∀ rune ∈ runes, ['/'].contains rune = true) → runes = List.replicate runes.length '/' := by
    intro runes slashes
    refine List.eq_replicate_of_mem ?_
    intro rune member
    simpa using slashes rune member
  rw [← all before front, ← all after back]
  exact whole

theorem behind_slash_head (client : String) : (behindSlash (trim client ['/']).toList "events".toList).head? ≠ some '/' := by
  rw [behindSlash]
  by_cases bare : (trim client ['/']).toList = []
  · rw [if_pos bare]
    decide
  · rw [if_neg bare, List.head?_append_of_ne_nil _ bare]
    exact trim_head client ['/'] '/' (by decide)

theorem own_shape (text : String) (configured : text ≠ "") (bare : text.toList.head? ≠ some '/') :
    (trim text ['/']).toList ≠ [] ∧ ∃ after, text.toList = (trim text ['/']).toList ++ List.replicate after '/' := by
  obtain ⟨before, after, whole⟩ := slashes_around text
  cases before with
  | succ count =>
      rw [whole] at bare
      exact absurd rfl bare
  | zero =>
      rw [List.replicate_zero, List.nil_append] at whole
      refine ⟨?_, after, whole⟩
      intro empty
      rw [empty] at whole
      cases after with
      | zero => exact configured (String.toList_eq_nil_iff.mp whole)
      | succ count =>
          rw [whole] at bare
          exact bare rfl

theorem slashes_fit (trimmed : List Char) (after : Nat) :
    trimmed ++ List.replicate after '/' <+: trimmed ++ '/' :: "events".toList ↔ after ≤ 1 := by
  rw [List.prefix_append_right_inj]
  match after with
  | 0 => simp
  | 1 => simp
  | count + 2 => simp [List.replicate_succ]

theorem slashes_end (trimmed : List Char) (after : Nat) (last : trimmed.getLast? ≠ some '/') :
    ['/', '/'] <:+ trimmed ++ List.replicate after '/' ↔ 2 ≤ after := by
  constructor
  · rintro ⟨front, ended⟩
    match after with
    | 0 =>
        rw [List.replicate_zero, List.append_nil] at ended
        rw [← ended] at last
        exact absurd (by simp) last
    | 1 =>
        have shorter : (front ++ ['/']) ++ ['/'] = trimmed ++ ['/'] := by simpa using ended
        rw [← List.append_cancel_right shorter] at last
        exact absurd (by simp) last
    | count + 2 => exact Nat.le_add_left 2 count
  · intro twice
    obtain ⟨count, rfl⟩ := Nat.exists_eq_add_of_le' twice
    refine ⟨trimmed ++ List.replicate count '/', ?_⟩
    rw [List.append_assoc, List.replicate_add]
    rfl

theorem own_path (text : String) (configured : text ≠ "") :
    text.toList <+: behindSlash (trim text ['/']).toList "events".toList ↔
      text.toList.head? ≠ some '/' ∧ ¬ ['/', '/'] <:+ text.toList := by
  by_cases slash : text.toList.head? = some '/'
  · refine iff_of_false ?_ (fun both => both.1 slash)
    rintro ⟨rest, whole⟩
    have first := behind_slash_head text
    rw [← whole, List.head?_append, slash] at first
    exact first rfl
  · obtain ⟨some, after, whole⟩ := own_shape text configured slash
    have last := trim_last text ['/'] '/' (by decide)
    rw [and_iff_right slash, behindSlash, if_neg some, whole, slashes_fit, slashes_end _ after last]
    omega

theorem trimmed_slash (server client : String) (whole : server.toList = (trim client ['/']).toList ++ ['/']) :
    trim server ['/'] = trim client ['/'] := by
  have padded := trim_padded ['/'] [] (trim client ['/']).toList ['/'] (by simp) (by simp)
    (fun rune head => Bool.eq_false_iff.mpr fun member => trim_head client ['/'] rune member head)
    (fun rune last => Bool.eq_false_iff.mpr fun member => trim_last client ['/'] rune member last)
  rwa [List.nil_append, ← whole, String.ofList_toList, String.ofList_toList] at padded

theorem other_path (server client : String) (configured : server ≠ "")
    (different : trim server ['/'] ≠ trim client ['/']) :
    server.toList <+: behindSlash (trim client ['/']).toList "events".toList ↔
      server.toList <+: (trim client ['/']).toList ∨
        ∃ part, part <+: "events".toList ∧ part ≠ [] ∧ server.toList = behindSlash (trim client ['/']).toList part := by
  have nonempty : server.toList ≠ [] := by
    intro empty
    exact configured (String.toList_eq_nil_iff.mp empty)
  by_cases bare : (trim client ['/']).toList = []
  · simp only [behindSlash, bare, if_true, List.prefix_nil, nonempty, false_or]
    constructor
    · intro inside
      exact ⟨server.toList, inside, nonempty, rfl⟩
    · rintro ⟨part, inside, _, same⟩
      exact same ▸ inside
  · simp only [behindSlash, if_neg bare]
    constructor
    · intro inside
      rcases List.prefix_or_prefix_of_prefix inside (List.prefix_append _ _) with shorter | ⟨tail, whole⟩
      · exact .inl shorter
      · rw [← whole, List.prefix_append_right_inj, List.prefix_cons_iff] at inside
        rcases inside with rfl | ⟨part, rfl, inside⟩
        · exact .inl ⟨[], by rw [← whole, List.append_nil, List.append_nil]⟩
        · refine .inr ⟨part, inside, ?_, whole.symm⟩
          rintro rfl
          exact different (trimmed_slash server client whole.symm)
    · rintro (shorter | ⟨part, inside, _, whole⟩)
      · exact shorter.trans (List.prefix_append _ _)
      · rw [whole, List.prefix_append_right_inj]
        exact List.cons_prefix_cons.mpr ⟨rfl, inside⟩

-- A server prefix and a client prefix between which the raw comparison agrees
-- with the trimmed one. The server's own prefix must be written without a slash
-- in front and with at most one behind; another one must not begin the client's
-- prefix, nor run on into the name of the endpoint behind it.
def PrefixesFit (server client : String) : Prop :=
  if trim server ['/'] = trim client ['/'] then
    server.toList.head? ≠ some '/' ∧ ¬ ['/', '/'] <:+ server.toList
  else
    ¬ server.toList <+: (trim client ['/']).toList ∧
      ∀ part, part <+: "events".toList → part ≠ [] → server.toList ≠ behindSlash (trim client ['/']).toList part

theorem path_prefix_separates (config : Config) (request : Request) (client : String)
    (configured : config.pathPrefix ≠ "") (asked : request.path = eventsPath client) :
    (underPathPrefix config request = true ↔ trim config.pathPrefix ['/'] = trim client ['/']) ↔
      PrefixesFit config.pathPrefix client := by
  rw [path_check config request client configured asked, PrefixesFit]
  by_cases same : trim config.pathPrefix ['/'] = trim client ['/']
  · rw [if_pos same, iff_true_right same, ← same]
    exact own_path config.pathPrefix configured
  · rw [if_neg same, iff_false_right same, other_path config.pathPrefix client configured same, not_or]
    constructor
    · rintro ⟨shorter, absent⟩
      refine ⟨shorter, ?_⟩
      intro part inside some whole
      exact absent ⟨part, inside, some, whole⟩
    · rintro ⟨shorter, absent⟩
      refine ⟨shorter, ?_⟩
      rintro ⟨part, inside, some, whole⟩
      exact absent part inside some whole

theorem own_prefix_compared :
    ("v1" : String) ≠ "" ∧ PrefixesFit "v1" "/v1/" ∧
      ((underPathPrefix { pathPrefix := "v1" } { path := eventsPath "/v1/" } = true ↔ trim "v1" ['/'] = trim "/v1/" ['/']) ↔
        PrefixesFit "v1" "/v1/") :=
  ⟨by decide, by rw [PrefixesFit, if_pos (by decide)]; decide,
    path_prefix_separates { pathPrefix := "v1" } { path := eventsPath "/v1/" } "/v1/" (by decide) rfl⟩

-- A slash in front locks the server's own clients out, and a client of another
-- prefix that only begins with the same letters is let in.
theorem slash_locks_out_and_longer_prefix_passes :
    underPathPrefix { pathPrefix := "/v1" } { path := eventsPath "/v1" } = false ∧
      underPathPrefix { pathPrefix := "v1" } { path := eventsPath "v10" } = true ∧ trim "v1" ['/'] ≠ trim "v10" ['/'] := by
  decide

end WarpStream
