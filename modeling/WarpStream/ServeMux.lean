import WarpStream.HttpHead
import WarpStream.PathPrefix

set_option autoImplicit false

namespace WarpStream

open GoText HttpHead TextBytes

-- One segment of path.Clean, for a path that begins at the root.
def cleanStep (kept : List (List Char)) (segment : List Char) : List (List Char) :=
  if segment = [] ∨ segment = ['.'] then kept
  else if segment = ['.', '.'] then kept.dropLast
  else kept ++ [segment]

def cleanSegments (segments : List (List Char)) : List (List Char) := segments.foldl cleanStep []

-- The cleanPath of net/http, which keeps a slash at the end.
def cleanPath (path : String) : String :=
  let rooted := if hasPrefix path "/" then path.toList else '/' :: path.toList
  let cleaned := '/' :: ['/'].intercalate (cleanSegments (rooted.splitOn '/'))
  if rooted.getLast? = some '/' ∧ cleaned ≠ ['/'] then String.ofList (cleaned ++ ['/']) else String.ofList cleaned

inductive MuxEnd where
  | redirected (path : String)
  | served (response : Response)
deriving DecidableEq

-- The mux of NewServer has the one pattern "/". It looks at EscapedPath, for a target in the
-- default encoding the escapes of its path; what it does not redirect goes to ServeHTTP.
def serveMux {Regexp : Type} (engine : RegexpEngine Regexp) (library : JwtLibrary) (server : Server Regexp) (method : String)
    (request : Request) (upgrades : Bool) : MuxEnd :=
  let path := escapePath request.path
  if method ≠ "CONNECT" ∧ cleanPath path ≠ path then .redirected (cleanPath path)
  else .served (serveHTTP engine library server request upgrades)

theorem mux_served_iff {Regexp : Type} (engine : RegexpEngine Regexp) (library : JwtLibrary) (server : Server Regexp)
    (method : String) (request : Request) (upgrades : Bool) (response : Response) (asked : method ≠ "CONNECT") :
    serveMux engine library server method request upgrades = .served response ↔
      cleanPath (escapePath request.path) = escapePath request.path ∧
        serveHTTP engine library server request upgrades = response := by
  rw [serveMux]
  by_cases clean : cleanPath (escapePath request.path) = escapePath request.path
  · simp [clean]
  · simp [clean, asked]

-- A segment that path.Clean leaves where it is.
def Ordinary (segment : List Char) : Prop := segment ≠ [] ∧ segment ≠ ['.'] ∧ segment ≠ ['.', '.']

theorem clean_step_ordinary (kept : List (List Char)) (segment : List Char) (ordinary : Ordinary segment) :
    cleanStep kept segment = kept ++ [segment] := by
  rw [cleanStep, if_neg (not_or.mpr ⟨ordinary.1, ordinary.2.1⟩), if_neg ordinary.2.2]

theorem clean_step_each (good : List Char → Prop) (kept : List (List Char)) (segment : List Char) (each : ∀ part ∈ kept, good part)
    (next : Ordinary segment → good segment) : ∀ part ∈ cleanStep kept segment, good part := by
  unfold cleanStep
  split
  · exact each
  · rename_i filled
    split
    · exact fun part member => each part ((List.dropLast_sublist kept).subset member)
    · rename_i down
      intro part member
      rcases List.mem_append.mp member with before | last
      · exact each part before
      · rw [List.mem_singleton.mp last]
        exact next ⟨fun empty => filled (.inl empty), fun dot => filled (.inr dot), down⟩

theorem clean_segments_ordinary (segments kept : List (List Char)) (ordinary : ∀ segment ∈ segments, Ordinary segment) :
    segments.foldl cleanStep kept = kept ++ segments := by
  induction segments generalizing kept with
  | nil => exact (List.append_nil kept).symm
  | cons segment rest ih =>
      obtain ⟨here, later⟩ := List.forall_mem_cons.mp ordinary
      rw [List.foldl_cons, clean_step_ordinary kept segment here, ih _ later, List.append_assoc]
      rfl

theorem clean_segments_each (good : List Char → Prop) (segments kept : List (List Char)) (each : ∀ part ∈ kept, good part)
    (next : ∀ segment ∈ segments, Ordinary segment → good segment) : ∀ part ∈ segments.foldl cleanStep kept, good part := by
  induction segments generalizing kept with
  | nil => exact each
  | cons segment rest ih =>
      obtain ⟨here, later⟩ := List.forall_mem_cons.mp next
      exact ih _ (clean_step_each good kept segment each here) later

-- The mux lets a path pass that does not end in a slash if all its segments stay.
theorem clean_path_iff (path : String) (rest : List Char) (rooted : path.toList = '/' :: rest) (filled : rest ≠ [])
    (last : rest.getLast? ≠ some '/') : cleanPath path = path ↔ ∀ segment ∈ rest.splitOn '/', Ordinary segment := by
  have begins : hasPrefix path "/" = true := by
    rw [hasPrefix, rooted]
    exact List.isPrefixOf_iff_prefix.mpr (List.prefix_append ['/'] rest)
  have ends : ('/' :: rest).getLast? ≠ some '/' := by
    rw [List.getLast?_cons_of_ne_nil filled]
    exact last
  have split : cleanSegments (('/' :: rest).splitOn '/') = cleanSegments (rest.splitOn '/') := by
    have parts : ('/' :: rest).splitOn '/' = [] :: rest.splitOn '/' := List.splitOn_append_cons_self [] rest
    rw [parts]
    rfl
  have cleaned : cleanPath path = path ↔ ['/'].intercalate (cleanSegments (rest.splitOn '/')) = rest := by
    rw [cleanPath, if_pos begins, rooted, split]
    rw [if_neg fun both => ends both.1, ← String.toList_inj, String.toList_ofList, rooted, List.cons.injEq]
    exact and_iff_right rfl
  rw [cleaned]
  constructor
  · intro same
    have parts := clean_segments_each (fun part => Ordinary part ∧ '/' ∉ part) (rest.splitOn '/') [] (by simp)
      fun segment member ordinary => ⟨ordinary, split_part_plain '/' rest segment member⟩
    have some : cleanSegments (rest.splitOn '/') ≠ [] := by
      intro none
      rw [none] at same
      exact filled same.symm
    rw [(split_parts_iff '/' rest _ some).mpr ⟨same.symm, fun part member => (parts part member).2⟩]
    exact fun part member => (parts part member).1
  · intro ordinary
    rw [cleanSegments, clean_segments_ordinary _ [] ordinary, List.nil_append]
    exact List.intercalate_splitOn '/'

theorem ordinary_escaped_iff (segment : List Char) : Ordinary (escapeRunes segment) ↔ Ordinary segment := by
  have kept : ∀ text, escapeRunes text = text → (escapeRunes segment = text ↔ segment = text) := by
    intro text plain
    refine ⟨fun same => escape_runes_injective segment text (same.trans plain.symm), ?_⟩
    rintro rfl
    exact plain
  rw [Ordinary, Ordinary, Ne, Ne, Ne, kept [] (by decide), kept ['.'] (by decide), kept ['.', '.'] (by decide)]

theorem escaped_split (rest : List Char) : (escapeRunes rest).splitOn '/' = (rest.splitOn '/').map escapeRunes := by
  have some : (rest.splitOn '/').map escapeRunes ≠ [] := fun none => List.splitOn_ne_nil '/' rest (List.map_eq_nil_iff.mp none)
  refine (split_parts_iff '/' _ _ some).mpr ⟨?_, ?_⟩
  · rw [← escape_runes_intercalate, List.intercalate_splitOn]
  · intro part member
    obtain ⟨segment, inside, rfl⟩ := List.mem_map.mp member
    exact escape_runes_plain segment (split_part_plain '/' rest segment inside)

theorem escaped_last (rest : List Char) (filled : rest ≠ []) (last : rest.getLast? ≠ some '/') :
    escapeRunes rest ≠ [] ∧ (escapeRunes rest).getLast? ≠ some '/' := by
  obtain ⟨front, final, rfl⟩ : ∃ front final, rest = front ++ [final] := ⟨_, _, (List.dropLast_append_getLast filled).symm⟩
  have other : '/' ∉ [final] := by
    intro same
    rw [← List.mem_singleton.mp same, List.getLast?_concat] at last
    exact last rfl
  have some : escapeRunes [final] ≠ [] := fun none => List.cons_ne_nil final [] (escape_runes_injective _ [] (none.trans (by decide)))
  rw [escape_runes_append]
  refine ⟨List.append_ne_nil_of_right_ne_nil _ some, fun slash => escape_runes_plain _ other ?_⟩
  rw [List.getLast?_append_of_ne_nil _ some] at slash
  exact List.mem_of_getLast? slash

theorem escaped_clean_iff (path : String) (rest : List Char) (rooted : path.toList = '/' :: rest) (filled : rest ≠ [])
    (last : rest.getLast? ≠ some '/') :
    cleanPath (escapePath path) = escapePath path ↔ ∀ segment ∈ rest.splitOn '/', Ordinary segment := by
  obtain ⟨some, unslashed⟩ := escaped_last rest filled last
  rw [clean_path_iff _ _ (escape_path_rooted path rest rooted) some unslashed, escaped_split, List.forall_mem_map]
  simp only [ordinary_escaped_iff]

theorem events_ordinary : Ordinary "events".toList := ⟨by decide, by decide, by decide⟩

-- What a client asks of its prefix when it meets the mux.
def CleanPrefix (pathPrefix : String) : Prop :=
  trim pathPrefix ['/'] = "" ∨ ∀ segment ∈ (trim pathPrefix ['/']).toList.splitOn '/', Ordinary segment

theorem events_path_clean_iff (client : String) :
    cleanPath (escapePath (eventsPath client)) = escapePath (eventsPath client) ↔ CleanPrefix client := by
  have shape := events_path_shape client
  have single : "events".toList.splitOn '/' = ["events".toList] := List.splitOn_eq_singleton (by decide)
  rw [behindSlash] at shape
  by_cases bare : trim client ['/'] = ""
  · rw [if_pos (String.toList_eq_nil_iff.mpr bare)] at shape
    rw [escaped_clean_iff _ _ shape (by decide) (by decide), single]
    exact iff_of_true (List.forall_mem_singleton.mpr events_ordinary) (.inl bare)
  · rw [if_neg fun empty => bare (String.toList_eq_nil_iff.mp empty)] at shape
    have last : ((trim client ['/']).toList ++ '/' :: "events".toList).getLast? ≠ some '/' := by
      rw [List.getLast?_append_of_ne_nil _ (List.cons_ne_nil _ _)]
      decide
    rw [escaped_clean_iff _ _ shape (List.append_ne_nil_of_right_ne_nil _ (List.cons_ne_nil _ _)) last,
      List.splitOn_append_cons_self, single, List.forall_mem_append, CleanPrefix, or_iff_right bare]
    exact and_iff_left (List.forall_mem_singleton.mpr events_ordinary)

example : cleanPath "/a//b/events" = "/a/b/events" ∧ cleanPath "/a/../b/" = "/b/" := by decide

end WarpStream
