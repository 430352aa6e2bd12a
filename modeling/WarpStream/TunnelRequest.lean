import WarpStream.ConfigFile
import WarpStream.ServeMux
import WarpStream.TunnelToken
import WarpStream.Upgrade

set_option autoImplicit false

namespace WarpStream

open BufReader BufWriter ByteReader GoText HttpHead TextBytes

-- An http.Header, its names in some order.
abbrev HttpHeader := List (String × List String)

def HttpHeader.set (header : HttpHeader) (name value : String) : HttpHeader :=
  header.filter (fun entry => entry.1 ≠ canonicalName name) ++ [(canonicalName name, [value])]

def HttpHeader.fields (header : HttpHeader) : Fields := header.flatMap fun entry => entry.2.map fun value => (entry.1, value)

def headerLine (line : String) : Option (String × String) :=
  (cut [':'] line.toList).map fun (name, value) => (String.ofList (trimSpace name), String.ofList (trimSpace value))

-- The lines that the scanner finds, none where there is no file.
def loadHttpHeaders (lines : Option (List String)) : List (String × String) :=
  ((lines.getD []).filterMap headerLine).foldl (fun headers field => headers.filter (fun other => other.1 ≠ field.1) ++ [field]) []

def protocolHeader (token : String) : String := "v1, " ++ jwtHeaderPrefix ++ token

-- The header that a transport begins, with what the configuration adds. customs
-- and file are in the order in which their maps are ranged over.
def addHeaders (credentials : String) (customs file : List (String × String)) (header : HttpHeader) : HttpHeader :=
  let header := customs.foldl (fun header field => header.set field.1 field.2) header
  let header := file.foldl (fun header field => header.set field.1 field.2) header
  if credentials = "" then header else header.set "Authorization" credentials

def connectHeader (token credentials : String) (customs file : List (String × String)) : HttpHeader :=
  addHeaders credentials customs file (HttpHeader.set [] "Sec-WebSocket-Protocol" (protocolHeader token))

-- What url.Parse finds in Config.ServerURL.
structure ServerUrl extends ParsedUrl where
  rawQuery : String
deriving DecidableEq, Repr

-- The URL that connectToWarpStream dials. Its scheme is never a secure one.
def connectUrl (url : ServerUrl) (pathPrefix : String) : DialUrl where
  scheme := if url.secure then "ws" else url.scheme
  hostname := url.hostname
  port := url.dialPort
  requestUri := requestUri (eventsPath pathPrefix) url.rawQuery

def generateNonce (random : List UInt8) : String := String.ofList (encodeBase64 random)

def Request.ofHead (head : RequestHead) (tls : Option (List String)) : Request where
  path := head.path
  secWebSocketProtocol := head.fields.get (canonicalName "Sec-WebSocket-Protocol")
  cookie := head.fields.get (canonicalName "Cookie")
  authorization := head.fields.get (canonicalName "Authorization")
  upgrade := head.fields.get (canonicalName "Upgrade")
  protoMajor := head.protoMajor
  tls := tls

def UpgradeRequest.ofHead (head : RequestHead) : UpgradeRequest where
  method := head.method
  connection := head.fields.get (canonicalName "Connection")
  upgrade := head.fields.get (canonicalName "Upgrade")
  version := head.fields.get (canonicalName "Sec-WebSocket-Version")
  key := head.fields.get (canonicalName "Sec-WebSocket-Key")

def UpgradeResponse.ofHead (head : ResponseHead) : UpgradeResponse where
  statusCode := head.statusCode
  status := head.status
  accept := head.fields.get (canonicalName "Sec-WebSocket-Accept")

def readUpgradeResponse : Reader String UpgradeResponse := do
  let head ← readResponse
  pure (UpgradeResponse.ofHead head)

def selectSubprotocols (request : Request) : List String :=
  if (request.secWebSocketProtocol.toList.splitOn ',').any (fun part => String.ofList (trimSpace part) = "v1") then ["v1"] else []

-- The names as the code writes them, as net/http has them.
theorem canonical_names :
    canonicalName "Host" = "Host" ∧ canonicalName "Upgrade" = "Upgrade" ∧ canonicalName "Connection" = "Connection" ∧
      canonicalName "Sec-WebSocket-Key" = "Sec-Websocket-Key" ∧ canonicalName "Sec-WebSocket-Version" = "Sec-Websocket-Version" ∧
      canonicalName "Sec-WebSocket-Protocol" = "Sec-Websocket-Protocol" ∧
      canonicalName "Sec-WebSocket-Accept" = "Sec-Websocket-Accept" ∧ canonicalName "Cookie" = "Cookie" ∧
      canonicalName "Authorization" = "Authorization" ∧ canonicalName "Content-Type" = "Content-Type" := by
  decide

theorem fields_cons (entry : String × List String) (rest : HttpHeader) (name : String) :
    Fields.values (HttpHeader.fields (entry :: rest)) name =
      (if entry.1 = name then entry.2 else []) ++ Fields.values (HttpHeader.fields rest) name := by
  have same : HttpHeader.fields (entry :: rest) = (entry.2.map fun value => (entry.1, value)) ++ HttpHeader.fields rest := rfl
  rw [same, Fields.values, List.filter_append, List.map_append]
  congr 1
  by_cases named : entry.1 = name
  · rw [if_pos named, List.filter_eq_self.mpr, List.map_map]
    · exact List.map_id _
    · intro field member
      obtain ⟨value, _, rfl⟩ := List.mem_map.mp member
      exact decide_eq_true named
  · rw [if_neg named, List.filter_eq_nil_iff.mpr]
    · rfl
    · intro field member
      obtain ⟨value, _, rfl⟩ := List.mem_map.mp member
      simpa using named

theorem set_values (header : HttpHeader) (name value other : String) :
    Fields.values (HttpHeader.fields (header.set name value)) other =
      if canonicalName name = other then [value] else Fields.values header.fields other := by
  induction header with
  | nil =>
      rw [HttpHeader.set, List.filter_nil, List.nil_append, fields_cons]
      simp [HttpHeader.fields, Fields.values]
  | cons entry rest ih =>
      have tail : HttpHeader.set (entry :: rest) name value =
          if entry.1 ≠ canonicalName name then entry :: HttpHeader.set rest name value else HttpHeader.set rest name value := by
        by_cases named : entry.1 = canonicalName name <;> simp [HttpHeader.set, named]
      rw [tail]
      by_cases named : entry.1 = canonicalName name
      · rw [if_neg (not_not.mpr named), ih, fields_cons, named]
        by_cases same : canonicalName name = other <;> simp [same]
      · rw [if_pos named, fields_cons, ih, fields_cons]
        by_cases same : canonicalName name = other
        · rw [if_pos same, if_pos same, if_neg fun found => named (found.trans same.symm)]
          rfl
        · rw [if_neg same, if_neg same]

-- The value that the last of the fields of a name has.
def lastField (name : String) (fields : List (String × String)) : Option String :=
  fields.foldl (fun found field => if canonicalName field.1 = name then some field.2 else found) none

theorem last_field_from (name : String) (fields : List (String × String)) (found : Option String) :
    fields.foldl (fun found field => if canonicalName field.1 = name then some field.2 else found) found =
      (lastField name fields).or found := by
  induction fields generalizing found with
  | nil => rfl
  | cons field rest ih =>
      rw [lastField, List.foldl_cons, List.foldl_cons, ih, ih (if canonicalName field.1 = name then some field.2 else none),
        Option.or_assoc]
      by_cases named : canonicalName field.1 = name <;> simp [named]

theorem last_field_cons (name : String) (field : String × String) (rest : List (String × String)) :
    lastField name (field :: rest) = (lastField name rest).or (if canonicalName field.1 = name then some field.2 else none) := by
  rw [lastField, List.foldl_cons, last_field_from]

theorem last_field_none (name : String) (fields : List (String × String)) (absent : ∀ field ∈ fields, canonicalName field.1 ≠ name) :
    lastField name fields = none := by
  induction fields with
  | nil => rfl
  | cons field rest ih =>
      obtain ⟨here, later⟩ := List.forall_mem_cons.mp absent
      rw [last_field_cons, ih later, if_neg here]
      rfl

theorem sets_values (fields : List (String × String)) (header : HttpHeader) (name : String) :
    Fields.values (HttpHeader.fields (fields.foldl (fun header field => header.set field.1 field.2) header)) name =
      ((lastField name fields).map fun value => [value]).getD (Fields.values header.fields name) := by
  induction fields generalizing header with
  | nil => rfl
  | cons field rest ih =>
      rw [List.foldl_cons, ih, last_field_cons, set_values]
      cases lastField name rest with
      | some value => rfl
      | none => by_cases named : canonicalName field.1 = name <;> simp [named]

-- What the server finds of a name that the transport does not set itself.
def addedField (name credentials : String) (customs file : List (String × String)) : Option String :=
  if credentials ≠ "" ∧ name = "Authorization" then some credentials else lastField name (customs ++ file)

theorem add_headers_values (credentials : String) (customs file : List (String × String)) (header : HttpHeader) (name : String) :
    Fields.values (HttpHeader.fields (addHeaders credentials customs file header)) name =
      ((addedField name credentials customs file).map fun value => [value]).getD (Fields.values header.fields name) := by
  have added : Fields.values (HttpHeader.fields (file.foldl (fun header field => header.set field.1 field.2)
      (customs.foldl (fun header field => header.set field.1 field.2) header))) name =
      ((lastField name (customs ++ file)).map fun value => [value]).getD (Fields.values header.fields name) := by
    rw [← List.foldl_append, sets_values]
  rw [addHeaders, addedField]
  by_cases bare : credentials = ""
  · simp only [bare, if_true, ne_eq, not_true, false_and, if_false, added]
  · simp only [bare, if_false, set_values, canonical_names, added, ne_eq, not_false_eq_true, true_and]
    by_cases named : name = "Authorization"
    · simp [named]
    · simp [named, Ne.symm named]

-- Fields that the server reads as they were written.
def Written (fields : Fields) : Prop := ∀ field ∈ fields, Sendable field ∧ canonicalField field = field

theorem canonical_sendable (name value : String) (sendable : Sendable (name, value)) : Sendable (canonicalName name, value) := by
  have canonical : canonicalName name = String.ofList (canonicalRunes true name.toList) := if_pos sendable.token
  have each : ∀ rune ∈ name.toList, isTokenRune rune = true := List.all_eq_true.mp sendable.token
  refine ⟨?_, ?_, sendable.clean, sendable.front, sendable.back⟩
  · intro empty
    have runes := congrArg String.toList (canonical.symm.trans empty)
    rw [String.toList_ofList] at runes
    obtain ⟨rune, rest, found, _⟩ := name_front (name, value) sendable
    rw [found] at runes
    cases runes
  · dsimp only
    rw [canonical, String.toList_ofList]
    exact List.all_eq_true.mpr (canonical_runes_again true name.toList each).1

theorem set_written (header : HttpHeader) (name value : String) (written : Written header.fields) (sendable : Sendable (name, value)) :
    Written (HttpHeader.fields (header.set name value)) := by
  intro field member
  rw [HttpHeader.set, HttpHeader.fields, List.flatMap_append] at member
  rcases List.mem_append.mp member with kept | added
  · obtain ⟨entry, inside, found⟩ := List.mem_flatMap.mp kept
    exact written field (List.mem_flatMap.mpr ⟨entry, List.mem_of_mem_filter inside, found⟩)
  · simp only [List.flatMap_cons, List.flatMap_nil, List.map_cons, List.map_nil, List.append_nil, List.mem_singleton] at added
    subst added
    exact ⟨canonical_sendable name value sendable, Prod.ext (canonical_name_again name) rfl⟩

theorem sets_written (fields : List (String × String)) (header : HttpHeader) (written : Written header.fields)
    (sendable : ∀ field ∈ fields, Sendable field) :
    Written (HttpHeader.fields (fields.foldl (fun header field => header.set field.1 field.2) header)) := by
  induction fields generalizing header with
  | nil => exact written
  | cons field rest ih =>
      obtain ⟨here, later⟩ := List.forall_mem_cons.mp sendable
      exact ih _ (set_written header field.1 field.2 written here) later

theorem add_headers_written (credentials : String) (customs file : List (String × String)) (header : HttpHeader)
    (written : Written header.fields) (sendable : ∀ field ∈ customs ++ file, Sendable field)
    (authorized : credentials ≠ "" → Sendable ("Authorization", credentials)) :
    Written (HttpHeader.fields (addHeaders credentials customs file header)) := by
  have added : Written (HttpHeader.fields (file.foldl (fun header field => header.set field.1 field.2)
      (customs.foldl (fun header field => header.set field.1 field.2) header))) := by
    rw [← List.foldl_append]
    exact sets_written _ header written sendable
  rw [addHeaders]
  split
  · exact added
  · rename_i filled
    exact set_written _ _ _ added (authorized filled)

theorem perm_values (header written : HttpHeader) (name : String) (value : Option String) (order : written.Perm header)
    (single : Fields.values header.fields name = value.toList) : Fields.values (HttpHeader.fields written) name = value.toList := by
  have same : (Fields.values (HttpHeader.fields written) name).Perm (Fields.values header.fields name) :=
    ((order.flatMap_right _).filter _).map _
  rw [single] at same
  cases value with
  | none => exact same.eq_nil
  | some value => exact List.perm_singleton.mp same

-- The fields that Dial writes before those of the header.
def dialFields (url : DialUrl) (nonce : String) : Fields :=
  [("Host", url.hostname), ("Upgrade", "websocket"), ("Connection", "Upgrade"), ("Sec-WebSocket-Key", nonce),
    ("Sec-WebSocket-Version", "13")]

-- The same fields as the server reads them.
def readDialFields (url : DialUrl) (nonce : String) : Fields :=
  [("Host", url.hostname), ("Upgrade", "websocket"), ("Connection", "Upgrade"), ("Sec-Websocket-Key", nonce),
    ("Sec-Websocket-Version", "13")]

theorem dial_fields_canonical (url : DialUrl) (nonce : String) :
    (dialFields url nonce).map canonicalField = readDialFields url nonce := by
  simp only [dialFields, readDialFields, List.map_cons, List.map_nil, canonicalField, canonical_names]

theorem field_line_text (field : String × String) : String.ofList (fieldLine field) = field.1 ++ ": " ++ field.2 := by
  have colon : ": ".toList = [':', ' '] := by decide
  apply String.toList_injective
  rw [String.toList_ofList, String.toList_append, String.toList_append, colon]
  simp [fieldLine]

theorem head_text_join (lines : List (List Char)) :
    String.ofList (headText lines) = String.join (lines.map fun line => String.ofList line ++ "\r\n") ++ "\r\n" := by
  have ending : "\r\n".toList = ['\r', '\n'] := by decide
  apply String.toList_injective
  rw [String.toList_ofList, String.toList_append, String.toList_join, ending, headText, List.flatMap_map]
  simp only [String.toList_append, String.toList_ofList, ending]

theorem upgrade_text_head (url : DialUrl) (nonce : String) (header : HttpHeader) :
    upgradeText url nonce header =
      String.ofList (headText (requestLine "GET" url.requestUri :: (dialFields url nonce ++ header.fields).map fieldLine)) := by
  have written : header.flatMap (fun entry => entry.2.map fun value => entry.1 ++ ": " ++ value ++ "\r\n") =
      header.fields.map fun field => String.ofList (fieldLine field) ++ "\r\n" := by
    rw [HttpHeader.fields, List.map_flatMap]
    simp only [List.map_map, field_line_text, Function.comp_def]
  have line : String.ofList (requestLine "GET" url.requestUri) = "GET " ++ url.requestUri ++ " HTTP/1.1" := by
    have get : "GET ".toList = "GET".toList ++ [' '] := by decide
    have version : " HTTP/1.1".toList = ' ' :: http11 := by decide
    apply String.toList_injective
    rw [String.toList_ofList, String.toList_append, String.toList_append, get, version, requestLine]
    simp
  have host : " HTTP/1.1\r\nHost: " = " HTTP/1.1" ++ "\r\n" ++ "Host" ++ ": " := by decide
  have fixed : "\r\nUpgrade: websocket\r\nConnection: Upgrade\r\nSec-WebSocket-Key: " =
      "\r\n" ++ ("Upgrade" ++ ": " ++ "websocket" ++ "\r\n") ++ ("Connection" ++ ": " ++ "Upgrade" ++ "\r\n") ++
        ("Sec-WebSocket-Key" ++ ": ") := by
    decide
  have version : "\r\nSec-WebSocket-Version: 13\r\n" = "\r\n" ++ ("Sec-WebSocket-Version" ++ ": " ++ "13" ++ "\r\n") := by
    decide
  rw [upgradeText, written, head_text_join, List.map_cons, List.map_append, List.map_append, String.join_cons, List.map_map, line,
    host, fixed, version]
  simp only [dialFields, List.map_cons, List.map_nil, field_line_text, List.cons_append, List.nil_append, String.join_cons,
    String.append_assoc, List.map_map, Function.comp_def]

theorem trim_space_blank (core : List Char) (first : ∀ rune, core.head? = some rune → isSpace rune = false)
    (last : ∀ rune, core.getLast? = some rune → isSpace rune = false) : trimSpace (' ' :: core) = core := by
  have front : (' ' :: core).dropWhile isSpace = core := by
    rw [List.dropWhile_cons_of_pos (by decide)]
    exact drop_while_stays isSpace core first
  have back : core.reverse.dropWhile isSpace = core.reverse := by
    refine drop_while_stays isSpace _ ?_
    intro rune head
    rw [List.head?_reverse] at head
    exact last rune head
  rw [trimSpace, front, back, List.reverse_reverse]

theorem plain_token_last (token : String) (plain : PlainToken token) (front : List Char) (rune : Char)
    (last : (front ++ token.toList).getLast? = some rune) : rune ∈ token.toList := by
  have filled : token.toList ≠ [] := fun empty => plain.some (String.toList_eq_nil_iff.mp empty)
  rw [List.getLast?_append, List.getLast?_eq_some_getLast filled] at last
  cases last
  exact List.getLast_mem filled

theorem protocol_header_runes (token : String) :
    (protocolHeader token).toList = "v1".toList ++ ',' :: ' ' :: (jwtHeaderPrefix.toList ++ token.toList) := by
  have front : "v1, ".toList = "v1".toList ++ [',', ' '] := by decide
  rw [protocolHeader, String.toList_append, String.toList_append, front]
  simp

-- A value with no blank at its ends, below a name that is a token.
theorem sendable_below (name value : String) (named : (name ≠ "" ∧ name.toList.all isTokenRune = true))
    (clean : ∀ rune ∈ value.toList, isFieldRune rune = true)
    (ends : ∀ rune, value.toList.head? = some rune ∨ value.toList.getLast? = some rune → isBlank rune = false) :
    Sendable (name, value) :=
  ⟨named.1, named.2, List.all_eq_true.mpr clean, fun rune first => ends rune (.inl first), fun rune last => ends rune (.inr last)⟩

theorem sendable_solid (name value : String) (named : (name ≠ "" ∧ name.toList.all isTokenRune = true))
    (solid : ∀ rune ∈ value.toList, isFieldRune rune = true ∧ isBlank rune = false) : Sendable (name, value) := by
  refine sendable_below name value named (fun rune member => (solid rune member).1) ?_
  rintro rune (first | last)
  · exact (solid rune (List.mem_of_mem_head? first)).2
  · exact (solid rune (List.mem_of_mem_getLast? last)).2

theorem protocol_header_sendable (token : String) (plain : PlainToken token) :
    Sendable ("Sec-WebSocket-Protocol", protocolHeader token) := by
  have whole : (protocolHeader token).toList = ("v1, " ++ jwtHeaderPrefix).toList ++ token.toList := by
    rw [protocolHeader, String.toList_append]
  refine sendable_below _ _ (by decide) ?_ ?_
  · intro rune member
    rw [whole] at member
    rcases List.mem_append.mp member with fixed | inside
    · exact all_runes _ (fun rune => isFieldRune rune = true) (by decide) rune fixed
    · exact (plain.runes rune inside).1
  · rintro rune (head | last)
    · have first : (protocolHeader token).toList.head? = some 'v' := by
        rw [protocol_header_runes]
        rfl
      cases first.symm.trans head
      decide
    · rw [whole] at last
      exact (plain.runes rune (plain_token_last token plain _ rune last)).2.2.1

theorem protocol_parts (token : String) (plain : PlainToken token) :
    (protocolHeader token).toList.splitOn ',' = ["v1".toList, ' ' :: (jwtHeaderPrefix.toList ++ token.toList)] := by
  refine (split_parts_iff ',' _ _ (List.cons_ne_nil _ _)).mpr ⟨?_, ?_⟩
  · rw [protocol_header_runes]
    simp [List.intercalate]
  · intro part member
    simp only [List.mem_cons, List.not_mem_nil, or_false] at member
    rcases member with rfl | rfl
    · decide
    · intro comma
      simp only [List.mem_cons, Char.reduceEq, false_or] at comma
      rcases List.mem_append.mp comma with fixed | inside
      · revert fixed
        decide
      · exact (plain.runes ',' inside).2.2.2 rfl

theorem protocol_trimmed (token : String) (plain : PlainToken token) :
    trimSpace (' ' :: (jwtHeaderPrefix.toList ++ token.toList)) = jwtHeaderPrefix.toList ++ token.toList := by
  refine trim_space_blank _ ?_ ?_
  · intro rune head
    have first : (jwtHeaderPrefix.toList ++ token.toList).head? = some 'a' := rfl
    cases first.symm.trans head
    decide
  · intro rune last
    exact (plain.runes rune (plain_token_last token plain _ rune last)).2.1

theorem protocol_token (request : Request) (token : String) (plain : PlainToken token)
    (sent : request.secWebSocketProtocol = protocolHeader token) : requestToken request = token := by
  have first : hasPrefix (String.ofList (trimSpace "v1".toList)) jwtHeaderPrefix = false := by decide
  have second : hasPrefix (String.ofList (jwtHeaderPrefix.toList ++ token.toList)) jwtHeaderPrefix = true := by
    rw [hasPrefix, String.toList_ofList]
    exact List.isPrefixOf_iff_prefix.mpr (List.prefix_append _ _)
  have rest : trimPrefix (String.ofList (jwtHeaderPrefix.toList ++ token.toList)) jwtHeaderPrefix = token := by
    rw [trimPrefix, if_pos second, String.toList_ofList, List.drop_left, String.ofList_toList]
  simp only [requestToken, sent, protocol_parts token plain, List.map_cons, List.map_nil, protocol_trimmed token plain,
    List.find?_cons, first, second, rest, plain.some, if_false]

-- The names that net/http acts upon by itself; Host would stand twice.
def actedUpon : List String := ["Host", "Content-Length", "Transfer-Encoding", "Expect"]

-- A request of Dial that net/http reads as it was written.
structure PlainDial (url : DialUrl) (path query : String) (random : List UInt8) (header : HttpHeader) : Prop where
  host : validHost url.hostname = true
  target : url.requestUri = requestUri path query
  rooted : path.toList.head? = some '/'
  query : QueryRunes query
  random : random ≠ []
  fields : ∀ field ∈ header.fields, Sendable field ∧ canonicalName field.1 ∉ actedUpon

theorem host_sendable (host : String) (valid : validHost host = true) : Sendable ("Host", host) := by
  refine sendable_solid _ _ (by decide) ?_
  intro rune member
  have marks : ∀ rune ∈ hostMarks, isFieldRune rune = true ∧ isBlank rune = false := all_runes _ _ (by decide)
  rcases Bool.or_eq_true_iff.mp (List.all_eq_true.mp valid rune member) with alphanum | mark
  · have token : isTokenRune rune = true := by
      rw [isTokenRune, alphanum, Bool.true_or]
    exact token_rune_cases (fun rune => isFieldRune rune = true ∧ isBlank rune = false) (by decide +kernel) rune token
  · exact marks rune (List.contains_iff_mem.mp mark)

theorem base64_sendable (name : String) (bytes : List UInt8) (named : name ≠ "" ∧ name.toList.all isTokenRune = true) :
    Sendable (name, String.ofList (encodeBase64 bytes)) := by
  refine sendable_solid _ _ named ?_
  intro rune member
  rw [String.toList_ofList] at member
  exact all_runes ('=' :: base64Alphabet) (fun rune => isFieldRune rune = true ∧ isBlank rune = false) (by decide) rune
    (base64_runes bytes rune member)

section

variable (url : DialUrl) (path query : String) (random : List UInt8) (header : HttpHeader)

def dialHead : RequestHead where
  method := "GET"
  path := path
  rawQuery := query
  protoMajor := 1
  fields := readDialFields url (generateNonce random) ++ header.fields.map canonicalField

theorem dial_head_values (name : String) :
    Fields.values (dialHead url path query random header).fields name =
      Fields.values (readDialFields url (generateNonce random)) name ++ Fields.values (header.fields.map canonicalField) name := by
  rw [dialHead, Fields.values, List.filter_append, List.map_append]
  rfl

theorem dial_head_get (name : String) :
    Fields.get (dialHead url path query random header).fields name =
      ((Fields.values (readDialFields url (generateNonce random)) name).head?.or
        (Fields.values (header.fields.map canonicalField) name).head?).getD "" := by
  rw [Fields.get, dial_head_values, List.head?_append]

-- What a header adds comes behind the fields of the handshake.
theorem dial_head_upgrade :
    UpgradeRequest.ofHead (dialHead url path query random header) = ⟨"GET", "Upgrade", "websocket", "13", generateNonce random⟩ := by
  simp only [UpgradeRequest.ofHead, dial_head_get, canonical_names]
  simp [readDialFields, Fields.values, dialHead]

variable (plain : PlainDial url path query random header)

include plain in
theorem reads_dial_request :
    Reads readRequest (bytesOf (upgradeText url (generateNonce random) header)) (dialHead url path query random header) := by
  have fixed : ∀ field ∈ dialFields url (generateNonce random), Sendable field := by
    intro field member
    simp only [dialFields, List.mem_cons, List.not_mem_nil, or_false] at member
    rcases member with rfl | rfl | rfl | rfl | rfl
    · exact host_sendable _ plain.host
    · decide
    · decide
    · exact base64_sendable _ random (by decide)
    · decide
  have canonical : (dialFields url (generateNonce random) ++ header.fields).map canonicalField =
      (dialHead url path query random header).fields := by
    rw [List.map_append, dial_fields_canonical, dialHead]
  have hosts : Fields.values (dialHead url path query random header).fields "Host" = [url.hostname] := by
    have none : Fields.values (header.fields.map canonicalField) "Host" = [] := by
      rw [Fields.values, List.map_eq_nil_iff, List.filter_eq_nil_iff]
      rintro entry member same
      obtain ⟨field, inside, rfl⟩ := List.mem_map.mp member
      have named : canonicalName field.1 = "Host" := of_decide_eq_true same
      refine (plain.fields field inside).2 ?_
      rw [named]
      exact List.mem_cons_self
    rw [dial_head_values, none]
    simp [readDialFields, Fields.values]
  have sendable : SendableRequest "GET" path query (dialFields url (generateNonce random) ++ header.fields) := by
    refine ⟨by decide, by decide, plain.rooted, plain.query, ?_, ?_⟩
    · intro field member
      rcases List.mem_append.mp member with dialed | added
      · exact fixed field dialed
      · exact (plain.fields field added).1
    · rw [canonical, hosts]
      exact plain.host
  have reads := reads_request "GET" path query _ sendable
  rw [canonical] at reads
  rw [upgrade_text_head, plain.target]
  exact reads

include plain in
theorem dial_request_parsed (segments : List (List UInt8)) (data : List UInt8)
    (whole : segments.flatten = bytesOf (upgradeText url (generateNonce random) header) ++ data) :
    ∃ reader, parse readRequest [] segments = .ok (dialHead url path query random header, reader) ∧ reader.unread = data := by
  obtain ⟨reader, parsed, unread, _⟩ := parse_behind_head readRequest (read_head_stable _ _) _ data _
    (reads_dial_request url path query random header plain) segments whole
  exact ⟨reader, parsed, unread⟩

end

-- The names of a header that the request of a client does not survive: beside those that
-- net/http acts upon, the one that replaces the token.
def reservedNames : List String := "Sec-Websocket-Protocol" :: actedUpon

-- The headers of the configuration and of its file, each map in an order that
-- a range takes.
structure Ranged (config : ClientConfig) (lines : Option (List String)) (customs file : List (String × String)) : Prop where
  customs : customs.Perm config.headers
  file : file.Perm (loadHttpHeaders lines)

structure Connectable (config : ClientConfig) (lines : Option (List String)) (url : ServerUrl) (random : List UInt8) : Prop where
  host : validHost url.hostname = true
  query : QueryRunes url.rawQuery
  fields : ∀ field ∈ config.headers ++ loadHttpHeaders lines, Sendable field ∧ canonicalName field.1 ∉ reservedNames
  credentials : config.httpUpgradeCredentials ≠ "" → Sendable ("Authorization", config.httpUpgradeCredentials)
  random : random ≠ []

theorem ranged_field (config : ClientConfig) (lines : Option (List String)) (customs file : List (String × String))
    (ranged : Ranged config lines customs file) (field : String × String) (member : field ∈ customs ++ file) :
    field ∈ config.headers ++ loadHttpHeaders lines :=
  (ranged.customs.append ranged.file).mem_iff.mp member

section

variable (token : String) (config : ClientConfig) (url : ServerUrl)
  (customs file : List (String × String)) (random : List UInt8)

-- The header that connectToWarpStream sends with a token.
def clientHeader : HttpHeader := connectHeader token config.httpUpgradeCredentials customs file

def clientUrl : DialUrl := connectUrl url config.pathPrefix

def clientAuthorization : String := (addedField "Authorization" config.httpUpgradeCredentials customs file).getD ""

def sentHead (header : HttpHeader) : RequestHead :=
  dialHead (clientUrl config url) (eventsPath config.pathPrefix) url.rawQuery random header

def sentRequest (tls : Option (List String)) : Request where
  path := eventsPath config.pathPrefix
  secWebSocketProtocol := protocolHeader token
  cookie := (addedField "Cookie" config.httpUpgradeCredentials customs file).getD ""
  authorization := clientAuthorization config customs file
  upgrade := "websocket"
  protoMajor := 1
  tls := tls

theorem sent_request_token (tls : Option (List String)) (plain : PlainToken token) :
    requestToken (sentRequest token config customs file tls) = token := protocol_token _ _ plain rfl

theorem sent_request_transport (tls : Option (List String)) (server : Config) :
    requestTransport server (sentRequest token config customs file tls) =
      if server.websocketProtocol = "ws" then .gorilla else .wst := if_neg fun both => absurd both.1 (by decide : ¬ 2 ≤ 1)

theorem sent_request_clean (tls : Option (List String)) :
    cleanPath (escapePath (sentRequest token config customs file tls).path) =
        escapePath (sentRequest token config customs file tls).path ↔
      CleanPrefix config.pathPrefix := events_path_clean_iff config.pathPrefix

variable (lines : Option (List String)) (ranged : Ranged config lines customs file)
  (ready : Connectable config lines url random) (plain : PlainToken token) (header : HttpHeader)
  (order : header.Perm (clientHeader token config customs file))

include ranged ready in
theorem added_reserved (name : String) (reserved : name ∈ reservedNames) :
    addedField name config.httpUpgradeCredentials customs file = none := by
  have other : name ≠ "Authorization" := by
    rintro rfl
    exact absurd reserved (by decide)
  rw [addedField, if_neg fun both => other both.2]
  refine last_field_none name _ ?_
  rintro field member rfl
  exact (ready.fields field (ranged_field config lines customs file ranged field member)).2 reserved

theorem client_header_values (name : String) :
    Fields.values (HttpHeader.fields (clientHeader token config customs file)) name =
      ((addedField name config.httpUpgradeCredentials customs file).or
        (if name = "Sec-Websocket-Protocol" then some (protocolHeader token) else none)).toList := by
  rw [clientHeader, connectHeader, add_headers_values, set_values]
  simp only [canonical_names]
  cases addedField name config.httpUpgradeCredentials customs file with
  | some value => rfl
  | none =>
      by_cases protocol : name = "Sec-Websocket-Protocol"
      · simp [protocol]
      · simp [protocol, Ne.symm protocol, HttpHeader.fields, Fields.values]

include order in
theorem header_values (name : String) :
    Fields.values header.fields name =
      ((addedField name config.httpUpgradeCredentials customs file).or
        (if name = "Sec-Websocket-Protocol" then some (protocolHeader token) else none)).toList :=
  perm_values _ header name _ order (client_header_values token config customs file name)

include ranged ready plain order in
theorem header_written : Written header.fields := by
  have protocol := protocol_header_sendable _ plain
  have whole : Written (HttpHeader.fields (clientHeader token config customs file)) :=
    add_headers_written _ customs file _ (set_written [] _ _ (fun _ member => absurd member List.not_mem_nil) protocol)
      (fun field member => (ready.fields field (ranged_field config lines customs file ranged field member)).1) ready.credentials
  intro field member
  exact whole field ((order.flatMap_right _).mem_iff.mp member)

include ranged ready plain order in
theorem client_dial_plain : PlainDial (clientUrl config url) (eventsPath config.pathPrefix) url.rawQuery random header where
  host := ready.host
  target := rfl
  rooted := by
    rw [events_path_shape]
    rfl
  query := ready.query
  random := ready.random
  fields := by
    intro field member
    obtain ⟨sendable, canonical⟩ := header_written token config url customs file random lines ranged ready plain header order field member
    have named : canonicalName field.1 = field.1 := congrArg Prod.fst canonical
    refine ⟨sendable, ?_⟩
    rw [named]
    intro acted
    -- The header has no field of such a name, its own least of all.
    have none := header_values token config customs file header order field.1
    rw [added_reserved config url customs file random lines ranged ready field.1 (List.mem_cons_of_mem _ acted)] at none
    have other : field.1 ≠ "Sec-Websocket-Protocol" := by
      intro protocol
      rw [protocol] at acted
      exact absurd acted (by decide)
    rw [if_neg other] at none
    have found : field.2 ∈ Fields.values header.fields field.1 :=
      List.mem_map.mpr ⟨field, List.mem_filter.mpr ⟨member, decide_eq_true rfl⟩, rfl⟩
    rw [none] at found
    exact List.not_mem_nil found

include ranged ready plain order in
theorem sent_get (name : String) :
    Fields.get (sentHead config url random header).fields name =
      (((Fields.values (readDialFields (clientUrl config url) (generateNonce random)) name).head?.or
        (addedField name config.httpUpgradeCredentials customs file)).or
          (if name = "Sec-Websocket-Protocol" then some (protocolHeader token) else none)).getD "" := by
  have written := header_written token config url customs file random lines ranged ready plain header order
  have kept : header.fields.map canonicalField = header.fields :=
    (List.map_congr_left fun field member => (written field member).2).trans (List.map_id _)
  rw [sentHead, dial_head_get, kept, header_values token config customs file header order name, Option.head?_toList, Option.or_assoc]

include ranged ready plain order in
theorem sent_request (tls : Option (List String)) :
    Request.ofHead (sentHead config url random header) tls = sentRequest token config customs file tls := by
  have get := sent_get token config url customs file random lines ranged ready plain header order
  have kept := added_reserved config url customs file random lines ranged ready "Sec-Websocket-Protocol" List.mem_cons_self
  simp only [Request.ofHead, get, canonical_names, kept]
  simp [readDialFields, Fields.values, sentRequest, sentHead, dialHead, clientAuthorization]

end

-- The header and the request of connectToHttp2. The frames of HTTP/2 carry them.
def http2Header (token credentials : String) (customs file : List (String × String)) : HttpHeader :=
  addHeaders credentials customs file ((HttpHeader.set [] "Cookie" token).set "Content-Type" "application/json")

def http2Request (path : String) (header : HttpHeader) (tls : Option (List String)) : Request where
  path := path
  secWebSocketProtocol := header.fields.get (canonicalName "Sec-WebSocket-Protocol")
  cookie := header.fields.get (canonicalName "Cookie")
  authorization := header.fields.get (canonicalName "Authorization")
  upgrade := header.fields.get (canonicalName "Upgrade")
  protoMajor := 2
  tls := tls

-- What the server asks of a token with the claims and of the request that brings it.
structure Admits {Regexp : Type} (engine : RegexpEngine Regexp) (signedBy : String → String → Prop) (server : Server Regexp)
    (token : String) (claims : JwtTunnelConfig) (request : Request) : Prop where
  path : underPathPrefix server.config request = true
  signature : server.config.verifies → signedBy server.config.jwtSecret token
  rules : validate engine server.rules claims request.path request.authorization (commonName request) = true

section

variable {Regexp : Type} (engine : RegexpEngine Regexp) (library : JwtLibrary) (signedBy : String → String → Prop)
  (verifying : library.Verifying signedBy) (server : Server Regexp) (token : String) (claims : JwtTunnelConfig)
  (carries : library.Carries token (jwtPayload claims))

include verifying carries in
theorem signed_request_admitted_iff (found : JwtTunnelConfig) (request : Request) (upgrades : Bool) (transport : Transport)
    (sent : requestToken request = token) :
    serveHTTP engine library server request upgrades = .tunnel transport found ↔
      found = claims ∧ transport = requestTransport server.config request ∧ (transport = .http2 ∨ upgrades = true) ∧
        Admits engine signedBy server token claims request := by
  rw [serve_tunnel_iff, sent, accepted_token_iff library signedBy token found verifying, carried_claims library token claims carries]
  constructor
  · rintro ⟨under, _, ⟨same, signature⟩, allowed, chosen, upgraded⟩
    cases same
    exact ⟨rfl, chosen, upgraded, under, signature, allowed⟩
  · rintro ⟨rfl, chosen, upgraded, admits⟩
    exact ⟨admits.path, carries.plain.some, ⟨rfl, admits.signature⟩, admits.rules, chosen, upgraded⟩

end

section

variable {Regexp : Type} (engine : RegexpEngine Regexp) (library : JwtLibrary) (signedBy : String → String → Prop)
  (verifying : library.Verifying signedBy) (server : Server Regexp) (signedString : String → JwtTunnelConfig → String)
  (config : ClientConfig) (claims : JwtTunnelConfig)
  (carries : library.Carries (signClaims signedString config.jwtSecret claims) (jwtPayload claims))
  (url : ServerUrl) (customs file : List (String × String)) (random : List UInt8) (lines : Option (List String))
  (ranged : Ranged config lines customs file) (ready : Connectable config lines url random)
  (header : HttpHeader) (order : header.Perm (clientHeader (signClaims signedString config.jwtSecret claims) config customs file))
  (segments : List (List UInt8)) (data : List UInt8)
  (whole : segments.flatten = bytesOf (upgradeText (clientUrl config url) (generateNonce random) header) ++ data)

end

def plainClient : ClientConfig :=
  { pathPrefix := "v1", jwtSecret := "key", headers := [("x-env", "a b"), ("Connection", "close")], httpUpgradeCredentials := "Basic Zm9v" }

def plainServerUrl : ServerUrl := ⟨⟨"wss", "h.example", ""⟩, "tenant=1"⟩

def plainLines : List String := ["# comment", " X-Tenant : one", "x-env: c"]

theorem plain_ranged : Ranged plainClient (some plainLines) plainClient.headers (loadHttpHeaders (some plainLines)) :=
  ⟨List.Perm.refl _, List.Perm.refl _⟩

theorem plain_client_ready : Connectable plainClient (some plainLines) plainServerUrl [7] where
  host := by decide
  query := all_runes _ _ (by decide)
  fields := by decide
  credentials := by decide
  random := by decide

def plainHeader : HttpHeader := clientHeader "h.c.s" plainClient plainClient.headers (loadHttpHeaders (some plainLines))

def plainRequest : List UInt8 := bytesOf (upgradeText (clientUrl plainClient plainServerUrl) (generateNonce [7]) plainHeader)

theorem plain_prefix_clean : CleanPrefix plainClient.pathPrefix := .inr (by
  have single : (trim "v1" ['/']).toList.splitOn '/' = ["v1".toList] := by decide
  intro segment member
  rw [show plainClient.pathPrefix = "v1" from rfl, single, List.mem_singleton] at member
  rw [member]
  exact ⟨by decide, by decide, by decide⟩)

theorem dial_upgrade_valid (random : List UInt8) (some : random ≠ []) :
    UpgradeRequest.valid ⟨"GET", "Upgrade", "websocket", "13", generateNonce random⟩ where
  get := rfl
  connection := (by decide : tokenContains "Upgrade" "upgrade" = true)
  websocket := (by decide : equalFold "websocket" "websocket" = true)
  version := rfl
  key := by
    intro empty
    have runes := congrArg String.toList empty
    rw [generateNonce, String.toList_ofList] at runes
    revert runes
    cases random with
    | nil => exact absurd rfl some
    | cons first rest =>
        intro runes
        match rest with
        | [] => cases runes
        | [_] => cases runes
        | _ :: _ :: _ => cases runes

-- The fields of the answer, the last one for a request that offers v1.
def answerFields (accept : String) (subprotocols : List String) : Fields :=
  [("Upgrade", "websocket"), ("Connection", "Upgrade"), ("Sec-WebSocket-Accept", accept)] ++
    subprotocols.head?.toList.map fun first => ("Sec-WebSocket-Protocol", first)

theorem switching_protocols_head (accept : String) (subprotocols : List String) :
    switchingProtocols accept subprotocols =
      String.ofList (headText (statusLine ['1', '0', '1'] "Switching Protocols" :: (answerFields accept subprotocols).map fieldLine)) := by
  have status : String.ofList (statusLine ['1', '0', '1'] "Switching Protocols") = "HTTP/1.1 101 Switching Protocols" := by
    decide +kernel
  have line : "HTTP/1.1 101 Switching Protocols\r\n" = "HTTP/1.1 101 Switching Protocols" ++ "\r\n" := by decide
  have upgrade : "Upgrade: websocket\r\n" = "Upgrade" ++ ": " ++ "websocket" ++ "\r\n" := by decide
  have connection : "Connection: Upgrade\r\n" = "Connection" ++ ": " ++ "Upgrade" ++ "\r\n" := by decide
  have key : "Sec-WebSocket-Accept: " = "Sec-WebSocket-Accept" ++ ": " := by decide
  have protocol : "Sec-WebSocket-Protocol: " = "Sec-WebSocket-Protocol" ++ ": " := by decide
  rw [head_text_join, List.map_cons, status]
  cases subprotocols with
  | nil =>
      have text : switchingProtocols accept [] = "HTTP/1.1 101 Switching Protocols\r\n" ++ "Upgrade: websocket\r\n" ++
          "Connection: Upgrade\r\n" ++ ("Sec-WebSocket-Accept: " ++ accept ++ "\r\n") ++ "" ++ "\r\n" := rfl
      rw [text, line, upgrade, connection, key]
      simp only [answerFields, List.head?_nil, Option.toList_none, List.map_cons, List.map_nil, List.append_nil, field_line_text,
        String.join_cons, String.join_nil, String.append_assoc, String.append_empty]
  | cons first rest =>
      have text : switchingProtocols accept (first :: rest) = "HTTP/1.1 101 Switching Protocols\r\n" ++ "Upgrade: websocket\r\n" ++
          "Connection: Upgrade\r\n" ++ ("Sec-WebSocket-Accept: " ++ accept ++ "\r\n") ++
          ("Sec-WebSocket-Protocol: " ++ first ++ "\r\n") ++ "\r\n" := rfl
      rw [text, line, upgrade, connection, key, protocol]
      simp only [answerFields, List.head?_cons, Option.toList_some, List.map_cons, List.map_nil, List.cons_append, List.nil_append,
        field_line_text, String.join_cons, String.join_nil, String.append_assoc, String.append_empty]

theorem reads_switching_protocols (sha1 : List UInt8 → List UInt8) (key : String) (subprotocols : List String)
    (sendable : ∀ first ∈ subprotocols.head?, Sendable ("Sec-WebSocket-Protocol", first)) :
    Reads readUpgradeResponse (bytesOf (switchingProtocols (generateAcceptKey sha1 key) subprotocols))
      ⟨101, "101 Switching Protocols", generateAcceptKey sha1 key⟩ := by
  have each : ∀ field ∈ answerFields (generateAcceptKey sha1 key) subprotocols, Sendable field := by
    intro field member
    rcases List.mem_append.mp member with fixed | offered
    · simp only [List.mem_cons, List.not_mem_nil, or_false] at fixed
      rcases fixed with rfl | rfl | rfl
      · decide
      · decide
      · exact base64_sendable _ _ (by decide)
    · obtain ⟨first, found, rfl⟩ := List.mem_map.mp offered
      exact sendable first (Option.mem_toList.mp found)
  have status : String.ofList (['1', '0', '1'] ++ ' ' :: "Switching Protocols".toList) = "101 Switching Protocols" := by decide
  have code : decimal ['1', '0', '1'] = 101 := by decide
  have reads := reads_response ['1', '0', '1'] "Switching Protocols" _ rfl (by decide) (by decide) each
  rw [← switching_protocols_head] at reads
  have mapped := reads_bind readResponse (fun head => pure (UpgradeResponse.ofHead head)) _ [] _ _ reads (reads_pure _)
  rw [List.append_nil] at mapped
  have view : UpgradeResponse.ofHead ⟨decimal ['1', '0', '1'], String.ofList (['1', '0', '1'] ++ ' ' :: "Switching Protocols".toList),
      (answerFields (generateAcceptKey sha1 key) subprotocols).map canonicalField⟩ =
        ⟨101, "101 Switching Protocols", generateAcceptKey sha1 key⟩ := by
    rw [UpgradeResponse.ofHead, code, status]
    simp [answerFields, Fields.get, Fields.values, canonicalField, canonical_names]
  rw [view] at mapped
  exact mapped

theorem read_upgrade_response_stable : Stable readUpgradeResponse :=
  stable_bind _ _ (read_head_stable _ _) fun _ => stable_pure _

theorem selected_sendable (request : Request) (first : String) (selected : first ∈ (selectSubprotocols request).head?) :
    Sendable ("Sec-WebSocket-Protocol", first) := by
  unfold selectSubprotocols at selected
  split at selected
  · cases selected
    decide
  · cases selected

-- The client reads the answer with whatever comes behind it, however the two
-- were cut on the way.
theorem dial_answered (sha1 : List UInt8 → List UInt8) (dialer : Dialer) (url : DialUrl) (nonce : String) (header : HttpHeader)
    (back : List (List UInt8)) (frames : List UInt8) (socket : Socket) (connected : established dialer url = .ok ⟨back, socket⟩)
    (faultless : socket.faults = []) (subprotocols : List String)
    (sendable : ∀ first ∈ subprotocols.head?, Sendable ("Sec-WebSocket-Protocol", first))
    (answered : back.flatten = bytesOf (switchingProtocols (generateAcceptKey sha1 nonce) subprotocols) ++ frames) :
    ∃ client, dial sha1 readUpgradeResponse dialer url nonce header = .ok client ∧ client.masking = true ∧
      client.bufr.unread = frames ∧ client.bufw.socket.sent = socket.sent ++ bytesOf (upgradeText url nonce header) := by
  obtain ⟨reader, parsed, unread, _⟩ := parse_behind_head readUpgradeResponse read_upgrade_response_stable _ frames _
    (reads_switching_protocols sha1 nonce subprotocols sendable) back answered
  obtain ⟨done, _⟩ := socket_write_completes socket (bytesOf (upgradeText url nonce header)) faultless
  refine ⟨WstEnd.newConnWithReader ⟨reader.conn, (socket.write (bytesOf (upgradeText url nonce header))).socket⟩ true reader, ?_, rfl,
    unread, (socket_write_ok socket _ done).1⟩
  simp only [dial, connected, done, Bool.true_eq_false, if_false, parsed, ne_eq, not_true]

theorem handshake_completes (url : DialUrl) (path query : String) (random : List UInt8) (header : HttpHeader)
    (plain : PlainDial url path query random header) (segments : List (List UInt8)) (data : List UInt8)
    (whole : segments.flatten = bytesOf (upgradeText url (generateNonce random) header) ++ data)
    (sha1 : List UInt8 → List UInt8) (writer : Writer) (steady : Steady writer) :
    ∃ head reader answer, parse readRequest [] segments = .ok (head, reader) ∧ reader.unread = data ∧
      (∀ hijacked, ∃ ends, upgrade sha1 (selectSubprotocols (Request.ofHead head none)) (UpgradeRequest.ofHead head)
          (.ready hijacked writer) = .ok ends ∧ ends.masking = false ∧ ends.bufw.socket.sent = pending writer ++ answer) ∧
      ∀ dialer back frames socket, established dialer url = .ok ⟨back, socket⟩ → socket.faults = [] →
        back.flatten = answer ++ frames →
        ∃ client, dial sha1 readUpgradeResponse dialer url (generateNonce random) header = .ok client ∧
          client.masking = true ∧ client.bufr.unread = frames ∧
          client.bufw.socket.sent = socket.sent ++ bytesOf (upgradeText url (generateNonce random) header) := by
  obtain ⟨reader, parsed, unread⟩ := dial_request_parsed url path query random header plain segments data whole
  have asked := dial_head_upgrade url path query random header
  have valid := dial_upgrade_valid random plain.random
  let subprotocols := selectSubprotocols (Request.ofHead (dialHead url path query random header) none)
  have written := and_then_completes _ _
    (write_completes (bytesOf (switchingProtocols (generateAcceptKey sha1 (generateNonce random)) subprotocols))) flush_completes writer steady
  obtain ⟨_, sent⟩ := and_then_flush _ _ (write_emits _) writer written.1
  refine ⟨_, reader, bytesOf (switchingProtocols (generateAcceptKey sha1 (generateNonce random)) subprotocols), parsed, unread, ?_, ?_⟩
  · intro hijacked
    refine ⟨WstEnd.newConn ⟨hijacked.conn, (andThen (write (bytesOf (switchingProtocols (generateAcceptKey sha1
      (generateNonce random)) subprotocols))) flush writer).1.socket⟩ false, ?_, rfl, sent⟩
    rw [asked]
    simp [upgrade, valid.connection, valid.websocket, valid.key, subprotocols, written.1]
  · intro dialer back frames socket connected faultless answered
    exact dial_answered sha1 dialer _ _ header back frames socket connected faultless subprotocols (selected_sendable _) answered

theorem plain_dial : PlainDial (clientUrl plainClient plainServerUrl) (eventsPath "v1") "tenant=1" [7] plainHeader :=
  client_dial_plain "h.c.s" plainClient plainServerUrl plainClient.headers _ [7] (some plainLines) plain_ranged plain_client_ready
    (keyed_library_carries plainClaims).plain _ (List.Perm.refl _)

theorem plain_client_connects : ∃ answer client,
    dial (fun _ => []) readUpgradeResponse ⟨fun _ => .ok ⟨[answer, [0x82, 0]], ⟨[], []⟩⟩, fun _ conn => .ok conn⟩
        (clientUrl plainClient plainServerUrl) (generateNonce [7]) plainHeader = .ok client ∧
      client.bufr.unread = [0x82, 0] := by
  obtain ⟨_, _, answer, _, _, _, dials⟩ := handshake_completes _ _ _ _ _ plain_dial [plainRequest] []
    List.flatten_cons (fun _ => []) (newWriter ⟨[], []⟩) (new_writer_steady _ rfl)
  obtain ⟨client, dialed, _, unread, _⟩ := dials ⟨fun _ => .ok ⟨[answer, [0x82, 0]], ⟨[], []⟩⟩, fun _ conn => .ok conn⟩
    [answer, [0x82, 0]] [0x82, 0] ⟨[], []⟩ rfl rfl rfl
  exact ⟨answer, client, dialed, unread⟩

-- The names of a header that HTTP/2 does not carry beside a token.
def reservedHttp2Names : List String := ["Cookie", "Sec-Websocket-Protocol", "Upgrade"]

def http2Sent (token : String) (config : ClientConfig) (customs file : List (String × String)) (tls : Option (List String)) : Request where
  path := eventsPath config.pathPrefix
  cookie := token
  authorization := clientAuthorization config customs file
  protoMajor := 2
  tls := tls

theorem http2_header_values (token credentials : String) (customs file : List (String × String)) (name : String) :
    Fields.values (HttpHeader.fields (http2Header token credentials customs file)) name =
      ((addedField name credentials customs file).or
        (if name = "Content-Type" then some "application/json" else if name = "Cookie" then some token else none)).toList := by
  rw [http2Header, add_headers_values, set_values, set_values]
  simp only [canonical_names]
  cases addedField name credentials customs file with
  | some value => rfl
  | none =>
      by_cases typed : name = "Content-Type"
      · simp [typed]
      · by_cases named : name = "Cookie"
        · simp [named]
        · simp [typed, named, Ne.symm typed, Ne.symm named, HttpHeader.fields, Fields.values]

theorem cookie_token (request : Request) (bare : request.secWebSocketProtocol = "") : requestToken request = request.cookie := by
  have parts : (("".toList.splitOn ',').map fun part => String.ofList (trimSpace part)).find? (hasPrefix · jwtHeaderPrefix) = none := by
    decide
  rw [requestToken, bare]
  simp only [parts, if_true]

section

variable (token : String) (config : ClientConfig) (customs file : List (String × String))
  (tls : Option (List String)) (lines : Option (List String)) (ranged : Ranged config lines customs file)
  (free : ∀ field ∈ config.headers ++ loadHttpHeaders lines, canonicalName field.1 ∉ reservedHttp2Names) (header : HttpHeader)
  (order : header.Perm (http2Header token config.httpUpgradeCredentials customs file))

include ranged free in
theorem added_reserved_http2 (name : String) (reserved : name ∈ reservedHttp2Names) :
    addedField name config.httpUpgradeCredentials customs file = none := by
  have other : name ≠ "Authorization" := by
    rintro rfl
    exact absurd reserved (by decide)
  rw [addedField, if_neg fun both => other both.2]
  refine last_field_none name _ ?_
  rintro field member rfl
  exact free field (ranged_field config lines customs file ranged field member) reserved

include ranged free order in
theorem http2_request_sent :
    http2Request (eventsPath config.pathPrefix) header tls = http2Sent token config customs file tls := by
  have get : ∀ name, header.fields.get name = ((addedField name config.httpUpgradeCredentials customs file).or
      (if name = "Content-Type" then some "application/json" else if name = "Cookie" then some token else none)).getD "" := by
    intro name
    rw [Fields.get, perm_values _ header name _ order (http2_header_values _ _ customs file name), Option.head?_toList]
  have unset := added_reserved_http2 config customs file lines ranged free
  simp only [http2Request, canonical_names, get, unset "Sec-Websocket-Protocol" (by decide), unset "Cookie" (by decide),
    unset "Upgrade" (by decide)]
  simp [http2Sent, clientAuthorization]

theorem http2_sent_token : requestToken (http2Sent token config customs file tls) = token :=
  cookie_token (http2Sent token config customs file tls) rfl

theorem http2_sent_transport (server : Config) : requestTransport server (http2Sent token config customs file tls) = .http2 :=
  if_pos ⟨Nat.le_refl 2, (by decide : "".toList.map toLowerRune ≠ "websocket".toList)⟩

end

section

variable (signedString : String → JwtTunnelConfig → String) (config : ClientConfig) (claims : JwtTunnelConfig)
  (customs file : List (String × String)) (tls : Option (List String)) (lines : Option (List String))
  (ranged : Ranged config lines customs file)
  (free : ∀ field ∈ config.headers ++ loadHttpHeaders lines, canonicalName field.1 ∉ reservedHttp2Names) (header : HttpHeader)
  (order : header.Perm
    (http2Header (signClaims signedString config.jwtSecret claims) config.httpUpgradeCredentials customs file))

end

def plainHttp2Header : HttpHeader := http2Header "h.c.s" "Basic Zm9v" plainClient.headers (loadHttpHeaders (some plainLines))

end WarpStream
