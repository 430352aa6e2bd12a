import WarpStream.GoText
import WarpStream.JsonText

set_option autoImplicit false

namespace JsonCodec

open GoText JsonText

-- What marshalling makes of the values of a type, and what unmarshalling makes
-- of a variable that already has a value; no result is an error.
structure Codec (α : Type) where
  zero : α
  encode : α → Value
  decode : α → Value → Option α

def stringCodec : Codec String where
  zero := ""
  encode := .string
  decode := fun current value =>
    match value with
    | .string text => some text
    | .null => some current
    | _ => none

def boolCodec : Codec Bool where
  zero := false
  encode := .bool
  decode := fun current value =>
    match value with
    | .bool flag => some flag
    | .null => some current
    | _ => none

def uintCodec {α : Type} (bits : Nat) (ofNat : Nat → α) (toNat : α → Nat) : Codec α where
  zero := ofNat 0
  encode := fun number => .number (Nat.toDigits 10 (toNat number))
  decode := fun current value =>
    match value with
    | .number literal =>
        match parseUint (String.ofList literal) bits with
        | (number, none) => some (ofNat number)
        | (_, some _) => none
    | .null => some current
    | _ => none

def uint64Codec : Codec UInt64 := uintCodec 64 UInt64.ofNat UInt64.toNat

def uint32Codec : Codec UInt32 := uintCodec 32 UInt32.ofNat UInt32.toNat

def uint16Codec : Codec UInt16 := uintCodec 16 UInt16.ofNat UInt16.toNat

-- A null clears a pointer; anything else goes to what it points to, or to a new
-- zero value.
def pointerCodec {α : Type} (codec : Codec α) : Codec (Option α) where
  zero := none
  encode := fun pointer =>
    match pointer with
    | none => .null
    | some value => codec.encode value
  decode := fun current value =>
    match value with
    | .null => some none
    | value => (codec.decode (current.getD codec.zero) value).map some

-- A field of a struct with its tag; omits says which values omitempty leaves out.
structure StructField (σ : Type) where
  {α : Type}
  name : String
  codec : Codec α
  get : σ → α
  set : σ → α → σ
  omits : α → Bool := fun _ => false

-- A pointer field with omitempty.
def optionalField {σ α : Type} (name : String) (codec : Codec α) (get : σ → Option α) (set : σ → Option α → σ) : StructField σ where
  name := name
  codec := pointerCodec codec
  get := get
  set := set
  omits := Option.isNone

def plainField {σ α : Type} (name : String) (codec : Codec α) (get : σ → α) (set : σ → α → σ) : StructField σ where
  name := name
  codec := codec
  get := get
  set := set

section

variable {σ : Type}

def StructField.member (field : StructField σ) (record : σ) : List (String × Value) :=
  if field.omits (field.get record) then [] else [(field.name, field.codec.encode (field.get record))]

-- A key prefers the field of just its name and also takes one that differs from
-- it in case; a key of no field is skipped.
def findField (fields : List (StructField σ)) (key : String) : Option (StructField σ) :=
  (fields.find? fun field => field.name = key).or (fields.find? fun field => equalFold field.name key)

def decodeMember (fields : List (StructField σ)) (record : σ) (member : String × Value) : Option σ :=
  match findField fields member.1 with
  | none => some record
  | some field => (field.codec.decode (field.get record) member.2).map (field.set record)

def structCodec (zero : σ) (fields : List (StructField σ)) : Codec σ where
  zero := zero
  encode := fun record => .object (fields.flatMap fun field => field.member record)
  decode := fun record value =>
    match value with
    | .object members => members.foldlM (decodeMember fields) record
    | .null => some record
    | _ => none

end

structure Lossless {α : Type} (codec : Codec α) : Prop where
  decodes : ∀ value, codec.decode codec.zero (codec.encode value) = some value
  natural : ∀ value, AllNatural (codec.encode value)

theorem string_lossless : Lossless stringCodec := ⟨fun _ => rfl, fun _ => trivial⟩

theorem bool_lossless : Lossless boolCodec := ⟨fun _ => rfl, fun _ => trivial⟩

theorem digits_leading (number : Nat) (zero : (Nat.toDigits 10 number).head? = some '0') : number = 0 := by
  induction number using Nat.strongRecOn with
  | ind number ih =>
      by_cases single : number < 10
      · rw [Nat.toDigits_of_lt_base single] at zero
        have digit : ∀ value, value < 10 → value.digitChar = '0' → value = 0 := by decide
        exact digit number single (Option.some.inj zero)
      · have many : 10 ≤ number := Nat.le_of_not_lt single
        obtain ⟨first, others, shape⟩ := List.exists_cons_of_ne_nil (Nat.toDigits_ne_nil (n := number / 10) (b := 10))
        rw [Nat.toDigits_of_base_le (by decide) many, shape] at zero
        have none := ih (number / 10) (by omega) (by rw [shape]; exact zero)
        omega

theorem digits_natural (number : Nat) : Natural (Nat.toDigits 10 number) where
  some := Nat.toDigits_ne_nil
  digits := fun _ member => Nat.isDigit_of_mem_toDigits (by decide) (by decide) member
  leading := by
    intro zero
    rw [digits_leading number zero]
    rfl

theorem digits_decimal (number : Nat) : IsDecimal (Nat.toDigits 10 number) number := by
  have natural := digits_natural number
  refine ⟨natural.some, natural.digits, ?_⟩
  have folded := Nat.ofDigitChars_toDigits (b := 10) (n := number) (by decide) (by decide)
  simpa only [decimal, Nat.ofDigitChars, Nat.mul_comm] using folded

theorem uint_lossless {α : Type} (bits : Nat) (ofNat : Nat → α) (toNat : α → Nat)
    (back : ∀ number, ofNat (toNat number) = number) (bound : ∀ number, toNat number < 2 ^ bits) :
    Lossless (uintCodec bits ofNat toNat) where
  decodes := by
    intro number
    have parsed := (parse_uint_iff (Nat.toDigits 10 (toNat number)) bits (toNat number)).mpr
      ⟨digits_decimal _, Nat.le_sub_one_of_lt (bound number)⟩
    simp only [uintCodec, parsed, back]
  natural := fun number => digits_natural (toNat number)

theorem uint64_lossless : Lossless uint64Codec :=
  uint_lossless 64 _ _ (fun _ => UInt64.ofNat_toNat) fun number => number.toNat_lt

theorem uint32_lossless : Lossless uint32Codec :=
  uint_lossless 32 _ _ (fun _ => UInt32.ofNat_toNat) fun number => number.toNat_lt

theorem uint16_lossless : Lossless uint16Codec :=
  uint_lossless 16 _ _ (fun _ => UInt16.ofNat_toNat) fun number => number.toNat_lt

theorem pointer_lossless {α : Type} (codec : Codec α) (lossless : Lossless codec)
    (present : ∀ value, codec.encode value ≠ .null) : Lossless (pointerCodec codec) where
  decodes := by
    intro pointer
    cases pointer with
    | none => rfl
    | some value =>
        have decoded := lossless.decodes value
        have solid := present value
        simp only [pointerCodec]
        rw [Option.getD_none, decoded, Option.map_some]
  natural := by
    intro pointer
    cases pointer with
    | none => trivial
    | some value => exact lossless.natural value

section

variable {σ : Type}

structure FieldLaw (field : StructField σ) : Prop where
  lossless : Lossless field.codec
  restores : ∀ record, field.set record (field.get record) = record
  omitted : ∀ value, field.omits value = true → value = field.codec.zero

theorem find_named (fields : List (StructField σ)) (names : fields.Pairwise fun first second => first.name ≠ second.name)
    (field : StructField σ) (member : field ∈ fields) : findField fields field.name = some field := by
  have exact_ : (fields.find? fun other => other.name = field.name) = some field := by
    induction fields with
    | nil => cases member
    | cons first rest ih =>
        obtain ⟨distinct, others⟩ := List.pairwise_cons.mp names
        rcases List.mem_cons.mp member with rfl | later
        · exact List.find?_cons_of_pos (by simp)
        · rw [List.find?_cons_of_neg (by simpa using distinct field later)]
          exact ih others later
  rw [findField, exact_]
  rfl

def copyFields (fields : List (StructField σ)) (record start : σ) : σ :=
  fields.foldl (fun built field => field.set built (field.get record)) start

-- Along the fields that are still to come: each finds its own value untouched by
-- those before it.
theorem decode_fields (all rest : List (StructField σ)) (found : ∀ field ∈ rest, findField all field.name = some field)
    (laws : ∀ field ∈ rest, FieldLaw field)
    (independent : rest.Pairwise fun first second => ∀ record value, second.get (first.set record value) = second.get record)
    (record built : σ) (fresh : ∀ field ∈ rest, field.get built = field.codec.zero) :
    (rest.flatMap fun field => field.member record).foldlM (decodeMember all) built = some (copyFields rest record built) := by
  induction rest generalizing built with
  | nil => rfl
  | cons field rest ih =>
      obtain ⟨own, othersFound⟩ := List.forall_mem_cons.mp found
      obtain ⟨law, othersLaws⟩ := List.forall_mem_cons.mp laws
      obtain ⟨apart, othersApart⟩ := List.pairwise_cons.mp independent
      obtain ⟨zero, othersZero⟩ := List.forall_mem_cons.mp fresh
      have untouched : ∀ other ∈ rest, other.get (field.set built (field.get record)) = other.codec.zero := by
        intro other member
        rw [apart other member]
        exact othersZero other member
      have tail := ih othersFound othersLaws othersApart (field.set built (field.get record)) untouched
      rw [List.flatMap_cons, List.foldlM_append, StructField.member]
      by_cases omits : field.omits (field.get record) = true
      · have same : field.set built (field.get record) = built := by
          rw [law.omitted _ omits, ← zero]
          exact law.restores built
        rw [same] at tail
        rw [if_pos omits, List.foldlM_nil]
        simp only [Option.pure_def, Option.bind_eq_bind, Option.bind_some, tail, copyFields, List.foldl_cons, same]
      · have decoded : decodeMember all built (field.name, field.codec.encode (field.get record)) =
            some (field.set built (field.get record)) := by
          simp only [decodeMember, own, zero, law.lossless.decodes, Option.map_some]
        rw [if_neg omits]
        simp only [List.foldlM_cons, List.foldlM_nil, decoded, Option.pure_def, Option.bind_eq_bind, Option.bind_some, tail,
          copyFields, List.foldl_cons]

theorem members_natural (fields : List (StructField σ)) (laws : ∀ field ∈ fields, FieldLaw field) (record : σ) :
    MembersNatural (fields.flatMap fun field => field.member record) := by
  induction fields with
  | nil => trivial
  | cons field rest ih =>
      obtain ⟨law, others⟩ := List.forall_mem_cons.mp laws
      rw [List.flatMap_cons, StructField.member]
      split
      · exact ih others
      · exact ⟨law.lossless.natural _, ih others⟩

structure StructLaw (zero : σ) (fields : List (StructField σ)) : Prop where
  laws : ∀ field ∈ fields, FieldLaw field
  names : fields.Pairwise fun first second => first.name ≠ second.name
  independent : fields.Pairwise fun first second => ∀ record value, second.get (first.set record value) = second.get record
  fresh : ∀ field ∈ fields, field.get zero = field.codec.zero
  complete : ∀ record, copyFields fields record zero = record

theorem struct_lossless (zero : σ) (fields : List (StructField σ)) (law : StructLaw zero fields) :
    Lossless (structCodec zero fields) where
  decodes := by
    intro record
    have decoded := decode_fields fields fields (fun field member => find_named fields law.names field member) law.laws
      law.independent record zero law.fresh
    rw [law.complete] at decoded
    exact decoded
  natural := fun record => members_natural fields law.laws record

theorem one_field_lossless (zero : σ) (field : StructField σ) (law : FieldLaw field) (fresh : field.get zero = field.codec.zero)
    (complete : ∀ record, field.set zero (field.get record) = record) : Lossless (structCodec zero [field]) := by
  apply struct_lossless
  constructor
  case laws => exact fun _ member => List.mem_singleton.mp member ▸ law
  case names => exact List.pairwise_singleton _ field
  case independent => exact List.pairwise_singleton _ field
  case fresh => exact fun _ member => List.mem_singleton.mp member ▸ fresh
  case complete => exact complete

theorem two_fields_lossless (zero : σ) (first second : StructField σ) (firstLaw : FieldLaw first) (secondLaw : FieldLaw second)
    (names : first.name ≠ second.name) (independent : ∀ record value, second.get (first.set record value) = second.get record)
    (firstFresh : first.get zero = first.codec.zero) (secondFresh : second.get zero = second.codec.zero)
    (complete : ∀ record, second.set (first.set zero (first.get record)) (second.get record) = record) :
    Lossless (structCodec zero [first, second]) := by
  apply struct_lossless
  constructor
  case laws => exact List.forall_mem_cons.mpr ⟨firstLaw, fun _ member => List.mem_singleton.mp member ▸ secondLaw⟩
  case names =>
    exact List.pairwise_cons.mpr ⟨fun _ member => List.mem_singleton.mp member ▸ names, List.pairwise_singleton _ second⟩
  case independent =>
    exact List.pairwise_cons.mpr ⟨fun _ member => List.mem_singleton.mp member ▸ independent, List.pairwise_singleton _ second⟩
  case fresh => exact List.forall_mem_cons.mpr ⟨firstFresh, fun _ member => List.mem_singleton.mp member ▸ secondFresh⟩
  case complete => exact complete

theorem struct_present (zero : σ) (fields : List (StructField σ)) (record : σ) : (structCodec zero fields).encode record ≠ .null := by
  rintro ⟨⟩

end

section

variable {σ α : Type} (name : String) (codec : Codec α)

theorem optional_law (get : σ → Option α) (set : σ → Option α → σ) (lossless : Lossless codec)
    (present : ∀ value, codec.encode value ≠ .null) (restores : ∀ record, set record (get record) = record) :
    FieldLaw (optionalField name codec get set) where
  lossless := pointer_lossless codec lossless present
  restores := restores
  omitted := by
    intro value empty
    exact Option.isNone_iff_eq_none.mp empty

theorem plain_law (get : σ → α) (set : σ → α → σ) (lossless : Lossless codec)
    (restores : ∀ record, set record (get record) = record) : FieldLaw (plainField name codec get set) where
  lossless := lossless
  restores := restores
  omitted := by rintro _ ⟨⟩

end

def marshal {α : Type} (codec : Codec α) (value : α) : String := String.ofList (print (codec.encode value))

def unmarshal {α : Type} (codec : Codec α) (text : String) : Option α := (parse text.toList).bind (codec.decode codec.zero)

theorem unmarshal_marshal {α : Type} (codec : Codec α) (lossless : Lossless codec) (value : α) :
    unmarshal codec (marshal codec value) = some value := by
  rw [unmarshal, marshal, String.toList_ofList, parse_print _ (lossless.natural value), Option.bind_some]
  exact lossless.decodes value

end JsonCodec
