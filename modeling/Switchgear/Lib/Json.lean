/-
  Switchgear.Lib.Json — JSON values and codecs with the semantics of derived
  encoders and decoders.

  An object keeps its entries in order and may repeat a key.  A codec is a pair
  of an encoder and a decoder; whether a value comes back is a property of the
  value (`Codec.RoundTrips`), since `null` stands for the absence of an
  `Option` wherever one is decoded.

    * `Codec.option_roundTrips_some` — a present value of an `Option` comes back
      IFF it comes back by itself and is not encoded as `null`,
    * `Codec.decodeField_encodeField` — what comes back of a field that is left
      out of the object when it is absent,
    * `Codec.decodeRequired_encode` — a field that is always there comes back with
      its value.
-/
import Mathlib

namespace Switchgear.Lib

/-! ## §1. Values. -/

inductive Json where
  | null
  | bool (value : Bool)
  | integer (value : ℤ)
  /-- A number whose literal is no integer. -/
  | decimal (literal : String)
  | string (value : String)
  | array (items : List Json)
  | object (entries : List (String × Json))

namespace Json

def isNull : Json → Bool
  | .null => true
  | _ => false

/-- The value of a key: `none` when the key is repeated, `some none` when it is missing. -/
def lookup (key : String) (entries : List (String × Json)) : Option (Option Json) :=
  match entries.filter fun entry => entry.1 == key with
  | [] => some none
  | [entry] => some (some entry.2)
  -- a repeated key is an error of the decoder
  | _ => none

end Json

/-! ## §2. Codecs. -/

structure Codec (α : Type) where
  encode : α → Json
  decode : Json → Option α

namespace Codec

variable {α : Type}

/-- The value comes back from its encoding. -/
def RoundTrips (c : Codec α) (a : α) : Prop := c.decode (c.encode a) = some a

def string : Codec String where
  encode := .string
  decode
    | .string value => some value
    | _ => none

def bool : Codec Bool where
  encode := .bool
  decode
    | .bool value => some value
    | _ => none

/-- Unsigned 64-bit integers. -/
def uint64 : Codec UInt64 where
  encode value := .integer value.toNat
  decode
    | .integer value =>
        if 0 ≤ value ∧ value < 2 ^ 64 then some (UInt64.ofNat value.toNat) else none
    | _ => none

/-- Unsigned 32-bit integers. -/
def uint32 : Codec UInt32 where
  encode value := .integer value.toNat
  decode
    | .integer value =>
        if 0 ≤ value ∧ value < 2 ^ 32 then some (UInt32.ofNat value.toNat) else none
    | _ => none

/-- A unit variant: its name, or an object with its name and `null`. -/
def unitVariant (name : String) (value : α) : Codec α where
  encode _ := .string name
  decode
    | .string text => if text = name then some value else none
    -- the long form of a variant, which nothing here writes
    | .object [(key, .null)] => if key = name then some value else none
    | _ => none

/-- `null` is the absent value, whatever the inner codec does. -/
def option (c : Codec α) : Codec (Option α) where
  encode
    | none => .null
    | some a => c.encode a
  decode
    | .null => some none
    | json => (c.decode json).map some

def list (c : Codec α) : Codec (List α) where
  encode as := .array (as.map c.encode)
  decode
    | .array items => items.mapM c.decode
    | _ => none

/-- An ordered set: written in its order, read by inserting. -/
def set [LinearOrder α] (c : Codec α) : Codec (Finset α) where
  encode as := c.list.encode as.sort
  decode json := (c.list.decode json).map List.toFinset

theorem string_roundTrips (value : String) : string.RoundTrips value := rfl

theorem bool_roundTrips (value : Bool) : bool.RoundTrips value := rfl

theorem uint64_roundTrips (value : UInt64) : uint64.RoundTrips value := by
  have hlt : value.toNat < 2 ^ 64 := value.toNat_lt
  have hrange : (0 : ℤ) ≤ value.toNat ∧ (value.toNat : ℤ) < 2 ^ 64 := by
    constructor
    · omega
    · exact_mod_cast hlt
  unfold RoundTrips uint64
  simp only [hrange, and_self, if_true, Int.toNat_natCast, UInt64.ofNat_toNat]

theorem uint32_roundTrips (value : UInt32) : uint32.RoundTrips value := by
  have hlt : value.toNat < 2 ^ 32 := value.toNat_lt
  have hrange : (0 : ℤ) ≤ value.toNat ∧ (value.toNat : ℤ) < 2 ^ 32 := by
    constructor
    · omega
    · exact_mod_cast hlt
  unfold RoundTrips uint32
  simp only [hrange, and_self, if_true, Int.toNat_natCast, UInt32.ofNat_toNat]

theorem list_roundTrips {c : Codec α} {as : List α} (h : ∀ a ∈ as, c.RoundTrips a) :
    c.list.RoundTrips as := by
  change (as.map c.encode).mapM c.decode = some as
  induction as with
  | nil => rfl
  | cons a as ih =>
      have ha : c.decode (c.encode a) = some a := h a List.mem_cons_self
      have has := ih fun b hb => h b (List.mem_cons_of_mem a hb)
      rw [List.map_cons, List.mapM_cons, ha, has]
      rfl

theorem set_roundTrips [LinearOrder α] {c : Codec α} (h : ∀ a, c.RoundTrips a) (as : Finset α) :
    c.set.RoundTrips as := by
  have hlist : c.list.decode (c.list.encode as.sort) = some as.sort :=
    list_roundTrips fun a _ => h a
  change (c.list.decode (c.list.encode as.sort)).map List.toFinset = some as
  rw [hlist, Option.map_some, Finset.sort_toFinset]

/-! ## §3. Options. -/

theorem option_decode_of_not_null (c : Codec α) {json : Json} (h : json.isNull = false) :
    c.option.decode json = (c.decode json).map some := by
  cases json with
  | null => cases h
  | bool => rfl
  | integer => rfl
  | decimal => rfl
  | string => rfl
  | array => rfl
  | object => rfl

theorem option_roundTrips_some (c : Codec α) (a : α) :
    c.option.RoundTrips (some a) ↔ (c.encode a).isNull = false ∧ c.RoundTrips a := by
  unfold RoundTrips
  change c.option.decode (c.encode a) = some (some a) ↔ _
  cases hnull : (c.encode a).isNull with
  | true =>
      have hjson : c.encode a = .null := by
        cases h : c.encode a <;> rw [h] at hnull <;> first | rfl | cases hnull
      rw [hjson]
      constructor
      · intro h
        cases h
      · intro h
        cases h.1
  | false =>
      rw [option_decode_of_not_null c hnull]
      simp

/-! ## §4. Fields that are left out when absent. -/

/-- The entry of a field, unless it is absent. -/
def encodeField (c : Codec α) (key : String) : Option α → List (String × Json)
  | none => []
  | some a => [(key, c.encode a)]

/-- A missing key is an absent field; a present one is decoded as an `Option`. -/
def decodeField (c : Codec α) (key : String) (entries : List (String × Json)) :
    Option (Option α) :=
  match Json.lookup key entries with
  | none => none
  | some none => some none
  | some (some json) => c.option.decode json

theorem filter_encodeField_self (c : Codec α) (key : String) (a : Option α) :
    (c.encodeField key a).filter (fun entry => entry.1 == key) = c.encodeField key a := by
  cases a <;> simp [encodeField]

theorem filter_encodeField_of_ne (c : Codec α) {key key' : String} (hne : key' ≠ key)
    (a : Option α) : (c.encodeField key' a).filter (fun entry => entry.1 == key) = [] := by
  cases a <;> simp [encodeField, hne]

/-- A field comes back as the `Option` codec decodes it, when no other entry has its key. -/
theorem decodeField_encodeField (c : Codec α) {key : String} {a : Option α}
    {entries : List (String × Json)}
    (h : entries.filter (fun entry => entry.1 == key) = c.encodeField key a) :
    c.decodeField key entries = a.elim (some none) fun a => c.option.decode (c.encode a) := by
  unfold decodeField Json.lookup
  rw [h]
  cases a <;> rfl

/-- A field whose value comes back and is never `null` comes back. -/
theorem decodeField_of_roundTrips (c : Codec α) {key : String} {a : Option α}
    {entries : List (String × Json)}
    (h : entries.filter (fun entry => entry.1 == key) = c.encodeField key a)
    (ha : ∀ x, a = some x → (c.encode x).isNull = false ∧ c.RoundTrips x) :
    c.decodeField key entries = some a := by
  rw [c.decodeField_encodeField h]
  cases a with
  | none => rfl
  | some x => exact (c.option_roundTrips_some x).mpr (ha x rfl)

/-! ## §5. Fields that are always there. -/

/-- The entry of a field. -/
def encodeRequired (c : Codec α) (key : String) (a : α) : List (String × Json) :=
  c.encodeField key (some a)

/-- A missing key is an error. -/
def decodeRequired (c : Codec α) (key : String) (entries : List (String × Json)) : Option α :=
  match Json.lookup key entries with
  | some (some json) => c.decode json
  | _ => none

theorem filter_encodeRequired_self (c : Codec α) (key : String) (a : α) :
    (c.encodeRequired key a).filter (fun entry => entry.1 == key) = c.encodeRequired key a :=
  c.filter_encodeField_self key (some a)

theorem filter_encodeRequired_of_ne (c : Codec α) {key key' : String} (hne : key' ≠ key) (a : α) :
    (c.encodeRequired key' a).filter (fun entry => entry.1 == key) = [] :=
  c.filter_encodeField_of_ne hne (some a)

/-- A field comes back with its value, when no other entry has its key. -/
theorem decodeRequired_encode (c : Codec α) {key : String} {a : α}
    {entries : List (String × Json)}
    (h : entries.filter (fun entry => entry.1 == key) = c.encodeRequired key a)
    (ha : c.RoundTrips a) : c.decodeRequired key entries = some a := by
  unfold decodeRequired Json.lookup
  rw [h]
  exact ha

end Codec

/-! ## §6. Values written as strings, and tagged values. -/

/-- A text of a value, and the parser that reads it back. -/
structure TextCodec (α : Type) where
  display : α → String
  parse : String → Option α
  parse_display : ∀ a, parse (display a) = some a

namespace Codec

variable {α : Type}

/-- A value written as its text. -/
def text (t : TextCodec α) : Codec α where
  encode a := .string (t.display a)
  decode
    | .string value => t.parse value
    | _ => none

theorem text_roundTrips (t : TextCodec α) (a : α) : (text t).RoundTrips a := t.parse_display a

/-- A variant of an enumeration with its value: an object with one entry. -/
def encodeTagged (c : Codec α) (tag : String) (a : α) : Json := .object [(tag, c.encode a)]

end Codec

/-! ## §7. The text of a value. -/

namespace Json

/-- A character inside a string, escaped where it has to be. -/
def escape (c : Char) : List Char :=
  if c = '"' then ['\\', '"']
  else if c = '\\' then ['\\', '\\']
  else if c = '\n' then ['\\', 'n']
  else if c = '\r' then ['\\', 'r']
  else if c = '\t' then ['\\', 't']
  else if c.toNat = 0x08 then ['\\', 'b']
  else if c.toNat = 0x0C then ['\\', 'f']
  else if c.toNat < 0x20 then
    ['\\', 'u', '0', '0', Nat.digitChar (c.toNat / 16), Nat.digitChar (c.toNat % 16)]
  else [c]

def quote (value : String) : String :=
  "\"" ++ String.ofList (value.toList.flatMap escape) ++ "\""

mutual

/-- The compact text: no blanks. -/
def compact : Json → String
  | .null => "null"
  | .bool value => if value then "true" else "false"
  | .integer value => toString value
  | .decimal literal => literal
  | .string value => quote value
  | .array items => "[" ++ ",".intercalate (compactItems items) ++ "]"
  | .object entries => "\x7b" ++ ",".intercalate (compactEntries entries) ++ "\x7d"

def compactItems : List Json → List String
  | [] => []
  | json :: items => compact json :: compactItems items

def compactEntries : List (String × Json) → List String
  | [] => []
  | (key, json) :: entries => (quote key ++ ":" ++ compact json) :: compactEntries entries

end

end Json

end Switchgear.Lib
