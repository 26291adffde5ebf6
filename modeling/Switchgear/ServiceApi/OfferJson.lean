/-
  Switchgear.ServiceApi.OfferJson — the derived JSON encoders and decoders of the
  records of the offer API.

  Every record comes back from its encoding (`metadata_roundTrips`,
  `record_roundTrips`).  A record with a flattened part writes the fields of
  the part among its own, and is read from an object only; the other records are
  also read from an array of all their fields, in order.
-/
import Switchgear.Lib.Json
import Switchgear.ServiceApi.Offer

namespace Switchgear.Offer

open Switchgear.Lib

/-! ## §1. Texts of other crates. -/

/-- The texts of ids, times, bytes and addresses. -/
structure OfferText (A : Type) where
  parseUuid : String → Option Uuid
  parseUuid_hyphenated : ∀ id, parseUuid (Uuid.hyphenated id) = some id
  dateTime : TextCodec DateTime
  base64 : TextCodec Bytes
  email : TextCodec A
  /-- `EmailAddress::email`: without the display name. -/
  emailAddress : A → String

namespace OfferText

variable {A : Type} (text : OfferText A)

def uuid : TextCodec Uuid where
  display := Uuid.hyphenated
  parse := text.parseUuid
  parse_display := text.parseUuid_hyphenated

/-! ## §2. Metadata. -/

def imageCodec : Codec OfferMetadataImage where
  encode
    | .png bytes => (Codec.text text.base64).encodeTagged "png" bytes
    | .jpeg bytes => (Codec.text text.base64).encodeTagged "jpeg" bytes
  decode
    | .object [(tag, json)] =>
        if tag = "png" then ((Codec.text text.base64).decode json).map .png
        else if tag = "jpeg" then ((Codec.text text.base64).decode json).map .jpeg
        else none
    | _ => none

def identifierCodec : Codec (OfferMetadataIdentifier A) where
  encode
    | .text address => (Codec.text text.email).encodeTagged "text" address
    | .email address => (Codec.text text.email).encodeTagged "email" address
  decode
    | .object [(tag, json)] =>
        if tag = "text" then ((Codec.text text.email).decode json).map .text
        else if tag = "email" then ((Codec.text text.email).decode json).map .email
        else none
    | _ => none

theorem image_roundTrips (image : OfferMetadataImage) : text.imageCodec.RoundTrips image := by
  cases image with
  | png bytes =>
      show ((Codec.text text.base64).decode _).map OfferMetadataImage.png = _
      rw [Codec.text_roundTrips text.base64 bytes]
      rfl
  | jpeg bytes =>
      show ((Codec.text text.base64).decode _).map OfferMetadataImage.jpeg = _
      rw [Codec.text_roundTrips text.base64 bytes]
      rfl

theorem identifier_roundTrips (identifier : OfferMetadataIdentifier A) :
    text.identifierCodec.RoundTrips identifier := by
  cases identifier with
  | text address =>
      show ((Codec.text text.email).decode _).map OfferMetadataIdentifier.text = _
      rw [Codec.text_roundTrips text.email address]
      rfl
  | email address =>
      show ((Codec.text text.email).decode _).map OfferMetadataIdentifier.email = _
      rw [Codec.text_roundTrips text.email address]
      rfl

def metadataSparseEntries (metadata : OfferMetadataSparse A) : List (String × Json) :=
  Codec.string.encodeRequired "text" metadata.text
    ++ Codec.string.encodeField "longText" metadata.longText
    ++ text.imageCodec.encodeField "image" metadata.image
    ++ text.identifierCodec.encodeField "identifier" metadata.identifier

def metadataSparseFields (entries : List (String × Json)) : Option (OfferMetadataSparse A) := do
  let plain ← Codec.string.decodeRequired "text" entries
  let longText ← Codec.string.decodeField "longText" entries
  let image ← text.imageCodec.decodeField "image" entries
  let identifier ← text.identifierCodec.decodeField "identifier" entries
  return { text := plain, longText, image, identifier }

def metadataSparseCodec : Codec (OfferMetadataSparse A) where
  encode metadata := .object (text.metadataSparseEntries metadata)
  decode
    | .object entries => text.metadataSparseFields entries
    | .array [plain, longText, image, identifier] => do
        let plain ← Codec.string.decode plain
        let longText ← Codec.string.option.decode longText
        let image ← text.imageCodec.option.decode image
        let identifier ← text.identifierCodec.option.decode identifier
        return { text := plain, longText, image, identifier }
    | _ => none

def metadataEntries (metadata : OfferMetadata A) : List (String × Json) :=
  (Codec.text text.uuid).encodeRequired "id" metadata.id
    ++ Codec.string.encodeRequired "partition" metadata.partition
    ++ text.metadataSparseEntries metadata.metadata

/-- `#[serde(flatten)]` on the metadata. -/
def metadataCodec : Codec (OfferMetadata A) where
  encode metadata := .object (text.metadataEntries metadata)
  decode
    | .object entries => do
        let id ← (Codec.text text.uuid).decodeRequired "id" entries
        let partition ← Codec.string.decodeRequired "partition" entries
        let metadata ← text.metadataSparseFields entries
        return { id, partition, metadata }
    | _ => none

/-! ## §3. Offers. -/

def recordSparseEntries (offer : OfferRecordSparse A) : List (String × Json) :=
  Codec.uint64.encodeRequired "maxSendable" offer.maxSendable
    ++ Codec.uint64.encodeRequired "minSendable" offer.minSendable
    ++ (Codec.text text.uuid).encodeRequired "metadataId" offer.metadataId
    ++ text.metadataSparseCodec.encodeField "metadata" offer.metadata
    ++ (Codec.text text.dateTime).encodeRequired "timestamp" offer.timestamp
    ++ (Codec.text text.dateTime).encodeField "expires" offer.expires

def recordSparseFields (entries : List (String × Json)) : Option (OfferRecordSparse A) := do
  let maxSendable ← Codec.uint64.decodeRequired "maxSendable" entries
  let minSendable ← Codec.uint64.decodeRequired "minSendable" entries
  let metadataId ← (Codec.text text.uuid).decodeRequired "metadataId" entries
  let metadata ← text.metadataSparseCodec.decodeField "metadata" entries
  let timestamp ← (Codec.text text.dateTime).decodeRequired "timestamp" entries
  let expires ← (Codec.text text.dateTime).decodeField "expires" entries
  return { maxSendable, minSendable, metadataId, metadata, timestamp, expires }

def recordSparseCodec : Codec (OfferRecordSparse A) where
  encode offer := .object (text.recordSparseEntries offer)
  decode
    | .object entries => text.recordSparseFields entries
    | .array [maxSendable, minSendable, metadataId, metadata, timestamp, expires] => do
        let maxSendable ← Codec.uint64.decode maxSendable
        let minSendable ← Codec.uint64.decode minSendable
        let metadataId ← (Codec.text text.uuid).decode metadataId
        let metadata ← text.metadataSparseCodec.option.decode metadata
        let timestamp ← (Codec.text text.dateTime).decode timestamp
        let expires ← (Codec.text text.dateTime).option.decode expires
        return { maxSendable, minSendable, metadataId, metadata, timestamp, expires }
    | _ => none

def recordEntries (offer : OfferRecord A) : List (String × Json) :=
  Codec.string.encodeRequired "partition" offer.partition
    ++ (Codec.text text.uuid).encodeRequired "id" offer.id
    ++ text.recordSparseEntries offer.offer

/-- `#[serde(flatten)]` on the offer. -/
def recordCodec : Codec (OfferRecord A) where
  encode offer := .object (text.recordEntries offer)
  decode
    | .object entries => do
        let partition ← Codec.string.decodeRequired "partition" entries
        let id ← (Codec.text text.uuid).decodeRequired "id" entries
        let offer ← text.recordSparseFields entries
        return { partition, id, offer }
    | _ => none

/-! ## §4. Every record comes back. -/

/-- The fields of the metadata are read from any entries that hold them once. -/
theorem metadataSparseFields_eq {metadata : OfferMetadataSparse A}
    {entries : List (String × Json)}
    (h : ∀ key ∈ ["text", "longText", "image", "identifier"],
      entries.filter (fun entry => entry.1 == key)
        = (text.metadataSparseEntries metadata).filter fun entry => entry.1 == key) :
    text.metadataSparseFields entries = some metadata := by
  have htext : entries.filter (fun entry => entry.1 == "text")
      = Codec.string.encodeRequired "text" metadata.text := by
    rw [h _ (by simp)]
    simp [metadataSparseEntries, Codec.filter_encodeRequired_self,
      Codec.filter_encodeField_of_ne]
  have hlong : entries.filter (fun entry => entry.1 == "longText")
      = Codec.string.encodeField "longText" metadata.longText := by
    rw [h _ (by simp)]
    simp [metadataSparseEntries, Codec.filter_encodeRequired_of_ne,
      Codec.filter_encodeField_self, Codec.filter_encodeField_of_ne]
  have himage : entries.filter (fun entry => entry.1 == "image")
      = text.imageCodec.encodeField "image" metadata.image := by
    rw [h _ (by simp)]
    simp [metadataSparseEntries, Codec.filter_encodeRequired_of_ne,
      Codec.filter_encodeField_self, Codec.filter_encodeField_of_ne]
  have hidentifier : entries.filter (fun entry => entry.1 == "identifier")
      = text.identifierCodec.encodeField "identifier" metadata.identifier := by
    rw [h _ (by simp)]
    simp [metadataSparseEntries, Codec.filter_encodeRequired_of_ne,
      Codec.filter_encodeField_self, Codec.filter_encodeField_of_ne]
  unfold metadataSparseFields
  rw [Codec.string.decodeRequired_encode htext (Codec.string_roundTrips _),
    Codec.string.decodeField_of_roundTrips hlong fun _ _ => ⟨rfl, Codec.string_roundTrips _⟩,
    text.imageCodec.decodeField_of_roundTrips himage fun image _ =>
      ⟨by cases image <;> rfl, text.image_roundTrips image⟩,
    text.identifierCodec.decodeField_of_roundTrips hidentifier fun identifier _ =>
      ⟨by cases identifier <;> rfl, text.identifier_roundTrips identifier⟩]
  rfl

theorem metadataSparse_roundTrips (metadata : OfferMetadataSparse A) :
    text.metadataSparseCodec.RoundTrips metadata :=
  text.metadataSparseFields_eq fun _ _ => rfl

/-- The flattened part of the metadata is read from the entries of the whole. -/
theorem metadataSparseFields_metadataEntries (metadata : OfferMetadata A) :
    text.metadataSparseFields (text.metadataEntries metadata) = some metadata.metadata := by
  apply text.metadataSparseFields_eq
  intro key hkey
  simp only [List.mem_cons, List.not_mem_nil, or_false] at hkey
  -- neither `id` nor `partition` is a field of the flattened part
  rcases hkey with rfl | rfl | rfl | rfl <;>
    simp [metadataEntries, Codec.filter_encodeRequired_of_ne]

theorem metadata_roundTrips (metadata : OfferMetadata A) :
    text.metadataCodec.RoundTrips metadata := by
  have hid : (text.metadataEntries metadata).filter (fun entry => entry.1 == "id")
      = (Codec.text text.uuid).encodeRequired "id" metadata.id := by
    simp [metadataEntries, metadataSparseEntries, Codec.filter_encodeRequired_self,
      Codec.filter_encodeRequired_of_ne, Codec.filter_encodeField_of_ne]
  have hpartition : (text.metadataEntries metadata).filter (fun entry => entry.1 == "partition")
      = Codec.string.encodeRequired "partition" metadata.partition := by
    simp [metadataEntries, metadataSparseEntries, Codec.filter_encodeRequired_self,
      Codec.filter_encodeRequired_of_ne, Codec.filter_encodeField_of_ne]
  show (do
    let id ← (Codec.text text.uuid).decodeRequired "id" (text.metadataEntries metadata)
    let partition ← Codec.string.decodeRequired "partition" (text.metadataEntries metadata)
    let metadata ← text.metadataSparseFields (text.metadataEntries metadata)
    return ({ id, partition, metadata } : OfferMetadata A)) = some metadata
  rw [(Codec.text text.uuid).decodeRequired_encode hid (Codec.text_roundTrips _ _),
    Codec.string.decodeRequired_encode hpartition (Codec.string_roundTrips _),
    text.metadataSparseFields_metadataEntries]
  rfl

/-- The fields of the offer are read from any entries that hold them once. -/
theorem recordSparseFields_eq {offer : OfferRecordSparse A} {entries : List (String × Json)}
    (h : ∀ key ∈ ["maxSendable", "minSendable", "metadataId", "metadata", "timestamp", "expires"],
      entries.filter (fun entry => entry.1 == key)
        = (text.recordSparseEntries offer).filter fun entry => entry.1 == key) :
    text.recordSparseFields entries = some offer := by
  have hmax : entries.filter (fun entry => entry.1 == "maxSendable")
      = Codec.uint64.encodeRequired "maxSendable" offer.maxSendable := by
    rw [h _ (by simp)]
    simp [recordSparseEntries, Codec.filter_encodeRequired_self,
      Codec.filter_encodeRequired_of_ne, Codec.filter_encodeField_of_ne]
  have hmin : entries.filter (fun entry => entry.1 == "minSendable")
      = Codec.uint64.encodeRequired "minSendable" offer.minSendable := by
    rw [h _ (by simp)]
    simp [recordSparseEntries, Codec.filter_encodeRequired_self,
      Codec.filter_encodeRequired_of_ne, Codec.filter_encodeField_of_ne]
  have hid : entries.filter (fun entry => entry.1 == "metadataId")
      = (Codec.text text.uuid).encodeRequired "metadataId" offer.metadataId := by
    rw [h _ (by simp)]
    simp [recordSparseEntries, Codec.filter_encodeRequired_self,
      Codec.filter_encodeRequired_of_ne, Codec.filter_encodeField_of_ne]
  have hmetadata : entries.filter (fun entry => entry.1 == "metadata")
      = text.metadataSparseCodec.encodeField "metadata" offer.metadata := by
    rw [h _ (by simp)]
    simp [recordSparseEntries, Codec.filter_encodeField_self,
      Codec.filter_encodeRequired_of_ne, Codec.filter_encodeField_of_ne]
  have htimestamp : entries.filter (fun entry => entry.1 == "timestamp")
      = (Codec.text text.dateTime).encodeRequired "timestamp" offer.timestamp := by
    rw [h _ (by simp)]
    simp [recordSparseEntries, Codec.filter_encodeRequired_self,
      Codec.filter_encodeRequired_of_ne, Codec.filter_encodeField_of_ne]
  have hexpires : entries.filter (fun entry => entry.1 == "expires")
      = (Codec.text text.dateTime).encodeField "expires" offer.expires := by
    rw [h _ (by simp)]
    simp [recordSparseEntries, Codec.filter_encodeField_self,
      Codec.filter_encodeRequired_of_ne, Codec.filter_encodeField_of_ne]
  unfold recordSparseFields
  rw [Codec.uint64.decodeRequired_encode hmax (Codec.uint64_roundTrips _),
    Codec.uint64.decodeRequired_encode hmin (Codec.uint64_roundTrips _),
    (Codec.text text.uuid).decodeRequired_encode hid (Codec.text_roundTrips _ _),
    text.metadataSparseCodec.decodeField_of_roundTrips hmetadata fun metadata _ =>
      ⟨rfl, text.metadataSparse_roundTrips metadata⟩,
    (Codec.text text.dateTime).decodeRequired_encode htimestamp (Codec.text_roundTrips _ _),
    (Codec.text text.dateTime).decodeField_of_roundTrips hexpires fun _ _ =>
      ⟨rfl, Codec.text_roundTrips _ _⟩]
  rfl

theorem recordSparse_roundTrips (offer : OfferRecordSparse A) :
    text.recordSparseCodec.RoundTrips offer :=
  text.recordSparseFields_eq fun _ _ => rfl

/-- The flattened part of an offer is read from the entries of the whole. -/
theorem recordSparseFields_recordEntries (offer : OfferRecord A) :
    text.recordSparseFields (text.recordEntries offer) = some offer.offer := by
  apply text.recordSparseFields_eq
  intro key hkey
  simp only [List.mem_cons, List.not_mem_nil, or_false] at hkey
  rcases hkey with rfl | rfl | rfl | rfl | rfl | rfl <;>
    simp [recordEntries, Codec.filter_encodeRequired_of_ne]

theorem record_roundTrips (offer : OfferRecord A) : text.recordCodec.RoundTrips offer := by
  have hpartition : (text.recordEntries offer).filter (fun entry => entry.1 == "partition")
      = Codec.string.encodeRequired "partition" offer.partition := by
    simp [recordEntries, recordSparseEntries, Codec.filter_encodeRequired_self,
      Codec.filter_encodeRequired_of_ne, Codec.filter_encodeField_of_ne]
  have hid : (text.recordEntries offer).filter (fun entry => entry.1 == "id")
      = (Codec.text text.uuid).encodeRequired "id" offer.id := by
    simp [recordEntries, recordSparseEntries, Codec.filter_encodeRequired_self,
      Codec.filter_encodeRequired_of_ne, Codec.filter_encodeField_of_ne]
  show (do
    let partition ← Codec.string.decodeRequired "partition" (text.recordEntries offer)
    let id ← (Codec.text text.uuid).decodeRequired "id" (text.recordEntries offer)
    let offer ← text.recordSparseFields (text.recordEntries offer)
    return ({ partition, id, offer } : OfferRecord A)) = some offer
  rw [Codec.string.decodeRequired_encode hpartition (Codec.string_roundTrips _),
    (Codec.text text.uuid).decodeRequired_encode hid (Codec.text_roundTrips _ _),
    text.recordSparseFields_recordEntries]
  rfl

end OfferText

/-! ## §5. Texts that can be computed. -/

/-- The value of a hexadecimal digit in lower case. -/
def hexValue (c : Char) : Option ℕ :=
  if '0' ≤ c ∧ c ≤ '9' then some (c.toNat - '0'.toNat)
  else if 'a' ≤ c ∧ c ≤ 'f' then some (c.toNat - 'a'.toNat + 10)
  else none

theorem hexValue_digitChar : ∀ n < 16, hexValue (Nat.digitChar n) = some n := by decide

theorem digitChar_ne_hyphen : ∀ n < 16, Nat.digitChar n ≠ '-' := by decide

/-- Digits from the highest to the lowest, read back. -/
theorem foldl_digits (count value : ℕ) :
    ((List.range count).map fun i => value / 16 ^ (count - 1 - i) % 16).foldl
      (fun acc digit => 16 * acc + digit) 0 = value % 16 ^ count := by
  induction count generalizing value with
  | zero => simp [Nat.mod_one]
  | succ count ih =>
      have hprefix : ((List.range count).map fun i => value / 16 ^ (count + 1 - 1 - i) % 16)
          = (List.range count).map fun i => (value / 16) / 16 ^ (count - 1 - i) % 16 := by
        apply List.map_congr_left
        intro i hi
        have hlt : i < count := List.mem_range.mp hi
        have hexp : count + 1 - 1 - i = 1 + (count - 1 - i) := by omega
        rw [hexp, pow_add, pow_one, Nat.div_div_eq_div_mul]
      rw [List.range_succ, List.map_append, List.foldl_append, hprefix, ih (value / 16)]
      simp only [List.map_cons, List.map_nil, List.foldl_cons, List.foldl_nil,
        Nat.add_sub_cancel, Nat.sub_self, pow_zero, Nat.div_one]
      rw [pow_succ, mul_comm (16 ^ count) 16, Nat.mod_mul]
      omega

theorem mapM_hexValue {values : List ℕ} (h : ∀ n ∈ values, n < 16) :
    (values.map Nat.digitChar).mapM hexValue = some values := by
  induction values with
  | nil => rfl
  | cons n values ih =>
      have hn : hexValue (Nat.digitChar n) = some n := hexValue_digitChar n (h n List.mem_cons_self)
      have hrest := ih fun m hm => h m (List.mem_cons_of_mem n hm)
      rw [List.map_cons, List.mapM_cons, hn, hrest]
      rfl

/-- Reads hexadecimal digits and skips hyphens. -/
def Uuid.parse (text : String) : Option Uuid :=
  ((text.toList.filter fun c => c != '-').mapM hexValue).bind fun digits =>
    if digits.length = 32 then
      some (BitVec.ofNat 128 (digits.foldl (fun acc digit => 16 * acc + digit) 0))
    else none

theorem Uuid.parse_hyphenated (id : Uuid) : Uuid.parse (Uuid.hyphenated id) = some id := by
  let values : List ℕ := (List.range 32).map fun i => id.toNat / 16 ^ (32 - 1 - i) % 16
  let digits : List Char := values.map Nat.digitChar
  have hvalues : ∀ n ∈ values, n < 16 := by
    intro n hn
    obtain ⟨i, -, rfl⟩ := List.mem_map.mp hn
    exact Nat.mod_lt _ (by decide)
  have hlength : digits.length = 32 := by simp [digits, values]
  have hdigits : ∀ c ∈ digits, (c != '-') = true := by
    intro c hc
    obtain ⟨n, hn, rfl⟩ := List.mem_map.mp hc
    exact bne_iff_ne.mpr (digitChar_ne_hyphen n (hvalues n hn))
  have hgroup : ∀ start length, (((digits.drop start).take length).filter fun c => c != '-')
      = (digits.drop start).take length := by
    intro start length
    rw [List.filter_eq_self]
    intro c hc
    exact hdigits c (List.mem_of_mem_drop (List.mem_of_mem_take hc))
  have hfilter : ((Uuid.hyphenated id).toList.filter fun c => c != '-') = digits := by
    have htoList : (Uuid.hyphenated id).toList
        = (digits.drop 0).take 8 ++ '-' :: (digits.drop 8).take 4 ++ '-' :: (digits.drop 12).take 4
          ++ '-' :: (digits.drop 16).take 4 ++ '-' :: (digits.drop 20).take 12 := by
      unfold Uuid.hyphenated
      rw [String.toList_ofList]
      simp only [digits, values, List.map_map]
      rfl
    have hsplit : ∀ start length,
        (digits.drop start).take length ++ digits.drop (start + length) = digits.drop start := by
      intro start length
      rw [← List.drop_drop, List.take_append_drop]
    have hend : digits.drop 32 = [] := by rw [List.drop_eq_nil_iff, hlength]
    have hlast : (digits.drop 20).take 12 = digits.drop 20 := by
      have h20 := hsplit 20 12
      rwa [hend, List.append_nil] at h20
    have hhyphen : ∀ chars : List Char,
        (('-' :: chars).filter fun c => c != '-') = chars.filter fun c => c != '-' := by
      intro chars
      exact List.filter_cons_of_neg (by decide)
    rw [htoList]
    simp only [List.filter_append, hhyphen, hgroup]
    rw [hlast]
    simp only [List.append_assoc, hsplit]
    rfl
  unfold Uuid.parse
  rw [hfilter, mapM_hexValue hvalues, Option.bind_some, if_pos (by simp [values]), foldl_digits]
  have hlt : id.toNat < 16 ^ 32 := by
    have := id.isLt
    norm_num at this ⊢
    exact this
  rw [Nat.mod_eq_of_lt hlt, BitVec.ofNat_toNat, BitVec.setWidth_eq]

/-- A text for every value of a countable type: that many strokes. -/
def strokes (α : Type) [Encodable α] : TextCodec α where
  display a := String.ofList (List.replicate (Encodable.encode a) '|')
  parse value := Encodable.decode value.toList.length
  parse_display a := by
    rw [String.toList_ofList, List.length_replicate, Encodable.encodek]

theorem strokes_ne {α : Type} [Encodable α] (a : α) {value : String}
    (h : ∃ c ∈ value.toList, c ≠ '|') : (strokes α).display a ≠ value := by
  rintro rfl
  obtain ⟨c, hc, hne⟩ := h
  unfold strokes at hc
  rw [String.toList_ofList] at hc
  exact hne (List.eq_of_mem_replicate hc)

/-- Another text for one value. -/
def updateText {α : Type} [DecidableEq α] (t : TextCodec α) (a : α) (value : String)
    (h : ∀ b, t.display b ≠ value) : TextCodec α where
  display b := if b = a then value else t.display b
  parse value' := if value' = value then some a else t.parse value'
  parse_display b := by
    by_cases hb : b = a
    · rw [if_pos hb, if_pos rfl, hb]
    · rw [if_neg hb, if_neg (h b), t.parse_display]

/-- Texts of plain values: an address is its own text, the epoch is written as usual. -/
def plainText : OfferText String where
  parseUuid := Uuid.parse
  parseUuid_hyphenated := Uuid.parse_hyphenated
  dateTime := updateText (strokes ℤ) 0 "1970-01-01T00:00:00Z"
    (strokes_ne · ⟨'1', by decide, by decide⟩)
  base64 :=
    { display := fun bytes => String.ofList (bytes.map fun b => Char.ofNat b.toNat)
      parse := fun value => some (value.toList.map fun c => UInt8.ofNat c.toNat)
      parse_display := by
        intro bytes
        have hmap : (fun c => UInt8.ofNat (Char.toNat c)) ∘ (fun b : UInt8 => Char.ofNat b.toNat)
            = id := by
          funext b
          have hlt : b.toNat < 256 := b.toNat_lt
          have hvalid : b.toNat.isValidChar := .inl (by omega)
          show UInt8.ofNat (Char.ofNat b.toNat).toNat = b
          rw [Char.toNat_ofNat, if_pos hvalid, UInt8.ofNat_toNat]
        rw [String.toList_ofList, List.map_map, hmap, List.map_id] }
  email := { display := id, parse := some, parse_display := fun _ => rfl }
  emailAddress := id

end Switchgear.Offer
