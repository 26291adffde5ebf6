/-
  Switchgear.ServiceApi.LnUrlMetadata — the hand-written decoder of
  `LnUrlOfferMetadata`, and what it makes of any list of entries.

  The visitor walks the array once and keeps four slots; an entry writes the
  slot of its type, whatever was there, or stops the walk with an error, also
  where a later entry would have written the slot again.

    * `visitEntry_ok_iff` — what one turn of the loop accepts and writes,
    * `visitSeq_ok_iff`   — the loop: every entry valid, each slot its last writer,
    * `deserialize_ok_iff` — the decoder, on any array,
    * `metadata_decoding`  — the decoder against the encoder.
-/
import Switchgear.ServiceApi.LnUrl

namespace Switchgear.Offer

open Switchgear.Lib

/-! ## §1. The decoder. -/

/-- What the decoder reports: a message of its own, or an error of the JSON reader. -/
inductive LnUrlMetadataError where
  | custom (message : String)
  /-- An element that is not `[String; 2]`. -/
  | element (item : Json)
  | invalidType (json : Json) (expecting : String)

/-- The texts of the errors of the base64 and the address crate, by the value refused. -/
structure LnUrlErrorTexts where
  base64 : String → String
  email : String → String

/-- The four variables of `visit_seq`. -/
structure LnUrlSlots (A : Type) where
  text : Option String
  longText : Option String
  image : Option OfferMetadataImage
  identifier : Option (OfferMetadataIdentifier A)

def LnUrlSlots.empty {A : Type} : LnUrlSlots A :=
  { text := none, longText := none, image := none, identifier := none }

namespace OfferText

variable {A : Type} (text : OfferText A) (errors : LnUrlErrorTexts)

/-- `BASE64_STANDARD.decode(value).map_err(..)?`. -/
def decodeImage (kind value : String) : Except LnUrlMetadataError Bytes :=
  match text.base64.parse value with
  | none => .error (.custom ("Invalid base64 " ++ kind ++ " data: " ++ errors.base64 value))
  | some decoded => .ok decoded

/-- `value.parse().map_err(..)?`. -/
def parseEmail (value : String) : Except LnUrlMetadataError A :=
  match text.email.parse value with
  | none => .error (.custom ("Invalid email address: " ++ errors.email value))
  | some email => .ok email

/-- The body of the loop of `visit_seq`. -/
def visitEntry (entry : String × String) (slots : LnUrlSlots A) :
    Except LnUrlMetadataError (LnUrlSlots A) :=
  if entry.1 = "text/plain" then .ok { slots with text := some entry.2 }
  else if entry.1 = "text/long-desc" then .ok { slots with longText := some entry.2 }
  else if entry.1 = "image/png;base64" then do
    let decoded ← text.decodeImage errors "PNG" entry.2
    return { slots with image := some (.png decoded) }
  else if entry.1 = "image/jpeg;base64" then do
    let decoded ← text.decodeImage errors "JPEG" entry.2
    return { slots with image := some (.jpeg decoded) }
  else if entry.1 = "text/identifier" then do
    let email ← text.parseEmail errors entry.2
    return { slots with identifier := some (.text email) }
  else if entry.1 = "text/email" then do
    let email ← text.parseEmail errors entry.2
    return { slots with identifier := some (.email email) }
  else .ok slots

/-- `next_element::<[String; 2]>()`. -/
def nextElement : Json → Except LnUrlMetadataError (String × String)
  | .array [.string entryType, .string value] => .ok (entryType, value)
  | item => .error (.element item)

/-- The loop of `visit_seq`. -/
def visitSeq : List Json → LnUrlSlots A → Except LnUrlMetadataError (LnUrlSlots A)
  | [], slots => .ok slots
  | item :: items, slots => do
      let entry ← nextElement item
      let slots ← text.visitEntry errors entry slots
      visitSeq items slots

end OfferText

/-- The end of `visit_seq`: the text must be there. -/
def LnUrlSlots.intoMetadata {A : Type} (slots : LnUrlSlots A) :
    Except LnUrlMetadataError (OfferMetadataSparse A) :=
  match slots.text with
  | none => .error (.custom "Missing required 'text/plain' metadata")
  | some text =>
      .ok { text, longText := slots.longText, image := slots.image,
            identifier := slots.identifier }

namespace OfferText

variable {A : Type} (text : OfferText A) (errors : LnUrlErrorTexts)

/-- `Deserialize` of `LnUrlOfferMetadata`. -/
def deserializeLnUrlOfferMetadata : Json → Except LnUrlMetadataError (OfferMetadataSparse A)
  | .array items => do
      let slots ← text.visitSeq errors items LnUrlSlots.empty
      slots.intoMetadata
  | json => .error (.invalidType json "an array of [type, value] tuples representing metadata")

/-! ## §2. What an entry says. -/

/-- A pair as an element of the array. -/
def entryJson (entry : String × String) : Json := lnUrlEntry entry.1 entry.2

theorem entryJson_injective : Function.Injective entryJson := by
  intro a b h
  unfold entryJson lnUrlEntry at h
  simp only [Json.array.injEq, List.cons.injEq, Json.string.injEq, and_true] at h
  exact Prod.ext h.1 h.2

/-- The types the decoder knows. -/
def entryTypes : List String :=
  ["text/plain", "text/long-desc", "image/png;base64", "image/jpeg;base64", "text/identifier",
    "text/email"]

def isImageType (entryType : String) : Prop :=
  entryType = "image/png;base64" ∨ entryType = "image/jpeg;base64"

def isAddressType (entryType : String) : Prop :=
  entryType = "text/identifier" ∨ entryType = "text/email"

/-- An image is valid base64, an address is valid. -/
def EntryValid (entry : String × String) : Prop :=
  (isImageType entry.1 → (text.base64.parse entry.2).isSome = true)
    ∧ (isAddressType entry.1 → (text.email.parse entry.2).isSome = true)

def plainOf (entry : String × String) : Option String :=
  if entry.1 = "text/plain" then some entry.2 else none

def longTextOf (entry : String × String) : Option String :=
  if entry.1 = "text/long-desc" then some entry.2 else none

/-- Both kinds of image share a slot. -/
def imageOf (entry : String × String) : Option OfferMetadataImage :=
  if entry.1 = "image/png;base64" then (text.base64.parse entry.2).map .png
  else if entry.1 = "image/jpeg;base64" then (text.base64.parse entry.2).map .jpeg
  else none

/-- Both kinds of address share a slot. -/
def identifierOf (entry : String × String) : Option (OfferMetadataIdentifier A) :=
  if entry.1 = "text/identifier" then (text.email.parse entry.2).map .text
  else if entry.1 = "text/email" then (text.email.parse entry.2).map .email
  else none

/-- The slots after an entry has been written over them. -/
def write (entry : String × String) (slots : LnUrlSlots A) : LnUrlSlots A where
  text := (plainOf entry).or slots.text
  longText := (longTextOf entry).or slots.longText
  image := (text.imageOf entry).or slots.image
  identifier := (text.identifierOf entry).or slots.identifier

/-! ## §3. One turn of the loop. -/

theorem visitEntry_ok_iff (entry : String × String) (slots slots' : LnUrlSlots A) :
    text.visitEntry errors entry slots = .ok slots'
      ↔ text.EntryValid entry ∧ text.write entry slots = slots' := by
  obtain ⟨entryType, value⟩ := entry
  by_cases hplain : entryType = "text/plain"
  · subst hplain
    simp [visitEntry, EntryValid, isImageType, isAddressType, write, plainOf, longTextOf, imageOf,
      identifierOf]
  by_cases hlong : entryType = "text/long-desc"
  · subst hlong
    simp [visitEntry, EntryValid, isImageType, isAddressType, write, plainOf, longTextOf, imageOf,
      identifierOf]
  by_cases hpng : entryType = "image/png;base64"
  · subst hpng
    cases hdecoded : text.base64.parse value with
    | none => simp [visitEntry, decodeImage, EntryValid, isImageType, hdecoded, bind, Except.bind]
    | some decoded =>
        simp [visitEntry, decodeImage, EntryValid, isImageType, isAddressType, write, plainOf,
          longTextOf, imageOf, identifierOf, hdecoded, bind, Except.bind, pure, Except.pure]
  by_cases hjpeg : entryType = "image/jpeg;base64"
  · subst hjpeg
    cases hdecoded : text.base64.parse value with
    | none => simp [visitEntry, decodeImage, EntryValid, isImageType, hdecoded, bind, Except.bind]
    | some decoded =>
        simp [visitEntry, decodeImage, EntryValid, isImageType, isAddressType, write, plainOf,
          longTextOf, imageOf, identifierOf, hdecoded, bind, Except.bind, pure, Except.pure]
  by_cases htext : entryType = "text/identifier"
  · subst htext
    cases hemail : text.email.parse value with
    | none => simp [visitEntry, parseEmail, EntryValid, isAddressType, hemail, bind, Except.bind]
    | some email =>
        simp [visitEntry, parseEmail, EntryValid, isImageType, isAddressType, write, plainOf,
          longTextOf, imageOf, identifierOf, hemail, bind, Except.bind, pure, Except.pure]
  by_cases hmail : entryType = "text/email"
  · subst hmail
    cases hemail : text.email.parse value with
    | none => simp [visitEntry, parseEmail, EntryValid, isAddressType, hemail, bind, Except.bind]
    | some email =>
        simp [visitEntry, parseEmail, EntryValid, isImageType, isAddressType, write, plainOf,
          longTextOf, imageOf, identifierOf, hemail, bind, Except.bind, pure, Except.pure]
  -- an entry of unknown type is skipped
  simp [visitEntry, EntryValid, isImageType, isAddressType, write, plainOf, longTextOf, imageOf,
    identifierOf, hplain, hlong, hpng, hjpeg, htext, hmail]

/-! ## §4. The loop. -/

/-- The last of the entries that have a value under `f`. -/
def lastOf {α β : Type} (f : α → Option β) (entries : List α) : Option β :=
  entries.reverse.findSome? f

theorem lastOf_cons {α β : Type} (f : α → Option β) (entry : α) (entries : List α) :
    lastOf f (entry :: entries) = (lastOf f entries).or (f entry) := by
  unfold lastOf
  rw [List.reverse_cons, List.findSome?_append, List.findSome?_singleton]

theorem lastOf_append {α β : Type} (f : α → Option β) (first second : List α) :
    lastOf f (first ++ second) = (lastOf f second).or (lastOf f first) := by
  unfold lastOf
  rw [List.reverse_append, List.findSome?_append]

/-- The last of at most one entry. -/
theorem lastOf_toList {α β γ : Type} (f : α → Option β) (g : γ → α) (slot : Option γ) :
    lastOf f (slot.map g).toList = slot.bind fun c => f (g c) := by
  cases slot with
  | none => rfl
  | some c => exact List.findSome?_singleton

theorem lastOf_eq_some {α β : Type} {f : α → Option β} {entries : List α} {b : β}
    (h : lastOf f entries = some b) : ∃ entry ∈ entries, f entry = some b := by
  obtain ⟨entry, hmem, hf⟩ := List.exists_of_findSome?_eq_some h
  exact ⟨entry, List.mem_reverse.mp hmem, hf⟩

theorem lastOf_isSome_iff {α β : Type} (f : α → Option β) (entries : List α) :
    (lastOf f entries).isSome = true ↔ ∃ entry ∈ entries, (f entry).isSome = true := by
  unfold lastOf
  rw [List.findSome?_isSome_iff]
  simp only [List.mem_reverse]

/-- The slots after all entries have been written over them, one after the other. -/
def writeAll (entries : List (String × String)) (slots : LnUrlSlots A) : LnUrlSlots A where
  text := (lastOf plainOf entries).or slots.text
  longText := (lastOf longTextOf entries).or slots.longText
  image := (lastOf text.imageOf entries).or slots.image
  identifier := (lastOf text.identifierOf entries).or slots.identifier

theorem writeAll_cons (entry : String × String) (entries : List (String × String))
    (slots : LnUrlSlots A) :
    text.writeAll (entry :: entries) slots = text.writeAll entries (text.write entry slots) := by
  unfold writeAll write
  simp only [lastOf_cons, Option.or_assoc]

theorem nextElement_ok_iff (item : Json) (entry : String × String) :
    nextElement item = .ok entry ↔ item = entryJson entry := by
  constructor
  · intro h
    unfold nextElement at h
    split at h
    · cases h
      rfl
    · cases h
  · intro h
    rw [h]
    rfl

theorem visitSeq_entry (entry : String × String) (items : List Json) (slots : LnUrlSlots A) :
    text.visitSeq errors (entryJson entry :: items) slots
      = text.visitEntry errors entry slots >>= text.visitSeq errors items := rfl

theorem visitSeq_ok_iff (items : List Json) (slots slots' : LnUrlSlots A) :
    text.visitSeq errors items slots = .ok slots'
      ↔ ∃ entries : List (String × String), items = entries.map entryJson
        ∧ (∀ entry ∈ entries, text.EntryValid entry) ∧ text.writeAll entries slots = slots' := by
  -- the slots change from turn to turn, the entries still to come do not
  induction items generalizing slots with
  | nil =>
      constructor
      · intro h
        cases h
        exact ⟨[], rfl, by simp, rfl⟩
      · intro ⟨entries, hitems, _, hslots⟩
        cases List.map_eq_nil_iff.mp hitems.symm
        rw [← hslots]
        rfl
  | cons item items ih =>
      constructor
      · intro h
        cases hitem : nextElement item with
        | error e =>
            unfold visitSeq at h
            rw [hitem] at h
            cases h
        | ok entry =>
            rw [nextElement_ok_iff] at hitem
            rw [hitem, visitSeq_entry] at h
            cases hentry : text.visitEntry errors entry slots with
            | error e =>
                rw [hentry] at h
                cases h
            | ok written =>
                rw [hentry] at h
                obtain ⟨entries, hitems, hvalid, hslots⟩ := (ih written).mp h
                obtain ⟨hfirst, hwrite⟩ := (text.visitEntry_ok_iff errors _ _ _).mp hentry
                refine ⟨entry :: entries, ?_, List.forall_mem_cons.mpr ⟨hfirst, hvalid⟩, ?_⟩
                · rw [hitem, hitems, List.map_cons]
                · rw [writeAll_cons, hwrite, hslots]
      · intro ⟨entries, hitems, hvalid, hslots⟩
        cases entries with
        | nil => cases hitems
        | cons entry entries =>
            obtain ⟨hitem, hrest⟩ := List.cons.inj hitems
            obtain ⟨hfirst, hlater⟩ := List.forall_mem_cons.mp hvalid
            rw [writeAll_cons] at hslots
            rw [hitem, visitSeq_entry, (text.visitEntry_ok_iff errors _ _ _).mpr ⟨hfirst, rfl⟩]
            exact (ih (text.write entry slots)).mpr ⟨entries, hrest, hlater, hslots⟩

theorem visitSeq_append (first second : List Json) (slots : LnUrlSlots A) :
    text.visitSeq errors (first ++ second) slots
      = text.visitSeq errors first slots >>= text.visitSeq errors second := by
  induction first generalizing slots with
  | nil => rfl
  | cons item first ih =>
      rw [List.cons_append]
      unfold visitSeq
      cases hitem : nextElement item with
      | error e => rfl
      | ok entry =>
          show text.visitEntry errors entry slots >>= text.visitSeq errors (first ++ second)
            = (text.visitEntry errors entry slots >>= text.visitSeq errors first)
                >>= text.visitSeq errors second
          cases hentry : text.visitEntry errors entry slots with
          | error e => rfl
          | ok written => exact ih written

/-- An entry of unknown type writes nothing. -/
theorem visitEntry_unknown {entry : String × String} (h : entry.1 ∉ entryTypes)
    (slots : LnUrlSlots A) : text.visitEntry errors entry slots = .ok slots := by
  unfold entryTypes at h
  simp only [List.mem_cons, List.not_mem_nil, or_false, not_or] at h
  unfold visitEntry
  simp only [h, if_false]

/-! ## §5. The decoder on any array. -/

/-- The values of a list of entries: in each slot the last of its types. -/
def ReadsAs (entries : List (String × String)) (metadata : OfferMetadataSparse A) : Prop :=
  lastOf plainOf entries = some metadata.text
    ∧ lastOf longTextOf entries = metadata.longText
    ∧ lastOf text.imageOf entries = metadata.image
    ∧ lastOf text.identifierOf entries = metadata.identifier

omit text errors in
theorem intoMetadata_ok_iff (slots : LnUrlSlots A) (metadata : OfferMetadataSparse A) :
    slots.intoMetadata = .ok metadata
      ↔ slots.text = some metadata.text ∧ slots.longText = metadata.longText
        ∧ slots.image = metadata.image ∧ slots.identifier = metadata.identifier := by
  obtain ⟨slotText, longText, image, identifier⟩ := slots
  cases metadata
  cases slotText with
  | none => simp [LnUrlSlots.intoMetadata]
  | some plain => simp [LnUrlSlots.intoMetadata]

theorem deserialize_ok_iff (items : List Json) (metadata : OfferMetadataSparse A) :
    text.deserializeLnUrlOfferMetadata errors (.array items) = .ok metadata
      ↔ ∃ entries : List (String × String), items = entries.map entryJson
        ∧ (∀ entry ∈ entries, text.EntryValid entry) ∧ text.ReadsAs entries metadata := by
  have hempty : ∀ entries, (text.writeAll entries LnUrlSlots.empty).intoMetadata = .ok metadata
      ↔ text.ReadsAs entries metadata := by
    intro entries
    rw [intoMetadata_ok_iff]
    unfold writeAll LnUrlSlots.empty ReadsAs
    simp only [Option.or_none]
  show (text.visitSeq errors items LnUrlSlots.empty >>= LnUrlSlots.intoMetadata) = _ ↔ _
  constructor
  · intro h
    cases hseq : text.visitSeq errors items LnUrlSlots.empty with
    | error e =>
        rw [hseq] at h
        cases h
    | ok slots =>
        rw [hseq] at h
        obtain ⟨entries, hitems, hvalid, hslots⟩ := (text.visitSeq_ok_iff errors _ _ _).mp hseq
        rw [← hslots] at h
        exact ⟨entries, hitems, hvalid, (hempty entries).mp h⟩
  · intro ⟨entries, hitems, hvalid, hreads⟩
    rw [(text.visitSeq_ok_iff errors _ _ _).mpr ⟨entries, hitems, hvalid, rfl⟩]
    exact (hempty entries).mpr hreads

/-- The array is accepted exactly when every element is a valid pair and one is the text. -/
theorem deserialize_accepts_iff (items : List Json) :
    (∃ metadata, text.deserializeLnUrlOfferMetadata errors (.array items) = .ok metadata)
      ↔ ∃ entries : List (String × String), items = entries.map entryJson
        ∧ (∃ entry ∈ entries, entry.1 = "text/plain")
        ∧ ∀ entry ∈ entries, text.EntryValid entry := by
  have hplain : ∀ entries : List (String × String),
      (lastOf plainOf entries).isSome = true ↔ ∃ entry ∈ entries, entry.1 = "text/plain" := by
    intro entries
    rw [lastOf_isSome_iff]
    simp [plainOf]
  constructor
  · intro ⟨metadata, h⟩
    obtain ⟨entries, hitems, hvalid, htext, -⟩ := (text.deserialize_ok_iff errors _ _).mp h
    refine ⟨entries, hitems, (hplain entries).mp ?_, hvalid⟩
    rw [htext]
    rfl
  · intro ⟨entries, hitems, hentry, hvalid⟩
    obtain ⟨plain, htext⟩ := Option.isSome_iff_exists.mp ((hplain entries).mpr hentry)
    exact ⟨{ text := plain, longText := lastOf longTextOf entries,
             image := lastOf text.imageOf entries,
             identifier := lastOf text.identifierOf entries },
      (text.deserialize_ok_iff errors _ _).mpr ⟨entries, hitems, hvalid, htext, rfl, rfl, rfl⟩⟩

/-- An entry of unknown type has no influence, wherever it stands and whatever stands
around it. -/
theorem deserialize_unknown {entry : String × String} (h : entry.1 ∉ entryTypes)
    (before after : List Json) :
    text.deserializeLnUrlOfferMetadata errors (.array (before ++ entryJson entry :: after))
      = text.deserializeLnUrlOfferMetadata errors (.array (before ++ after)) := by
  have hskip : ∀ slots : LnUrlSlots A,
      text.visitSeq errors (entryJson entry :: after) slots = text.visitSeq errors after slots := by
    intro slots
    rw [visitSeq_entry, text.visitEntry_unknown errors h]
    rfl
  unfold deserializeLnUrlOfferMetadata
  dsimp only
  rw [visitSeq_append, visitSeq_append, funext hskip]

/-! ## §6. The decoder against the encoder. -/

/-- The address parses back from its `email()` text. -/
def PlainAddress (address : A) : Prop :=
  text.email.parse (text.emailAddress address) = some address

def PlainIdentifier : OfferMetadataIdentifier A → Prop
  | .text address => text.PlainAddress address
  | .email address => text.PlainAddress address

def imageEntry : OfferMetadataImage → String × String
  | .png image => ("image/png;base64", text.base64.display image)
  | .jpeg image => ("image/jpeg;base64", text.base64.display image)

def identifierEntry : OfferMetadataIdentifier A → String × String
  | .text address => ("text/identifier", text.emailAddress address)
  | .email address => ("text/email", text.emailAddress address)

/-- The pairs the encoder writes. -/
def metadataEntryPairs (metadata : OfferMetadataSparse A) : List (String × String) :=
  ("text/plain", metadata.text)
    :: ((metadata.longText.map fun longText => ("text/long-desc", longText)).toList
      ++ (metadata.image.map text.imageEntry).toList
      ++ (metadata.identifier.map text.identifierEntry).toList)

theorem lnUrlOfferMetadata_eq (metadata : OfferMetadataSparse A) :
    text.lnUrlOfferMetadata metadata
      = .array ((text.metadataEntryPairs metadata).map entryJson) := by
  obtain ⟨plain, longText, image, identifier⟩ := metadata
  unfold lnUrlOfferMetadata metadataEntryPairs
  cases longText <;> rcases image with _ | (_ | _) <;> rcases identifier with _ | (_ | _) <;> rfl

theorem imageOf_imageEntry (image : OfferMetadataImage) :
    text.imageOf (text.imageEntry image) = some image := by
  cases image <;> simp [imageOf, imageEntry, text.base64.parse_display]

theorem identifierOf_identifierEntry {identifier : OfferMetadataIdentifier A}
    (hplain : text.PlainIdentifier identifier) :
    text.identifierOf (text.identifierEntry identifier) = some identifier := by
  cases identifier with
  | text address =>
      have hparse : text.email.parse (text.emailAddress address) = some address := hplain
      simp [identifierOf, identifierEntry, hparse]
  | email address =>
      have hparse : text.email.parse (text.emailAddress address) = some address := hplain
      simp [identifierOf, identifierEntry, hparse]

theorem entryValid_imageEntry (image : OfferMetadataImage) :
    text.EntryValid (text.imageEntry image) := by
  cases image <;>
    simp [EntryValid, imageEntry, isImageType, isAddressType, text.base64.parse_display]

theorem entryValid_identifierEntry {identifier : OfferMetadataIdentifier A}
    (hplain : text.PlainIdentifier identifier) :
    text.EntryValid (text.identifierEntry identifier) := by
  cases identifier with
  | text address =>
      have hparse : text.email.parse (text.emailAddress address) = some address := hplain
      simp [EntryValid, identifierEntry, isImageType, isAddressType, hparse]
  | email address =>
      have hparse : text.email.parse (text.emailAddress address) = some address := hplain
      simp [EntryValid, identifierEntry, isImageType, isAddressType, hparse]

theorem entryValid_metadataEntryPairs {metadata : OfferMetadataSparse A}
    (hplain : ∀ identifier ∈ metadata.identifier, text.PlainIdentifier identifier) :
    ∀ entry ∈ text.metadataEntryPairs metadata, text.EntryValid entry := by
  intro entry hentry
  unfold metadataEntryPairs at hentry
  simp only [List.mem_cons, List.mem_append, Option.mem_toList,
    Option.map_eq_some_iff] at hentry
  rcases hentry with rfl | (⟨longText, -, rfl⟩ | ⟨image, -, rfl⟩) | ⟨identifier, hmem, rfl⟩
  · simp [EntryValid, isImageType, isAddressType]
  · simp [EntryValid, isImageType, isAddressType]
  · exact text.entryValid_imageEntry image
  · exact text.entryValid_identifierEntry (hplain identifier hmem)

/-- Each slot is written by its own entry only. -/
theorem readsAs_metadataEntryPairs {metadata : OfferMetadataSparse A}
    (hplain : ∀ identifier ∈ metadata.identifier, text.PlainIdentifier identifier) :
    text.ReadsAs (text.metadataEntryPairs metadata) metadata := by
  have htext : ∀ plain : String,
      plainOf ("text/plain", plain) = some plain ∧ longTextOf ("text/plain", plain) = none
        ∧ text.imageOf ("text/plain", plain) = none
        ∧ text.identifierOf ("text/plain", plain) = none := by
    intro plain
    simp [plainOf, longTextOf, imageOf, identifierOf]
  have hlong : ∀ longText : String,
      plainOf ("text/long-desc", longText) = none
        ∧ longTextOf ("text/long-desc", longText) = some longText
        ∧ text.imageOf ("text/long-desc", longText) = none
        ∧ text.identifierOf ("text/long-desc", longText) = none := by
    intro longText
    simp [plainOf, longTextOf, imageOf, identifierOf]
  have himage : ∀ image : OfferMetadataImage,
      plainOf (text.imageEntry image) = none ∧ longTextOf (text.imageEntry image) = none
        ∧ text.identifierOf (text.imageEntry image) = none := by
    intro image
    cases image <;> simp [imageEntry, plainOf, longTextOf, identifierOf]
  have hidentifier : ∀ identifier : OfferMetadataIdentifier A,
      plainOf (text.identifierEntry identifier) = none
        ∧ longTextOf (text.identifierEntry identifier) = none
        ∧ text.imageOf (text.identifierEntry identifier) = none := by
    intro identifier
    cases identifier <;> simp [identifierEntry, plainOf, longTextOf, imageOf]
  have hown : metadata.identifier.bind
      (fun identifier => text.identifierOf (text.identifierEntry identifier))
        = metadata.identifier := by
    cases hid : metadata.identifier with
    | none => rfl
    | some identifier => exact text.identifierOf_identifierEntry (hplain identifier hid)
  unfold ReadsAs metadataEntryPairs
  simp only [lastOf_cons, lastOf_append, lastOf_toList, htext, hlong, himage, hidentifier,
    text.imageOf_imageEntry, hown, Option.bind_fun_some, Option.bind_fun_none, Option.none_or,
    Option.or_none, and_self]

/-- An entry of an address type holds a plain address. -/
def AddressesPlain (entries : List (String × String)) : Prop :=
  ∀ entry ∈ entries, isAddressType entry.1 →
    ∀ address, text.email.parse entry.2 = some address → text.PlainAddress address

/-- What is read from plain addresses is a plain identifier. -/
theorem plainIdentifier_of_reads {entries : List (String × String)}
    {metadata : OfferMetadataSparse A} (hplain : text.AddressesPlain entries)
    (hreads : text.ReadsAs entries metadata) :
    ∀ identifier ∈ metadata.identifier, text.PlainIdentifier identifier := by
  intro identifier hmem
  obtain ⟨entry, hentry, hof⟩ := lastOf_eq_some (hreads.2.2.2.trans hmem)
  unfold identifierOf at hof
  split at hof
  · rename_i htype
    obtain ⟨address, hparse, rfl⟩ := Option.map_eq_some_iff.mp hof
    exact hplain entry hentry (.inl htype) address hparse
  · split at hof
    · rename_i htype
      obtain ⟨address, hparse, rfl⟩ := Option.map_eq_some_iff.mp hof
      exact hplain entry hentry (.inr htype) address hparse
    · cases hof

theorem deserialize_serialize {metadata : OfferMetadataSparse A}
    (hplain : ∀ identifier ∈ metadata.identifier, text.PlainIdentifier identifier) :
    text.deserializeLnUrlOfferMetadata errors (text.lnUrlOfferMetadata metadata)
      = .ok metadata := by
  rw [lnUrlOfferMetadata_eq, deserialize_ok_iff]
  exact ⟨_, rfl, text.entryValid_metadataEntryPairs hplain, text.readsAs_metadataEntryPairs hplain⟩

end OfferText

/-- **The metadata codec**: metadata with a plain identifier comes back from its encoding; an
array is accepted exactly when all its elements are valid pairs and one is a text, each slot is
then the last of its types, entries of unknown type have no influence; and what is read from
plain addresses is encoded canonically. -/
theorem metadata_decoding {A : Type} (text : OfferText A) (errors : LnUrlErrorTexts) :
    (∀ metadata : OfferMetadataSparse A,
      (∀ identifier ∈ metadata.identifier, text.PlainIdentifier identifier) →
      text.deserializeLnUrlOfferMetadata errors (text.lnUrlOfferMetadata metadata) = .ok metadata)
    ∧ (∀ items,
      (∃ metadata, text.deserializeLnUrlOfferMetadata errors (.array items) = .ok metadata)
        ↔ ∃ entries : List (String × String), items = entries.map OfferText.entryJson
          ∧ (∃ entry ∈ entries, entry.1 = "text/plain")
          ∧ ∀ entry ∈ entries, text.EntryValid entry)
    ∧ (∀ (entries : List (String × String)) (metadata : OfferMetadataSparse A),
      text.deserializeLnUrlOfferMetadata errors (.array (entries.map OfferText.entryJson))
          = .ok metadata → text.ReadsAs entries metadata)
    ∧ (∀ (entry : String × String) (before after : List Json),
      entry.1 ∉ OfferText.entryTypes →
      text.deserializeLnUrlOfferMetadata errors
          (.array (before ++ OfferText.entryJson entry :: after))
        = text.deserializeLnUrlOfferMetadata errors (.array (before ++ after)))
    ∧ ∀ (entries : List (String × String)) (metadata : OfferMetadataSparse A),
      text.deserializeLnUrlOfferMetadata errors (.array (entries.map OfferText.entryJson))
          = .ok metadata →
      text.AddressesPlain entries →
      text.deserializeLnUrlOfferMetadata errors (text.lnUrlOfferMetadata metadata)
        = .ok metadata := by
  have hreads : ∀ (entries : List (String × String)) (metadata : OfferMetadataSparse A),
      text.deserializeLnUrlOfferMetadata errors (.array (entries.map OfferText.entryJson))
          = .ok metadata → text.ReadsAs entries metadata := by
    intro entries metadata h
    obtain ⟨entries', hitems, -, hreads⟩ := (text.deserialize_ok_iff errors _ _).mp h
    have hsame : entries = entries' := List.map_injective_iff.mpr OfferText.entryJson_injective hitems
    rw [hsame]
    exact hreads
  refine ⟨fun _ => text.deserialize_serialize errors, text.deserialize_accepts_iff errors, hreads,
    fun _ before after h => text.deserialize_unknown errors h before after, ?_⟩
  intro entries metadata h hplain
  exact text.deserialize_serialize errors
    (text.plainIdentifier_of_reads hplain (hreads entries metadata h))

end Switchgear.Offer
