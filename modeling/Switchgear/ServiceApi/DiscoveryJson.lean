/-
  Switchgear.ServiceApi.DiscoveryJson — the derived JSON encoders and decoders of
  the records of the discovery API, and the text of an etag.

  A field of the patch that is absent is left out.  The name has two levels:
  `some none` (clear it) is not absent, so it is written, as `null`; and a
  decoder reads `null` as absent.

  A backend carries its implementation as JSON: the bytes are parsed into the
  record when it is written, and printed again when it is read.  So a backend
  comes back exactly if printing what its implementation parses to gives the
  implementation (`CompactJson`).
-/
import Switchgear.Lib.Hex
import Switchgear.Lib.Json
import Switchgear.ServiceApi.Discovery
import Switchgear.ServiceApi.Http

namespace Switchgear.Discovery

open Switchgear.Lib

namespace DiscoveryBackendPatchSparse

/-- The codec of the inner level of the name. -/
def nameCodec : Codec (Option String) := Codec.string.option

def partitionsCodec : Codec (Finset String) := Codec.string.set

/-- The entries of a patch: `skip_serializing_if = "Option::is_none"` on each field. -/
def entries (patch : DiscoveryBackendPatchSparse) : List (String × Json) :=
  nameCodec.encodeField "name" patch.name
    ++ partitionsCodec.encodeField "partitions" patch.partitions
    ++ Codec.uint64.encodeField "weight" patch.weight
    ++ Codec.bool.encodeField "enabled" patch.enabled

/-- `#[derive(Serialize)]`. -/
def toJson (patch : DiscoveryBackendPatchSparse) : Json := .object patch.entries

/-- `#[derive(Deserialize)]`: an object by its keys, others ignored, or an array of the four
fields in order. -/
def fromJson : Json → Option DiscoveryBackendPatchSparse
  | .object entries => do
      let name ← nameCodec.decodeField "name" entries
      let partitions ← partitionsCodec.decodeField "partitions" entries
      let weight ← Codec.uint64.decodeField "weight" entries
      let enabled ← Codec.bool.decodeField "enabled" entries
      return { name, partitions, weight, enabled }
  | .array [name, partitions, weight, enabled] => do
      let name ← nameCodec.option.decode name
      let partitions ← partitionsCodec.option.decode partitions
      let weight ← Codec.uint64.option.decode weight
      let enabled ← Codec.bool.option.decode enabled
      return { name, partitions, weight, enabled }
  | _ => none

/-- What a receiver of the encoded patch reads: a cleared name becomes an untouched one. -/
def received (patch : DiscoveryBackendPatchSparse) : DiscoveryBackendPatchSparse :=
  { patch with name := patch.name.bind fun name => name.map some }

/-! ## §1. The name. -/

theorem name_field_received (name : Option (Option String)) :
    (name.elim (some none) fun inner => nameCodec.option.decode (nameCodec.encode inner))
      = some (name.bind fun inner => inner.map some) := by
  cases name with
  | none => rfl
  | some inner =>
      -- both `null` and a string are decoded by evaluation
      cases inner <;> rfl

theorem received_eq_self_iff (patch : DiscoveryBackendPatchSparse) :
    patch.received = patch ↔ patch.name ≠ some none := by
  obtain ⟨name, partitions, weight, enabled⟩ := patch
  unfold received
  rcases name with _ | _ | name
  · simp
  · simp
  · simp

theorem decodeField_name (patch : DiscoveryBackendPatchSparse) :
    nameCodec.decodeField "name" patch.entries = some patch.received.name := by
  have hfilter : patch.entries.filter (fun entry => entry.1 == "name")
      = nameCodec.encodeField "name" patch.name := by
    simp [entries, Codec.filter_encodeField_self, Codec.filter_encodeField_of_ne]
  rw [nameCodec.decodeField_encodeField hfilter]
  exact name_field_received patch.name

/-! ## §2. The other fields. -/

theorem decodeField_partitions (patch : DiscoveryBackendPatchSparse) :
    partitionsCodec.decodeField "partitions" patch.entries = some patch.partitions := by
  have hfilter : patch.entries.filter (fun entry => entry.1 == "partitions")
      = partitionsCodec.encodeField "partitions" patch.partitions := by
    simp [entries, Codec.filter_encodeField_self, Codec.filter_encodeField_of_ne]
  refine partitionsCodec.decodeField_of_roundTrips hfilter ?_
  intro partitions _
  exact ⟨rfl, Codec.set_roundTrips Codec.string_roundTrips partitions⟩

theorem decodeField_weight (patch : DiscoveryBackendPatchSparse) :
    Codec.uint64.decodeField "weight" patch.entries = some patch.weight := by
  have hfilter : patch.entries.filter (fun entry => entry.1 == "weight")
      = Codec.uint64.encodeField "weight" patch.weight := by
    simp [entries, Codec.filter_encodeField_self, Codec.filter_encodeField_of_ne]
  refine Codec.uint64.decodeField_of_roundTrips hfilter ?_
  intro weight _
  exact ⟨rfl, Codec.uint64_roundTrips weight⟩

theorem decodeField_enabled (patch : DiscoveryBackendPatchSparse) :
    Codec.bool.decodeField "enabled" patch.entries = some patch.enabled := by
  have hfilter : patch.entries.filter (fun entry => entry.1 == "enabled")
      = Codec.bool.encodeField "enabled" patch.enabled := by
    simp [entries, Codec.filter_encodeField_self, Codec.filter_encodeField_of_ne]
  refine Codec.bool.decodeField_of_roundTrips hfilter ?_
  intro enabled _
  exact ⟨rfl, Codec.bool_roundTrips enabled⟩

/-- The decoder reads every encoded patch, as `received` says. -/
theorem fromJson_toJson (patch : DiscoveryBackendPatchSparse) :
    fromJson patch.toJson = some patch.received := by
  unfold fromJson toJson
  dsimp only
  rw [decodeField_name, decodeField_partitions, decodeField_weight, decodeField_enabled]
  rfl

end DiscoveryBackendPatchSparse

/-! ## §3. Backends. -/

/-- `serde_json::from_slice` and `serde_json::to_vec`. -/
structure JsonText where
  fromSlice : Bytes → Option Json
  toVec : Json → Bytes

/-- JSON in the form `to_vec` gives it. -/
def JsonText.Compact (json : JsonText) (bytes : Bytes) : Prop :=
  ∃ value, json.fromSlice bytes = some value ∧ json.toVec value = bytes

/-- `serde_json::Value` as a field. -/
def valueCodec : Codec Json where
  encode := id
  decode := some

namespace DiscoveryBackendSparse

variable (json : JsonText)

/-- The entries of a backend; nothing where the implementation is no JSON. -/
def entries (backend : DiscoveryBackendSparse) : Option (List (String × Json)) :=
  (json.fromSlice backend.implementation).map fun implementation =>
    Codec.string.encodeField "name" backend.name
      ++ Codec.string.set.encodeRequired "partitions" backend.partitions
      ++ Codec.uint64.encodeRequired "weight" backend.weight
      ++ Codec.bool.encodeRequired "enabled" backend.enabled
      ++ valueCodec.encodeRequired "implementation" implementation

def fields (entries : List (String × Json)) : Option DiscoveryBackendSparse := do
  let name ← Codec.string.decodeField "name" entries
  let partitions ← Codec.string.set.decodeRequired "partitions" entries
  let weight ← Codec.uint64.decodeRequired "weight" entries
  let enabled ← Codec.bool.decodeRequired "enabled" entries
  let implementation ← valueCodec.decodeRequired "implementation" entries
  return { name, partitions, weight, enabled, implementation := json.toVec implementation }

/-- `#[derive(Serialize)]`. -/
def toJson (backend : DiscoveryBackendSparse) : Option Json :=
  (backend.entries json).map .object

/-- `#[derive(Deserialize)]`. -/
def fromJson : Json → Option DiscoveryBackendSparse
  | .object entries => fields json entries
  | .array [name, partitions, weight, enabled, implementation] => do
      let name ← Codec.string.option.decode name
      let partitions ← Codec.string.set.decode partitions
      let weight ← Codec.uint64.decode weight
      let enabled ← Codec.bool.decode enabled
      return { name, partitions, weight, enabled, implementation := json.toVec implementation }
  | _ => none

/-- The fields are read from any entries that hold those of the backend. -/
theorem fields_of_entries {backend : DiscoveryBackendSparse} {own entries : List (String × Json)}
    (hown : backend.entries json = some own) (hcompact : json.Compact backend.implementation)
    (h : ∀ key ∈ ["name", "partitions", "weight", "enabled", "implementation"],
      entries.filter (fun entry => entry.1 == key) = own.filter fun entry => entry.1 == key) :
    fields json entries = some backend := by
  obtain ⟨value, hvalue, hprinted⟩ := hcompact
  unfold DiscoveryBackendSparse.entries at hown
  rw [hvalue, Option.map_some, Option.some.injEq] at hown
  subst hown
  have hname : entries.filter (fun entry => entry.1 == "name")
      = Codec.string.encodeField "name" backend.name := by
    rw [h _ (by simp)]
    simp [Codec.filter_encodeRequired_of_ne, Codec.filter_encodeField_self]
  have hpartitions : entries.filter (fun entry => entry.1 == "partitions")
      = Codec.string.set.encodeRequired "partitions" backend.partitions := by
    rw [h _ (by simp)]
    simp [Codec.filter_encodeRequired_self, Codec.filter_encodeRequired_of_ne,
      Codec.filter_encodeField_of_ne]
  have hweight : entries.filter (fun entry => entry.1 == "weight")
      = Codec.uint64.encodeRequired "weight" backend.weight := by
    rw [h _ (by simp)]
    simp [Codec.filter_encodeRequired_self, Codec.filter_encodeRequired_of_ne,
      Codec.filter_encodeField_of_ne]
  have henabled : entries.filter (fun entry => entry.1 == "enabled")
      = Codec.bool.encodeRequired "enabled" backend.enabled := by
    rw [h _ (by simp)]
    simp [Codec.filter_encodeRequired_self, Codec.filter_encodeRequired_of_ne,
      Codec.filter_encodeField_of_ne]
  have himplementation : entries.filter (fun entry => entry.1 == "implementation")
      = valueCodec.encodeRequired "implementation" value := by
    rw [h _ (by simp)]
    simp [Codec.filter_encodeRequired_self, Codec.filter_encodeRequired_of_ne,
      Codec.filter_encodeField_of_ne]
  unfold fields
  rw [Codec.string.decodeField_of_roundTrips hname fun _ _ => ⟨rfl, Codec.string_roundTrips _⟩,
    Codec.string.set.decodeRequired_encode hpartitions
      (Codec.set_roundTrips Codec.string_roundTrips _),
    Codec.uint64.decodeRequired_encode hweight (Codec.uint64_roundTrips _),
    Codec.bool.decodeRequired_encode henabled (Codec.bool_roundTrips _),
    valueCodec.decodeRequired_encode himplementation rfl]
  show some { backend with implementation := json.toVec value } = some backend
  rw [hprinted]

/-- A backend with a compact implementation is written, and comes back. -/
theorem fromJson_toJson {backend : DiscoveryBackendSparse}
    (hcompact : json.Compact backend.implementation) :
    ∃ body, backend.toJson json = some body ∧ fromJson json body = some backend := by
  obtain ⟨value, hvalue, -⟩ := id hcompact
  have hentries : ∃ own, backend.entries json = some own := by
    unfold entries
    rw [hvalue]
    exact ⟨_, rfl⟩
  obtain ⟨own, hown⟩ := hentries
  refine ⟨.object own, ?_, fields_of_entries json hown hcompact fun _ _ => rfl⟩
  unfold toJson
  rw [hown]
  rfl

end DiscoveryBackendSparse

namespace DiscoveryBackend

variable {K : Type} (keyText : PublicKeyText K) (json : JsonText)

/-- A public key as a field: its text. -/
def keyCodec : Codec K :=
  Codec.text
    { display := keyText.display
      parse := keyText.parse
      parse_display := keyText.parse_display }

/-- `#[serde(flatten)]` on the backend. -/
def toJson (backend : DiscoveryBackend K) : Option Json :=
  (backend.backend.entries json).map fun entries =>
    .object ((keyCodec keyText).encodeRequired "publicKey" backend.publicKey ++ entries)

def fromJson : Json → Option (DiscoveryBackend K)
  | .object entries => do
      let publicKey ← (keyCodec keyText).decodeRequired "publicKey" entries
      let backend ← DiscoveryBackendSparse.fields json entries
      return { publicKey, backend }
  | _ => none

/-- `Vec<DiscoveryBackend>`. -/
def listToJson (backends : List (DiscoveryBackend K)) : Option Json :=
  (backends.mapM (toJson keyText json)).map .array

def listFromJson : Json → Option (List (DiscoveryBackend K))
  | .array items => items.mapM (fromJson keyText json)
  | _ => none

theorem fromJson_toJson {backend : DiscoveryBackend K}
    (hcompact : json.Compact backend.backend.implementation) :
    ∃ body, backend.toJson keyText json = some body
      ∧ fromJson keyText json body = some backend := by
  obtain ⟨value, hvalue, -⟩ := id hcompact
  have hentries : ∃ own, backend.backend.entries json = some own := by
    unfold DiscoveryBackendSparse.entries
    rw [hvalue]
    exact ⟨_, rfl⟩
  obtain ⟨own, hown⟩ := hentries
  have hforeign : own.filter (fun entry => entry.1 == "publicKey") = [] := by
    unfold DiscoveryBackendSparse.entries at hown
    rw [hvalue, Option.map_some, Option.some.injEq] at hown
    rw [← hown]
    simp [Codec.filter_encodeRequired_of_ne, Codec.filter_encodeField_of_ne]
  have hkey : ((keyCodec keyText).encodeRequired "publicKey" backend.publicKey ++ own).filter
      (fun entry => entry.1 == "publicKey")
        = (keyCodec keyText).encodeRequired "publicKey" backend.publicKey := by
    rw [List.filter_append, hforeign, Codec.filter_encodeRequired_self, List.append_nil]
  refine ⟨.object ((keyCodec keyText).encodeRequired "publicKey" backend.publicKey ++ own),
    ?_, ?_⟩
  · unfold toJson
    rw [hown]
    rfl
  · unfold fromJson
    dsimp only
    rw [(keyCodec keyText).decodeRequired_encode hkey (Codec.text_roundTrips _ _),
      DiscoveryBackendSparse.fields_of_entries json hown hcompact ?_]
    · rfl
    · intro key hmem
      rw [List.filter_append, Codec.filter_encodeRequired_of_ne, List.nil_append]
      intro heq
      subst heq
      revert hmem
      decide

theorem listFromJson_listToJson {backends : List (DiscoveryBackend K)}
    (hcompact : ∀ backend ∈ backends, json.Compact backend.backend.implementation) :
    ∃ body, listToJson keyText json backends = some body
      ∧ listFromJson keyText json body = some backends := by
  have hitems : ∃ items, backends.mapM (toJson keyText json) = some items
      ∧ items.mapM (fromJson keyText json) = some backends := by
    induction backends with
    | nil => exact ⟨[], rfl, rfl⟩
    | cons backend backends ih =>
        obtain ⟨body, hbody, hread⟩ :=
          fromJson_toJson keyText json (hcompact backend List.mem_cons_self)
        obtain ⟨items, hitems, hreads⟩ :=
          ih fun b hb => hcompact b (List.mem_cons_of_mem backend hb)
        refine ⟨body :: items, ?_, ?_⟩
        · rw [List.mapM_cons, hbody, hitems]
          rfl
        · rw [List.mapM_cons, hread, hreads]
          rfl
  obtain ⟨items, hitems, hreads⟩ := hitems
  refine ⟨.array items, ?_, hreads⟩
  unfold listToJson
  rw [hitems]
  rfl

end DiscoveryBackend

/-! ## §4. Etags. -/

/-- `DiscoveryBackends::etag_string`. -/
def etagString (etag : UInt64) : String := String.ofList (Hex.encode (Hex.toBeBytes etag))

/-- `DiscoveryBackends::etag_from_str`. -/
def etagFromStr (etag : String) : Option UInt64 := (Hex.decode etag.toList).bind Hex.fromBeBytes

theorem etagFromStr_etagString (etag : UInt64) : etagFromStr (etagString etag) = some etag := by
  unfold etagFromStr etagString
  rw [String.toList_ofList, Hex.decode_encode, Option.bind_some, Hex.fromBeBytes_toBeBytes]

end Switchgear.Discovery
