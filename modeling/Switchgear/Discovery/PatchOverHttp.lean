/-
  Switchgear.Discovery.PatchOverHttp — a patch sent by the HTTP client to the
  handlers of a service, against the same patch made on the service's store.

  Main result:
    * `patch_over_http_iff` — the two agree for a patch, and the patch survives
      its encoding, IFF the patch does not clear the name.
-/
import Switchgear.Discovery.Http
import Switchgear.Discovery.Memory
import Switchgear.Discovery.DbOutcome
import Switchgear.Service.DiscoveryHandlers

namespace Switchgear.Discovery

open Switchgear.Service
open Std (ExtTreeMap TransOrd)

/-! ## §1. The two ways to patch. -/

section Definitions

variable {K σ ε : Type} [HasServiceErrorSource ε]

/-- The way of a patch to its handler. -/
def deliverPatch (keyText : PublicKeyText K) (store : DiscoveryBackendStore K σ ε)
    (now : DateTime) : Transport σ :=
  fun request state =>
    match request.method, request.url.segments with
    | .patch, ["discovery", publicKey] =>
        let (response, state) :=
          DiscoveryHandlers.servePatchBackend keyText store now publicKey request state
        (.ok response, state)
    | _, _ => (.error "not a patch of a backend", state)

/-- `HttpDiscoveryBackendStore::patch` sent through `DiscoveryHandlers::patch_backend`. -/
def patchOverHttp (client : HttpDiscoveryBackendStore K) (store : DiscoveryBackendStore K σ ε)
    (now : DateTime) (patch : DiscoveryBackendPatch K) (state : σ) :
    Except DiscoveryBackendStoreError Bool × σ :=
  client.patch (deliverPatch client.keyText store now) patch state

/-- The same state, and the same boolean, or a failure of both. -/
structure SameOutcome {ε ε' : Type} (a : Except ε Bool × σ) (b : Except ε' Bool × σ) :
    Prop where
  state : a.2 = b.2
  answer : a.1.toOption = b.1.toOption

/-- The two ways agree for a patch, whatever the store and its content. -/
def SameOverHttp (client : HttpDiscoveryBackendStore K) (patch : DiscoveryBackendPatch K) :
    Prop :=
  ∀ (σ ε : Type) [HasServiceErrorSource ε] (store : DiscoveryBackendStore K σ ε)
    (now : DateTime) (state : σ),
    SameOutcome (patchOverHttp client store now patch state) (store.patch now patch state)

/-- The patch survives its encoding. -/
def SurvivesJson (patch : DiscoveryBackendPatchSparse) : Prop :=
  DiscoveryBackendPatchSparse.fromJson patch.toJson = some patch

/-- The patch the store of the service is given. -/
def DiscoveryBackendPatch.received (patch : DiscoveryBackendPatch K) : DiscoveryBackendPatch K :=
  { patch with backend := patch.backend.received }

/-! ## §2. What the service does. -/

/-- The status the service answers an outcome of its store with. -/
def patchStatus : Except ε Bool → StatusCode
  | .error e => (HasServiceErrorSource.getServiceErrorSource e).toHttpStatus
  | .ok true => StatusCode.noContent
  | .ok false => StatusCode.notFound

/-- The service patches its store with what the decoder reads, and answers by status. -/
theorem servePatchBackend_encoded {keyText : PublicKeyText K}
    {store : DiscoveryBackendStore K σ ε} {now : DateTime} {patch : DiscoveryBackendPatch K}
    {request : HttpRequest} {state state' : σ} {result : Except ε Bool}
    (hbody : request.body = some patch.backend.toJson)
    (hpatch : store.patch now patch.received state = (result, state')) :
    DiscoveryHandlers.servePatchBackend keyText store now (keyText.display patch.publicKey)
        request state
      = ({ status := patchStatus result, headers := [], body := none }, state') := by
  have hextract : extractJson DiscoveryBackendPatchSparse.fromJson request.body
      = .ok patch.backend.received := by
    unfold extractJson
    rw [hbody]
    dsimp only
    rw [DiscoveryBackendPatchSparse.fromJson_toJson]
  have hpatch' : store.patch now
      { publicKey := patch.publicKey, backend := patch.backend.received } state
        = (result, state') := hpatch
  unfold DiscoveryHandlers.servePatchBackend DiscoveryHandlers.patchBackend
  rw [hextract]
  dsimp only
  rw [keyText.parse_display]
  dsimp only
  rw [hpatch']
  rcases result with e | patched
  · rfl
  · cases patched <;> rfl

/-- Over HTTP the store patches with what the decoder reads. -/
theorem patchOverHttp_received (client : HttpDiscoveryBackendStore K)
    (store : DiscoveryBackendStore K σ ε) (now : DateTime) (patch : DiscoveryBackendPatch K)
    (state : σ) :
    SameOutcome (patchOverHttp client store now patch state)
      (store.patch now patch.received state) := by
  rcases hpatch : store.patch now patch.received state with ⟨result, state'⟩
  have hserve : DiscoveryHandlers.servePatchBackend client.keyText store now
      (client.keyText.display patch.publicKey) (client.patchRequest patch) state
        = ({ status := patchStatus result, headers := [], body := none }, state') :=
    servePatchBackend_encoded rfl hpatch
  have hdelivered : deliverPatch client.keyText store now (client.patchRequest patch) state
      = (.ok { status := patchStatus result, headers := [], body := none }, state') :=
    congrArg (fun r : HttpResponse × σ => ((.ok r.1 : Except String HttpResponse), r.2)) hserve
  unfold patchOverHttp HttpDiscoveryBackendStore.patch
  dsimp only
  rw [hdelivered]
  dsimp only
  rcases result with e | patched
  · obtain ⟨hcontent, hfound⟩ := HttpDiscoveryBackendStore.patch_status_of_error
      (HasServiceErrorSource.getServiceErrorSource e)
    have hstatus : patchStatus (.error e : Except ε Bool)
        = (HasServiceErrorSource.getServiceErrorSource e).toHttpStatus := rfl
    rw [hstatus, if_neg hcontent, if_neg hfound]
    exact ⟨rfl, rfl⟩
  · cases patched
    · exact ⟨rfl, rfl⟩
    · exact ⟨rfl, rfl⟩

/-- A patch that does not clear the name is the same patch over HTTP. -/
theorem sameOverHttp_of_name (client : HttpDiscoveryBackendStore K)
    {patch : DiscoveryBackendPatch K} (h : patch.backend.name ≠ some none) :
    SameOverHttp client patch := by
  intro σ ε _ store now state
  have hsame := patchOverHttp_received client store now patch state
  have hreceived : patch.received = patch := by
    unfold DiscoveryBackendPatch.received
    rw [(DiscoveryBackendPatchSparse.received_eq_self_iff patch.backend).mpr h]
  rwa [hreceived] at hsame

/-- A patch survives its encoding IFF it does not clear the name. -/
theorem survivesJson_iff (patch : DiscoveryBackendPatchSparse) :
    SurvivesJson patch ↔ patch.name ≠ some none := by
  unfold SurvivesJson
  rw [DiscoveryBackendPatchSparse.fromJson_toJson, Option.some.injEq,
    DiscoveryBackendPatchSparse.received_eq_self_iff]

end Definitions

/-! ## §3. The memory store. -/

section Memory

variable {K : Type} [Ord K] [TransOrd K]

open MemoryDiscoveryBackendStore

omit [Ord K] [TransOrd K] in
/-- Patching with what the decoder reads does the same to an entry, unless the patch clears
a name that is there. -/
theorem patchEntry_received_iff (patch : DiscoveryBackendPatchSparse)
    (entry : DiscoveryBackendTimestamped K) :
    patchEntry patch.received entry = patchEntry patch entry
      ↔ (patch.name = some none → entry.backend.backend.name = none) := by
  obtain ⟨created, publicKey, name, partitions, weight, enabled, implementation⟩ := entry
  obtain ⟨patchName, patchPartitions, patchWeight, patchEnabled⟩ := patch
  rcases patchName with _ | _ | patchName
  · simp [patchEntry, DiscoveryBackendPatchSparse.received]
  · simp [patchEntry, DiscoveryBackendPatchSparse.received]
  · simp [patchEntry, DiscoveryBackendPatchSparse.received]

/-- On a memory store the two ways agree IFF the patch does not clear a name that is
there. -/
theorem memory_sameOutcome_iff (client : HttpDiscoveryBackendStore K) (now : DateTime)
    (patch : DiscoveryBackendPatch K) (state : MemoryDiscoveryBackendStore K) :
    SameOutcome (patchOverHttp client backendStore now patch state)
        (backendStore.patch now patch state)
      ↔ (patch.backend.name = some none →
          ∀ entry ∈ state.store[patch.publicKey]?, entry.backend.backend.name = none) := by
  obtain ⟨hstate, hanswer⟩ := patchOverHttp_received client backendStore now patch state
  have hpatch : ∀ patch : DiscoveryBackendPatch K,
      backendStore.patch now patch state = MemoryDiscoveryBackendStore.patch patch state :=
    fun _ => rfl
  have hkey : patch.received.publicKey = patch.publicKey := rfl
  rw [hpatch] at hstate hanswer ⊢
  unfold MemoryDiscoveryBackendStore.patch at hstate hanswer ⊢
  rw [hkey] at hstate hanswer
  cases hentry : state.store[patch.publicKey]? with
  | none =>
      rw [hentry] at hstate hanswer
      constructor
      · intro _ _ entry hmem
        cases hmem
      · intro _
        exact ⟨hstate, hanswer⟩
  | some entry =>
      rw [hentry] at hstate hanswer
      have hiff := patchEntry_received_iff patch.backend entry
      constructor
      · intro h hname entry' hmem
        obtain rfl : entry = entry' := Option.some.inj hmem
        -- the two states hold the two patched entries under the key
        have hstores := congrArg MemoryDiscoveryBackendStore.store (hstate.symm.trans h.state)
        exact hiff.mp (Lib.insert_inj.mp hstores) hname
      · intro h
        have heq := hiff.mpr fun hname => h hname entry rfl
        refine ⟨?_, hanswer⟩
        rw [hstate]
        change MemoryDiscoveryBackendStore.mk (state.store.insert patch.publicKey
          (patchEntry patch.backend.received entry)) _ = _
        rw [heq]

end Memory

/-! ## §4. The database store. -/

section Database

open DiscoveryDb

/-- Patching with what the decoder reads does the same to a row, unless the patch clears a
name that is there. -/
theorem patchRow_received_iff {K : Type} (eng : Engine) (now : DateTime)
    (patch : DiscoveryBackendPatchSparse) (row : Model K) :
    patchRow eng now patch.received row = patchRow eng now patch row
      ↔ (patch.name = some none → row.name = none) := by
  obtain ⟨patchName, patchPartitions, patchWeight, patchEnabled⟩ := patch
  rcases patchName with _ | _ | patchName
  · simp [patchRow, DiscoveryBackendPatchSparse.received]
  · simp [patchRow, DiscoveryBackendPatchSparse.received]
  · simp [patchRow, DiscoveryBackendPatchSparse.received]

theorem eq_of_tables {K : Type} [Ord K] {db db' : DiscoveryDb K} (hrows : db.rows = db'.rows)
    (hetag : db.etag = db'.etag) : db = db' := by
  cases db
  cases db'
  rw [DiscoveryDb.mk.injEq]
  exact ⟨hrows, hetag⟩

variable {K : Type} [Ord K] [TransOrd K] [ToString K]

/-- What a patch leaves of the rows and what it answers, when its statement runs and finds
the row. -/
theorem patch_found (eng : Engine) {faults : Faults} (now : DateTime)
    {patch : DiscoveryBackendPatch K} {db : DiscoveryDb K} {row : Model K}
    (hrow : faults.row = none) (hfound : db.rows[patch.publicKey]? = some row) :
    (DiscoveryDb.patch eng faults now patch db).2.rows = patchedRows eng now patch row db
      ∧ (DiscoveryDb.patch eng faults now patch db).2.etag
          = (if EtagFails faults db then db.etag else db.etag.map (· + 1))
      ∧ (DiscoveryDb.patch eng faults now patch db).1.toOption
          = (if EtagFails faults db then none else some true) := by
  by_cases hetag : EtagFails faults db
  · obtain ⟨e, heq⟩ := patch_etagFails eng now hrow hfound hetag
    rw [heq, if_pos hetag, if_pos hetag]
    exact ⟨rfl, rfl, rfl⟩
  · rw [patch_updated eng now hrow hfound hetag, if_neg hetag, if_neg hetag]
    exact ⟨rfl, rfl, rfl⟩

omit [ToString K] in
theorem patchedRows_received_iff (eng : Engine) (now : DateTime)
    (patch : DiscoveryBackendPatch K) (row : Model K) (db : DiscoveryDb K) :
    patchedRows eng now patch.received row db = patchedRows eng now patch row db
      ↔ (patch.backend.name = some none → row.name = none) := by
  unfold patchedRows
  rw [show patch.received.publicKey = patch.publicKey from rfl, Lib.insert_inj]
  exact patchRow_received_iff eng now patch.backend row

/-- On a database store the two ways agree IFF the patch does not clear a name that is
there, or its statement fails. -/
theorem db_sameOutcome_iff (client : HttpDiscoveryBackendStore K) (eng : Engine)
    (faults : Faults) (now : DateTime) (patch : DiscoveryBackendPatch K) (db : DiscoveryDb K) :
    SameOutcome (patchOverHttp client (backendStore eng faults) now patch db)
        ((backendStore eng faults).patch now patch db)
      ↔ (patch.backend.name = some none → faults.row = none →
          ∀ row ∈ db.rows[patch.publicKey]?, row.name = none) := by
  obtain ⟨hstate, hanswer⟩ :=
    patchOverHttp_received client (backendStore eng faults) now patch db
  have hpatch : ∀ patch : DiscoveryBackendPatch K,
      (backendStore eng faults).patch now patch db = DiscoveryDb.patch eng faults now patch db :=
    fun _ => rfl
  rw [hpatch] at hstate hanswer ⊢
  cases hrow : faults.row with
  | some e =>
      rw [patch_updateFault eng now _ db hrow] at hstate hanswer ⊢
      constructor
      · intro _ _ hnone
        cases hnone
      · intro _
        exact ⟨hstate, hanswer⟩
  | none =>
      cases hfound : db.rows[patch.publicKey]? with
      | none =>
          have hfound' : db.rows[patch.received.publicKey]? = none := hfound
          rw [patch_missing eng now hrow hfound'] at hstate hanswer
          rw [patch_missing eng now hrow hfound]
          constructor
          · intro _ _ _ row hmem
            cases hmem
          · intro _
            exact ⟨hstate, hanswer⟩
      | some row =>
          have hfound' : db.rows[patch.received.publicKey]? = some row := hfound
          obtain ⟨hrows, hetag, hflag⟩ := patch_found eng now hrow hfound
          obtain ⟨hrows', hetag', hflag'⟩ := patch_found eng now hrow hfound'
          have hiff := patchedRows_received_iff eng now patch row db
          constructor
          · intro h hname _ row' hmem
            obtain rfl : row = row' := Option.some.inj hmem
            refine hiff.mp ?_ hname
            rw [← hrows, ← hrows', ← hstate, h.state]
          · intro h
            have htables := hiff.mpr fun hname => h hname rfl row rfl
            refine ⟨?_, by rw [hanswer, hflag, hflag']⟩
            rw [hstate]
            exact eq_of_tables (by rw [hrows, hrows', htables]) (by rw [hetag, hetag'])

end Database

/-! ## §5. The patch over HTTP. -/

section Main

variable {K : Type} [Ord K] [TransOrd K] [ToString K]

/-- A memory store that holds one record under the key, with a name. -/
def namedStore (publicKey : K) : MemoryDiscoveryBackendStore K where
  store := (∅ : ExtTreeMap K (DiscoveryBackendTimestamped K)).insert publicKey
    { created := 0, backend := sampleBackend publicKey ∅ }
  etag := 1

omit [ToString K] in
/-- Two ways that agree on a store with a named record do not clear a name. -/
theorem name_of_sameOverHttp {client : HttpDiscoveryBackendStore K}
    {patch : DiscoveryBackendPatch K} (h : SameOverHttp client patch) :
    patch.backend.name ≠ some none := by
  intro hname
  have hsame := h _ _ MemoryDiscoveryBackendStore.backendStore 0 (namedStore patch.publicKey)
  have hnone := (memory_sameOutcome_iff client 0 patch (namedStore patch.publicKey)).mp hsame hname
    { created := 0, backend := sampleBackend patch.publicKey ∅ }
    (ExtTreeMap.getElem?_insert_self)
  cases hnone

/-- **A patch survives its encoding and does over HTTP what it does directly**, on every
store and every content, if and only if it does not clear the name.  Content by content, on
the memory store and on the database store, the two ways agree if and only if the patch does
not clear a name that is there (or the statement that would clear it fails). -/
theorem patch_over_http_iff (client : HttpDiscoveryBackendStore K) :
    (∀ patch : DiscoveryBackendPatch K,
      SurvivesJson patch.backend ∧ SameOverHttp client patch ↔ patch.backend.name ≠ some none)
    ∧ (∀ now patch (state : MemoryDiscoveryBackendStore K),
        SameOutcome
            (patchOverHttp client MemoryDiscoveryBackendStore.backendStore now patch state)
            (MemoryDiscoveryBackendStore.backendStore.patch now patch state)
          ↔ (patch.backend.name = some none →
              ∀ entry ∈ state.store[patch.publicKey]?, entry.backend.backend.name = none))
    ∧ ∀ eng faults now patch (db : DiscoveryDb K),
        SameOutcome (patchOverHttp client (DiscoveryDb.backendStore eng faults) now patch db)
            ((DiscoveryDb.backendStore eng faults).patch now patch db)
          ↔ (patch.backend.name = some none → faults.row = none →
              ∀ row ∈ db.rows[patch.publicKey]?, row.name = none) := by
  refine ⟨?_, memory_sameOutcome_iff client, db_sameOutcome_iff client⟩
  intro patch
  constructor
  · intro h
    exact (survivesJson_iff patch.backend).mp h.1
  · intro hname
    exact ⟨(survivesJson_iff patch.backend).mpr hname, sameOverHttp_of_name client hname⟩

/-- A client of the examples; a key is its own text. -/
def sampleClient : HttpDiscoveryBackendStore String where
  baseUrl := "https://base.com"
  keyText :=
    { display := fun key => key
      parse := some
      parse_display := fun _ => rfl }
  displayStatus := toString

/-- Clear the name of the record. -/
def clearName : DiscoveryBackendPatch String where
  publicKey := "key"
  backend := { name := some none, partitions := none, weight := none, enabled := none }

/-- Disable the record. -/
def disable : DiscoveryBackendPatch String where
  publicKey := "key"
  backend := { name := none, partitions := none, weight := none, enabled := some false }

theorem patch_over_http_iff_disable :
    SurvivesJson disable.backend ∧ SameOverHttp sampleClient disable :=
  ((patch_over_http_iff sampleClient).1 disable).mpr (by decide)

/-- Clearing a name that is there: the direct patch clears it, the patch over HTTP leaves it,
and the patch does not survive its encoding. -/
theorem clear_name_is_lost :
    ¬ ∀ (client : HttpDiscoveryBackendStore String) (patch : DiscoveryBackendPatch String),
      SurvivesJson patch.backend ∧ SameOverHttp client patch := by
  intro h
  obtain ⟨hsurvives, hsame⟩ := h sampleClient clearName
  exact name_of_sameOverHttp hsame rfl

end Main

end Switchgear.Discovery
