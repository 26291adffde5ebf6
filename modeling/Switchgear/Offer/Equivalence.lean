/-
  Switchgear.Offer.Equivalence — `MemoryOfferStore` and `DbOfferStore` answer the
  same, call after call, two kinds of call apart.

  The stores are related by what both keep of a record (`Agree`): of an offer all
  but the metadata it came with, of metadata everything.  Every call keeps the
  relation, whatever it answers.  The answers part in two places:

    * `post_offer` of a known key whose metadata is not there — the map store
      looks for the metadata first, the database for the key,
    * a sparse `get_offer` of an offer that was written with metadata — the map
      store keeps the record it was given, the database its columns.

  Main result:
    * `run_answers_agree_iff` — a run is answered the same exactly if no call of
      it is of these two kinds.
-/
import Switchgear.Lib.MapView
import Switchgear.Offer.Consistency
import Switchgear.Offer.Db

namespace Switchgear.Offer

open Switchgear.Lib
open Std (ExtTreeMap)

variable {A : Type}

/-! ## §1. What both stores keep. -/

/-- An offer without the metadata it came with. -/
def OfferRecordTimestamped.kept (entry : OfferRecordTimestamped A) : OfferRecord A :=
  entry.offer.withoutMetadata

/-- Metadata as a caller sees it. -/
def OfferMetadataTimestamped.shown (entry : OfferMetadataTimestamped A) :
    Option (OfferMetadata A) :=
  some entry.metadata

/-- Metadata as a caller sees it, where the column holds some. -/
def MetadataModel.shown (text : OfferText A) (row : MetadataModel) : Option (OfferMetadata A) :=
  (text.metadataSparseCodec.decode row.metadata).map fun metadata =>
    { id := row.id, partition := row.partition, metadata }

/-- The two stores hold the same. -/
structure Agree (text : OfferText A) (mem : MemoryOfferStore A) (db : OfferDb) : Prop where
  offers : SameView OfferRecordTimestamped.kept (OfferModel.toDomain none) mem.offer db.offers
  metadata : SameView OfferMetadataTimestamped.shown (MetadataModel.shown text)
    mem.metadata db.metadata
  consistent : mem.Consistent

theorem Agree.new_migrated (text : OfferText A) :
    Agree text (MemoryOfferStore.new (A := A)) OfferDb.migrated where
  offers := SameView.empty
  metadata := SameView.empty
  consistent := MemoryOfferStore.consistent_new

/-- Two answers are the same: equal values, or errors of the same kind. -/
def SameAnswer {α : Type} : Except OfferStoreError α → Except OfferStoreError α → Prop
  | .ok a, .ok b => a = b
  | .error e, .error e' => e.isInvalidInput = e'.isInvalidInput
  | _, _ => False

instance {α : Type} [DecidableEq α] :
    (a b : Except OfferStoreError α) → Decidable (SameAnswer a b)
  | .ok a, .ok b => inferInstanceAs (Decidable (a = b))
  | .error e, .error e' => inferInstanceAs (Decidable (e.isInvalidInput = e'.isInvalidInput))
  | .ok _, .error _ => isFalse id
  | .error _, .ok _ => isFalse id

theorem SameAnswer.refl {α : Type} (a : Except OfferStoreError α) : SameAnswer a a := by
  cases a with
  | ok a => rfl
  | error e => rfl

theorem sameAnswer_map_iff {α β : Type} {f : α → β} (hf : Function.Injective f)
    (a b : Except OfferStoreError α) : SameAnswer (a.map f) (b.map f) ↔ SameAnswer a b := by
  cases a with
  | ok a =>
      cases b with
      | ok b => exact hf.eq_iff
      | error e => exact Iff.rfl
  | error e =>
      cases b with
      | ok b => exact Iff.rfl
      | error e' => exact Iff.rfl

/-- A call both stores answer alike. -/
def CallAgrees (mem : MemoryOfferStore A) : OfferCall A → Prop
  -- memory keeps the metadata an offer was posted with, and shows it on a sparse read
  | .getOffer partition id sparse =>
      sparse.getD true = true → ∀ entry ∈ mem.offer[({ partition, id } : OfferKey)]?,
        entry.offer.offer.metadata = none
  -- memory asks for the metadata first, the database for the key
  | .postOffer offer => offer.key ∈ mem.offer → offer.metadataKey ∈ mem.metadata
  | _ => True

instance [DecidableEq A] (mem : MemoryOfferStore A) :
    (call : OfferCall A) → Decidable (CallAgrees mem call)
  | .getOffer partition id sparse =>
      inferInstanceAs (Decidable (sparse.getD true = true →
        ∀ entry ∈ mem.offer[({ partition, id } : OfferKey)]?, entry.offer.offer.metadata = none))
  | .postOffer offer =>
      inferInstanceAs (Decidable (offer.key ∈ mem.offer → offer.metadataKey ∈ mem.metadata))
  | .putOffer _ | .deleteOffer _ _ | .getMetadata _ _ | .postMetadata _ | .putMetadata _
  | .deleteMetadata _ _ | .getOffers _ _ _ | .getAllMetadata _ _ _ => isTrue trivial

/-- The call is about one record. -/
def OfferCall.ofOneRecord : OfferCall A → Bool
  | .getOffers _ _ _ | .getAllMetadata _ _ _ => false
  | _ => true

/-! ## §2. The rows. -/

section Rows

variable {eng : Engine} (hexact : ∀ t, eng.storeTimestamp t = t)

include hexact

theorem storedOffer_toDomain (now : DateTime) (offer : OfferRecord A) :
    (OfferDb.storedOffer eng (OfferDb.offerActiveModel now offer)).toDomain none
      = offer.withoutMetadata := by
  have hcolumns : eng.storeTimestamp = id := funext hexact
  unfold OfferModel.toDomain OfferDb.storedOffer OfferDb.offerActiveModel
    OfferRecord.withoutMetadata
  simp [hcolumns]

/-- The upsert leaves the columns of the new offer, whatever the row was. -/
theorem putRow_toDomain (now : DateTime) (offer : OfferRecord A) {db : OfferDb}
    (hkeys : OwnKeys OfferModel.key db.offers) :
    ((OfferDb.putRow eng now offer db).toDomain none : OfferRecord A)
      = offer.withoutMetadata := by
  unfold OfferDb.putRow
  -- the update list leaves out the key, which the row has already
  cases hrow : db.offers[offer.key]? with
  | none => exact storedOffer_toDomain hexact now offer
  | some row =>
      have hkey : row.key = offer.key := hkeys _ _ hrow
      obtain ⟨hpartition, hid⟩ := OfferKey.mk.inj hkey
      have hcolumns : eng.storeTimestamp = id := funext hexact
      unfold OfferModel.toDomain OfferDb.upsertedOffer OfferDb.onConflictUpdateOffer
        OfferDb.offerActiveModel OfferRecord.withoutMetadata
      simp [hcolumns, hpartition, hid]

omit hexact

theorem storedMetadata_shown (eng : Engine) (text : OfferText A) (now : DateTime)
    (metadata : OfferMetadata A) :
    (OfferDb.storedMetadata eng (OfferDb.metadataActiveModel text now metadata)).shown text
      = some metadata := by
  have hdecode : text.metadataSparseCodec.decode
      (text.metadataSparseCodec.encode metadata.metadata) = some metadata.metadata :=
    text.metadataSparse_roundTrips metadata.metadata
  unfold MetadataModel.shown OfferDb.storedMetadata OfferDb.metadataActiveModel
  rw [hdecode]
  rfl

theorem putMetadataRow_shown (eng : Engine) (text : OfferText A) (now : DateTime)
    (metadata : OfferMetadata A) {db : OfferDb}
    (hkeys : OwnKeys MetadataModel.key db.metadata) :
    (OfferDb.putMetadataRow eng text now metadata db).shown text = some metadata := by
  unfold OfferDb.putMetadataRow
  cases hrow : db.metadata[metadata.key]? with
  | none => exact storedMetadata_shown eng text now metadata
  | some row =>
      have hkey : row.key = metadata.key := hkeys _ _ hrow
      obtain ⟨hpartition, hid⟩ := OfferKey.mk.inj hkey
      have hdecode : text.metadataSparseCodec.decode
          (text.metadataSparseCodec.encode metadata.metadata) = some metadata.metadata :=
        text.metadataSparse_roundTrips metadata.metadata
      unfold MetadataModel.shown OfferDb.upsertedMetadata OfferDb.metadataActiveModel
      dsimp only
      rw [hdecode, hpartition, hid]
      rfl

end Rows

/-! ## §3. What the relation says. -/

namespace Agree

variable {text : OfferText A} {mem : MemoryOfferStore A} {db : OfferDb}

/-- The rows of offers are under their own keys, as the records are. -/
theorem offerRowKeys (h : Agree text mem db) : OwnKeys OfferModel.key db.offers := by
  intro k row hrow
  obtain ⟨entry, hentry, hview⟩ := h.offers.symm.exists_right hrow
  have hkey : row.key = entry.key := congrArg OfferRecord.key hview
  rw [hkey]
  exact h.consistent.offerKeys k entry hentry

/-- The metadata of a row is what the record holds. -/
theorem decode_of_entry {entry : OfferMetadataTimestamped A} {row : MetadataModel}
    (hview : entry.shown = row.shown text) :
    text.metadataSparseCodec.decode row.metadata = some entry.metadata.metadata
      ∧ row.key = entry.key := by
  unfold OfferMetadataTimestamped.shown MetadataModel.shown at hview
  obtain ⟨metadata, hdecode, hsame⟩ := Option.map_eq_some_iff.mp hview.symm
  rw [hdecode]
  unfold OfferMetadataTimestamped.key
  rw [← hsame]
  exact ⟨rfl, rfl⟩

theorem metadataRowKeys (h : Agree text mem db) : OwnKeys MetadataModel.key db.metadata := by
  intro k row hrow
  obtain ⟨entry, hentry, hview⟩ := h.metadata.symm.exists_right hrow
  rw [(decode_of_entry hview.symm).2]
  exact h.consistent.metadataKeys k entry hentry

/-- Both stores refuse to delete the same metadata. -/
theorem referenced_eq (h : Agree text mem db) (partition : String) (id : Uuid) :
    db.referenced { partition, id } = mem.metadataInUse partition id := by
  rw [Bool.eq_iff_iff, MemoryOfferStore.metadataInUse_iff]
  unfold OfferDb.referenced
  rw [any_values_iff]
  constructor
  · intro hrow
    obtain ⟨key, row, hrow, hrefers⟩ := hrow
    obtain ⟨entry, hentry, hview⟩ := h.offers.symm.exists_right hrow
    have hkey : row.metadataKey = entry.metadataKey := congrArg OfferRecord.metadataKey hview
    exact ⟨key, entry, hentry, hkey.symm.trans (of_decide_eq_true hrefers)⟩
  · intro hentry
    obtain ⟨key, entry, hentry, hrefers⟩ := hentry
    obtain ⟨row, hrow, hview⟩ := h.offers.exists_right hentry
    have hkey : entry.metadataKey = row.metadataKey := congrArg OfferRecord.metadataKey hview
    exact ⟨key, row, hrow, decide_eq_true (hkey.symm.trans hrefers)⟩

/-- What both stores look up for a full read is there. -/
theorem full_read (h : Agree text mem db) {key : OfferKey} {entry : OfferRecordTimestamped A}
    (hentry : mem.offer[key]? = some entry) {row : OfferModel}
    (hview : entry.kept = row.toDomain none) :
    ∃ (parent : OfferMetadataTimestamped A) (parentRow : MetadataModel),
      mem.metadata[entry.metadataKey]? = some parent
        ∧ db.metadata[row.metadataKey]? = some parentRow
        ∧ text.metadataSparseCodec.decode parentRow.metadata = some parent.metadata.metadata := by
  have hkey : entry.metadataKey = row.metadataKey := congrArg OfferRecord.metadataKey hview
  obtain ⟨parent, hparent⟩ := h.consistent.references.exists_parent hentry
  obtain ⟨parentRow, hparentRow, hshown⟩ := h.metadata.exists_right hparent
  rw [hkey] at hparentRow
  exact ⟨parent, parentRow, hparent, hparentRow, (decode_of_entry hshown).1⟩

end Agree

/-! ## §4. Each method keeps the relation; when the answers agree. -/

/-- Every row was created at or before `now`. -/
structure CreatedBefore (eng : Engine) (db : OfferDb) (now : DateTime) : Prop where
  offers : EveryValue (fun row : OfferModel => row.createdAt ≤ eng.storeTimestamp now) db.offers
  metadata : EveryValue (fun row : MetadataModel => row.createdAt ≤ eng.storeTimestamp now)
    db.metadata

/-- A row created at or before the call shows an update a second after it. -/
theorem created_ne_updated {eng : Engine} {created now : DateTime}
    (h : created ≤ eng.storeTimestamp now) : created ≠ eng.storeTimestamp (now + second) :=
  (h.trans_lt (eng.storeTimestamp_second now)).ne

section Methods

variable {eng : Engine} {text : OfferText A} {mem : MemoryOfferStore A} {db : OfferDb}

theorem withoutMetadata_eq_iff (offer : OfferRecord A) :
    offer = offer.withoutMetadata ↔ offer.offer.metadata = none := by
  constructor
  · intro heq
    rw [heq]
    rfl
  · intro hnone
    unfold OfferRecord.withoutMetadata
    rw [← hnone]

variable (eng) in
/-- **Reading an offer**: alike, except for the metadata a sparse read shows. -/
theorem getOffer_agrees_iff (h : Agree text mem db) (partition : String) (id : Uuid)
    (sparse : Option Bool) :
    SameAnswer (mem.getOffer partition id sparse).1
        (OfferDb.getOffer eng Faults.none text partition id sparse db).1
      ↔ CallAgrees mem (.getOffer partition id sparse) := by
  unfold CallAgrees MemoryOfferStore.getOffer OfferDb.getOffer OfferDb.selectOfferWithMetadata
    Faults.none Statement.exec
  dsimp only
  cases hentry : mem.offer[({ partition, id } : OfferKey)]? with
  | none =>
      rw [(h.offers.none_iff _).mp hentry]
      simp [SameAnswer]
  | some entry =>
      obtain ⟨row, hrow, hview⟩ := h.offers.exists_right hentry
      obtain ⟨parent, parentRow, hparent, hparentRow, hdecode⟩ := h.full_read hentry hview
      have hkey : entry.metadataKey = { partition, id := entry.offer.offer.metadataId } := by
        have hown := h.consistent.offerKeys _ _ hentry
        have hpartition : entry.offer.partition = partition := congrArg OfferKey.partition hown
        unfold OfferRecordTimestamped.metadataKey OfferRecord.metadataKey
        rw [hpartition]
      rw [hkey] at hparent
      rw [hrow]
      cases hsparse : sparse.getD true with
      | true =>
          have hsame : SameAnswer (.ok (some entry.offer)) (.ok (some (row.toDomain none)))
              ↔ entry.offer.offer.metadata = none := by
            rw [← hview, ← withoutMetadata_eq_iff]
            exact (Option.some_injective _).eq_iff
          simpa using hsame
      | false =>
          have hfull : entry.offer.withMetadata parent.metadata.metadata
              = row.toDomain (some parent.metadata.metadata) :=
            congrArg (OfferRecord.withMetadata · parent.metadata.metadata) hview
          simp [hparent, hparentRow, hdecode, hfull, SameAnswer]

/-- **Posting an offer**: alike, except for a known key whose metadata is not there. -/
theorem postOffer_agrees_iff [Repr A] (hexact : ∀ t, eng.storeTimestamp t = t)
    (h : Agree text mem db) (now : DateTime) (offer : OfferRecord A) :
    Agree text (mem.postOffer now offer).2 (OfferDb.postOffer eng Faults.none now offer db).2
      ∧ (SameAnswer (mem.postOffer now offer).1
            (OfferDb.postOffer eng Faults.none now offer db).1
          ↔ CallAgrees mem (.postOffer offer)) := by
  have hconsistent := h.consistent.step now (.postOffer offer)
  change (mem.postOffer now offer).2.Consistent at hconsistent
  unfold CallAgrees
  unfold MemoryOfferStore.postOffer at hconsistent ⊢
  by_cases htaken : offer.key ∈ mem.offer
  · rw [OfferDb.postOffer_taken now ((h.offers.mem_iff _).mp htaken)]
    by_cases hparent : offer.metadataKey ∈ mem.metadata
    · rw [if_neg (not_not.mpr hparent), if_pos htaken]
      exact ⟨h, fun _ _ => hparent, fun _ => rfl⟩
    · -- the map store reports the metadata, the database the key
      rw [if_pos hparent]
      exact ⟨h, fun hsame => hsame.elim, fun hcall => absurd (hcall htaken) hparent⟩
  · have hfree : offer.key ∉ db.offers := fun hrow => htaken ((h.offers.mem_iff _).mpr hrow)
    by_cases hparent : offer.metadataKey ∈ mem.metadata
    · rw [if_neg (not_not.mpr hparent), if_neg htaken] at hconsistent ⊢
      rw [OfferDb.postOffer_inserted now hfree ((h.metadata.mem_iff _).mp hparent)]
      refine ⟨⟨h.offers.insert _ ?_, h.metadata, hconsistent⟩, fun _ _ => hparent, fun _ => rfl⟩
      exact (storedOffer_toDomain hexact now offer).symm
    · have horphan : offer.metadataKey ∉ db.metadata := fun hrow =>
        hparent ((h.metadata.mem_iff _).mpr hrow)
      rw [if_pos hparent, OfferDb.postOffer_orphan now hfree horphan]
      exact ⟨h, fun _ hin => absurd hin htaken, fun _ => rfl⟩

/-- The flag of the database is read off the two timestamps of the row: a new row has them
equal, an updated one has them a second or more apart. -/
theorem putOffer_agrees [Repr A] (hexact : ∀ t, eng.storeTimestamp t = t)
    (h : Agree text mem db) {now : DateTime} (hcreated : CreatedBefore eng db now)
    (offer : OfferRecord A) :
    Agree text (mem.putOffer now offer).2 (OfferDb.putOffer eng Faults.none now offer db).2
      ∧ SameAnswer (mem.putOffer now offer).1
          (OfferDb.putOffer eng Faults.none now offer db).1 := by
  have hconsistent := h.consistent.step now (.putOffer offer)
  change (mem.putOffer now offer).2.Consistent at hconsistent
  unfold MemoryOfferStore.putOffer at hconsistent ⊢
  by_cases hparent : offer.metadataKey ∈ mem.metadata
  · rw [if_neg (not_not.mpr hparent)] at hconsistent ⊢
    rw [OfferDb.putOffer_ok now ((h.metadata.mem_iff _).mp hparent)]
    refine ⟨⟨h.offers.insert _ ?_, h.metadata, hconsistent⟩, ?_⟩
    · exact (putRow_toDomain hexact now offer h.offerRowKeys).symm
    · unfold SameAnswer OfferDb.putRow
      dsimp only
      cases hentry : mem.offer[offer.key]? with
      | none =>
          rw [(h.offers.none_iff _).mp hentry]
          exact (decide_eq_true rfl).symm
      | some entry =>
          obtain ⟨row, hrow, -⟩ := h.offers.exists_right hentry
          rw [hrow]
          exact (decide_eq_false (created_ne_updated (hcreated.offers _ _ hrow))).symm
  · have horphan : offer.metadataKey ∉ db.metadata := fun hrow =>
      hparent ((h.metadata.mem_iff _).mpr hrow)
    unfold OfferDb.putOffer
    rw [if_pos hparent, OfferDb.putOfferUpsert_orphan now horphan]
    exact ⟨h, rfl⟩

theorem deleteOffer_agrees [Repr A] (h : Agree text mem db) (now : DateTime)
    (partition : String) (id : Uuid) :
    Agree text (mem.deleteOffer partition id).2
        (OfferDb.deleteOffer Faults.none partition id db).2
      ∧ SameAnswer (mem.deleteOffer partition id).1
          (OfferDb.deleteOffer Faults.none partition id db).1 := by
  have hconsistent := h.consistent.step now (.deleteOffer partition id)
  change (mem.deleteOffer partition id).2.Consistent at hconsistent
  rw [OfferDb.deleteOffer_none]
  refine ⟨⟨h.offers.erase _, h.metadata, hconsistent⟩, ?_⟩
  have hmem := h.offers.mem_iff { partition, id }
  rw [ExtTreeMap.mem_iff_isSome_getElem?, ExtTreeMap.mem_iff_isSome_getElem?,
    ← Bool.eq_iff_iff] at hmem
  exact hmem

variable (eng) in
theorem getMetadata_agrees (h : Agree text mem db) (partition : String) (id : Uuid) :
    SameAnswer (mem.getMetadata partition id).1
      (OfferDb.getMetadata eng Faults.none text partition id db).1 := by
  unfold MemoryOfferStore.getMetadata OfferDb.getMetadata OfferDb.selectMetadata Faults.none
    Statement.exec
  dsimp only
  cases hentry : mem.metadata[({ partition, id } : OfferKey)]? with
  | none =>
      rw [(h.metadata.none_iff _).mp hentry]
      rfl
  | some entry =>
      obtain ⟨row, hrow, hview⟩ := h.metadata.exists_right hentry
      obtain ⟨hdecode, hkey⟩ := Agree.decode_of_entry hview
      obtain ⟨hpartition, hid⟩ := OfferKey.mk.inj hkey
      rw [hrow]
      unfold OfferDb.metadataToDomain
      dsimp only
      rw [hdecode]
      dsimp only
      rw [hid, hpartition]
      rfl

variable (eng) in
theorem postMetadata_agrees [Repr A] (h : Agree text mem db) (now : DateTime)
    (metadata : OfferMetadata A) :
    Agree text (mem.postMetadata now metadata).2
        (OfferDb.postMetadata eng Faults.none text now metadata db).2
      ∧ SameAnswer (mem.postMetadata now metadata).1
          (OfferDb.postMetadata eng Faults.none text now metadata db).1 := by
  have hconsistent := h.consistent.step now (.postMetadata metadata)
  change (mem.postMetadata now metadata).2.Consistent at hconsistent
  unfold MemoryOfferStore.postMetadata at hconsistent ⊢
  by_cases htaken : metadata.key ∈ mem.metadata
  · rw [if_pos htaken, OfferDb.postMetadata_taken text now ((h.metadata.mem_iff _).mp htaken)]
    exact ⟨h, rfl⟩
  · have hfree : metadata.key ∉ db.metadata := fun hrow =>
      htaken ((h.metadata.mem_iff _).mpr hrow)
    rw [if_neg htaken] at hconsistent ⊢
    rw [OfferDb.postMetadata_inserted text now hfree]
    refine ⟨⟨h.offers, h.metadata.insert _ ?_, hconsistent⟩, rfl⟩
    exact (storedMetadata_shown eng text now metadata).symm

theorem putMetadata_agrees [Repr A] (h : Agree text mem db) {now : DateTime}
    (hcreated : CreatedBefore eng db now) (metadata : OfferMetadata A) :
    Agree text (mem.putMetadata now metadata).2
        (OfferDb.putMetadata eng Faults.none text now metadata db).2
      ∧ SameAnswer (mem.putMetadata now metadata).1
          (OfferDb.putMetadata eng Faults.none text now metadata db).1 := by
  have hconsistent := h.consistent.step now (.putMetadata metadata)
  change (mem.putMetadata now metadata).2.Consistent at hconsistent
  unfold MemoryOfferStore.putMetadata at hconsistent ⊢
  rw [OfferDb.putMetadata_ok]
  refine ⟨⟨h.offers, h.metadata.insert _ ?_, hconsistent⟩, ?_⟩
  · exact (putMetadataRow_shown eng text now metadata h.metadataRowKeys).symm
  · unfold SameAnswer OfferDb.putMetadataRow
    dsimp only
    cases hentry : mem.metadata[metadata.key]? with
    | none =>
        rw [(h.metadata.none_iff _).mp hentry]
        exact (decide_eq_true rfl).symm
    | some entry =>
        obtain ⟨row, hrow, -⟩ := h.metadata.exists_right hentry
        rw [hrow]
        exact (decide_eq_false (created_ne_updated (hcreated.metadata _ _ hrow))).symm

variable (eng) in
/-- Metadata that is not there is not in use: the order of the two checks does not show. -/
theorem deleteMetadata_agrees [Repr A] (h : Agree text mem db) (now : DateTime)
    (partition : String) (id : Uuid) :
    Agree text (mem.deleteMetadata partition id).2
        (OfferDb.deleteMetadata eng Faults.none partition id db).2
      ∧ SameAnswer (mem.deleteMetadata partition id).1
          (OfferDb.deleteMetadata eng Faults.none partition id db).1 := by
  have hconsistent := h.consistent.step now (.deleteMetadata partition id)
  change (mem.deleteMetadata partition id).2.Consistent at hconsistent
  have hreferenced := h.referenced_eq partition id
  unfold MemoryOfferStore.deleteMetadata at hconsistent ⊢
  cases hused : mem.metadataInUse partition id with
  | true =>
      obtain ⟨key, entry, hentry, hrefers⟩ := (MemoryOfferStore.metadataInUse_iff _ _).mp hused
      have hmem : ({ partition, id } : OfferKey) ∈ mem.metadata := by
        rw [← hrefers]
        exact h.consistent.references key entry hentry
      rw [if_pos rfl, OfferDb.deleteMetadata_referenced ((h.metadata.mem_iff _).mp hmem)
        (hreferenced.trans hused)]
      exact ⟨h, rfl⟩
  | false =>
      rw [hused, if_neg Bool.false_ne_true] at hconsistent
      rw [if_neg Bool.false_ne_true]
      by_cases hmem : ({ partition, id } : OfferKey) ∈ mem.metadata
      · rw [OfferDb.deleteMetadata_deleted ((h.metadata.mem_iff _).mp hmem)
          (hreferenced.trans hused)]
        rw [ExtTreeMap.mem_iff_isSome_getElem?] at hmem
        exact ⟨⟨h.offers, h.metadata.erase _, hconsistent⟩, hmem⟩
      · have hrow : ({ partition, id } : OfferKey) ∉ db.metadata := fun hin =>
          hmem ((h.metadata.mem_iff _).mpr hin)
        rw [OfferDb.deleteMetadata_missing hrow]
        dsimp only at hconsistent ⊢
        rw [erase_of_not_mem hmem] at hconsistent ⊢
        rw [ExtTreeMap.mem_iff_isSome_getElem?, Bool.not_eq_true] at hmem
        exact ⟨⟨h.offers, h.metadata, hconsistent⟩, hmem⟩

theorem OfferAnswer.offer_injective : Function.Injective (OfferAnswer.offer (A := A)) :=
  fun _ _ h => OfferAnswer.offer.inj h

theorem OfferAnswer.posted_injective : Function.Injective (OfferAnswer.posted (A := A)) :=
  fun _ _ h => OfferAnswer.posted.inj h

theorem OfferAnswer.flag_injective : Function.Injective (OfferAnswer.flag (A := A)) :=
  fun _ _ h => OfferAnswer.flag.inj h

theorem OfferAnswer.metadata_injective : Function.Injective (OfferAnswer.metadata (A := A)) :=
  fun _ _ h => OfferAnswer.metadata.inj h

/-- **One call**: the stores stay in agreement, and answer the same exactly if the call is
one they answer alike. -/
theorem machine_agrees_iff [Repr A] (hexact : ∀ t, eng.storeTimestamp t = t)
    (h : Agree text mem db) {now : DateTime} (hcreated : CreatedBefore eng db now)
    {call : OfferCall A} (hcall : call.ofOneRecord = true) :
    let mem' := MemoryOfferStore.machine mem (now, call)
    let db' := OfferDb.machine eng Faults.none text db (now, call)
    Agree text mem'.2 db'.2 ∧ (SameAnswer mem'.1 db'.1 ↔ CallAgrees mem call) := by
  intro mem' db'
  cases call with
  | getOffer partition id sparse =>
      have hiff := (sameAnswer_map_iff OfferAnswer.offer_injective _ _).trans
        (getOffer_agrees_iff eng h partition id sparse)
      refine ⟨?_, hiff⟩
      show Agree text mem (OfferDb.getOffer eng Faults.none text partition id sparse db).2
      rw [OfferDb.getOffer_state]
      exact h
  | getOffers partition start count => cases hcall
  | postOffer offer =>
      obtain ⟨hstate, hiff⟩ := postOffer_agrees_iff hexact h now offer
      exact ⟨hstate, (sameAnswer_map_iff OfferAnswer.posted_injective _ _).trans hiff⟩
  | putOffer offer =>
      obtain ⟨hstate, hsame⟩ := putOffer_agrees hexact h hcreated offer
      exact ⟨hstate, iff_of_true ((sameAnswer_map_iff OfferAnswer.flag_injective _ _).mpr hsame)
        trivial⟩
  | deleteOffer partition id =>
      obtain ⟨hstate, hsame⟩ := deleteOffer_agrees h now partition id
      exact ⟨hstate, iff_of_true ((sameAnswer_map_iff OfferAnswer.flag_injective _ _).mpr hsame)
        trivial⟩
  | getMetadata partition id =>
      have hsame := getMetadata_agrees eng h partition id
      refine ⟨?_, iff_of_true
        ((sameAnswer_map_iff OfferAnswer.metadata_injective _ _).mpr hsame) trivial⟩
      show Agree text mem (OfferDb.getMetadata eng Faults.none text partition id db).2
      rw [OfferDb.getMetadata_state]
      exact h
  | getAllMetadata partition start count => cases hcall
  | postMetadata metadata =>
      obtain ⟨hstate, hsame⟩ := postMetadata_agrees eng h now metadata
      exact ⟨hstate, iff_of_true
        ((sameAnswer_map_iff OfferAnswer.posted_injective _ _).mpr hsame) trivial⟩
  | putMetadata metadata =>
      obtain ⟨hstate, hsame⟩ := putMetadata_agrees h hcreated metadata
      exact ⟨hstate, iff_of_true ((sameAnswer_map_iff OfferAnswer.flag_injective _ _).mpr hsame)
        trivial⟩
  | deleteMetadata partition id =>
      obtain ⟨hstate, hsame⟩ := deleteMetadata_agrees eng h now partition id
      exact ⟨hstate, iff_of_true ((sameAnswer_map_iff OfferAnswer.flag_injective _ _).mpr hsame)
        trivial⟩

end Methods

/-! ## §5. Whole runs. -/

section Runs

variable {eng : Engine} {text : OfferText A} {db : OfferDb}

theorem CreatedBefore.mono {now later : DateTime} (h : CreatedBefore eng db now)
    (hle : now ≤ later) : CreatedBefore eng db later where
  offers := h.offers.mono fun _ hrow => hrow.trans (eng.storeTimestamp_mono hle)
  metadata := h.metadata.mono fun _ hrow => hrow.trans (eng.storeTimestamp_mono hle)

theorem createdBefore_migrated (eng : Engine) (now : DateTime) :
    CreatedBefore eng OfferDb.migrated now where
  offers := EveryValue.empty
  metadata := EveryValue.empty

/-- The row of a put was created now, or when the row it replaces was. -/
theorem CreatedBefore.putRow {now : DateTime} (h : CreatedBefore eng db now)
    (offer : OfferRecord A) :
    (OfferDb.putRow eng now offer db).createdAt ≤ eng.storeTimestamp now := by
  unfold OfferDb.putRow
  cases hrow : db.offers[offer.key]? with
  | none => exact le_refl _
  | some row => exact h.offers _ row hrow

theorem CreatedBefore.putMetadataRow {now : DateTime} (h : CreatedBefore eng db now)
    (metadata : OfferMetadata A) :
    (OfferDb.putMetadataRow eng text now metadata db).createdAt ≤ eng.storeTimestamp now := by
  unfold OfferDb.putMetadataRow
  cases hrow : db.metadata[metadata.key]? with
  | none => exact le_refl _
  | some row => exact h.metadata _ row hrow

/-- No call creates a row in the future. -/
theorem machine_createdBefore [Repr A] {now : DateTime} (h : CreatedBefore eng db now)
    {call : OfferCall A} (hcall : call.ofOneRecord = true) :
    CreatedBefore eng (OfferDb.machine eng Faults.none text db (now, call)).2 now := by
  cases call with
  | getOffer partition id sparse =>
      show CreatedBefore eng (OfferDb.getOffer eng Faults.none text partition id sparse db).2 now
      rw [OfferDb.getOffer_state]
      exact h
  | getOffers partition start count => cases hcall
  | postOffer offer =>
      show CreatedBefore eng (OfferDb.postOffer eng Faults.none now offer db).2 now
      by_cases htaken : offer.key ∈ db.offers
      · rw [OfferDb.postOffer_taken now htaken]
        exact h
      · by_cases hparent : offer.metadataKey ∈ db.metadata
        · rw [OfferDb.postOffer_inserted now htaken hparent]
          exact ⟨h.offers.insert (le_refl _) _, h.metadata⟩
        · rw [OfferDb.postOffer_orphan now htaken hparent]
          exact h
  | putOffer offer =>
      show CreatedBefore eng (OfferDb.putOffer eng Faults.none now offer db).2 now
      by_cases hparent : offer.metadataKey ∈ db.metadata
      · rw [OfferDb.putOffer_ok now hparent]
        exact ⟨h.offers.insert (h.putRow offer) _, h.metadata⟩
      · unfold OfferDb.putOffer
        rw [OfferDb.putOfferUpsert_orphan now hparent]
        exact h
  | deleteOffer partition id =>
      show CreatedBefore eng (OfferDb.deleteOffer Faults.none partition id db).2 now
      rw [OfferDb.deleteOffer_none]
      exact ⟨h.offers.erase _, h.metadata⟩
  | getMetadata partition id =>
      show CreatedBefore eng (OfferDb.getMetadata eng Faults.none text partition id db).2 now
      rw [OfferDb.getMetadata_state]
      exact h
  | getAllMetadata partition start count => cases hcall
  | postMetadata metadata =>
      show CreatedBefore eng (OfferDb.postMetadata eng Faults.none text now metadata db).2 now
      by_cases htaken : metadata.key ∈ db.metadata
      · rw [OfferDb.postMetadata_taken text now htaken]
        exact h
      · rw [OfferDb.postMetadata_inserted text now htaken]
        exact ⟨h.offers, h.metadata.insert (le_refl _) _⟩
  | putMetadata metadata =>
      show CreatedBefore eng (OfferDb.putMetadata eng Faults.none text now metadata db).2 now
      rw [OfferDb.putMetadata_ok]
      exact ⟨h.offers, h.metadata.insert (h.putMetadataRow metadata) _⟩
  | deleteMetadata partition id =>
      show CreatedBefore eng (OfferDb.deleteMetadata eng Faults.none partition id db).2 now
      by_cases hmem : ({ partition, id } : OfferKey) ∈ db.metadata
      · cases hused : db.referenced { partition, id } with
        | true =>
            rw [OfferDb.deleteMetadata_referenced hmem hused]
            exact h
        | false =>
            rw [OfferDb.deleteMetadata_deleted hmem hused]
            exact ⟨h.offers, h.metadata.erase _⟩
      · rw [OfferDb.deleteMetadata_missing hmem]
        exact h

variable (eng text) in
/-- With a clock that never goes back, every call of a run meets only rows created before
it. -/
theorem along_createdBefore [Repr A] :
    ∀ (db : OfferDb) (calls : List (DateTime × OfferCall A)),
      (calls.map Prod.fst).Pairwise (· ≤ ·) →
      (∀ call ∈ calls, call.2.ofOneRecord = true) →
      (∀ call ∈ calls, CreatedBefore eng db call.1) →
      (OfferDb.machine eng Faults.none text).Along
        (fun db call => CreatedBefore eng db call.1 ∧ call.2.ofOneRecord = true) db calls
  | _, [], _, _, _ => trivial
  | db, (now, call) :: calls, hclock, hone, hbefore => by
      obtain ⟨hfirst, hrest⟩ := List.pairwise_cons.mp hclock
      have hnow : CreatedBefore eng db now := hbefore (now, call) List.mem_cons_self
      have hcall : call.ofOneRecord = true := hone (now, call) List.mem_cons_self
      refine ⟨⟨hnow, hcall⟩, along_createdBefore _ calls hrest
        (fun later hlater => hone later (List.mem_cons_of_mem _ hlater)) ?_⟩
      intro later hlater
      exact (machine_createdBefore hnow hcall).mono
        (hfirst later.1 (List.mem_map_of_mem hlater))

/-- **The two stores over whole runs**: started empty, with a clock that never goes back and
columns that keep every reading, they answer a run of calls about single records the same
exactly if no call of it posts a known key whose metadata is not there or reads sparsely an
offer that was written with metadata. -/
theorem run_answers_agree_iff [Repr A] (eng : Engine) (text : OfferText A)
    (calls : List (DateTime × OfferCall A)) (hexact : ∀ t, eng.storeTimestamp t = t)
    (hclock : (calls.map Prod.fst).Pairwise (· ≤ ·))
    (hone : ∀ call ∈ calls, call.2.ofOneRecord = true) :
    List.Forall₂ SameAnswer
        (MemoryOfferStore.machine.run MemoryOfferStore.new calls).1
        ((OfferDb.machine eng Faults.none text).run OfferDb.migrated calls).1
      ↔ MemoryOfferStore.machine.Along (fun mem call => CallAgrees mem call.2)
          MemoryOfferStore.new calls := by
  have hcreated := along_createdBefore eng text OfferDb.migrated calls hclock
    hone fun call _ => createdBefore_migrated eng call.1
  refine Machine.run_alike_iff MemoryOfferStore.machine (OfferDb.machine eng Faults.none text)
    (Agree text) _ SameAnswer (fun mem call => CallAgrees mem call.2) ?_ _ _ calls
    (Agree.new_migrated text) hcreated
  intro mem db call hagree hbefore
  exact machine_agrees_iff hexact hagree hbefore.1 hbefore.2

end Runs

/-! ## §6. A run on both sides of the condition. -/

def tea : OfferMetadataSparse String :=
  { text := "tea", longText := none, image := none, identifier := none }

/-- An offer of the only partition, with the metadata it is posted with. -/
def teaOffer (metadataId : Uuid) (metadata : Option (OfferMetadataSparse String)) :
    OfferRecord String where
  partition := "default"
  id := 1
  offer :=
    { maxSendable := 2000
      minSendable := 1000
      metadataId
      metadata
      timestamp := 0
      expires := none }

theorem run_answers_agree_tea :
    List.Forall₂ SameAnswer
      (MemoryOfferStore.machine.run MemoryOfferStore.new
        [(1, .postMetadata { id := 7, partition := "default", metadata := tea }),
          (2, .postOffer (teaOffer 7 none)), (3, .putOffer (teaOffer 8 none)),
          (4, .getOffer "default" 1 (some false)), (5, .deleteMetadata "default" 7)]).1
      ((OfferDb.machine Engine.exact Faults.none plainText).run OfferDb.migrated
        [(1, .postMetadata { id := 7, partition := "default", metadata := tea }),
          (2, .postOffer (teaOffer 7 none)), (3, .putOffer (teaOffer 8 none)),
          (4, .getOffer "default" 1 (some false)), (5, .deleteMetadata "default" 7)]).1 :=
  (run_answers_agree_iff Engine.exact plainText _ (fun _ => rfl) (by decide) (by decide)).mpr
    (by decide)

/-- The same key posted again for metadata that is not there: invalid input for the map
store, a conflict for the database.  And a sparse read of an offer posted with metadata. -/
theorem conflict_or_invalid_input :
    ¬ ∀ (eng : Engine) (text : OfferText String) (calls : List (DateTime × OfferCall String)),
      (∀ t, eng.storeTimestamp t = t) → (calls.map Prod.fst).Pairwise (· < ·) →
      (∀ call ∈ calls, call.2.ofOneRecord = true) →
      List.Forall₂ SameAnswer
        (MemoryOfferStore.machine.run MemoryOfferStore.new calls).1
        ((OfferDb.machine eng Faults.none text).run OfferDb.migrated calls).1 := by
  intro h
  have hrun := h Engine.exact plainText
    [(1, .postMetadata { id := 7, partition := "default", metadata := tea }),
      (2, .postOffer (teaOffer 7 (some tea))), (3, .postOffer (teaOffer 8 none)),
      (4, .getOffer "default" 1 none)]
    (fun _ => rfl) (by decide) (by decide)
  revert hrun
  decide

end Switchgear.Offer
