/-
  Switchgear.Offer.StoredNumbers — what the amounts of an offer are after they
  have been through the `big_integer` columns of the database store, and with
  `Discovery.StoredWeights` the numbers of both stores.

  `max_sendable as i64` and `as u64` have one width: the casts only move the
  sign, and every amount comes back.

    * `showsAmounts_of_row` — what the two reads make of a row's columns,
    * `step_offers`         — what a call does to the rows of offers,
    * `amounts_shown`       — over whole runs: the amounts are read as written,
    * `stored_numbers_iff`  — weights and amounts together.
-/
import Switchgear.Discovery.StoredWeights
import Switchgear.Offer.Equivalence

namespace Switchgear.Offer

open Switchgear.Lib
open Std (ExtTreeMap)

variable {A : Type}

namespace OfferDb

/-! ## §1. The write paths. -/

/-- The columns hold the amounts of the offer. -/
def HoldsAmounts (offer : OfferRecord A) (row : OfferModel) : Prop :=
  row.maxSendable = offer.offer.maxSendable.toInt64
    ∧ row.minSendable = offer.offer.minSendable.toInt64

theorem putRow_holdsAmounts (eng : Engine) (now : DateTime) (offer : OfferRecord A)
    (db : OfferDb) : HoldsAmounts offer (putRow eng now offer db) := by
  unfold putRow
  cases db.offers[offer.key]? with
  | none => exact ⟨rfl, rfl⟩
  | some row => exact ⟨rfl, rfl⟩

/-- The row of a put is under the key of its offer. -/
theorem putRow_key (eng : Engine) (now : DateTime) (offer : OfferRecord A) {db : OfferDb}
    (hkeys : OwnKeys OfferModel.key db.offers) : (putRow eng now offer db).key = offer.key := by
  unfold putRow
  cases hrow : db.offers[offer.key]? with
  | none => rfl
  | some row => exact hkeys offer.key row hrow

/-- The offer a call has written when it answers so. -/
def offerWritten : OfferCall A → OfferAnswer A → Option (OfferRecord A)
  | .postOffer offer, .posted (some _) => some offer
  | .putOffer offer, .flag _ => some offer
  | _, _ => none

/-- The call may write the row of the offer. -/
def WritesOffer (key : OfferKey) : OfferCall A → Prop
  | .postOffer offer => offer.key = key
  | .putOffer offer => offer.key = key
  | .deleteOffer partition id => ({ partition, id } : OfferKey) = key
  | _ => False

/-- What a call leaves of the rows of offers: the same rows, one of them written under
its own key, or one erased. -/
def OffersStep (call : OfferCall A) (before after : OfferDb) : Prop :=
  after.offers = before.offers
  ∨ (∃ key row, WritesOffer key call
      ∧ (OwnKeys OfferModel.key before.offers → row.key = key)
      ∧ after.offers = before.offers.insert key row)
  ∨ ∃ key, WritesOffer key call ∧ after.offers = before.offers.erase key

section Statements

variable (eng : Engine) (faults : Faults) (now : DateTime) (db : OfferDb)

theorem putOfferUpsert_outcome [Repr A] (offer : OfferRecord A) :
    (∃ e, putOfferUpsert eng faults now offer db = (.error e, db))
    ∨ putOfferUpsert eng faults now offer db
        = (.ok (), { db with offers := db.offers.insert offer.key (putRow eng now offer db) }) := by
  cases hstatement : faults.statement with
  | some e =>
      left
      unfold putOfferUpsert
      dsimp only
      rw [hstatement, Statement.exec_fault]
      dsimp only
      split
      · exact ⟨_, rfl⟩
      · exact ⟨_, rfl⟩
  | none =>
      have hsame : putOfferUpsert eng faults now offer db
          = putOfferUpsert eng Faults.none now offer db := by
        unfold putOfferUpsert
        rw [hstatement]
        rfl
      rw [hsame]
      by_cases hparent : offer.metadataKey ∈ db.metadata
      · exact .inr (putOfferUpsert_ok now hparent)
      · exact .inl ⟨_, putOfferUpsert_orphan now hparent⟩

/-- A put answers an error and keeps the rows, or its row is there whatever it answers. -/
theorem putOffer_outcome [Repr A] (offer : OfferRecord A) :
    (∃ e, putOffer eng faults now offer db = (.error e, db))
    ∨ (putOffer eng faults now offer db).2
        = { db with offers := db.offers.insert offer.key (putRow eng now offer db) } := by
  unfold putOffer
  rcases putOfferUpsert_outcome eng faults now db offer with ⟨e, herror⟩ | hok
  · left
    rw [herror]
    exact ⟨e, rfl⟩
  · right
    rw [hok]
    show (putOfferFetch faults offer.key _).2 = _
    unfold putOfferFetch selectOfferTimestamps Statement.exec
    cases faults.fetch <;> rfl

theorem postOffer_outcome [Repr A] (offer : OfferRecord A) :
    ((postOffer eng faults now offer db).2 = db
      ∧ ∀ id, (postOffer eng faults now offer db).1 ≠ .ok (some id))
    ∨ (postOffer eng faults now offer db).2
        = { db with
            offers := db.offers.insert offer.key
              (storedOffer eng (offerActiveModel now offer)) } := by
  cases hstatement : faults.statement with
  | some e =>
      left
      unfold postOffer
      dsimp only
      rw [hstatement, Statement.exec_fault]
      dsimp only
      split
      · exact ⟨rfl, fun id h => by cases h⟩
      · split
        · exact ⟨rfl, fun id h => by cases h⟩
        · exact ⟨rfl, fun id h => by cases h⟩
  | none =>
      have hsame : postOffer eng faults now offer db = postOffer eng Faults.none now offer db := by
        unfold postOffer
        rw [hstatement]
        rfl
      rw [hsame]
      by_cases htaken : offer.key ∈ db.offers
      · left
        rw [postOffer_taken now htaken]
        exact ⟨rfl, fun id h => by cases h⟩
      · by_cases hparent : offer.metadataKey ∈ db.metadata
        · right
          rw [postOffer_inserted now htaken hparent]
        · left
          rw [postOffer_orphan now htaken hparent]
          exact ⟨rfl, fun id h => by cases h⟩

end Statements

/-! ## §2. The rows over a run. -/

/-- The store as a machine: each input says which statements of the call fail. -/
def faultyMachine [Repr A] (eng : Engine) (text : OfferText A) :
    Machine OfferDb (Faults × DateTime × OfferCall A) (Except OfferStoreError (OfferAnswer A)) :=
  fun db (faults, input) => machine eng faults text db input

section Runs

variable {eng : Engine} {text : OfferText A} {faults : Faults} {now : DateTime} {db : OfferDb}

theorem deleteOffer_offers (partition : String) (id : Uuid) :
    (deleteOffer faults partition id db).2.offers = db.offers
    ∨ (deleteOffer faults partition id db).2.offers = db.offers.erase { partition, id } := by
  unfold deleteOffer deleteOfferById Statement.exec
  cases faults.statement with
  | some e => exact .inl rfl
  | none =>
      dsimp only
      by_cases hmem : ({ partition, id } : OfferKey) ∈ db.offers
      · rw [if_pos hmem]
        exact .inr rfl
      · rw [if_neg hmem]
        exact .inl rfl

theorem getOffers_state (partition : String) (start count : UInt64) :
    (getOffers (A := A) faults partition start count db).2 = db := by
  unfold getOffers selectOffers Statement.exec
  cases faults.statement <;> rfl

/-! The metadata calls leave the rows of offers alone. -/

theorem getAllMetadata_offers (partition : String) (start count : UInt64) :
    (getAllMetadata eng faults text partition start count db).2.offers = db.offers := by
  unfold getAllMetadata selectAllMetadata Statement.exec
  cases faults.statement <;> rfl

theorem postMetadata_offers (metadata : OfferMetadata A) :
    (postMetadata eng faults text now metadata db).2.offers = db.offers := by
  have hstate : (postMetadata eng faults text now metadata db).2
      = ((insertMetadata eng (metadataActiveModel text now metadata)).exec
          faults.statement db).2 := by
    unfold postMetadata
    dsimp only
    split
    · rfl
    · split <;> rfl
  rw [hstate]
  apply Statement.exec_keeps offers
  intro a after hinsert
  unfold insertMetadata at hinsert
  split at hinsert
  · cases hinsert
  · cases hinsert
    rfl

theorem putMetadata_offers (metadata : OfferMetadata A) :
    (putMetadata eng faults text now metadata db).2.offers = db.offers := by
  unfold putMetadata upsertMetadata selectMetadataTimestamps Statement.exec
  cases faults.statement with
  | some e => rfl
  | none => cases faults.fetch <;> rfl

theorem deleteMetadata_offers (partition : String) (id : Uuid) :
    (deleteMetadata eng faults partition id db).2.offers = db.offers := by
  have hstate : (deleteMetadata eng faults partition id db).2
      = ((deleteMetadataById eng { partition, id }).exec faults.statement db).2 := by
    unfold deleteMetadata
    dsimp only
    split
    · split <;> rfl
    · rfl
  rw [hstate]
  apply Statement.exec_keeps offers
  intro a after hdelete
  unfold deleteMetadataById at hdelete
  split at hdelete
  · cases hdelete
    rfl
  · split at hdelete
    · cases hdelete
    · cases hdelete
      rfl

theorem step_offers [Repr A] (eng : Engine) (text : OfferText A) (db : OfferDb)
    (input : Faults × DateTime × OfferCall A) :
    OffersStep input.2.2 db (faultyMachine eng text db input).2 := by
  obtain ⟨faults, now, call⟩ := input
  cases call with
  | getOffer partition id sparse =>
      exact .inl (congrArg offers (getOffer_state eng faults text partition id sparse db))
  | getOffers partition start count =>
      exact .inl (congrArg offers (getOffers_state partition start count))
  | postOffer offer =>
      rcases postOffer_outcome eng faults now db offer with ⟨hsame, -⟩ | hinserted
      · exact .inl (congrArg offers hsame)
      · exact .inr (.inl ⟨offer.key, _, rfl, fun _ => rfl, congrArg offers hinserted⟩)
  | putOffer offer =>
      rcases putOffer_outcome eng faults now db offer with ⟨e, herror⟩ | hput
      · exact .inl (congrArg (fun r => r.2.offers) herror)
      · exact .inr (.inl ⟨offer.key, _, rfl, putRow_key eng now offer, congrArg offers hput⟩)
  | deleteOffer partition id =>
      have hdelete : (deleteOffer faults partition id db).2.offers = db.offers
          ∨ (deleteOffer faults partition id db).2.offers = db.offers.erase { partition, id } :=
        deleteOffer_offers partition id
      rcases hdelete with hsame | herased
      · exact .inl hsame
      · exact .inr (.inr ⟨_, rfl, herased⟩)
  | getMetadata partition id =>
      exact .inl (congrArg offers (getMetadata_state eng faults text partition id db))
  | getAllMetadata partition start count => exact .inl (getAllMetadata_offers partition start count)
  | postMetadata metadata => exact .inl (postMetadata_offers metadata)
  | putMetadata metadata => exact .inl (putMetadata_offers metadata)
  | deleteMetadata partition id => exact .inl (deleteMetadata_offers partition id)

theorem OffersStep.keys {call : OfferCall A} {before after : OfferDb}
    (h : OffersStep call before after) (hkeys : OwnKeys OfferModel.key before.offers) :
    OwnKeys OfferModel.key after.offers := by
  rcases h with heq | ⟨key, row, -, hkey, heq⟩ | ⟨key, -, heq⟩
  · rw [heq]
    exact hkeys
  · rw [heq]
    exact hkeys.insert (hkey hkeys)
  · rw [heq]
    exact hkeys.erase key

theorem OffersStep.frame {call : OfferCall A} {before after : OfferDb} {key : OfferKey}
    (h : OffersStep call before after) (hother : ¬ WritesOffer key call) :
    after.offers[key]? = before.offers[key]? := by
  rcases h with heq | ⟨key', row, hwrites, -, heq⟩ | ⟨key', hwrites, heq⟩
  · rw [heq]
  · have hne : ¬ compare key' key = .eq :=
      fun h => hother (Std.LawfulEqOrd.eq_of_compare h ▸ hwrites)
    rw [heq, ExtTreeMap.getElem?_insert, if_neg hne]
  · have hne : ¬ compare key' key = .eq :=
      fun h => hother (Std.LawfulEqOrd.eq_of_compare h ▸ hwrites)
    rw [heq, ExtTreeMap.getElem?_erase, if_neg hne]

variable [Repr A] (eng text)

theorem run_keys {db : OfferDb} (hkeys : OwnKeys OfferModel.key db.offers)
    (inputs : List (Faults × DateTime × OfferCall A)) :
    OwnKeys OfferModel.key ((faultyMachine eng text).run db inputs).2.offers :=
  (faultyMachine eng text).run_invariant (fun db => OwnKeys OfferModel.key db.offers)
    (fun _ _ => True) (fun db input h _ => (step_offers eng text db input).keys h) db inputs hkeys
    ((faultyMachine eng text).along_of_forall _ _ fun _ _ _ => trivial)

theorem run_frame {key : OfferKey} :
    ∀ (db : OfferDb) (inputs : List (Faults × DateTime × OfferCall A)),
      (∀ input ∈ inputs, ¬ WritesOffer key input.2.2) →
      ((faultyMachine eng text).run db inputs).2.offers[key]? = db.offers[key]?
  | _, [], _ => rfl
  | db, input :: inputs, hother => by
      rw [Machine.run_cons,
        run_frame _ inputs fun input' h => hother input' (List.mem_cons_of_mem _ h)]
      exact (step_offers eng text db input).frame (hother input List.mem_cons_self)

/-- A write that answers success leaves a row with the amounts of its offer. -/
theorem write_holdsAmounts (faults : Faults) (now : DateTime) (call : OfferCall A) (db : OfferDb)
    {answer : OfferAnswer A} {offer : OfferRecord A}
    (hanswer : (faultyMachine eng text db (faults, now, call)).1 = .ok answer)
    (hwritten : offerWritten call answer = some offer) :
    ∃ row, (faultyMachine eng text db (faults, now, call)).2.offers[offer.key]? = some row
      ∧ HoldsAmounts offer row := by
  cases call with
  | postOffer posted =>
      have hpost : (postOffer eng faults now posted db).1.map OfferAnswer.posted = .ok answer :=
        hanswer
      cases hid : (postOffer eng faults now posted db).1 with
      | error e =>
          rw [hid] at hpost
          cases hpost
      | ok id =>
          rw [hid] at hpost
          cases hpost
          cases id with
          | none => cases hwritten
          | some id =>
              cases hwritten
              show ∃ row, (postOffer eng faults now offer db).2.offers[offer.key]? = some row ∧ _
              rcases postOffer_outcome eng faults now db offer with ⟨-, hnot⟩ | hinserted
              · exact absurd hid (hnot id)
              · rw [hinserted]
                exact ⟨_, ExtTreeMap.getElem?_insert_self, rfl, rfl⟩
  | putOffer put =>
      have hput : (putOffer eng faults now put db).1.map OfferAnswer.flag = .ok answer := hanswer
      cases hflag : (putOffer eng faults now put db).1 with
      | error e =>
          rw [hflag] at hput
          cases hput
      | ok flag =>
          rw [hflag] at hput
          cases hput
          cases hwritten
          show ∃ row, (putOffer eng faults now offer db).2.offers[offer.key]? = some row ∧ _
          rcases putOffer_outcome eng faults now db offer with ⟨e, herror⟩ | hwrote
          · rw [herror] at hflag
            cases hflag
          · rw [hwrote]
            exact ⟨_, ExtTreeMap.getElem?_insert_self, putRow_holdsAmounts eng now offer db⟩
  | _ => cases hwritten

end Runs

/-! ## §3. The read paths. -/

/-- The record has the amounts of the offer. -/
def SameAmounts (offer record : OfferRecord A) : Prop :=
  record.offer.maxSendable = offer.offer.maxSendable
    ∧ record.offer.minSendable = offer.offer.minSendable

/-- Both reads show the amounts of the offer under its key: a `get_offer` finds it, with
its metadata or without, and a page of `get_offers` that is not full contains it. -/
structure ShowsAmounts (eng : Engine) (text : OfferText A) (db : OfferDb)
    (offer : OfferRecord A) : Prop where
  found : ∃ record,
    (getOffer eng Faults.none text offer.partition offer.id none db).1 = .ok (some record)
  get : ∀ sparse record,
    (getOffer eng Faults.none text offer.partition offer.id sparse db).1 = .ok (some record) →
    SameAmounts offer record
  listed : ∀ start count records,
    (getOffers Faults.none offer.partition start count db).1 = .ok records →
    ∀ record ∈ records, record.id = offer.id → SameAmounts offer record
  contained : ∀ count (records : List (OfferRecord A)),
    (getOffers Faults.none offer.partition 0 count db).1 = .ok records →
    records.length < count.toNat → ∃ record ∈ records, record.id = offer.id

theorem toDomain_sameAmounts {offer : OfferRecord A} {row : OfferModel}
    (h : HoldsAmounts offer row) (metadata : Option (OfferMetadataSparse A)) :
    SameAmounts offer (row.toDomain metadata) := by
  obtain ⟨hmax, hmin⟩ := h
  unfold SameAmounts OfferModel.toDomain
  rw [hmax, hmin]
  exact ⟨UInt64.toUInt64_toInt64 _, UInt64.toUInt64_toInt64 _⟩

/-- What a full or sparse `get_offer` answers is built from the row. -/
theorem getOffer_some {eng : Engine} {text : OfferText A} {db : OfferDb} {partition : String}
    {id : Uuid} {sparse : Option Bool} {record : OfferRecord A}
    (h : (getOffer eng Faults.none text partition id sparse db).1 = .ok (some record)) :
    ∃ row metadata, db.offers[({ partition, id } : OfferKey)]? = some row
      ∧ record = row.toDomain metadata := by
  unfold getOffer selectOfferWithMetadata Statement.exec at h
  dsimp only [Faults.none] at h
  generalize sparse.getD true = full at h
  cases hrow : db.offers[({ partition, id } : OfferKey)]? with
  | none =>
      rw [hrow] at h
      cases h
  | some row =>
      rw [hrow] at h
      dsimp only [Option.map_some] at h
      generalize db.metadata[row.metadataKey]? = parent at h
      split at h
      · rename_i hfound
        cases hfound
        split at h
        · cases h
        · cases h
          exact ⟨row, _, rfl, rfl⟩
      · rename_i hfound
        cases hfound
        cases h
        exact ⟨row, none, rfl, rfl⟩
      · cases h

theorem mem_partitionRows {db : OfferDb} {partition : String} {row : OfferModel}
    (h : row ∈ (db.offers.toList.filter fun p => p.1.partition == partition).map Prod.snd) :
    ∃ key : OfferKey, key.partition = partition ∧ db.offers[key]? = some row := by
  obtain ⟨⟨key, row'⟩, hpair, rfl⟩ := List.mem_map.mp h
  obtain ⟨hmem, hpartition⟩ := List.mem_filter.mp hpair
  exact ⟨key, beq_iff_eq.mp hpartition, ExtTreeMap.mem_toList_iff_getElem?_eq_some.mp hmem⟩

/-- A page of offers is a page of rows. -/
theorem getOffers_page {db : OfferDb} {partition : String} {start count : UInt64}
    {records : List (OfferRecord A)}
    (h : (getOffers Faults.none partition start count db).1 = .ok records) :
    records = (MemoryOfferStore.page (fun row : OfferModel => (row.createdAt, row.id)) id
      partition start count db.offers).map (OfferModel.toDomain none) := by
  cases h
  rfl

theorem showsAmounts_of_row (eng : Engine) (text : OfferText A) {db : OfferDb}
    (hkeys : OwnKeys OfferModel.key db.offers) {offer : OfferRecord A} {row : OfferModel}
    (hrow : db.offers[offer.key]? = some row) (hamounts : HoldsAmounts offer row) :
    ShowsAmounts eng text db offer where
  found := by
    refine ⟨row.toDomain none, ?_⟩
    unfold getOffer selectOfferWithMetadata Statement.exec
    dsimp only [Faults.none]
    rw [show ({ partition := offer.partition, id := offer.id } : OfferKey) = offer.key from rfl,
      hrow, Option.map_some, Option.getD_none]
    cases db.metadata[row.metadataKey]? <;> rfl
  get := by
    intro sparse record hget
    obtain ⟨row', metadata, hrow', rfl⟩ := getOffer_some hget
    have hsame : row' = row := by
      rw [show ({ partition := offer.partition, id := offer.id } : OfferKey) = offer.key from rfl,
        hrow] at hrow'
      exact (Option.some.inj hrow').symm
    rw [hsame]
    exact toDomain_sameAmounts hamounts metadata
  listed := by
    intro start count records hpage record hrecord hid
    rw [getOffers_page hpage] at hrecord
    obtain ⟨row', hrow', rfl⟩ := List.mem_map.mp hrecord
    unfold MemoryOfferStore.page at hrow'
    rw [List.map_id] at hrow'
    have hlisted := (List.mem_insertionSort _).mp (List.mem_of_mem_drop (List.mem_of_mem_take hrow'))
    obtain ⟨key, hpartition, hfound⟩ := mem_partitionRows hlisted
    have hkey : key = offer.key := by
      have hown : row'.key = key := hkeys key row' hfound
      rw [← hown] at hpartition ⊢
      exact congrArg₂ OfferKey.mk hpartition hid
    rw [hkey, hrow] at hfound
    rw [← Option.some.inj hfound]
    exact toDomain_sameAmounts hamounts none
  contained := by
    intro count records hpage hshort
    refine ⟨row.toDomain none, ?_, congrArg OfferKey.id (hkeys offer.key row hrow)⟩
    rw [getOffers_page hpage] at hshort ⊢
    apply List.mem_map_of_mem
    unfold MemoryOfferStore.page at hshort ⊢
    simp only [List.map_id, List.length_map, List.length_take, UInt64.toNat_zero,
      List.drop_zero] at hshort ⊢
    -- a page that is not full is the whole partition
    rw [List.take_of_length_le (by omega), List.mem_insertionSort]
    exact List.mem_map.mpr ⟨(offer.key, row), List.mem_filter.mpr
      ⟨ExtTreeMap.mem_toList_iff_getElem?_eq_some.mpr hrow, beq_self_eq_true offer.partition⟩, rfl⟩

/-- A run of the store that writes an offer, then goes on without writing its key. -/
structure OfferRun (A : Type) [Repr A] (eng : Engine) (text : OfferText A) where
  before : List (Faults × DateTime × OfferCall A)
  faults : Faults
  now : DateTime
  write : OfferCall A
  between : List (Faults × DateTime × OfferCall A)
  answer : OfferAnswer A
  offer : OfferRecord A
  succeeds : (faultyMachine eng text ((faultyMachine eng text).run migrated before).2
    (faults, now, write)).1 = .ok answer
  writes : offerWritten write answer = some offer
  leaves : ∀ input ∈ between, ¬ WritesOffer offer.key input.2.2

/-- The database at the end of the run. -/
def OfferRun.after [Repr A] {eng : Engine} {text : OfferText A} (r : OfferRun A eng text) :
    OfferDb :=
  ((faultyMachine eng text).run migrated (r.before ++ (r.faults, r.now, r.write) :: r.between)).2

/-- Both reads show the amounts as they were written. -/
theorem amounts_shown [Repr A] {eng : Engine} {text : OfferText A} (r : OfferRun A eng text) :
    ShowsAmounts eng text r.after r.offer := by
  have hkeys : OwnKeys OfferModel.key r.after.offers := run_keys eng text OwnKeys.empty _
  obtain ⟨row, hrow, hamounts⟩ :=
    write_holdsAmounts eng text r.faults r.now r.write _ r.succeeds r.writes
  have hafter : r.after.offers[r.offer.key]? = some row := by
    unfold OfferRun.after
    rw [Machine.run_append, Machine.run_cons, run_frame eng text _ r.between r.leaves]
    exact hrow
  exact showsAmounts_of_row eng text hkeys hafter hamounts

/-- The metadata of the sample offer, posted to a fresh database. -/
def teaPosted : List (Faults × DateTime × OfferCall String) :=
  [(Faults.none, 0, .postMetadata { id := 7, partition := "default", metadata := tea })]

/-- The sample offer with other amounts. -/
def teaAmounts (maxSendable minSendable : UInt64) : OfferRecord String :=
  { teaOffer 7 none with offer := { (teaOffer 7 none).offer with maxSendable, minSendable } }

/-- The post of one offer of the given amounts. -/
def postedOffer (maxSendable minSendable : UInt64) : OfferRun String Engine.exact plainText where
  before := teaPosted
  faults := Faults.none
  now := 1
  write := .postOffer (teaAmounts maxSendable minSendable)
  between := []
  answer := .posted (some 1)
  offer := teaAmounts maxSendable minSendable
  succeeds := by
    have hfree : ({ partition := "default", id := 1 } : OfferKey)
        ∉ ((faultyMachine Engine.exact plainText).run migrated teaPosted).2.offers := by decide
    have hparent : ({ partition := "default", id := 7 } : OfferKey)
        ∈ ((faultyMachine Engine.exact plainText).run migrated teaPosted).2.metadata := by decide
    have hposted : (postOffer Engine.exact Faults.none 1 (teaAmounts maxSendable minSendable)
        ((faultyMachine Engine.exact plainText).run migrated teaPosted).2).1 = .ok (some 1) :=
      congrArg Prod.fst (postOffer_inserted 1 hfree hparent)
    exact congrArg (Except.map OfferAnswer.posted) hposted
  writes := rfl
  leaves := by simp

end OfferDb

open Discovery.DiscoveryDb in
/-- **Numbers through the databases**: in every run of the two stores, the amounts of an offer
are read back as they were written, and a weight is if and only if it is below 2^31 or one of
the 2^31 largest, through `get` as through `get_all`. -/
theorem stored_numbers_iff {K : Type} [Ord K] [Std.TransOrd K] [Std.LawfulEqOrd K] [ToString K]
    [Repr A] (weights : Discovery.Engine) (amounts : Engine) (text : OfferText A) :
    (∀ r : WeightRun K weights,
      (GetShows r.after r.write.publicKey r.weight ↔ Discovery.WeightSurvives r.weight)
        ∧ (GetAllShows r.after r.write.publicKey r.weight
            ↔ Discovery.WeightSurvives r.weight))
      ∧ ∀ r : OfferDb.OfferRun A amounts text,
          OfferDb.ShowsAmounts amounts text r.after r.offer :=
  ⟨weight_shown_iff, OfferDb.amounts_shown⟩

open Discovery.DiscoveryDb in
theorem stored_numbers_iff_extremes :
    (GetShows (postedWeight (2 ^ 31 - 1)).after 1 (2 ^ 31 - 1))
      ∧ GetAllShows (postedWeight (2 ^ 64 - 1)).after 1 (2 ^ 64 - 1)
      ∧ OfferDb.ShowsAmounts Engine.exact plainText
          (OfferDb.postedOffer (2 ^ 64 - 1) (2 ^ 63)).after
          (OfferDb.postedOffer (2 ^ 64 - 1) (2 ^ 63)).offer :=
  have hnumbers := stored_numbers_iff (K := ℕ) Discovery.Engine.exact Engine.exact plainText
  ⟨(hnumbers.1 (postedWeight (2 ^ 31 - 1))).1.mpr (by decide),
    (hnumbers.1 (postedWeight (2 ^ 64 - 1))).2.mpr (by decide),
    hnumbers.2 (OfferDb.postedOffer (2 ^ 64 - 1) (2 ^ 63))⟩

open Discovery.DiscoveryDb in
/-- A weight of 2^31 is read back as 2^64 - 2^31. -/
theorem large_weight_read_back_wrapped :
    ¬ ∀ r : WeightRun ℕ Discovery.Engine.exact,
        GetShows r.after r.write.publicKey r.weight
          ∧ GetAllShows r.after r.write.publicKey r.weight := by
  intro h
  have hsurvives := (weight_shown_iff (postedWeight (2 ^ 31))).1.mp (h (postedWeight (2 ^ 31))).1
  revert hsurvives
  decide

end Switchgear.Offer
