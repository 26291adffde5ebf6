/-
  Switchgear.Offer.Db — `DbOfferStore`: the two tables of the migration and the
  SQL statements over them.

  Every method is translated statement by statement.  What the database engine
  decides is a parameter (`Engine`): how a timestamp column stores a clock
  reading, and the errors it raises on the constraints of the migration.  What
  the environment decides is a parameter too (`Faults`): which statement of a
  call fails, and how.

  `max_sendable as i64` and `as u64` are the machine casts.  A primary-key
  conflict is reported before a violated foreign key.
-/
import Switchgear.Lib.Transaction
import Switchgear.ServiceApi.OfferJson
import Switchgear.Offer.Memory

namespace Switchgear.Offer

open Switchgear.Lib
open Std (ExtTreeMap)

/-! ## §1. The database engine and the tables. -/

/-- What the database engine decides. -/
structure Engine where
  /-- The value a timestamp column holds after a clock reading is written. -/
  storeTimestamp : DateTime → DateTime
  storeTimestamp_mono : Monotone storeTimestamp
  /-- The column tells readings apart that are a second or more apart. -/
  storeTimestamp_second : ∀ t, storeTimestamp t < storeTimestamp (t + second)
  /-- The error of an insert on an existing primary key. -/
  uniqueViolation : DbErr
  uniqueViolation_unique : uniqueViolation.isUniqueViolation = true
  /-- The error of an insert whose foreign key is not there. -/
  foreignKeyViolation : DbErr
  foreignKeyViolation_foreignKey : foreignKeyViolation.isForeignKeyViolation = true
  /-- The error of a delete that `ON DELETE RESTRICT` forbids. -/
  restrictViolation : DbErr
  restrictViolation_restricted : restrictViolation.isRestricted = true
  /-- The text of serde for a column that is no metadata. -/
  metadataError : String

/-- SQLite, with columns that keep every clock reading. -/
def Engine.exact : Engine where
  storeTimestamp := id
  storeTimestamp_mono := monotone_reading
  storeTimestamp_second := lt_add_second
  uniqueViolation := .exec (.database
    { kind := .uniqueViolation, code := some "1555", message := "UNIQUE constraint failed" })
  uniqueViolation_unique := rfl
  foreignKeyViolation := .exec (.database
    { kind := .foreignKeyViolation, code := some "787",
      message := "FOREIGN KEY constraint failed" })
  foreignKeyViolation_foreignKey := rfl
  restrictViolation := .exec (.database
    { kind := .other, code := some "1811", message := "FOREIGN KEY constraint failed" })
  restrictViolation_restricted := rfl
  metadataError := "invalid metadata"

/-- A row of `offer_record_table`. -/
structure OfferModel where
  partition : String
  id : Uuid
  maxSendable : Int64
  minSendable : Int64
  metadataId : Uuid
  timestamp : DateTime
  expires : Option DateTime
  createdAt : DateTime
  updatedAt : DateTime
  deriving DecidableEq

/-- A row of `offer_metadata_table`. -/
structure MetadataModel where
  partition : String
  id : Uuid
  metadata : Json
  createdAt : DateTime
  updatedAt : DateTime

def OfferModel.key (model : OfferModel) : OfferKey :=
  { partition := model.partition, id := model.id }

/-- The foreign key of the row. -/
def OfferModel.metadataKey (model : OfferModel) : OfferKey :=
  { partition := model.partition, id := model.metadataId }

def MetadataModel.key (model : MetadataModel) : OfferKey :=
  { partition := model.partition, id := model.id }

/-- The two tables, keyed by their primary keys. -/
structure OfferDb where
  offers : ExtTreeMap OfferKey OfferModel
  metadata : ExtTreeMap OfferKey MetadataModel

/-- The record the code builds from a row. -/
def OfferModel.toDomain {A : Type} (metadata : Option (OfferMetadataSparse A))
    (model : OfferModel) : OfferRecord A where
  partition := model.partition
  id := model.id
  offer :=
    { maxSendable := model.maxSendable.toUInt64
      minSendable := model.minSendable.toUInt64
      metadataId := model.metadataId
      metadata
      timestamp := model.timestamp
      expires := model.expires }

/-- Which statements of a call fail: the first one, and the timestamp fetch of a put. -/
structure Faults where
  statement : Option DbErr
  fetch : Option DbErr
  deriving DecidableEq

def Faults.none : Faults := { statement := .none, fetch := .none }

namespace OfferDb

/-- The state after `OfferMigrator::up`. -/
def migrated : OfferDb := { offers := ∅, metadata := ∅ }

/-! ## §2. Statements. -/

variable (eng : Engine)

/-- `find_by_id(key).find_also_related(OfferMetadataTable).one(..)`. -/
def selectOfferWithMetadata (key : OfferKey) :
    Statement OfferDb DbErr (Option (OfferModel × Option MetadataModel)) :=
  fun db => .ok (db.offers[key]?.map fun offer => (offer, db.metadata[offer.metadataKey]?), db)

/-- `find().filter(Partition.eq(..)).order_by_asc(CreatedAt).order_by_asc(Id)
.offset(start).limit(count).all(..)`.  The binder of SQLite panics at a number of `2 ^ 63` or
more; a page is given here. -/
def selectOffers (partition : String) (start count : UInt64) :
    Statement OfferDb DbErr (List OfferModel) :=
  fun db => .ok (MemoryOfferStore.page (fun row : OfferModel => (row.createdAt, row.id))
    id partition start count db.offers, db)

/-- The row as the columns hold it. -/
def storedOffer (model : OfferModel) : OfferModel :=
  { model with
    timestamp := eng.storeTimestamp model.timestamp
    expires := model.expires.map eng.storeTimestamp
    createdAt := eng.storeTimestamp model.createdAt
    updatedAt := eng.storeTimestamp model.updatedAt }

/-- `OfferRecordTable::insert(active_model)`. -/
def insertOffer (model : OfferModel) : Statement OfferDb DbErr Unit :=
  fun db =>
    if model.key ∈ db.offers then .error eng.uniqueViolation
    -- the primary key is asked first, the reference second
    else if model.metadataKey ∉ db.metadata then .error eng.foreignKeyViolation
    else .ok ((), { db with offers := db.offers.insert model.key (storedOffer eng model) })

/-- The `DO UPDATE SET` list of `put_offer`: the amounts, the metadata id, the two times
of the offer, and the update time. -/
def onConflictUpdateOffer (model : OfferModel) (futureTimestamp : DateTime) (row : OfferModel) :
    OfferModel :=
  { row with
    maxSendable := model.maxSendable
    minSendable := model.minSendable
    metadataId := model.metadataId
    timestamp := eng.storeTimestamp model.timestamp
    expires := model.expires.map eng.storeTimestamp
    updatedAt := eng.storeTimestamp futureTimestamp }

/-- The row the upsert leaves behind, given the row that was there. -/
def upsertedOffer (model : OfferModel) (futureTimestamp : DateTime) :
    Option OfferModel → OfferModel
  | none => storedOffer eng model
  | some row => onConflictUpdateOffer eng model futureTimestamp row

/-- `OfferRecordTable::insert(active_model).on_conflict(..)`. -/
def upsertOffer (model : OfferModel) (futureTimestamp : DateTime) :
    Statement OfferDb DbErr Unit :=
  fun db =>
    if model.metadataKey ∉ db.metadata then .error eng.foreignKeyViolation
    else
      .ok ((), { db with
        offers := db.offers.insert model.key
          (upsertedOffer eng model futureTimestamp db.offers[model.key]?) })

/-- `select created_at, updated_at where partition = .. and id = ..`. -/
def selectOfferTimestamps (key : OfferKey) :
    Statement OfferDb DbErr (Option (DateTime × DateTime)) :=
  fun db => .ok (db.offers[key]?.map fun row => (row.createdAt, row.updatedAt), db)

/-- `OfferRecordTable::delete_by_id(key)`; answers the number of rows affected. -/
def deleteOfferById (key : OfferKey) : Statement OfferDb DbErr Nat :=
  fun db =>
    if key ∈ db.offers then .ok (1, { db with offers := db.offers.erase key }) else .ok (0, db)

/-- `OfferMetadataTable::find_by_id(key).one(..)`. -/
def selectMetadata (key : OfferKey) : Statement OfferDb DbErr (Option MetadataModel) :=
  fun db => .ok (db.metadata[key]?, db)

/-- The metadata of a partition, ordered and limited as the offers are, and with the same panic
left out. -/
def selectAllMetadata (partition : String) (start count : UInt64) :
    Statement OfferDb DbErr (List MetadataModel) :=
  fun db => .ok (MemoryOfferStore.page (fun row : MetadataModel => (row.createdAt, row.id))
    id partition start count db.metadata, db)

/-- The row as the columns hold it. -/
def storedMetadata (model : MetadataModel) : MetadataModel :=
  { model with
    createdAt := eng.storeTimestamp model.createdAt
    updatedAt := eng.storeTimestamp model.updatedAt }

/-- `OfferMetadataTable::insert(active_model)`. -/
def insertMetadata (model : MetadataModel) : Statement OfferDb DbErr Unit :=
  fun db =>
    if model.key ∈ db.metadata then .error eng.uniqueViolation
    else .ok ((), { db with metadata := db.metadata.insert model.key (storedMetadata eng model) })

/-- The row the metadata upsert leaves behind: its update list is the metadata and the
update time. -/
def upsertedMetadata (model : MetadataModel) (futureTimestamp : DateTime) :
    Option MetadataModel → MetadataModel
  | none => storedMetadata eng model
  | some row =>
      { row with
        metadata := model.metadata
        updatedAt := eng.storeTimestamp futureTimestamp }

/-- `OfferMetadataTable::insert(active_model).on_conflict(..)`. -/
def upsertMetadata (model : MetadataModel) (futureTimestamp : DateTime) :
    Statement OfferDb DbErr Unit :=
  fun db =>
    .ok ((), { db with
      metadata := db.metadata.insert model.key
        (upsertedMetadata eng model futureTimestamp db.metadata[model.key]?) })

def selectMetadataTimestamps (key : OfferKey) :
    Statement OfferDb DbErr (Option (DateTime × DateTime)) :=
  fun db => .ok (db.metadata[key]?.map fun row => (row.createdAt, row.updatedAt), db)

/-- Some row refers to the metadata. -/
def referenced (key : OfferKey) (db : OfferDb) : Bool :=
  (db.offers.toList.map Prod.snd).any fun row => decide (row.metadataKey = key)

/-- `OfferMetadataTable::delete_by_id(key)`; answers the number of rows affected. -/
def deleteMetadataById (key : OfferKey) : Statement OfferDb DbErr Nat :=
  fun db =>
    if key ∉ db.metadata then .ok (0, db)
    else if db.referenced key then .error eng.restrictViolation
    else .ok (1, { db with metadata := db.metadata.erase key })

/-! ## §3. Offers. -/

variable (faults : Faults) {A : Type} (text : OfferText A)

/-- `partition {partition} id {id}`, the end of most contexts. -/
def atKey (key : OfferKey) : String :=
  "partition " ++ key.partition ++ " id " ++ Uuid.hyphenated key.id

def getOffer (partition : String) (id : Uuid) (sparse : Option Bool) (db : OfferDb) :
    Except OfferStoreError (Option (OfferRecord A)) × OfferDb :=
  let sparse := sparse.getD true
  let key : OfferKey := { partition, id }
  let (result, db) := (selectOfferWithMetadata key).exec faults.statement db
  match result with
  | .error e =>
      (.error (.fromDb .internal ("getting offer with metadata for " ++ atKey key) e), db)
  | .ok result =>
    match result, sparse with
    | some (offer, some metadata), false =>
      match text.metadataSparseCodec.decode metadata.metadata with
      | none =>
          (.error (.serializationError .internal ("deserializing metadata for " ++ atKey key)
            eng.metadataError), db)
      | some metadata => (.ok (some (offer.toDomain (some metadata))), db)
    | some (offer, _), true => (.ok (some (offer.toDomain none)), db)
    -- no row; or the metadata was asked for and is gone
    | _, _ => (.ok none, db)

def getOffers (partition : String) (start count : UInt64) (db : OfferDb) :
    Except OfferStoreError (List (OfferRecord A)) × OfferDb :=
  let (result, db) := (selectOffers partition start count).exec faults.statement db
  match result with
  | .error e => (.error (.fromDb .internal ("getting offers for partition " ++ partition) e), db)
  | .ok models => (.ok (models.map (OfferModel.toDomain none)), db)

/-- The `ActiveModel` of `post_offer` and `put_offer`. -/
def offerActiveModel (now : DateTime) (offer : OfferRecord A) : OfferModel where
  partition := offer.partition
  id := offer.id
  maxSendable := offer.offer.maxSendable.toInt64
  minSendable := offer.offer.minSendable.toInt64
  metadataId := offer.offer.metadataId
  timestamp := offer.offer.timestamp
  expires := offer.offer.expires
  createdAt := now
  updatedAt := now

def postOffer [Repr A] (now : DateTime) (offer : OfferRecord A) (db : OfferDb) :
    Except OfferStoreError (Option Uuid) × OfferDb :=
  let (result, db) := (insertOffer eng (offerActiveModel now offer)).exec faults.statement db
  match result with
  | .ok _ => (.ok (some offer.id), db)
  | .error e =>
      if e.isUniqueViolation then (.ok none, db)
      else if e.isForeignKeyViolation then
        (.error (MemoryOfferStore.metadataNotFound "post offer " offer), db)
      else (.error (.fromDb .internal ("inserting offer for " ++ atKey offer.key) e), db)

/-- The upsert of `put_offer`, with the errors the method makes of its failures. -/
def putOfferUpsert [Repr A] (now : DateTime) (offer : OfferRecord A) (db : OfferDb) :
    Except OfferStoreError Unit × OfferDb :=
  -- a second ahead of an insert at the same reading, so that the update shows
  let futureTimestamp := now + second
  let (result, db) :=
    (upsertOffer eng (offerActiveModel now offer) futureTimestamp).exec faults.statement db
  match result with
  | .ok _ => (.ok (), db)
  | .error e =>
      if e.isForeignKeyViolation then
        (.error (MemoryOfferStore.metadataNotFound "put offer " offer), db)
      else (.error (.fromDb .internal ("upserting offer for " ++ atKey offer.key) e), db)

/-- The answer of a put from the fetch of its row's two timestamps. -/
def createdFlag (context : String) (result : Except DbErr (Option (DateTime × DateTime))) :
    Except OfferStoreError Bool :=
  match result with
  | .error e => .error (.fromDb .internal context e)
  | .ok none =>
      .error (.fromDb .internal "upsert succeeded but record not found"
        (.recordNotFound "Record should exist after successful upsert"))
  | .ok (some result) => .ok (decide (result.1 = result.2))

/-- The timestamp fetch of `put_offer`, and its answer. -/
def putOfferFetch (key : OfferKey) (db : OfferDb) : Except OfferStoreError Bool × OfferDb :=
  let (result, db) := (selectOfferTimestamps key).exec faults.fetch db
  (createdFlag ("fetching offer after upsert for " ++ atKey key) result, db)

def putOffer [Repr A] (now : DateTime) (offer : OfferRecord A) (db : OfferDb) :
    Except OfferStoreError Bool × OfferDb :=
  match putOfferUpsert eng faults now offer db with
  | (.error e, db) => (.error e, db)
  | (.ok (), db) => putOfferFetch faults offer.key db

def deleteOffer (partition : String) (id : Uuid) (db : OfferDb) :
    Except OfferStoreError Bool × OfferDb :=
  let key : OfferKey := { partition, id }
  let (result, db) := (deleteOfferById key).exec faults.statement db
  match result with
  | .error e => (.error (.fromDb .internal ("deleting offer for " ++ atKey key) e), db)
  | .ok rowsAffected => (.ok (decide (rowsAffected > 0)), db)

/-! ## §4. Metadata. -/

/-- The metadata of a row, or the error of a column that is none. -/
def metadataToDomain (context : String) (model : MetadataModel) :
    Except OfferStoreError (OfferMetadata A) :=
  match text.metadataSparseCodec.decode model.metadata with
  | none => .error (.serializationError .internal context eng.metadataError)
  | some metadata => .ok { id := model.id, partition := model.partition, metadata }

def getMetadata (partition : String) (id : Uuid) (db : OfferDb) :
    Except OfferStoreError (Option (OfferMetadata A)) × OfferDb :=
  let key : OfferKey := { partition, id }
  let (result, db) := (selectMetadata key).exec faults.statement db
  match result with
  | .error e => (.error (.fromDb .internal ("getting metadata for " ++ atKey key) e), db)
  | .ok none => (.ok none, db)
  | .ok (some model) =>
      ((metadataToDomain eng text ("deserializing metadata for " ++ atKey key) model).map some,
        db)

def getAllMetadata (partition : String) (start count : UInt64) (db : OfferDb) :
    Except OfferStoreError (List (OfferMetadata A)) × OfferDb :=
  let (result, db) := (selectAllMetadata partition start count).exec faults.statement db
  match result with
  | .error e =>
      (.error (.fromDb .internal ("getting all metadata for partition " ++ partition) e), db)
  | .ok models =>
      (models.mapM fun model =>
        metadataToDomain eng text
          ("deserializing metadata for " ++ atKey { partition, id := model.id }) model, db)

/-- The `ActiveModel` of `post_metadata` and `put_metadata`; `serde_json::to_value` never
fails on metadata. -/
def metadataActiveModel (now : DateTime) (metadata : OfferMetadata A) : MetadataModel where
  partition := metadata.partition
  id := metadata.id
  metadata := text.metadataSparseCodec.encode metadata.metadata
  createdAt := now
  updatedAt := now

def postMetadata (now : DateTime) (metadata : OfferMetadata A) (db : OfferDb) :
    Except OfferStoreError (Option Uuid) × OfferDb :=
  let (result, db) :=
    (insertMetadata eng (metadataActiveModel text now metadata)).exec faults.statement db
  match result with
  | .ok _ => (.ok (some metadata.id), db)
  | .error e =>
      if e.isUniqueViolation then (.ok none, db)
      else (.error (.fromDb .internal ("inserting metadata for " ++ atKey metadata.key) e), db)

def putMetadata (now : DateTime) (metadata : OfferMetadata A) (db : OfferDb) :
    Except OfferStoreError Bool × OfferDb :=
  let futureTimestamp := now + second
  let (result, db) :=
    (upsertMetadata eng (metadataActiveModel text now metadata) futureTimestamp).exec
      faults.statement db
  match result with
  | .error e =>
      (.error (.fromDb .internal ("upserting metadata for " ++ atKey metadata.key) e), db)
  | .ok _ =>
      let (result, db) := (selectMetadataTimestamps metadata.key).exec faults.fetch db
      (createdFlag ("fetching metadata after upsert for " ++ atKey metadata.key) result, db)

def deleteMetadata (partition : String) (id : Uuid) (db : OfferDb) :
    Except OfferStoreError Bool × OfferDb :=
  let key : OfferKey := { partition, id }
  let (result, db) := (deleteMetadataById eng key).exec faults.statement db
  match result with
  | .error e =>
      if e.isRestricted then
        (.error (.invalidInputError ("deleting metadata for " ++ atKey key)
          ("metadata " ++ Uuid.hyphenated id ++ " is referenced by existing offers")), db)
      else (.error (.fromDb .internal ("deleting metadata for " ++ atKey key) e), db)
  | .ok rowsAffected => (.ok (decide (rowsAffected > 0)), db)

/-- `impl OfferStore for DbOfferStore`, with the statements of every call failing as
`faults` says. -/
def offerStore [Repr A] : OfferStore A OfferDb OfferStoreError where
  getOffer := getOffer eng faults text
  getOffers := getOffers faults
  postOffer := postOffer eng faults
  putOffer := putOffer eng faults
  deleteOffer := deleteOffer faults

/-- `impl OfferMetadataStore for DbOfferStore`. -/
def metadataStore : OfferMetadataStore A OfferDb OfferStoreError where
  getMetadata := getMetadata eng faults text
  getAllMetadata := getAllMetadata eng faults text
  postMetadata := postMetadata eng faults text
  putMetadata := putMetadata eng faults text
  deleteMetadata := deleteMetadata eng faults

/-- The store as a machine over the ten calls. -/
def machine [Repr A] :
    Machine OfferDb (DateTime × OfferCall A) (Except OfferStoreError (OfferAnswer A)) :=
  offerMachine (offerStore eng faults text) (metadataStore eng faults text)

/-! ## §5. The methods when no statement fails. -/

section Outcomes

variable {eng} {db : OfferDb} {offer : OfferRecord A} {metadata : OfferMetadata A}

/-- A violated foreign key is no primary-key conflict. -/
theorem not_isUniqueViolation {e : DbErr} (h : e.isForeignKeyViolation = true) :
    e.isUniqueViolation = false := by
  unfold DbErr.isForeignKeyViolation at h
  unfold DbErr.isUniqueViolation
  cases herr : e.databaseError? with
  | none => rfl
  | some err =>
      rw [herr, Option.any_some, beq_iff_eq] at h
      rw [Option.any_some, h]
      rfl

theorem getOffer_state (eng : Engine) (faults : Faults) (text : OfferText A) (partition : String)
    (id : Uuid) (sparse : Option Bool) (db : OfferDb) :
    (getOffer eng faults text partition id sparse db).2 = db := by
  unfold getOffer selectOfferWithMetadata Statement.exec
  dsimp only
  cases faults.statement with
  | some e => rfl
  | none =>
      dsimp only
      repeat' split
      all_goals rfl

theorem getMetadata_state (eng : Engine) (faults : Faults) (text : OfferText A)
    (partition : String) (id : Uuid) (db : OfferDb) :
    (getMetadata eng faults text partition id db).2 = db := by
  unfold getMetadata selectMetadata Statement.exec
  dsimp only
  cases faults.statement with
  | some e => rfl
  | none =>
      dsimp only
      split <;> rfl

theorem postOffer_taken [Repr A] (now : DateTime) (htaken : offer.key ∈ db.offers) :
    postOffer eng Faults.none now offer db = (.ok none, db) := by
  have hinsert : insertOffer eng (offerActiveModel now offer) db = .error eng.uniqueViolation :=
    if_pos htaken
  unfold postOffer
  rw [Faults.none, Statement.exec_error _ hinsert]
  exact if_pos eng.uniqueViolation_unique

theorem postOffer_orphan [Repr A] (now : DateTime) (hfree : offer.key ∉ db.offers)
    (horphan : offer.metadataKey ∉ db.metadata) :
    postOffer eng Faults.none now offer db
      = (.error (MemoryOfferStore.metadataNotFound "post offer " offer), db) := by
  have hinsert : insertOffer eng (offerActiveModel now offer) db
      = .error eng.foreignKeyViolation := (if_neg hfree).trans (if_pos horphan)
  have hunique := not_isUniqueViolation eng.foreignKeyViolation_foreignKey
  unfold postOffer
  rw [Faults.none, Statement.exec_error _ hinsert]
  dsimp only
  rw [hunique, if_neg Bool.false_ne_true, if_pos eng.foreignKeyViolation_foreignKey]

theorem postOffer_inserted [Repr A] (now : DateTime) (hfree : offer.key ∉ db.offers)
    (hparent : offer.metadataKey ∈ db.metadata) :
    postOffer eng Faults.none now offer db
      = (.ok (some offer.id),
          { db with
            offers := db.offers.insert offer.key
              (storedOffer eng (offerActiveModel now offer)) }) := by
  have hinsert : insertOffer eng (offerActiveModel now offer) db
      = .ok ((), { db with
          offers := db.offers.insert offer.key (storedOffer eng (offerActiveModel now offer)) }) :=
    (if_neg hfree).trans (if_neg (not_not.mpr hparent))
  unfold postOffer
  rw [Faults.none, Statement.exec_ok _ hinsert]

theorem putOfferUpsert_orphan [Repr A] (now : DateTime)
    (horphan : offer.metadataKey ∉ db.metadata) :
    putOfferUpsert eng Faults.none now offer db
      = (.error (MemoryOfferStore.metadataNotFound "put offer " offer), db) := by
  have hupsert : upsertOffer eng (offerActiveModel now offer) (now + second) db
      = .error eng.foreignKeyViolation := if_pos horphan
  unfold putOfferUpsert
  dsimp only
  rw [Faults.none, Statement.exec_error _ hupsert]
  exact if_pos eng.foreignKeyViolation_foreignKey

/-- The row a put leaves behind. -/
def putRow (eng : Engine) (now : DateTime) (offer : OfferRecord A) (db : OfferDb) : OfferModel :=
  upsertedOffer eng (offerActiveModel now offer) (now + second) db.offers[offer.key]?

theorem putOfferUpsert_ok [Repr A] (now : DateTime) (hparent : offer.metadataKey ∈ db.metadata) :
    putOfferUpsert eng Faults.none now offer db
      = (.ok (),
          { db with offers := db.offers.insert offer.key (putRow eng now offer db) }) := by
  have hupsert : upsertOffer eng (offerActiveModel now offer) (now + second) db
      = .ok ((), { db with offers := db.offers.insert offer.key (putRow eng now offer db) }) :=
    if_neg (not_not.mpr hparent)
  unfold putOfferUpsert
  dsimp only
  rw [Faults.none, Statement.exec_ok _ hupsert]

/-- The fetch answers from the row it finds. -/
theorem putOfferFetch_some {key : OfferKey} {row : OfferModel} (hrow : db.offers[key]? = some row) :
    putOfferFetch Faults.none key db = (.ok (decide (row.createdAt = row.updatedAt)), db) := by
  have hselect : selectOfferTimestamps key db
      = .ok (some (row.createdAt, row.updatedAt), db) := by
    unfold selectOfferTimestamps
    rw [hrow]
    rfl
  unfold putOfferFetch
  rw [Faults.none, Statement.exec_ok _ hselect]
  rfl

/-- The fetch of a row that is gone is an error. -/
theorem putOfferFetch_none {key : OfferKey} (hrow : db.offers[key]? = none) :
    putOfferFetch Faults.none key db
      = (.error (.fromDb .internal "upsert succeeded but record not found"
          (.recordNotFound "Record should exist after successful upsert")), db) := by
  have hselect : selectOfferTimestamps key db = .ok (none, db) := by
    unfold selectOfferTimestamps
    rw [hrow]
    rfl
  unfold putOfferFetch
  rw [Faults.none, Statement.exec_ok _ hselect]
  rfl

theorem putOffer_ok [Repr A] (now : DateTime) (hparent : offer.metadataKey ∈ db.metadata) :
    putOffer eng Faults.none now offer db
      = (.ok (decide ((putRow eng now offer db).createdAt = (putRow eng now offer db).updatedAt)),
          { db with offers := db.offers.insert offer.key (putRow eng now offer db) }) := by
  unfold putOffer
  rw [putOfferUpsert_ok now hparent]
  exact putOfferFetch_some ExtTreeMap.getElem?_insert_self

theorem deleteOffer_none (partition : String) (id : Uuid) (db : OfferDb) :
    deleteOffer Faults.none partition id db
      = (.ok db.offers[({ partition, id } : OfferKey)]?.isSome,
          { db with offers := db.offers.erase { partition, id } }) := by
  unfold deleteOffer
  dsimp only
  by_cases hmem : ({ partition, id } : OfferKey) ∈ db.offers
  · have hdelete : deleteOfferById { partition, id } db
        = .ok (1, { db with offers := db.offers.erase { partition, id } }) := if_pos hmem
    rw [Faults.none, Statement.exec_ok _ hdelete]
    rw [ExtTreeMap.mem_iff_isSome_getElem?] at hmem
    rw [hmem]
    rfl
  · have hdelete : deleteOfferById { partition, id } db = .ok (0, db) := if_neg hmem
    rw [Faults.none, Statement.exec_ok _ hdelete, erase_of_not_mem hmem]
    rw [ExtTreeMap.mem_iff_isSome_getElem?, Bool.not_eq_true] at hmem
    rw [hmem]
    rfl

theorem postMetadata_taken (now : DateTime) (htaken : metadata.key ∈ db.metadata) :
    postMetadata eng Faults.none text now metadata db = (.ok none, db) := by
  have hinsert : insertMetadata eng (metadataActiveModel text now metadata) db
      = .error eng.uniqueViolation := if_pos htaken
  unfold postMetadata
  rw [Faults.none, Statement.exec_error _ hinsert]
  exact if_pos eng.uniqueViolation_unique

theorem postMetadata_inserted (now : DateTime) (hfree : metadata.key ∉ db.metadata) :
    postMetadata eng Faults.none text now metadata db
      = (.ok (some metadata.id),
          { db with
            metadata := db.metadata.insert metadata.key
              (storedMetadata eng (metadataActiveModel text now metadata)) }) := by
  have hinsert : insertMetadata eng (metadataActiveModel text now metadata) db
      = .ok ((), { db with
          metadata := db.metadata.insert metadata.key
            (storedMetadata eng (metadataActiveModel text now metadata)) }) := if_neg hfree
  unfold postMetadata
  rw [Faults.none, Statement.exec_ok _ hinsert]

/-- The metadata row a put leaves behind. -/
def putMetadataRow (eng : Engine) (text : OfferText A) (now : DateTime)
    (metadata : OfferMetadata A) (db : OfferDb) : MetadataModel :=
  upsertedMetadata eng (metadataActiveModel text now metadata) (now + second)
    db.metadata[metadata.key]?

theorem putMetadata_ok (now : DateTime) (metadata : OfferMetadata A) (db : OfferDb) :
    putMetadata eng Faults.none text now metadata db
      = (.ok (decide ((putMetadataRow eng text now metadata db).createdAt
            = (putMetadataRow eng text now metadata db).updatedAt)),
          { db with
            metadata := db.metadata.insert metadata.key
              (putMetadataRow eng text now metadata db) }) := by
  have hupsert : upsertMetadata eng (metadataActiveModel text now metadata) (now + second) db
      = .ok ((), { db with
          metadata := db.metadata.insert metadata.key
            (putMetadataRow eng text now metadata db) }) := rfl
  have hselect : ∀ (m : ExtTreeMap OfferKey MetadataModel) (row : MetadataModel),
      selectMetadataTimestamps metadata.key { db with metadata := m.insert metadata.key row }
        = .ok (some (row.createdAt, row.updatedAt),
            { db with metadata := m.insert metadata.key row }) := by
    intro m row
    unfold selectMetadataTimestamps
    rw [ExtTreeMap.getElem?_insert_self]
    rfl
  unfold putMetadata
  dsimp only
  rw [Faults.none, Statement.exec_ok _ hupsert]
  dsimp only
  rw [Statement.exec_ok _ (hselect _ _)]
  rfl

theorem deleteMetadata_missing {partition : String} {id : Uuid}
    (hmissing : ({ partition, id } : OfferKey) ∉ db.metadata) :
    deleteMetadata eng Faults.none partition id db = (.ok false, db) := by
  have hdelete : deleteMetadataById eng { partition, id } db = .ok (0, db) := if_pos hmissing
  unfold deleteMetadata
  dsimp only
  rw [Faults.none, Statement.exec_ok _ hdelete]
  rfl

theorem deleteMetadata_referenced {partition : String} {id : Uuid}
    (hmem : ({ partition, id } : OfferKey) ∈ db.metadata)
    (hused : db.referenced { partition, id } = true) :
    deleteMetadata eng Faults.none partition id db
      = (.error (.invalidInputError ("deleting metadata for " ++ atKey { partition, id })
          ("metadata " ++ Uuid.hyphenated id ++ " is referenced by existing offers")), db) := by
  have hdelete : deleteMetadataById eng { partition, id } db = .error eng.restrictViolation :=
    (if_neg (not_not.mpr hmem)).trans (if_pos hused)
  unfold deleteMetadata
  dsimp only
  rw [Faults.none, Statement.exec_error _ hdelete]
  exact if_pos eng.restrictViolation_restricted

theorem deleteMetadata_deleted {partition : String} {id : Uuid}
    (hmem : ({ partition, id } : OfferKey) ∈ db.metadata)
    (hfree : db.referenced { partition, id } = false) :
    deleteMetadata eng Faults.none partition id db
      = (.ok true, { db with metadata := db.metadata.erase { partition, id } }) := by
  have hdelete : deleteMetadataById eng { partition, id } db
      = .ok (1, { db with metadata := db.metadata.erase { partition, id } }) := by
    unfold deleteMetadataById
    rw [if_neg (not_not.mpr hmem), hfree]
    rfl
  unfold deleteMetadata
  dsimp only
  rw [Faults.none, Statement.exec_ok _ hdelete]
  rfl

end Outcomes

end OfferDb

end Switchgear.Offer
