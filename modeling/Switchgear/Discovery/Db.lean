/-
  Switchgear.Discovery.Db — `DbDiscoveryBackendStore`: the two tables of the
  migration and the SQL statements over them.

  Every method is translated statement by statement.  What the database
  engine decides is a parameter (`Engine`): how a timestamp column stores a
  clock reading, and the errors it raises on a primary-key conflict and on
  an integer overflow.  What the environment decides is a parameter too
  (`Faults`): which statement of a call fails, and how.

  `weight as i32` and `as usize` are the machine casts; the column
  `discovery_backend_etag.value` is an `i64` that is read back `as u64`.
-/
import Switchgear.Lib.Transaction
import Switchgear.ServiceApi.Discovery
import Switchgear.Discovery.Error

namespace Switchgear.Discovery

open Switchgear.Lib
open Std (ExtTreeMap TransOrd LawfulEqOrd)

/-! ## §1. Casts of the weight column. -/

/-- `weight as i32`. -/
def asI32 (weight : UInt64) : Int32 := weight.toUInt32.toInt32

/-- `weight as usize`. -/
def asUsize (weight : Int32) : UInt64 := weight.toInt64.toUInt64

/-- A weight inside the range of the `integer` column. -/
def WeightInColumn (weight : UInt64) : Prop := weight.toNat < 2 ^ 31

instance (weight : UInt64) : Decidable (WeightInColumn weight) :=
  inferInstanceAs (Decidable (_ < _))

theorem asUsize_asI32 {weight : UInt64} (h : WeightInColumn weight) :
    asUsize (asI32 weight) = weight := by
  unfold WeightInColumn at h
  unfold asUsize asI32
  apply UInt64.toBitVec_inj.1
  apply BitVec.eq_of_toNat_eq
  -- the sign bit of the column value is clear, so the cast back adds nothing
  have hmsb : (BitVec.setWidth 32 weight.toBitVec).msb = false := by
    rw [BitVec.msb_eq_decide]
    simp
    omega
  simp [BitVec.toNat_signExtend, hmsb]
  omega

/-! ## §2. The database engine and the tables. -/

/-- What the database engine decides. -/
structure Engine where
  /-- The value a timestamp column holds after a clock reading is written. -/
  storeTimestamp : DateTime → DateTime
  storeTimestamp_mono : Monotone storeTimestamp
  /-- The column tells readings apart that are a second or more apart. -/
  storeTimestamp_second : ∀ t, storeTimestamp t < storeTimestamp (t + second)
  /-- The error of an insert on an existing primary key. -/
  uniqueViolation : DbErr
  uniqueViolation_unique : uniqueViolation.isUniqueViolation = true
  /-- The error of a `value + 1` that leaves the `big_integer` range. -/
  outOfRange : DbErr

/-- An engine whose columns keep every clock reading. -/
def Engine.exact : Engine where
  storeTimestamp := id
  storeTimestamp_mono := monotone_reading
  storeTimestamp_second := lt_add_second
  uniqueViolation := .exec (.database true "UNIQUE constraint failed")
  uniqueViolation_unique := rfl
  outOfRange := .exec (.other "integer out of range")

/-- A row of `discovery_backend`. -/
structure Model (K : Type) where
  partitions : Finset String
  id : K
  name : Option String
  weight : Int32
  enabled : Bool
  implementation : Bytes
  createdAt : DateTime
  updatedAt : DateTime
  deriving DecidableEq

/-- The tables `discovery_backend`, keyed by its primary key, and
`discovery_backend_etag`, of which only the row `DISCOVERY_BACKEND_GET_ALL_ETAG_ID`
is ever read or written. -/
structure DiscoveryDb (K : Type) [Ord K] where
  rows : ExtTreeMap K (Model K)
  etag : Option Int64

/-- `DbDiscoveryBackendStore::model_to_domain`. -/
def Model.toDomain {K : Type} (model : Model K) : DiscoveryBackend K where
  publicKey := model.id
  backend :=
    { name := model.name
      partitions := model.partitions
      weight := asUsize model.weight
      enabled := model.enabled
      implementation := model.implementation }

/-- Which statements of a call fail: the one on the rows, the timestamp fetch
of `put`, the one on the etag. -/
structure Faults where
  row : Option DbErr
  timestamps : Option DbErr
  etag : Option DbErr
  deriving DecidableEq

def Faults.none : Faults := { row := .none, timestamps := .none, etag := .none }

namespace DiscoveryDb

variable {K : Type} [Ord K] [TransOrd K] [LawfulEqOrd K]

/-- The state after `DiscoveryBackendMigrator::up`. -/
def migrated : DiscoveryDb K := { rows := ∅, etag := some 0 }

/-! ## §3. Statements. -/

/-- `find_by_id(public_key).one(..)`. -/
def selectById (id : K) : Statement (DiscoveryDb K) DbErr (Option (Model K)) :=
  fun db => .ok (db.rows[id]?, db)

/-- The order of `order_by_asc(CreatedAt).order_by_asc(Id)`. -/
def createdAtThenId (a b : Model K) : Prop :=
  ((compare a.createdAt b.createdAt).then (compare a.id b.id)).isLE = true

instance : DecidableRel (createdAtThenId (K := K)) :=
  fun _ _ => inferInstanceAs (Decidable (_ = true))

/-- All rows, in the order of the `ORDER BY` clause. -/
def models (db : DiscoveryDb K) : List (Model K) :=
  (db.rows.toList.map Prod.snd).insertionSort createdAtThenId

/-- `find().order_by_asc(..).order_by_asc(..).all(..)`. -/
def selectAll : Statement (DiscoveryDb K) DbErr (List (Model K)) :=
  fun db => .ok (db.models, db)

/-- `etag::Entity::find_by_id(DISCOVERY_BACKEND_GET_ALL_ETAG_ID).one(..)`. -/
def selectEtag : Statement (DiscoveryDb K) DbErr (Option Int64) :=
  fun db => .ok (db.etag, db)

/-- `update_many().col_expr(Value, Value + 1).filter(id = ..)`; answers the number
of rows affected. -/
def incrementEtag (eng : Engine) : Statement (DiscoveryDb K) DbErr Nat :=
  fun db =>
    match db.etag with
    -- an update of no row succeeds
    | none => .ok (0, db)
    | some value =>
        if value = Int64.maxValue then .error eng.outOfRange
        else .ok (1, { db with etag := some (value + 1) })

/-- The row as the columns hold it. -/
def stored (eng : Engine) (model : Model K) : Model K :=
  { model with
    createdAt := eng.storeTimestamp model.createdAt
    updatedAt := eng.storeTimestamp model.updatedAt }

/-- `active_model.insert(..)`. -/
def insert (eng : Engine) (model : Model K) : Statement (DiscoveryDb K) DbErr Unit :=
  fun db =>
    if model.id ∈ db.rows then .error eng.uniqueViolation
    else .ok ((), { db with rows := db.rows.insert model.id (stored eng model) })

/-- The `DO UPDATE SET` list of `put`: name, weight, enabled, implementation and
the update time. -/
def onConflictUpdate (eng : Engine) (model : Model K) (futureTimestamp : DateTime)
    (row : Model K) : Model K :=
  { row with
    name := model.name
    weight := model.weight
    enabled := model.enabled
    implementation := model.implementation
    updatedAt := eng.storeTimestamp futureTimestamp }

/-- The row `put` leaves behind, given the row that was there. -/
def upsertedRow (eng : Engine) (model : Model K) (futureTimestamp : DateTime) :
    Option (Model K) → Model K
  | none => stored eng model
  | some row => onConflictUpdate eng model futureTimestamp row

/-- `Entity::insert(active_model).on_conflict(..)`. -/
def upsert (eng : Engine) (model : Model K) (futureTimestamp : DateTime) :
    Statement (DiscoveryDb K) DbErr Unit :=
  fun db =>
    .ok ((), { db with
      rows := db.rows.insert model.id
        (upsertedRow eng model futureTimestamp db.rows[model.id]?) })

/-- `select created_at, updated_at where id = ..`. -/
def selectTimestamps (id : K) :
    Statement (DiscoveryDb K) DbErr (Option (DateTime × DateTime)) :=
  fun db => .ok (db.rows[id]?.map fun row => (row.createdAt, row.updatedAt), db)

/-- The columns `patch` sets: those its fields name, and the update time. -/
def patchRow (eng : Engine) (now : DateTime) (patch : DiscoveryBackendPatchSparse)
    (row : Model K) : Model K :=
  let row := { row with name := patch.name.getD row.name }
  let row := { row with partitions := patch.partitions.getD row.partitions }
  let row := { row with weight := (patch.weight.map asI32).getD row.weight }
  let row := { row with enabled := patch.enabled.getD row.enabled }
  { row with updatedAt := eng.storeTimestamp now }

/-- `update_many().filter(id = ..)` with the columns of `patchRow`; answers the
number of rows affected. -/
def updateById (eng : Engine) (now : DateTime) (patch : DiscoveryBackendPatch K) :
    Statement (DiscoveryDb K) DbErr Nat :=
  fun db =>
    match db.rows[patch.publicKey]? with
    | none => .ok (0, db)
    | some row =>
        .ok (1, { db with rows := db.rows.insert patch.publicKey
                            (patchRow eng now patch.backend row) })

/-- `delete_by_id(id)`; answers the number of rows affected. -/
def deleteById (id : K) : Statement (DiscoveryDb K) DbErr Nat :=
  fun db =>
    if id ∈ db.rows then .ok (1, { db with rows := db.rows.erase id }) else .ok (0, db)

/-! ## §4. The six methods. -/

/-- `let etag = if cond { Some(increment.exec(txn).await) } else { None }`. -/
def incrementEtagIf (eng : Engine) (faults : Faults) (cond : Bool) (db : DiscoveryDb K) :
    Option (Except DbErr Nat) × DiscoveryDb K :=
  if cond then
    let (etag, db) := (incrementEtag eng).exec faults.etag db
    (some etag, db)
  else (none, db)

/-- `etag_result.transpose().map_err(..)?`. -/
def checkEtag (etagResult : Option (Except DbErr Nat)) :
    Except DiscoveryBackendStoreError Unit :=
  match etagResult with
  | some (.error e) => .error (.fromDb .internal "incrementing etag value" e)
  | _ => .ok ()

variable [ToString K]

def get (faults : Faults) (publicKey : K) (db : DiscoveryDb K) :
    Except DiscoveryBackendStoreError (Option (DiscoveryBackend K)) × DiscoveryDb K :=
  let (result, db) := (selectById publicKey).exec faults.row db
  match result with
  | .error e =>
      (.error (.fromDb .internal s!"fetching backend for public key {publicKey}" e), db)
  | .ok model => (.ok (model.map Model.toDomain), db)

def getAll (faults : Faults) (requestEtag : Option UInt64) (db : DiscoveryDb K) :
    Except DiscoveryBackendStoreError (DiscoveryBackends K) × DiscoveryDb K :=
  let (result, db) := selectEtag.exec faults.etag db
  match result with
  | .error e => (.error (.fromDb .internal "fetching etag value" e), db)
  | .ok row =>
      -- the etag is read before the rows and in no transaction with them
      let responseEtag := (row.map Int64.toUInt64).getD 0
      if requestEtag = some responseEtag then
        (.ok { etag := responseEtag, backends := none }, db)
      else
        let (result, db) := selectAll.exec faults.row db
        match result with
        | .error e => (.error (.fromDb .internal "fetching all backends" e), db)
        | .ok models =>
            (.ok { etag := responseEtag, backends := some (models.map Model.toDomain) }, db)

/-- The `ActiveModel` of `post` and `put`. -/
def activeModel (now : DateTime) (backend : DiscoveryBackend K) : Model K where
  partitions := backend.backend.partitions
  id := backend.publicKey
  name := backend.backend.name
  weight := asI32 backend.backend.weight
  enabled := backend.backend.enabled
  implementation := backend.backend.implementation
  createdAt := now
  updatedAt := now

def post (eng : Engine) (faults : Faults) (now : DateTime) (backend : DiscoveryBackend K)
    (db : DiscoveryDb K) : Except DiscoveryBackendStoreError (Option K) × DiscoveryDb K :=
  let closure := fun txn =>
    let (insert, txn) := (insert eng (activeModel now backend)).exec faults.row txn
    -- both results go inside the `Ok`, so the transaction commits whichever of them failed
    let (etag, txn) := incrementEtagIf eng faults insert.isOk txn
    ((.ok (insert, etag) : Except DbErr _), txn)
  match transaction closure db with
  | (.error e, db) => (.error (.fromTx .internal "post transaction" e), db)
  | (.ok (insertResult, etagResult), db) =>
      match checkEtag etagResult with
      | .error e => (.error e, db)
      | .ok () =>
        match insertResult with
        | .ok _ => (.ok (some backend.publicKey), db)
        | .error e =>
            -- a key that is taken is an answer, not an error
            if e.isUniqueViolation then (.ok none, db)
            else
              (.error (.fromDb .internal
                s!"inserting backend for public key {backend.publicKey}" e), db)

def put (eng : Engine) (faults : Faults) (now : DateTime) (backend : DiscoveryBackend K)
    (db : DiscoveryDb K) : Except DiscoveryBackendStoreError Bool × DiscoveryDb K :=
  -- ahead of the clock, so that an update within one tick still shows
  let futureTimestamp := now + second
  let closure := fun txn =>
    let (upsert, txn) :=
      (upsert eng (activeModel now backend) futureTimestamp).exec faults.row txn
    let (timestamps, txn) :=
      if upsert.isOk then (selectTimestamps backend.publicKey).exec faults.timestamps txn
      -- after a failed upsert the fetch counts as a success, so the etag still moves
      else (.ok none, txn)
    let (etag, txn) := incrementEtagIf eng faults timestamps.isOk txn
    ((.ok (upsert, timestamps, etag) : Except DbErr _), txn)
  match transaction closure db with
  | (.error e, db) => (.error (.fromTx .internal "put transaction" e), db)
  | (.ok (upsertResult, fetchResult, etagResult), db) =>
      match upsertResult with
      | .error e =>
          (.error (.fromDb .internal
            s!"upserting backend for public key {backend.publicKey}" e), db)
      | .ok _ =>
        match checkEtag etagResult with
        | .error e => (.error e, db)
        | .ok () =>
          match fetchResult with
          | .error e =>
              (.error (.fromDb .internal
                s!"fetching backend after upsert for public key {backend.publicKey}" e), db)
          | .ok none =>
              (.error (.internalError .internal "upsert succeeded but record not found"
                "Record should exist after successful upsert"), db)
          -- equal timestamps: the row was inserted
          | .ok (some result) => (.ok (decide (result.1 = result.2)), db)

/-- `result.as_ref().ok().map(|r| r.rows_affected > 0).unwrap_or(false)`. -/
def affectedRows (result : Except DbErr Nat) : Bool :=
  (result.toOption.map fun rowsAffected => decide (rowsAffected > 0)).getD false

def patch (eng : Engine) (faults : Faults) (now : DateTime) (backend : DiscoveryBackendPatch K)
    (db : DiscoveryDb K) : Except DiscoveryBackendStoreError Bool × DiscoveryDb K :=
  let closure := fun txn =>
    let (patch, txn) := (updateById eng now backend).exec faults.row txn
    -- a patch of no row leaves the etag alone
    let (etag, txn) := incrementEtagIf eng faults (affectedRows patch) txn
    ((.ok (patch, etag) : Except DbErr _), txn)
  match transaction closure db with
  | (.error e, db) => (.error (.fromTx .internal "patch transaction" e), db)
  | (.ok (patchResult, etagResult), db) =>
      match checkEtag etagResult with
      | .error e => (.error e, db)
      | .ok () =>
        match patchResult with
        | .error e =>
            (.error (.fromDb .internal
              s!"patching backend for public key {backend.publicKey}" e), db)
        | .ok rowsAffected => (.ok (decide (rowsAffected > 0)), db)

def delete (eng : Engine) (faults : Faults) (publicKey : K) (db : DiscoveryDb K) :
    Except DiscoveryBackendStoreError Bool × DiscoveryDb K :=
  let closure := fun txn =>
    let (delete, txn) := (deleteById publicKey).exec faults.row txn
    let (etag, txn) := incrementEtagIf eng faults (affectedRows delete) txn
    ((.ok (delete, etag) : Except DbErr _), txn)
  match transaction closure db with
  | (.error e, db) => (.error (.fromTx .internal "delete transaction" e), db)
  | (.ok (deleteResult, etagResult), db) =>
      match checkEtag etagResult with
      | .error e => (.error e, db)
      | .ok () =>
        match deleteResult with
        | .error e =>
            (.error (.fromDb .internal s!"deleting backend for public key {publicKey}" e), db)
        | .ok rowsAffected => (.ok (decide (rowsAffected > 0)), db)

/-- `impl DiscoveryBackendStore for DbDiscoveryBackendStore`, with the statements
of every call failing as `faults` says. -/
def backendStore (eng : Engine) (faults : Faults) :
    DiscoveryBackendStore K (DiscoveryDb K) DiscoveryBackendStoreError where
  get := get faults
  getAll := getAll faults
  post := post eng faults
  put := put eng faults
  patch := patch eng faults
  delete := delete eng faults

end DiscoveryDb

end Switchgear.Discovery
