/-
  Switchgear.Discovery.DbOutcome — what each mutation of the database store
  answers and leaves behind, by the statement that fails.

  One lemma per method and failing position: the answer (an error or a value)
  and the database after the call.  Later files cite these equations and never
  unfold a transaction closure again.

    * `post_*`   — insert, then the etag increment if the insert succeeded,
    * `put_*`    — upsert, timestamp fetch, etag increment,
    * `patch_*`, `delete_*` — row statement, then the increment if rows changed,
    * `mutate_cases` — the shape of every mutation when no statement fails.
-/
import Switchgear.Lib.KeyedMap
import Switchgear.Discovery.Db

namespace Switchgear.Discovery

open Switchgear.Lib
open Std (ExtTreeMap TransOrd)

namespace DiscoveryDb

/-! ## §1. The etag increment. -/

section Etag

variable {K : Type} [Ord K]

/-- The etag increment of the call fails: the environment fails it, or the value
is at the end of its column's range. -/
def EtagFails (faults : Faults) (db : DiscoveryDb K) : Prop :=
  faults.etag.isSome = true ∨ db.etag = some Int64.maxValue

instance (faults : Faults) (db : DiscoveryDb K) : Decidable (EtagFails faults db) :=
  inferInstanceAs (Decidable (_ ∨ _))

theorem not_etagFails_none {db : DiscoveryDb K} (h : db.etag ≠ some Int64.maxValue) :
    ¬ EtagFails Faults.none db := by
  rintro (hfault | hmax)
  · cases hfault
  · exact h hmax

/-- The database after a successful etag increment. -/
def bumped (db : DiscoveryDb K) : DiscoveryDb K :=
  { db with etag := db.etag.map (· + 1) }

/-- Replacing the rows does not touch the etag. -/
def withRows (db : DiscoveryDb K) (rows : ExtTreeMap K (Model K)) : DiscoveryDb K :=
  { db with rows := rows }

@[simp] theorem bumped_rows (db : DiscoveryDb K) : db.bumped.rows = db.rows := rfl

@[simp] theorem bumped_etag (db : DiscoveryDb K) :
    db.bumped.etag = db.etag.map (· + 1) := rfl

@[simp] theorem withRows_rows (db : DiscoveryDb K) (rows : ExtTreeMap K (Model K)) :
    (db.withRows rows).rows = rows := rfl

@[simp] theorem withRows_etag (db : DiscoveryDb K) (rows : ExtTreeMap K (Model K)) :
    (db.withRows rows).etag = db.etag := rfl

theorem withRows_self (db : DiscoveryDb K) : db.withRows db.rows = db := rfl

@[simp] theorem etagFails_withRows (faults : Faults) (db : DiscoveryDb K)
    (rows : ExtTreeMap K (Model K)) :
    EtagFails faults (db.withRows rows) ↔ EtagFails faults db := Iff.rfl

theorem incrementEtagIf_false (eng : Engine) (faults : Faults) (db : DiscoveryDb K) :
    incrementEtagIf eng faults false db = (none, db) := rfl

theorem incrementEtagIf_ok (eng : Engine) {faults : Faults} {db : DiscoveryDb K}
    (h : ¬ EtagFails faults db) :
    ∃ n, incrementEtagIf eng faults true db = (some (.ok n), db.bumped) := by
  obtain ⟨hfault, hmax⟩ := not_or.mp h
  have hnone : faults.etag = none := by simpa using hfault
  unfold incrementEtagIf
  rw [if_pos rfl, hnone]
  cases hv : db.etag with
  | none =>
      -- without the etag row the update affects no row, and succeeds
      refine ⟨0, ?_⟩
      have hstmt : incrementEtag eng db = .ok (0, db) := by simp only [incrementEtag, hv]
      rw [Statement.exec_ok _ hstmt]
      simp only [bumped, hv, Option.map_none]
      rw [← hv]
  | some value =>
      refine ⟨1, ?_⟩
      have hne : value ≠ Int64.maxValue := fun heq => hmax (heq ▸ hv)
      have hstmt : incrementEtag eng db = .ok (1, { db with etag := some (value + 1) }) := by
        simp only [incrementEtag, hv, if_neg hne]
      rw [Statement.exec_ok _ hstmt]
      simp only [bumped, hv, Option.map_some]

theorem incrementEtagIf_error (eng : Engine) {faults : Faults} {db : DiscoveryDb K}
    (h : EtagFails faults db) :
    ∃ e, incrementEtagIf eng faults true db = (some (.error e), db) := by
  unfold incrementEtagIf
  rw [if_pos rfl]
  cases hfault : faults.etag with
  | some e => exact ⟨e, rfl⟩
  | none =>
      have hmax : db.etag = some Int64.maxValue := by
        rcases h with h | h
        · rw [hfault] at h; cases h
        · exact h
      have hstmt : incrementEtag eng db = .error eng.outOfRange := by
        simp only [incrementEtag, hmax, if_pos]
      exact ⟨eng.outOfRange, by rw [Statement.exec_error _ hstmt]⟩

end Etag

/-! ## §2. The row statements when they succeed. -/

section Rows

variable {K : Type} [Ord K] [TransOrd K]

/-- The rows after a successful insert. -/
def insertedRows (eng : Engine) (now : DateTime) (backend : DiscoveryBackend K)
    (db : DiscoveryDb K) : ExtTreeMap K (Model K) :=
  db.rows.insert backend.publicKey (stored eng (activeModel now backend))

/-- The insert succeeds on a free key. -/
theorem insert_free (eng : Engine) (now : DateTime) {backend : DiscoveryBackend K}
    {db : DiscoveryDb K} (hmem : backend.publicKey ∉ db.rows) :
    insert eng (activeModel now backend) db
      = .ok ((), db.withRows (insertedRows eng now backend db)) :=
  if_neg hmem

/-- The row a successful upsert leaves under the key. -/
def putRow (eng : Engine) (now : DateTime) (backend : DiscoveryBackend K)
    (db : DiscoveryDb K) : Model K :=
  upsertedRow eng (activeModel now backend) (now + second) db.rows[backend.publicKey]?

/-- The rows after a successful upsert. -/
def upsertedRows (eng : Engine) (now : DateTime) (backend : DiscoveryBackend K)
    (db : DiscoveryDb K) : ExtTreeMap K (Model K) :=
  db.rows.insert backend.publicKey (putRow eng now backend db)

/-- Where records are under their own keys, the row of a put is under its key. -/
theorem putRow_id (eng : Engine) (now : DateTime) (backend : DiscoveryBackend K)
    {db : DiscoveryDb K} (hkeys : OwnKeys Model.id db.rows) :
    (putRow eng now backend db).id = backend.publicKey := by
  unfold putRow
  cases hold : db.rows[backend.publicKey]? with
  | none => rfl
  | some row => exact hkeys backend.publicKey row hold

theorem upsert_ok (eng : Engine) (now : DateTime) (backend : DiscoveryBackend K)
    (db : DiscoveryDb K) :
    upsert eng (activeModel now backend) (now + second) db
      = .ok ((), db.withRows (upsertedRows eng now backend db)) := rfl

theorem selectTimestamps_upserted (eng : Engine) (now : DateTime)
    (backend : DiscoveryBackend K) (db : DiscoveryDb K) :
    selectTimestamps backend.publicKey (db.withRows (upsertedRows eng now backend db))
      = .ok (some ((putRow eng now backend db).createdAt, (putRow eng now backend db).updatedAt),
          db.withRows (upsertedRows eng now backend db)) := by
  simp only [selectTimestamps, withRows_rows, upsertedRows, ExtTreeMap.getElem?_insert_self,
    Option.map_some]

/-- The rows after an update of an existing row. -/
def patchedRows (eng : Engine) (now : DateTime) (backend : DiscoveryBackendPatch K)
    (row : Model K) (db : DiscoveryDb K) : ExtTreeMap K (Model K) :=
  db.rows.insert backend.publicKey (patchRow eng now backend.backend row)

theorem updateById_found (eng : Engine) (now : DateTime) {backend : DiscoveryBackendPatch K}
    {db : DiscoveryDb K} {row : Model K} (hfound : db.rows[backend.publicKey]? = some row) :
    updateById eng now backend db
      = .ok (1, db.withRows (patchedRows eng now backend row db)) := by
  simp only [updateById, hfound, withRows, patchedRows]

theorem deleteById_found {publicKey : K} {db : DiscoveryDb K} (hmem : publicKey ∈ db.rows) :
    deleteById publicKey db = .ok (1, db.withRows (db.rows.erase publicKey)) :=
  if_pos hmem

end Rows

/-! ## §3. `post`. -/

variable {K : Type} [Ord K] [TransOrd K] [ToString K]

theorem post_insertFault (eng : Engine) {faults : Faults} {e : DbErr} (now : DateTime)
    (backend : DiscoveryBackend K) (db : DiscoveryDb K) (hrow : faults.row = some e) :
    (post eng faults now backend db).2 = db := by
  simp only [post, hrow, Statement.exec_fault, Except.isOk, Except.toBool,
    incrementEtagIf_false, transaction, checkEtag]
  split <;> rfl

theorem post_conflict (eng : Engine) {faults : Faults} (now : DateTime)
    {backend : DiscoveryBackend K} {db : DiscoveryDb K} (hrow : faults.row = none)
    (hmem : backend.publicKey ∈ db.rows) :
    post eng faults now backend db = (.ok none, db) := by
  have hstmt : insert eng (activeModel now backend) db = .error eng.uniqueViolation :=
    if_pos hmem
  simp only [post, hrow, Statement.exec_error _ hstmt, Except.isOk, Except.toBool,
    incrementEtagIf_false, transaction, checkEtag, eng.uniqueViolation_unique, if_true]

theorem post_inserted (eng : Engine) {faults : Faults} (now : DateTime)
    {backend : DiscoveryBackend K} {db : DiscoveryDb K} (hrow : faults.row = none)
    (hmem : backend.publicKey ∉ db.rows) (hetag : ¬ EtagFails faults db) :
    post eng faults now backend db
      = (.ok (some backend.publicKey),
          (db.withRows (insertedRows eng now backend db)).bumped) := by
  obtain ⟨n, hinc⟩ := incrementEtagIf_ok eng
    ((etagFails_withRows faults db (insertedRows eng now backend db)).not.mpr hetag)
  simp only [post, hrow, Statement.exec_ok _ (insert_free eng now hmem), Except.isOk,
    Except.toBool, hinc, transaction, checkEtag]

/-- The insert is committed although the call reports an error. -/
theorem post_etagFails (eng : Engine) {faults : Faults} (now : DateTime)
    {backend : DiscoveryBackend K} {db : DiscoveryDb K} (hrow : faults.row = none)
    (hmem : backend.publicKey ∉ db.rows) (hetag : EtagFails faults db) :
    ∃ e, post eng faults now backend db
      = (.error e, db.withRows (insertedRows eng now backend db)) := by
  obtain ⟨e, hinc⟩ := incrementEtagIf_error eng
    ((etagFails_withRows faults db (insertedRows eng now backend db)).mpr hetag)
  exact ⟨.fromDb .internal "incrementing etag value" e, by
    simp only [post, hrow, Statement.exec_ok _ (insert_free eng now hmem), Except.isOk,
      Except.toBool, hinc, transaction, checkEtag]⟩

/-! ## §4. `put`. -/

/-- A failed upsert does not stop the increment: the fetch counts as fine. -/
theorem put_upsertFault (eng : Engine) {faults : Faults} {e : DbErr} (now : DateTime)
    (backend : DiscoveryBackend K) {db : DiscoveryDb K} (hrow : faults.row = some e)
    (hetag : ¬ EtagFails faults db) :
    put eng faults now backend db
      = (.error (.fromDb .internal s!"upserting backend for public key {backend.publicKey}" e),
          db.bumped) := by
  obtain ⟨n, hinc⟩ := incrementEtagIf_ok eng hetag
  simp only [put, hrow, Statement.exec_fault, Except.isOk, Except.toBool, Bool.false_eq_true,
    if_false, hinc, transaction]

theorem put_upsertFault_etagFails (eng : Engine) {faults : Faults} {e : DbErr} (now : DateTime)
    (backend : DiscoveryBackend K) {db : DiscoveryDb K} (hrow : faults.row = some e)
    (hetag : EtagFails faults db) :
    put eng faults now backend db
      = (.error (.fromDb .internal s!"upserting backend for public key {backend.publicKey}" e),
          db) := by
  obtain ⟨e', hinc⟩ := incrementEtagIf_error eng hetag
  simp only [put, hrow, Statement.exec_fault, Except.isOk, Except.toBool, Bool.false_eq_true,
    if_false, hinc, transaction]

/-- A failed fetch or increment after the upsert: the upsert is committed. -/
theorem put_laterFault (eng : Engine) {faults : Faults} (now : DateTime)
    (backend : DiscoveryBackend K) {db : DiscoveryDb K} (hrow : faults.row = none)
    (hlater : faults.timestamps.isSome = true ∨ EtagFails faults db) :
    ∃ e, put eng faults now backend db
      = (.error e, db.withRows (upsertedRows eng now backend db)) := by
  cases hts : faults.timestamps with
  -- the fetch fails: the etag does not move, the row is there
  | some e =>
      exact ⟨.fromDb .internal
          s!"fetching backend after upsert for public key {backend.publicKey}" e, by
        simp only [put, hrow, Statement.exec_ok _ (upsert_ok eng now backend db), Except.isOk,
          Except.toBool, if_true, hts, Statement.exec_fault, incrementEtagIf_false, transaction,
          checkEtag]⟩
  | none =>
      have hetag : EtagFails faults db := by
        rcases hlater with h | h
        · rw [hts] at h; cases h
        · exact h
      obtain ⟨e, hinc⟩ := incrementEtagIf_error eng
        ((etagFails_withRows faults db (upsertedRows eng now backend db)).mpr hetag)
      exact ⟨.fromDb .internal "incrementing etag value" e, by
        simp only [put, hrow, Statement.exec_ok _ (upsert_ok eng now backend db), Except.isOk,
          Except.toBool, if_true, hts,
          Statement.exec_ok _ (selectTimestamps_upserted eng now backend db), hinc, transaction,
          checkEtag]⟩

theorem put_upserted (eng : Engine) {faults : Faults} (now : DateTime)
    (backend : DiscoveryBackend K) {db : DiscoveryDb K} (hrow : faults.row = none)
    (hts : faults.timestamps = none) (hetag : ¬ EtagFails faults db) :
    put eng faults now backend db
      = (.ok (decide ((putRow eng now backend db).createdAt
                = (putRow eng now backend db).updatedAt)),
          (db.withRows (upsertedRows eng now backend db)).bumped) := by
  obtain ⟨n, hinc⟩ := incrementEtagIf_ok eng
    ((etagFails_withRows faults db (upsertedRows eng now backend db)).not.mpr hetag)
  simp only [put, hrow, Statement.exec_ok _ (upsert_ok eng now backend db), Except.isOk,
    Except.toBool, if_true, hts, Statement.exec_ok _ (selectTimestamps_upserted eng now backend db),
    hinc, transaction, checkEtag]

/-! ## §5. `patch` and `delete`. -/

theorem patch_updateFault (eng : Engine) {faults : Faults} {e : DbErr} (now : DateTime)
    (backend : DiscoveryBackendPatch K) (db : DiscoveryDb K) (hrow : faults.row = some e) :
    patch eng faults now backend db
      = (.error (.fromDb .internal s!"patching backend for public key {backend.publicKey}" e),
          db) := by
  simp only [patch, hrow, Statement.exec_fault, affectedRows, Except.toOption, Option.map_none,
    Option.getD_none, incrementEtagIf_false, transaction, checkEtag]

theorem patch_missing (eng : Engine) {faults : Faults} (now : DateTime)
    {backend : DiscoveryBackendPatch K} {db : DiscoveryDb K} (hrow : faults.row = none)
    (hmissing : db.rows[backend.publicKey]? = none) :
    patch eng faults now backend db = (.ok false, db) := by
  have hstmt : updateById eng now backend db = .ok (0, db) := by
    simp only [updateById, hmissing]
  simp only [patch, hrow, Statement.exec_ok _ hstmt, affectedRows, Except.toOption,
    Option.map_some, Option.getD_some, gt_iff_lt, Nat.lt_irrefl, decide_false,
    incrementEtagIf_false, transaction, checkEtag]

theorem patch_updated (eng : Engine) {faults : Faults} (now : DateTime)
    {backend : DiscoveryBackendPatch K} {db : DiscoveryDb K} {row : Model K}
    (hrow : faults.row = none) (hfound : db.rows[backend.publicKey]? = some row)
    (hetag : ¬ EtagFails faults db) :
    patch eng faults now backend db
      = (.ok true, (db.withRows (patchedRows eng now backend row db)).bumped) := by
  obtain ⟨n, hinc⟩ := incrementEtagIf_ok eng
    ((etagFails_withRows faults db (patchedRows eng now backend row db)).not.mpr hetag)
  simp only [patch, hrow, Statement.exec_ok _ (updateById_found eng now hfound), affectedRows,
    Except.toOption, Option.map_some, Option.getD_some, gt_iff_lt, Nat.zero_lt_one, decide_true,
    hinc, transaction, checkEtag]

/-- The update is committed although the call reports an error. -/
theorem patch_etagFails (eng : Engine) {faults : Faults} (now : DateTime)
    {backend : DiscoveryBackendPatch K} {db : DiscoveryDb K} {row : Model K}
    (hrow : faults.row = none) (hfound : db.rows[backend.publicKey]? = some row)
    (hetag : EtagFails faults db) :
    ∃ e, patch eng faults now backend db
      = (.error e, db.withRows (patchedRows eng now backend row db)) := by
  obtain ⟨e, hinc⟩ := incrementEtagIf_error eng
    ((etagFails_withRows faults db (patchedRows eng now backend row db)).mpr hetag)
  exact ⟨.fromDb .internal "incrementing etag value" e, by
    simp only [patch, hrow, Statement.exec_ok _ (updateById_found eng now hfound), affectedRows,
      Except.toOption, Option.map_some, Option.getD_some, gt_iff_lt, Nat.zero_lt_one, decide_true,
      hinc, transaction, checkEtag]⟩

theorem delete_deleteFault (eng : Engine) {faults : Faults} {e : DbErr} (publicKey : K)
    (db : DiscoveryDb K) (hrow : faults.row = some e) :
    delete eng faults publicKey db
      = (.error (.fromDb .internal s!"deleting backend for public key {publicKey}" e), db) := by
  simp only [delete, hrow, Statement.exec_fault, affectedRows, Except.toOption,
    Option.map_none, Option.getD_none, incrementEtagIf_false, transaction, checkEtag]

theorem delete_missing (eng : Engine) {faults : Faults} {publicKey : K} {db : DiscoveryDb K}
    (hrow : faults.row = none) (hmem : publicKey ∉ db.rows) :
    delete eng faults publicKey db = (.ok false, db) := by
  have hstmt : deleteById publicKey db = .ok (0, db) := if_neg hmem
  simp only [delete, hrow, Statement.exec_ok _ hstmt, affectedRows, Except.toOption,
    Option.map_some, Option.getD_some, gt_iff_lt, Nat.lt_irrefl, decide_false,
    incrementEtagIf_false, transaction, checkEtag]

theorem delete_deleted (eng : Engine) {faults : Faults} {publicKey : K} {db : DiscoveryDb K}
    (hrow : faults.row = none) (hmem : publicKey ∈ db.rows) (hetag : ¬ EtagFails faults db) :
    delete eng faults publicKey db
      = (.ok true, (db.withRows (db.rows.erase publicKey)).bumped) := by
  obtain ⟨n, hinc⟩ := incrementEtagIf_ok eng
    ((etagFails_withRows faults db (db.rows.erase publicKey)).not.mpr hetag)
  simp only [delete, hrow, Statement.exec_ok _ (deleteById_found hmem), affectedRows,
    Except.toOption, Option.map_some, Option.getD_some, gt_iff_lt, Nat.zero_lt_one, decide_true,
    hinc, transaction, checkEtag]

/-- The deletion is committed although the call reports an error. -/
theorem delete_etagFails (eng : Engine) {faults : Faults} {publicKey : K} {db : DiscoveryDb K}
    (hrow : faults.row = none) (hmem : publicKey ∈ db.rows) (hetag : EtagFails faults db) :
    ∃ e, delete eng faults publicKey db = (.error e, db.withRows (db.rows.erase publicKey)) := by
  obtain ⟨e, hinc⟩ := incrementEtagIf_error eng
    ((etagFails_withRows faults db (db.rows.erase publicKey)).mpr hetag)
  exact ⟨.fromDb .internal "incrementing etag value" e, by
    simp only [delete, hrow, Statement.exec_ok _ (deleteById_found hmem), affectedRows,
      Except.toOption, Option.map_some, Option.getD_some, gt_iff_lt, Nat.zero_lt_one, decide_true,
      hinc, transaction, checkEtag]⟩

/-! ## §6. `get_all`. -/

/-- The etag of the table, as `get_all` answers it. -/
def responseEtag (db : DiscoveryDb K) : UInt64 := (db.etag.map Int64.toUInt64).getD 0

omit [ToString K] in
theorem getAll_none (requestEtag : Option UInt64) (db : DiscoveryDb K) :
    getAll Faults.none requestEtag db
      = (.ok { etag := db.responseEtag
               backends := if requestEtag = some db.responseEtag then none
                           else some (db.models.map Model.toDomain) }, db) := by
  show (if requestEtag = some db.responseEtag then
      (Except.ok (DiscoveryBackends.mk db.responseEtag none), db)
    else
      (Except.ok (DiscoveryBackends.mk db.responseEtag (some (db.models.map Model.toDomain))), db))
    = _
  by_cases hcurrent : requestEtag = some db.responseEtag
  · rw [if_pos hcurrent, if_pos hcurrent]
  · rw [if_neg hcurrent, if_neg hcurrent]

/-! ## §7. What a mutation does to the tables when no statement fails. -/

/-- A mutation changes nothing, writes one row under its own key, or erases one; a
change counts the etag. -/
theorem mutate_cases (eng : Engine) (now : DateTime) (m : Mutation K) {db : DiscoveryDb K}
    (hmax : db.etag ≠ some Int64.maxValue) :
    ((backendStore eng Faults.none).mutate now m db).2 = db
    ∨ (∃ row : Model K, (OwnKeys Model.id db.rows → row.id = m.publicKey)
        ∧ ((backendStore eng Faults.none).mutate now m db).2
            = (db.withRows (db.rows.insert m.publicKey row)).bumped)
    ∨ ((backendStore eng Faults.none).mutate now m db).2
        = (db.withRows (db.rows.erase m.publicKey)).bumped := by
  have hetag := not_etagFails_none hmax
  cases m with
  | post b =>
      show (post eng Faults.none now b db).2 = db ∨ _
      by_cases hmem : b.publicKey ∈ db.rows
      · left
        rw [post_conflict eng now rfl hmem]
      · right; left
        refine ⟨stored eng (activeModel now b), fun _ => rfl, ?_⟩
        show (post eng Faults.none now b db).2 = _
        rw [post_inserted eng now rfl hmem hetag]
        rfl
  | put b =>
      right; left
      refine ⟨putRow eng now b db, putRow_id eng now b, ?_⟩
      show (put eng Faults.none now b db).2 = _
      rw [put_upserted eng now b rfl rfl hetag]
      rfl
  | patch p =>
      show (patch eng Faults.none now p db).2 = db ∨ _
      cases hold : db.rows[p.publicKey]? with
      | none =>
          left
          rw [patch_missing eng now rfl hold]
      | some row =>
          right; left
          refine ⟨patchRow eng now p.backend row, fun hkeys => hkeys p.publicKey row hold, ?_⟩
          show (patch eng Faults.none now p db).2 = _
          rw [patch_updated eng now rfl hold hetag]
          rfl
  | delete k =>
      show (delete eng Faults.none k db).2 = db ∨ _
      by_cases hmem : k ∈ db.rows
      · right; right
        show (delete eng Faults.none k db).2 = _
        rw [delete_deleted eng rfl hmem hetag]
        rfl
      · left
        rw [delete_missing eng rfl hmem]

end DiscoveryDb

end Switchgear.Discovery
