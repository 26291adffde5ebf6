/-
  Switchgear.Discovery.Atomicity — which failing statement tears a mutation of
  the database store apart.

  Each transaction closure returns its statement results as data, so the
  transaction commits whatever happened inside and the method decides
  afterwards what to report.  A mutation that answers an error therefore
  leaves the tables as they were only if nothing was written before (or, in
  `put`, after) the statement that failed.

  Main result:
    * `mutate_errorsKeepTables_iff` — for every mutation, database and choice
      of failing statements: errors keep the tables IFF `NothingWritten`.
-/
import Switchgear.Discovery.DbOutcome

namespace Switchgear.Discovery

open Switchgear.Lib
open Std (ExtTreeMap TransOrd LawfulEqOrd)

namespace DiscoveryDb

/-! ## §1. Writes that leave the tables as they are. -/

section Tables

variable {K : Type} [Ord K] [TransOrd K] [LawfulEqOrd K]

theorem rows_insert_eq_self_iff (rows : ExtTreeMap K (Model K)) (k : K) (row : Model K) :
    rows.insert k row = rows ↔ rows[k]? = some row := by
  constructor
  · intro h
    rw [← h, ExtTreeMap.getElem?_insert_self]
  · intro h
    apply ExtTreeMap.ext_getElem?
    intro k'
    rw [ExtTreeMap.getElem?_insert]
    by_cases hk : compare k k' = .eq
    · rw [if_pos hk, ← LawfulEqOrd.eq_of_compare hk, h]
    · rw [if_neg hk]

theorem withRows_insert_eq_self_iff (db : DiscoveryDb K) (k : K) (row : Model K) :
    db.withRows (db.rows.insert k row) = db ↔ db.rows[k]? = some row := by
  rw [← rows_insert_eq_self_iff db.rows k row]
  constructor
  · intro h
    exact congrArg DiscoveryDb.rows h
  · intro h
    rw [h, withRows_self]

theorem withRows_erase_ne_self {db : DiscoveryDb K} {k : K} (hmem : k ∈ db.rows) :
    db.withRows (db.rows.erase k) ≠ db := by
  intro h
  have hrows : db.rows.erase k = db.rows := congrArg DiscoveryDb.rows h
  rw [← hrows] at hmem
  exact absurd hmem (by simp)

omit [TransOrd K] [LawfulEqOrd K] in
/-- An increment shows in the table unless the etag row is missing. -/
theorem bumped_eq_self_iff (db : DiscoveryDb K) : db.bumped = db ↔ db.etag = none := by
  constructor
  · intro h
    have hetag : db.etag.map (· + 1) = db.etag := congrArg DiscoveryDb.etag h
    cases hv : db.etag with
    | none => rfl
    | some value =>
        rw [hv, Option.map_some, Option.some.injEq] at hetag
        -- no value of the column is its own successor, the wrapped one included
        exact absurd (Int64.add_eq_left.mp hetag) (by decide)
  · intro h
    unfold bumped
    rw [h, Option.map_none, ← h]

end Tables

/-! ## §2. The exact condition. -/

variable {K : Type} [Ord K] [TransOrd K] [LawfulEqOrd K] [ToString K]

/-- An answer that is an error comes with the tables as they were before. -/
def ErrorsKeepTables {α : Type} (before : DiscoveryDb K)
    (outcome : Except DiscoveryBackendStoreError α × DiscoveryDb K) : Prop :=
  ∀ e, outcome.1 = .error e → outcome.2 = before

/-- No statement of the mutation writes before another one fails; in `put`, a
failed upsert is also followed by no increment. -/
def NothingWritten (eng : Engine) (faults : Faults) (now : DateTime) (db : DiscoveryDb K) :
    Mutation K → Prop
  | .post b =>
      faults.row.isSome = true ∨ b.publicKey ∈ db.rows ∨ ¬ EtagFails faults db
  | .put b =>
      -- a failed upsert is followed by the increment, which must not show
      if faults.row.isSome = true then EtagFails faults db ∨ db.etag = none
      else (faults.timestamps = none ∧ ¬ EtagFails faults db)
        ∨ db.rows[b.publicKey]? = some (putRow eng now b db)
  | .patch p =>
      faults.row.isSome = true ∨ ¬ EtagFails faults db
        ∨ ∀ row, db.rows[p.publicKey]? = some row → patchRow eng now p.backend row = row
  | .delete k =>
      faults.row.isSome = true ∨ k ∉ db.rows ∨ ¬ EtagFails faults db

omit [TransOrd K] [LawfulEqOrd K] [ToString K] in
theorem errorsKeepTables_ok {α : Type} (before after : DiscoveryDb K) (a : α) :
    ErrorsKeepTables before (.ok a, after) := by
  intro e h
  cases h

omit [TransOrd K] [LawfulEqOrd K] [ToString K] in
theorem errorsKeepTables_error {α : Type} (before after : DiscoveryDb K)
    (e : DiscoveryBackendStoreError) :
    ErrorsKeepTables before ((.error e : Except _ α), after) ↔ after = before :=
  ⟨fun h => h e rfl, fun h _ _ => h⟩

theorem post_errorsKeepTables_iff (eng : Engine) (faults : Faults) (now : DateTime)
    (b : DiscoveryBackend K) (db : DiscoveryDb K) :
    ErrorsKeepTables db (post eng faults now b db)
      ↔ NothingWritten eng faults now db (.post b) := by
  unfold NothingWritten
  cases hrow : faults.row with
  | some e =>
      have hstate := post_insertFault eng now b db hrow
      exact ⟨fun _ => .inl rfl, fun _ _ _ => hstate⟩
  | none =>
      by_cases hmem : b.publicKey ∈ db.rows
      · rw [post_conflict eng now hrow hmem]
        exact ⟨fun _ => .inr (.inl hmem), fun _ => errorsKeepTables_ok _ _ _⟩
      · by_cases hetag : EtagFails faults db
        · obtain ⟨e, hpost⟩ := post_etagFails eng now hrow hmem hetag
          rw [hpost, errorsKeepTables_error, insertedRows, withRows_insert_eq_self_iff]
          simp [hmem, hetag]
        · rw [post_inserted eng now hrow hmem hetag]
          exact ⟨fun _ => .inr (.inr hetag), fun _ => errorsKeepTables_ok _ _ _⟩

theorem put_errorsKeepTables_iff (eng : Engine) (faults : Faults) (now : DateTime)
    (b : DiscoveryBackend K) (db : DiscoveryDb K) :
    ErrorsKeepTables db (put eng faults now b db)
      ↔ NothingWritten eng faults now db (.put b) := by
  simp only [NothingWritten]
  cases hrow : faults.row with
  | some e =>
      rw [if_pos (by rfl)]
      by_cases hetag : EtagFails faults db
      · rw [put_upsertFault_etagFails eng now b hrow hetag, errorsKeepTables_error]
        exact ⟨fun _ => .inl hetag, fun _ => rfl⟩
      · rw [put_upsertFault eng now b hrow hetag, errorsKeepTables_error, bumped_eq_self_iff]
        simp [hetag]
  | none =>
      rw [if_neg (by simp)]
      by_cases hlater : faults.timestamps.isSome = true ∨ EtagFails faults db
      · obtain ⟨e, hput⟩ := put_laterFault eng now b hrow hlater
        rw [hput, errorsKeepTables_error, upsertedRows, withRows_insert_eq_self_iff]
        constructor
        · exact .inr
        · rintro (⟨hts, hetag⟩ | hsame)
          · rcases hlater with h | h
            · rw [hts] at h; cases h
            · exact absurd h hetag
          · exact hsame
      · obtain ⟨hts, hetag⟩ := not_or.mp hlater
        have hnone : faults.timestamps = none := by simpa using hts
        rw [put_upserted eng now b hrow hnone hetag]
        exact ⟨fun _ => .inl ⟨hnone, hetag⟩, fun _ => errorsKeepTables_ok _ _ _⟩

theorem patch_errorsKeepTables_iff (eng : Engine) (faults : Faults) (now : DateTime)
    (p : DiscoveryBackendPatch K) (db : DiscoveryDb K) :
    ErrorsKeepTables db (patch eng faults now p db)
      ↔ NothingWritten eng faults now db (.patch p) := by
  unfold NothingWritten
  cases hrow : faults.row with
  | some e =>
      rw [patch_updateFault eng now p db hrow, errorsKeepTables_error]
      exact ⟨fun _ => .inl rfl, fun _ => rfl⟩
  | none =>
      cases hfound : db.rows[p.publicKey]? with
      | none =>
          rw [patch_missing eng now hrow hfound]
          refine ⟨fun _ => .inr (.inr fun row h => ?_), fun _ => errorsKeepTables_ok _ _ _⟩
          rw [hfound] at h
          cases h
      | some row =>
          by_cases hetag : EtagFails faults db
          · obtain ⟨e, hpatch⟩ := patch_etagFails eng now hrow hfound hetag
            rw [hpatch, errorsKeepTables_error, patchedRows, withRows_insert_eq_self_iff, hfound,
              Option.some.injEq]
            constructor
            · intro hsame
              refine .inr (.inr fun row' h => ?_)
              rw [hfound, Option.some.injEq] at h
              rw [← h, ← hsame]
            -- the row was what the patch makes of it: nothing shows but the update time
            · rintro (h | h | h)
              · cases h
              · exact absurd hetag h
              · exact (h row hfound).symm
          · rw [patch_updated eng now hrow hfound hetag]
            exact ⟨fun _ => .inr (.inl hetag), fun _ => errorsKeepTables_ok _ _ _⟩

theorem delete_errorsKeepTables_iff (eng : Engine) (faults : Faults) (now : DateTime)
    (k : K) (db : DiscoveryDb K) :
    ErrorsKeepTables db (delete eng faults k db)
      ↔ NothingWritten eng faults now db (.delete k) := by
  unfold NothingWritten
  cases hrow : faults.row with
  | some e =>
      rw [delete_deleteFault eng k db hrow, errorsKeepTables_error]
      exact ⟨fun _ => .inl rfl, fun _ => rfl⟩
  | none =>
      by_cases hmem : k ∈ db.rows
      · by_cases hetag : EtagFails faults db
        · obtain ⟨e, hdelete⟩ := delete_etagFails eng hrow hmem hetag
          rw [hdelete, errorsKeepTables_error]
          simp [withRows_erase_ne_self hmem, hmem, hetag]
        · rw [delete_deleted eng hrow hmem hetag]
          exact ⟨fun _ => .inr (.inr hetag), fun _ => errorsKeepTables_ok _ _ _⟩
      · rw [delete_missing eng hrow hmem]
        exact ⟨fun _ => .inr (.inl hmem), fun _ => errorsKeepTables_ok _ _ _⟩

omit [TransOrd K] [LawfulEqOrd K] [ToString K] in
/-- Wrapping the answer does not change whether it is an error. -/
theorem errorsKeepTables_map {α β : Type} (f : α → β) (before : DiscoveryDb K)
    (outcome : Except DiscoveryBackendStoreError α × DiscoveryDb K) :
    ErrorsKeepTables before (outcome.1.map f, outcome.2) ↔ ErrorsKeepTables before outcome := by
  obtain ⟨result, after⟩ := outcome
  cases result with
  | ok a => exact ⟨fun _ => errorsKeepTables_ok _ _ _, fun _ => errorsKeepTables_ok _ _ _⟩
  | error e =>
      rw [errorsKeepTables_error]
      exact errorsKeepTables_error _ _ e

/-- **Atomicity of a mutation, exactly**: an error leaves rows and etag as they
were if and only if nothing was written around the statement that failed. -/
theorem mutate_errorsKeepTables_iff (eng : Engine) (faults : Faults) (now : DateTime)
    (m : Mutation K) (db : DiscoveryDb K) :
    ErrorsKeepTables db ((backendStore eng faults).mutate now m db)
      ↔ NothingWritten eng faults now db m := by
  cases m with
  | post b =>
      rw [← post_errorsKeepTables_iff eng faults now b db]
      exact errorsKeepTables_map _ _ (post eng faults now b db)
  | put b =>
      rw [← put_errorsKeepTables_iff eng faults now b db]
      exact errorsKeepTables_map _ _ (put eng faults now b db)
  | patch p =>
      rw [← patch_errorsKeepTables_iff eng faults now p db]
      exact errorsKeepTables_map _ _ (patch eng faults now p db)
  | delete k =>
      rw [← delete_errorsKeepTables_iff eng faults now k db]
      exact errorsKeepTables_map _ _ (delete eng faults k db)

/-- A database with one row, and a connection that is lost before the row of a mutation is
written. -/
def oneRow : DiscoveryDb Nat :=
  ((backendStore Engine.exact Faults.none).mutate 0 (.post (sampleBackend 1 {"default"}))
    migrated).2

/-- The failed delete of a stored row leaves it. -/
theorem mutate_errorsKeepTables_lost :
    let faults : Faults := { row := some (.other "connection lost"), timestamps := none, etag := none }
    ErrorsKeepTables oneRow ((backendStore Engine.exact faults).mutate 1 (.delete 1) oneRow)
      ∧ 1 ∈ oneRow.rows := by
  intro faults
  refine ⟨?_, by decide⟩
  exact (mutate_errorsKeepTables_iff Engine.exact faults 1 (.delete 1) oneRow).mpr (.inl rfl)

/-- A `post` whose etag increment fails reports the error and keeps the row. -/
theorem post_tears_at_increment :
    ¬ ∀ (eng : Engine) (faults : Faults) (now : DateTime) (m : Mutation Nat)
        (db : DiscoveryDb Nat),
      ErrorsKeepTables db ((backendStore eng faults).mutate now m db) := by
  intro h
  let faults : Faults := { row := none, timestamps := none, etag := some (.other "connection lost") }
  have hpost : NothingWritten Engine.exact faults 0 migrated
      (.post (sampleBackend 1 {"default"})) :=
    (post_errorsKeepTables_iff Engine.exact faults 0 _ migrated).mp
      ((errorsKeepTables_map _ _ _).mp (h Engine.exact faults 0 (.post _) migrated))
  simp [NothingWritten, migrated, EtagFails, faults] at hpost

end DiscoveryDb

end Switchgear.Discovery
