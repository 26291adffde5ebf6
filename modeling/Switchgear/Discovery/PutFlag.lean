/-
  Switchgear.Discovery.PutFlag — the flag `put` answers with, in interleavings of
  the puts and deletes of any number of clients.

  A put reads the clock first and runs its transaction later.  The transaction
  tells a new row from an old one by its timestamps: a new row has its reading
  twice, an old one gets the reading plus a second as its update time.  The two
  are one value again where the row was inserted by a put that read the clock
  about a second LATER but ran its transaction before.

  Beside the database the state keeps, for each row, the reading of the put that
  inserted it.

  Main results:
    * `put_flags_iff` — every put answers right exactly if no put comes to a row
      whose inserter's reading is stored as its own plus a second,
    * `overtaken_of_collides` — such an inserter has read the clock later.
-/
import Switchgear.Discovery.DbOutcome

namespace Switchgear.Discovery

open Switchgear.Lib
open Std (ExtTreeMap TransOrd LawfulEqOrd)

/-! ## §1. Timestamp columns. -/

/-- An engine whose timestamp columns cut a reading down to a precision of a second or finer. -/
def Engine.truncating (precision : DateTime) (hpos : 0 < precision) (hfine : precision ≤ second) :
    Engine where
  storeTimestamp := fun t => precision * (t / precision)
  storeTimestamp_mono := by
    intro t t' hle
    exact Int.mul_le_mul_of_nonneg_left (Int.ediv_le_ediv hpos hle) hpos.le
  storeTimestamp_second := by
    intro t
    have hcell : (t + precision * 1) / precision = t / precision + 1 :=
      Int.add_mul_ediv_left t 1 hpos.ne'
    have hle : t + precision * 1 ≤ t + second := by
      rw [Int.mul_one]
      exact Int.add_le_add_left hfine t
    have hlt : t / precision < (t + second) / precision :=
      Int.lt_of_add_one_le (hcell ▸ Int.ediv_le_ediv hpos hle)
    exact Int.mul_lt_mul_of_pos_left hlt hpos
  uniqueViolation := Engine.exact.uniqueViolation
  uniqueViolation_unique := Engine.exact.uniqueViolation_unique
  outOfRange := Engine.exact.outOfRange

/-- The reading of the inserter is stored as the later reading of a put plus a second. -/
def Collides (eng : Engine) (inserted now : DateTime) : Prop :=
  eng.storeTimestamp inserted = eng.storeTimestamp (now + second)

instance (eng : Engine) (inserted now : DateTime) : Decidable (Collides eng inserted now) :=
  inferInstanceAs (Decidable (_ = _))

/-- **Only an overtaking insert collides**: the inserter has read the clock after the put. -/
theorem overtaken_of_collides {eng : Engine} {inserted now : DateTime}
    (h : Collides eng inserted now) : now < inserted := by
  by_contra hle
  have hmono : eng.storeTimestamp inserted ≤ eng.storeTimestamp now :=
    eng.storeTimestamp_mono (not_lt.mp hle)
  have hsecond := eng.storeTimestamp_second now
  unfold Collides at h
  rw [h] at hmono
  exact absurd hsecond (not_lt.mpr hmono)

/-! ## §2. Calls in flight. -/

section Race

variable {K C : Type}

/-- How far a put of a client has come. -/
inductive PutPhase (K : Type) where
  | idle
  | started (now : DateTime) (backend : DiscoveryBackend K)

variable [Ord K]

/-- The database, the puts of the clients and the readings that inserted the rows. -/
structure PutFlagState (K C : Type) [Ord K] where
  db : DiscoveryDb K
  puts : C → PutPhase K
  inserted : K → Option DateTime

/-- A put reads the clock, a put runs its transaction, or somebody deletes. -/
inductive PutFlagEvent (K C : Type) where
  | start (client : C) (now : DateTime) (backend : DiscoveryBackend K)
  | transaction (client : C)
  | delete (publicKey : K)

/-- The clock reading of an event that takes one. -/
def PutFlagEvent.clock : PutFlagEvent K C → Option DateTime
  | .start _ now _ => some now
  | _ => none

/-- What a put answers, and whether a row was there when its transaction ran. -/
structure PutFlagAnswer where
  existed : Bool
  result : Except DiscoveryBackendStoreError Bool

/-- `Ok(true)` if and only if there was no row. -/
def PutFlagAnswer.Right (answer : PutFlagAnswer) : Prop := answer.result = .ok (!answer.existed)

instance (answer : PutFlagAnswer) : Decidable answer.Right :=
  match h : answer.result with
  | .ok created =>
      decidable_of_iff (created = !answer.existed) (by unfold PutFlagAnswer.Right; rw [h]; simp)
  | .error e => isFalse (by unfold PutFlagAnswer.Right; rw [h]; simp)

variable [TransOrd K] [LawfulEqOrd K] [DecidableEq K] [DecidableEq C] [ToString K] (eng : Engine)

/-- One transaction, or the start of a put; an event that is not the next step of its client
does nothing. -/
def putFlags : Machine (PutFlagState K C) (PutFlagEvent K C) (Option PutFlagAnswer)
  | s, .start client now backend =>
      match s.puts client with
      | .idle => (none, { s with puts := Function.update s.puts client (.started now backend) })
      | .started _ _ => (none, s)
  | s, .transaction client =>
      match s.puts client with
      | .idle => (none, s)
      | .started now backend =>
          -- the truth the answer is held against; the code has only the two timestamps
          let existed := decide (backend.publicKey ∈ s.db.rows)
          let (result, db) := DiscoveryDb.put eng Faults.none now backend s.db
          (some { existed, result },
            { db
              puts := Function.update s.puts client .idle
              inserted := Function.update s.inserted backend.publicKey
                (some ((s.inserted backend.publicKey).getD now)) })
  | s, .delete publicKey =>
      let (_, db) := DiscoveryDb.delete eng Faults.none publicKey s.db
      (none, { s with db, inserted := Function.update s.inserted publicKey none })

end Race

/-! ## §3. The readings behind the rows. -/

section Readings

variable {K : Type} [Ord K] [TransOrd K] (eng : Engine)

/-- The readings are those that inserted the rows that are there. -/
def Tracks (db : DiscoveryDb K) (inserted : K → Option DateTime) : Prop :=
  ∀ key : K, db.rows[key]?.map Model.createdAt = (inserted key).map eng.storeTimestamp

theorem tracks_no_rows {db : DiscoveryDb K} (hempty : db.rows = ∅) :
    Tracks eng db fun _ => none := by
  intro key
  rw [hempty, ExtTreeMap.getElem?_empty]
  rfl

variable {eng} {db : DiscoveryDb K} {inserted : K → Option DateTime}

/-- A key without a row has no reading. -/
theorem Tracks.eq_none (h : Tracks eng db inserted) {key : K} (hkey : key ∉ db.rows) :
    inserted key = none := by
  have hold := h key
  rw [ExtTreeMap.mem_iff_isSome_getElem?, Bool.not_eq_true, Option.isSome_eq_false_iff,
    Option.isNone_iff_eq_none] at hkey
  rw [hkey, Option.map_none, eq_comm, Option.map_eq_none_iff] at hold
  exact hold

/-- The two timestamps of a put row are one value exactly if the row is new or its inserter's
reading collides. -/
theorem putRow_timestamps_iff (h : Tracks eng db inserted) (now : DateTime)
    (backend : DiscoveryBackend K) :
    (DiscoveryDb.putRow eng now backend db).createdAt
        = (DiscoveryDb.putRow eng now backend db).updatedAt
      ↔ backend.publicKey ∉ db.rows
        ∨ ∃ reading ∈ inserted backend.publicKey, Collides eng reading now := by
  have hold := h backend.publicKey
  unfold DiscoveryDb.putRow
  rw [ExtTreeMap.mem_iff_isSome_getElem?]
  -- a new row has one value in both columns; an old one keeps its creation time
  cases hrow : db.rows[backend.publicKey]? with
  | none => exact iff_of_true rfl (.inl (by simp))
  | some row =>
      rw [hrow, Option.map_some, eq_comm, Option.map_eq_some_iff] at hold
      obtain ⟨reading, hreading, hsame⟩ := hold
      rw [hreading]
      show row.createdAt = eng.storeTimestamp (now + second) ↔ _
      rw [← hsame]
      simp [Collides]

variable [LawfulEqOrd K] [DecidableEq K]

/-- A put leaves the creation time of its row alone. -/
theorem Tracks.put (h : Tracks eng db inserted) (now : DateTime) (backend : DiscoveryBackend K) :
    Tracks eng (db.withRows (DiscoveryDb.upsertedRows eng now backend db)).bumped
      (Function.update inserted backend.publicKey
        (some ((inserted backend.publicKey).getD now))) := by
  intro key
  show (db.rows.insert backend.publicKey _)[key]?.map Model.createdAt = _
  rw [ExtTreeMap.getElem?_insert]
  by_cases hkey : key = backend.publicKey
  · subst hkey
    rw [if_pos Std.ReflCmp.compare_self, Function.update_self, Option.map_some, Option.map_some]
    have hold := h backend.publicKey
    unfold DiscoveryDb.putRow
    cases hrow : db.rows[backend.publicKey]? with
    | none =>
        rw [hrow, Option.map_none, eq_comm, Option.map_eq_none_iff] at hold
        rw [hold]
        rfl
    | some row =>
        rw [hrow, Option.map_some, eq_comm, Option.map_eq_some_iff] at hold
        obtain ⟨reading, hreading, hsame⟩ := hold
        rw [hreading]
        show some row.createdAt = some (eng.storeTimestamp reading)
        rw [hsame]
  · rw [if_neg fun heq => hkey (LawfulEqOrd.eq_of_compare heq).symm, Function.update_of_ne hkey]
    exact h key

/-- A delete forgets the row and its reading. -/
theorem Tracks.erase (h : Tracks eng db inserted) (publicKey : K) :
    Tracks eng (db.withRows (db.rows.erase publicKey)) (Function.update inserted publicKey none) := by
  intro key
  show (db.rows.erase publicKey)[key]?.map Model.createdAt = _
  rw [ExtTreeMap.getElem?_erase]
  by_cases hkey : key = publicKey
  · subst hkey
    rw [if_pos Std.ReflCmp.compare_self, Function.update_self]
    rfl
  · rw [if_neg fun heq => hkey (LawfulEqOrd.eq_of_compare heq).symm, Function.update_of_ne hkey]
    exact h key

end Readings

/-! ## §4. Which puts answer right. -/

section Flags

variable {K C : Type} [Ord K] [TransOrd K] [LawfulEqOrd K] [DecidableEq K] [DecidableEq C]
  [ToString K] (eng : Engine)

/-- The put does not collide with the reading behind its row. -/
def PutPhase.Apart (inserted : K → Option DateTime) : PutPhase K → Prop
  | .started now backend => ∀ reading ∈ inserted backend.publicKey, ¬ Collides eng reading now
  | .idle => True

instance (inserted : K → Option DateTime) : (phase : PutPhase K) → Decidable (phase.Apart eng inserted)
  | .started now backend =>
      inferInstanceAs (Decidable
        (∀ reading ∈ inserted backend.publicKey, ¬ Collides eng reading now))
  | .idle => isTrue trivial

/-- The put whose transaction runs does not. -/
def Apart (s : PutFlagState K C) : PutFlagEvent K C → Prop
  | .transaction client => (s.puts client).Apart eng s.inserted
  | _ => True

instance (s : PutFlagState K C) : (event : PutFlagEvent K C) → Decidable (Apart eng s event)
  | .transaction client => inferInstanceAs (Decidable ((s.puts client).Apart eng s.inserted))
  | .start _ _ _ | .delete _ => isTrue trivial

/-- The increment of the etag, the one statement that could fail, does not overflow. -/
def EtagCounts (s : PutFlagState K C) (_ : PutFlagEvent K C) : Prop :=
  s.db.etag ≠ some Int64.maxValue

instance (s : PutFlagState K C) (event : PutFlagEvent K C) : Decidable (EtagCounts s event) :=
  inferInstanceAs (Decidable (_ ≠ _))

/-- No client has begun. -/
def PutFlagState.begin (db : DiscoveryDb K) (inserted : K → Option DateTime) :
    PutFlagState K C where
  db
  puts := fun _ => .idle
  inserted

variable {eng} {s : PutFlagState K C}

/-- **One transaction**: the readings stay those behind the rows, and a put answers right
exactly if it does not collide. -/
theorem putFlags_step (h : Tracks eng s.db s.inserted) (event : PutFlagEvent K C)
    (hetag : EtagCounts s event) :
    Tracks eng (putFlags eng s event).2.db (putFlags eng s event).2.inserted
      ∧ ((∀ answer ∈ (putFlags eng s event).1, answer.Right) ↔ Apart eng s event) := by
  have hsucceeds := DiscoveryDb.not_etagFails_none hetag
  cases event with
  | start client now backend =>
      unfold putFlags
      dsimp only
      cases s.puts client with
      | idle => exact ⟨h, iff_of_true (by simp) trivial⟩
      | started _ _ => exact ⟨h, iff_of_true (by simp) trivial⟩
  | transaction client =>
      unfold putFlags Apart PutPhase.Apart
      dsimp only
      cases hphase : s.puts client with
      | idle => exact ⟨h, iff_of_true (by simp) trivial⟩
      | started now backend =>
          dsimp only
          rw [DiscoveryDb.put_upserted eng now backend rfl rfl hsucceeds]
          refine ⟨h.put now backend, ?_⟩
          have htimestamps := putRow_timestamps_iff h now backend
          have hright : ∀ created existed : Bool,
              (∀ answer ∈ some (⟨existed, .ok created⟩ : PutFlagAnswer), answer.Right)
                ↔ created = !existed := by
            intro created existed
            simp [PutFlagAnswer.Right]
          rw [hright]
          by_cases hmem : backend.publicKey ∈ s.db.rows
          · rw [decide_eq_true hmem, Bool.not_true, decide_eq_false_iff_not, htimestamps]
            simp [hmem]
          · -- a new row, which has no reading behind it
            have hnone := h.eq_none hmem
            rw [decide_eq_false hmem, Bool.not_false, decide_eq_true_iff, htimestamps]
            simp [hmem, hnone]
  | delete publicKey =>
      refine ⟨?_, iff_of_true (by simp [putFlags]) trivial⟩
      unfold putFlags
      dsimp only
      by_cases hmem : publicKey ∈ s.db.rows
      · rw [DiscoveryDb.delete_deleted eng rfl hmem hsucceeds]
        exact h.erase publicKey
      · rw [DiscoveryDb.delete_missing eng rfl hmem]
        dsimp only
        rw [← h.eq_none hmem, Function.update_eq_self]
        exact h

/-- **Exactly these interleavings are answered right**: from any tables whose rows have the
given readings behind them, over any timestamp columns, every put of any number of clients
answers whether there was no row exactly if no put that runs its transaction collides. -/
theorem put_flags_iff (eng : Engine) {db : DiscoveryDb K} {inserted : K → Option DateTime}
    (htracks : Tracks eng db inserted) (events : List (PutFlagEvent K C))
    (hsucceed : (putFlags eng).Along EtagCounts (PutFlagState.begin db inserted) events) :
    (∀ step ∈ ((putFlags eng).run (PutFlagState.begin db inserted) events).1,
        ∀ answer ∈ step, answer.Right)
      ↔ (putFlags eng).Along (Apart eng) (PutFlagState.begin db inserted) events :=
  (putFlags eng).run_good_iff (fun s => Tracks eng s.db s.inserted) EtagCounts _ (Apart eng)
    (fun _ event h hetag => putFlags_step h event hetag) _ events htracks hsucceed

end Flags

/-! ## §5. Two puts of one new key. -/

/-- The second put waits for the first. -/
theorem put_flags_one_after_the_other :
    Tracks (K := ℕ) (Engine.truncating second (by decide) le_rfl) .migrated (fun _ => none)
    ∧ ∀ step ∈ ((putFlags (Engine.truncating second (by decide) le_rfl)).run
        (PutFlagState.begin .migrated fun _ => none)
        [.start (0 : ℕ) 500000000 (sampleBackend 1 {"a"}), .transaction 0,
          .start 1 1200000000 (sampleBackend 1 {"a"}), .transaction 1, .delete 1]).1,
      ∀ answer ∈ step, answer.Right :=
  ⟨tracks_no_rows _ rfl,
    (put_flags_iff (Engine.truncating second (by decide) le_rfl) (tracks_no_rows _ rfl) _
      (by decide)).mpr (by decide)⟩

/-- **A put that is overtaken**: it reads the clock at half a second, another put of the key at
1.2 seconds; the other one inserts the row, and the first answers that it was new. -/
theorem overtaken_put_answers_new :
    ¬ ∀ (precision : DateTime) (hpos : 0 < precision) (hfine : precision ≤ second)
        (events : List (PutFlagEvent ℕ ℕ)),
      (events.filterMap PutFlagEvent.clock).Pairwise (· ≤ ·) →
      (putFlags (Engine.truncating precision hpos hfine)).Along EtagCounts
        (PutFlagState.begin .migrated fun _ => none) events →
      ∀ step ∈ ((putFlags (Engine.truncating precision hpos hfine)).run
          (PutFlagState.begin .migrated fun _ => none) events).1,
        ∀ answer ∈ step, answer.Right := by
  intro h
  have hrun := h second (by decide) le_rfl
    [.start 0 500000000 (sampleBackend 1 {"a"}), .start 1 1200000000 (sampleBackend 1 {"a"}),
      .transaction 1, .transaction 0] (by decide) (by decide)
  revert hrun
  decide

end Switchgear.Discovery
