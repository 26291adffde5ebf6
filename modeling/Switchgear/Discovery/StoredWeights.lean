/-
  Switchgear.Discovery.StoredWeights — what a weight is after it has been through
  the `integer` column of the database store.

  `post`, `put` and `patch` write `weight as i32`, `get` and `get_all` read it
  back `as usize`.  The first cast drops the upper half of the word, the second
  repeats bit 31 through it.

    * `asUsize_asI32_eq_iff` — the two casts give the weight back IFF bit 31 and
      the upper half are all zero or all one,
    * `mutate_weight` — every write path leaves the cast weight in the row,
    * `weight_shown_iff` — over whole runs: what either read shows afterwards is
      the weight that was written IFF the casts give it back.
-/
import Switchgear.Discovery.DbOutcome

namespace Switchgear.Discovery

open Switchgear.Lib
open Std (ExtTreeMap TransOrd LawfulEqOrd)

/-! ## §1. The two casts. -/

/-- The weights below 2^31, and the 2^31 largest ones. -/
def WeightSurvives (weight : UInt64) : Prop :=
  weight.toNat < 2 ^ 31 ∨ 2 ^ 64 - 2 ^ 31 ≤ weight.toNat

instance (weight : UInt64) : Decidable (WeightSurvives weight) :=
  inferInstanceAs (Decidable (_ ∨ _))

theorem asUsize_asI32_toNat (weight : UInt64) :
    (asUsize (asI32 weight)).toNat
      = if weight.toNat % 2 ^ 32 < 2 ^ 31 then weight.toNat % 2 ^ 32
        else weight.toNat % 2 ^ 32 + (2 ^ 64 - 2 ^ 32) := by
  have hbits : (asUsize (asI32 weight)).toNat
      = (BitVec.signExtend 64 (BitVec.setWidth 32 weight.toBitVec)).toNat := rfl
  -- the sign of the column value is bit 31 of the weight
  have hmsb : (BitVec.setWidth 32 weight.toBitVec).msb
      = decide (2 ^ 31 ≤ weight.toNat % 2 ^ 32) := by
    rw [BitVec.msb_eq_decide]
    simp
  rw [hbits, BitVec.toNat_signExtend, hmsb, BitVec.toNat_setWidth, BitVec.toNat_setWidth,
    UInt64.toNat_toBitVec]
  by_cases hlow : weight.toNat % 2 ^ 32 < 2 ^ 31
  · rw [if_pos hlow, if_neg (by simp; omega)]
    omega
  · rw [if_neg hlow, if_pos (by simp; omega)]
    omega

theorem asUsize_asI32_eq_iff (weight : UInt64) :
    asUsize (asI32 weight) = weight ↔ WeightSurvives weight := by
  have hlt := weight.toNat_lt
  rw [← UInt64.toNat_inj, asUsize_asI32_toNat]
  unfold WeightSurvives
  split <;> omega

namespace DiscoveryDb

variable {K : Type} [Ord K] [TransOrd K]

/-! ## §2. The write paths. -/

/-- The weight a mutation has written when it answers so. -/
def weightWritten : Mutation K → MutationAnswer K → Option UInt64
  | .post b, .posted (some _) => some b.backend.weight
  | .put b, .flag _ => some b.backend.weight
  | .patch p, .flag true => p.backend.weight
  | _, _ => none

theorem putRow_weight (eng : Engine) (now : DateTime) (backend : DiscoveryBackend K)
    (db : DiscoveryDb K) : (putRow eng now backend db).weight = asI32 backend.backend.weight := by
  unfold putRow
  cases db.rows[backend.publicKey]? <;> rfl

omit [Ord K] [TransOrd K] in
theorem patchRow_weight (eng : Engine) (now : DateTime) {patch : DiscoveryBackendPatchSparse}
    {weight : UInt64} (hweight : patch.weight = some weight) (row : Model K) :
    (patchRow eng now patch row).weight = asI32 weight := by
  show (patch.weight.map asI32).getD row.weight = asI32 weight
  rw [hweight]
  rfl

variable [ToString K]

theorem post_weight (eng : Engine) (faults : Faults) (now : DateTime) (b : DiscoveryBackend K)
    (db : DiscoveryDb K) {k : K} (hanswer : (post eng faults now b db).1 = .ok (some k)) :
    ∃ row, (post eng faults now b db).2.rows[b.publicKey]? = some row
      ∧ row.weight = asI32 b.backend.weight := by
  cases hrow : faults.row with
  | some e =>
      simp only [post, hrow, Statement.exec_fault, Except.isOk, Except.toBool,
        incrementEtagIf_false, transaction, checkEtag] at hanswer
      split at hanswer <;> cases hanswer
  | none =>
      by_cases hmem : b.publicKey ∈ db.rows
      · rw [post_conflict eng now hrow hmem] at hanswer
        cases hanswer
      · by_cases hetag : EtagFails faults db
        · obtain ⟨e, hpost⟩ := post_etagFails eng now hrow hmem hetag
          rw [hpost] at hanswer
          cases hanswer
        · rw [post_inserted eng now hrow hmem hetag]
          exact ⟨_, ExtTreeMap.getElem?_insert_self, rfl⟩

theorem put_weight (eng : Engine) (faults : Faults) (now : DateTime) (b : DiscoveryBackend K)
    (db : DiscoveryDb K) {flag : Bool} (hanswer : (put eng faults now b db).1 = .ok flag) :
    ∃ row, (put eng faults now b db).2.rows[b.publicKey]? = some row
      ∧ row.weight = asI32 b.backend.weight := by
  cases hrow : faults.row with
  | some e =>
      by_cases hetag : EtagFails faults db
      · rw [put_upsertFault_etagFails eng now b hrow hetag] at hanswer
        cases hanswer
      · rw [put_upsertFault eng now b hrow hetag] at hanswer
        cases hanswer
  | none =>
      by_cases hlater : faults.timestamps.isSome = true ∨ EtagFails faults db
      · obtain ⟨e, hput⟩ := put_laterFault eng now b hrow hlater
        rw [hput] at hanswer
        cases hanswer
      · obtain ⟨hts, hetag⟩ := not_or.mp hlater
        have hnone : faults.timestamps = none := by simpa using hts
        rw [put_upserted eng now b hrow hnone hetag]
        exact ⟨_, ExtTreeMap.getElem?_insert_self, putRow_weight eng now b db⟩

theorem patch_weight (eng : Engine) (faults : Faults) (now : DateTime)
    (p : DiscoveryBackendPatch K) (db : DiscoveryDb K) {weight : UInt64}
    (hweight : p.backend.weight = some weight)
    (hanswer : (patch eng faults now p db).1 = .ok true) :
    ∃ row, (patch eng faults now p db).2.rows[p.publicKey]? = some row
      ∧ row.weight = asI32 weight := by
  cases hrow : faults.row with
  | some e =>
      rw [patch_updateFault eng now p db hrow] at hanswer
      cases hanswer
  | none =>
      cases hfound : db.rows[p.publicKey]? with
      | none =>
          rw [patch_missing eng now hrow hfound] at hanswer
          cases hanswer
      | some row =>
          by_cases hetag : EtagFails faults db
          · obtain ⟨e, hpatch⟩ := patch_etagFails eng now hrow hfound hetag
            rw [hpatch] at hanswer
            cases hanswer
          · rw [patch_updated eng now hrow hfound hetag]
            exact ⟨_, ExtTreeMap.getElem?_insert_self, patchRow_weight eng now hweight row⟩

/-- Whichever statements fail: a write that answers success leaves the cast weight
in the row of its key. -/
theorem mutate_weight (eng : Engine) (faults : Faults) (now : DateTime) (m : Mutation K)
    (db : DiscoveryDb K) {answer : MutationAnswer K} {weight : UInt64}
    (hanswer : ((backendStore eng faults).mutate now m db).1 = .ok answer)
    (hweight : weightWritten m answer = some weight) :
    ∃ row, ((backendStore eng faults).mutate now m db).2.rows[m.publicKey]? = some row
      ∧ row.weight = asI32 weight := by
  cases m with
  | post b =>
      have hposted : (post eng faults now b db).1.map MutationAnswer.posted = .ok answer := hanswer
      cases hpost : (post eng faults now b db).1 with
      | error e =>
          rw [hpost] at hposted
          cases hposted
      | ok posted =>
          rw [hpost] at hposted
          cases hposted
          cases posted with
          | none => cases hweight
          | some k =>
              cases hweight
              exact post_weight eng faults now b db hpost
  | put b =>
      have hflag : (put eng faults now b db).1.map MutationAnswer.flag = .ok answer := hanswer
      cases hput : (put eng faults now b db).1 with
      | error e =>
          rw [hput] at hflag
          cases hflag
      | ok flag =>
          rw [hput] at hflag
          cases hflag
          cases hweight
          exact put_weight eng faults now b db hput
  | patch p =>
      have hflag : (patch eng faults now p db).1.map MutationAnswer.flag = .ok answer := hanswer
      cases hpatch : (patch eng faults now p db).1 with
      | error e =>
          rw [hpatch] at hflag
          cases hflag
      | ok flag =>
          rw [hpatch] at hflag
          cases hflag
          cases flag with
          | false => cases hweight
          | true => exact patch_weight eng faults now p db hweight hpatch
  | delete k => cases hweight

/-! ## §3. The rows over a run. -/

section Runs

variable [LawfulEqOrd K]

omit [LawfulEqOrd K] in
/-- The rows after a post: it may have inserted its row and failed after. -/
theorem post_rows (eng : Engine) (faults : Faults) (now : DateTime) (b : DiscoveryBackend K)
    (db : DiscoveryDb K) :
    (post eng faults now b db).2.rows = db.rows
    ∨ (post eng faults now b db).2.rows
        = db.rows.insert b.publicKey (stored eng (activeModel now b)) := by
  cases hrow : faults.row with
  | some e => exact .inl (congrArg rows (post_insertFault eng now b db hrow))
  | none =>
      by_cases hmem : b.publicKey ∈ db.rows
      · exact .inl (congrArg (fun r => r.2.rows) (post_conflict eng now hrow hmem))
      · right
        by_cases hetag : EtagFails faults db
        · obtain ⟨e, hpost⟩ := post_etagFails eng now hrow hmem hetag
          rw [hpost]
          rfl
        · rw [post_inserted eng now hrow hmem hetag]
          rfl

omit [LawfulEqOrd K] in
theorem put_rows (eng : Engine) (faults : Faults) (now : DateTime) (b : DiscoveryBackend K)
    (db : DiscoveryDb K) :
    (put eng faults now b db).2.rows = db.rows
    ∨ (put eng faults now b db).2.rows
        = db.rows.insert b.publicKey (putRow eng now b db) := by
  cases hrow : faults.row with
  | some e =>
      left
      by_cases hetag : EtagFails faults db
      · rw [put_upsertFault_etagFails eng now b hrow hetag]
      · rw [put_upsertFault eng now b hrow hetag]
        rfl
  | none =>
      right
      by_cases hlater : faults.timestamps.isSome = true ∨ EtagFails faults db
      · obtain ⟨e, hput⟩ := put_laterFault eng now b hrow hlater
        rw [hput]
        rfl
      · obtain ⟨hts, hetag⟩ := not_or.mp hlater
        rw [put_upserted eng now b hrow (by simpa using hts) hetag]
        rfl

omit [LawfulEqOrd K] in
theorem patch_rows (eng : Engine) (faults : Faults) (now : DateTime)
    (p : DiscoveryBackendPatch K) (db : DiscoveryDb K) :
    (patch eng faults now p db).2.rows = db.rows
    ∨ ∃ row, db.rows[p.publicKey]? = some row
      ∧ (patch eng faults now p db).2.rows
          = db.rows.insert p.publicKey (patchRow eng now p.backend row) := by
  cases hrow : faults.row with
  | some e =>
      left
      rw [patch_updateFault eng now p db hrow]
  | none =>
      cases hold : db.rows[p.publicKey]? with
      | none =>
          left
          rw [patch_missing eng now hrow hold]
      | some row =>
          right
          refine ⟨row, rfl, ?_⟩
          by_cases hetag : EtagFails faults db
          · obtain ⟨e, hpatch⟩ := patch_etagFails eng now hrow hold hetag
            rw [hpatch]
            rfl
          · rw [patch_updated eng now hrow hold hetag]
            rfl

omit [LawfulEqOrd K] in
theorem delete_rows (eng : Engine) (faults : Faults) (k : K) (db : DiscoveryDb K) :
    (delete eng faults k db).2.rows = db.rows
    ∨ (delete eng faults k db).2.rows = db.rows.erase k := by
  cases hrow : faults.row with
  | some e =>
      left
      rw [delete_deleteFault eng k db hrow]
  | none =>
      by_cases hmem : k ∈ db.rows
      · right
        by_cases hetag : EtagFails faults db
        · obtain ⟨e, hdelete⟩ := delete_etagFails eng hrow hmem hetag
          rw [hdelete]
          rfl
        · rw [delete_deleted eng hrow hmem hetag]
          rfl
      · left
        rw [delete_missing eng hrow hmem]

omit [LawfulEqOrd K] in
/-- Whichever statements fail: a mutation leaves the rows, writes one row under its
own key, or erases that row. -/
theorem mutate_rows (eng : Engine) (faults : Faults) (now : DateTime) (m : Mutation K)
    (db : DiscoveryDb K) :
    ((backendStore eng faults).mutate now m db).2.rows = db.rows
    ∨ (∃ row : Model K, (OwnKeys Model.id db.rows → row.id = m.publicKey)
        ∧ ((backendStore eng faults).mutate now m db).2.rows = db.rows.insert m.publicKey row)
    ∨ ((backendStore eng faults).mutate now m db).2.rows = db.rows.erase m.publicKey := by
  cases m with
  | post b =>
      rcases post_rows eng faults now b db with hkept | hinserted
      · exact .inl hkept
      · exact .inr (.inl ⟨_, fun _ => rfl, hinserted⟩)
  | put b =>
      rcases put_rows eng faults now b db with hkept | hinserted
      · exact .inl hkept
      · exact .inr (.inl ⟨_, putRow_id eng now b, hinserted⟩)
  | patch p =>
      rcases patch_rows eng faults now p db with hkept | ⟨row, hold, hinserted⟩
      · exact .inl hkept
      · exact .inr (.inl ⟨patchRow eng now p.backend row,
          fun hkeys => hkeys p.publicKey row hold, hinserted⟩)
  | delete k =>
      rcases delete_rows eng faults k db with hkept | herased
      · exact .inl hkept
      · exact .inr (.inr herased)

/-- The store as a machine: each input says which statements of the call fail. -/
def faultyMachine (eng : Engine) :
    Machine (DiscoveryDb K) (Faults × DateTime × Call K)
      (Except DiscoveryBackendStoreError (Answer K)) :=
  fun db (faults, input) => (backendStore eng faults).machine db input

/-- The call may write the row of the key. -/
def Writes (k : K) : Call K → Prop
  | .mutate m => m.publicKey = k
  | _ => False

omit [LawfulEqOrd K] in
theorem get_state (faults : Faults) (k : K) (db : DiscoveryDb K) :
    (get faults k db).2 = db := by
  unfold get selectById Statement.exec
  cases faults.row <;> rfl

omit [LawfulEqOrd K] [ToString K] in
theorem getAll_state (faults : Faults) (requestEtag : Option UInt64) (db : DiscoveryDb K) :
    (getAll faults requestEtag db).2 = db := by
  unfold getAll selectEtag selectAll Statement.exec
  cases faults.etag with
  | some e => rfl
  | none =>
      dsimp only
      split
      · rfl
      · cases faults.row <;> rfl

theorem faultyMachine_keys (eng : Engine) (db : DiscoveryDb K)
    (input : Faults × DateTime × Call K) (hkeys : OwnKeys Model.id db.rows) :
    OwnKeys Model.id (faultyMachine eng db input).2.rows := by
  obtain ⟨faults, now, call⟩ := input
  cases call with
  | get k =>
      show OwnKeys Model.id (get faults k db).2.rows
      rw [get_state]
      exact hkeys
  | getAll requestEtag =>
      show OwnKeys Model.id (getAll faults requestEtag db).2.rows
      rw [getAll_state]
      exact hkeys
  | mutate m =>
      show OwnKeys Model.id ((backendStore eng faults).mutate now m db).2.rows
      rcases mutate_rows eng faults now m db with heq | ⟨row, hid, heq⟩ | heq
      · rw [heq]
        exact hkeys
      · rw [heq]
        exact hkeys.insert (hid hkeys)
      · rw [heq]
        exact hkeys.erase _

theorem faultyMachine_frame (eng : Engine) (db : DiscoveryDb K)
    (input : Faults × DateTime × Call K) {k : K} (hother : ¬ Writes k input.2.2) :
    (faultyMachine eng db input).2.rows[k]? = db.rows[k]? := by
  obtain ⟨faults, now, call⟩ := input
  cases call with
  | get k' =>
      show (get faults k' db).2.rows[k]? = _
      rw [get_state]
  | getAll requestEtag =>
      show (getAll faults requestEtag db).2.rows[k]? = _
      rw [getAll_state]
  | mutate m =>
      have hne : ¬ compare m.publicKey k = .eq := fun h => hother (LawfulEqOrd.eq_of_compare h)
      show ((backendStore eng faults).mutate now m db).2.rows[k]? = _
      rcases mutate_rows eng faults now m db with heq | ⟨row, -, heq⟩ | heq
      · rw [heq]
      · rw [heq, ExtTreeMap.getElem?_insert, if_neg hne]
      · rw [heq, ExtTreeMap.getElem?_erase, if_neg hne]

theorem run_keys (eng : Engine) {db : DiscoveryDb K} (hkeys : OwnKeys Model.id db.rows)
    (inputs : List (Faults × DateTime × Call K)) :
    OwnKeys Model.id ((faultyMachine eng).run db inputs).2.rows :=
  (faultyMachine eng).run_invariant (fun db => OwnKeys Model.id db.rows) (fun _ _ => True)
    (fun db input h _ => faultyMachine_keys eng db input h) db inputs hkeys
    ((faultyMachine eng).along_of_forall _ _ fun _ _ _ => trivial)

theorem run_frame (eng : Engine) {k : K} :
    ∀ (db : DiscoveryDb K) (inputs : List (Faults × DateTime × Call K)),
      (∀ input ∈ inputs, ¬ Writes k input.2.2) →
      ((faultyMachine eng).run db inputs).2.rows[k]? = db.rows[k]?
  | _, [], _ => rfl
  | db, input :: inputs, hother => by
      rw [Machine.run_cons,
        run_frame eng _ inputs fun input' h => hother input' (List.mem_cons_of_mem _ h)]
      exact faultyMachine_frame eng db input (hother input List.mem_cons_self)

/-! ## §4. The read paths. -/

/-- `get` shows the weight under the key. -/
def GetShows (db : DiscoveryDb K) (k : K) (weight : UInt64) : Prop :=
  ∃ b, (get Faults.none k db).1 = .ok (some b) ∧ b.backend.weight = weight

/-- Every `get_all` that answers the backends shows the weight under the key. -/
def GetAllShows (db : DiscoveryDb K) (k : K) (weight : UInt64) : Prop :=
  ∀ requestEtag etag l,
    (getAll Faults.none requestEtag db).1 = .ok { etag, backends := some l } →
    (∃ b ∈ l, b.publicKey = k) ∧ ∀ b ∈ l, b.publicKey = k → b.backend.weight = weight

omit [LawfulEqOrd K] in
theorem getShows_iff {db : DiscoveryDb K} {k : K} {row : Model K} (hrow : db.rows[k]? = some row)
    (weight : UInt64) : GetShows db k weight ↔ asUsize row.weight = weight := by
  have hget : (get Faults.none k db).1 = .ok (some row.toDomain) := by
    show Except.ok (db.rows[k]?.map Model.toDomain) = _
    rw [hrow]
    rfl
  unfold GetShows
  rw [hget]
  constructor
  · intro ⟨b, hb, hweight⟩
    cases hb
    exact hweight
  · intro hweight
    exact ⟨row.toDomain, rfl, hweight⟩

omit [ToString K] in
theorem getAllShows_iff {db : DiscoveryDb K} (hkeys : OwnKeys Model.id db.rows) {k : K}
    {row : Model K} (hrow : db.rows[k]? = some row) (weight : UInt64) :
    GetAllShows db k weight ↔ asUsize row.weight = weight := by
  have hlisted : ∀ b, b ∈ db.models.map Model.toDomain
      ↔ db.rows[b.publicKey]?.map Model.toDomain = some b :=
    hkeys.mem_listing_iff (f := Model.toDomain) (List.perm_insertionSort _ _) (fun _ => rfl)
  have hid : row.id = k := hkeys k row hrow
  have hmem : row.toDomain ∈ db.models.map Model.toDomain := by
    rw [hlisted]
    show db.rows[row.id]?.map _ = _
    rw [hid, hrow]
    rfl
  unfold GetAllShows
  constructor
  · intro h
    -- a request without an etag is always answered with the backends
    have hall := h none db.responseEtag (db.models.map Model.toDomain)
      (congrArg Prod.fst (getAll_none none db))
    exact hall.2 row.toDomain hmem hid
  · intro hweight requestEtag etag l hanswer
    rw [getAll_none] at hanswer
    have hl : l = db.models.map Model.toDomain := by
      by_cases hcurrent : requestEtag = some db.responseEtag
      · rw [if_pos hcurrent] at hanswer
        cases hanswer
      · rw [if_neg hcurrent] at hanswer
        cases hanswer
        rfl
    rw [hl]
    refine ⟨⟨row.toDomain, hmem, hid⟩, ?_⟩
    intro b hb hk
    rw [hlisted, hk, hrow, Option.map_some, Option.some.injEq] at hb
    rw [← hb]
    exact hweight

/-! ## §5. A weight through the database. -/

/-- A run of the store that writes a weight, then goes on without writing its key. -/
structure WeightRun (K : Type) [Ord K] [TransOrd K] [ToString K] (eng : Engine) where
  before : List (Faults × DateTime × Call K)
  faults : Faults
  now : DateTime
  write : Mutation K
  between : List (Faults × DateTime × Call K)
  answer : MutationAnswer K
  weight : UInt64
  succeeds : ((backendStore eng faults).mutate now write
    ((faultyMachine eng).run migrated before).2).1 = .ok answer
  writes : weightWritten write answer = some weight
  leaves : ∀ input ∈ between, ¬ Writes write.publicKey input.2.2

/-- The database at the end of the run. -/
def WeightRun.after {eng : Engine} (r : WeightRun K eng) : DiscoveryDb K :=
  ((faultyMachine eng).run migrated
    (r.before ++ (r.faults, r.now, .mutate r.write) :: r.between)).2

/-- Each read shows the weight that was written if and only if it survives the casts. -/
theorem weight_shown_iff {eng : Engine} (r : WeightRun K eng) :
    (GetShows r.after r.write.publicKey r.weight ↔ WeightSurvives r.weight)
      ∧ (GetAllShows r.after r.write.publicKey r.weight ↔ WeightSurvives r.weight) := by
  have hkeys : OwnKeys Model.id r.after.rows := run_keys eng OwnKeys.empty _
  obtain ⟨row, hwritten, hcast⟩ := mutate_weight eng r.faults r.now r.write _ r.succeeds r.writes
  have hrow : r.after.rows[r.write.publicKey]? = some row := by
    unfold WeightRun.after
    rw [Machine.run_append, Machine.run_cons]
    rw [run_frame eng _ r.between r.leaves]
    exact hwritten
  rw [getShows_iff hrow, getAllShows_iff hkeys hrow, hcast, asUsize_asI32_eq_iff]
  exact ⟨Iff.rfl, Iff.rfl⟩

end Runs

/-- A fresh database and the post of one backend of the given weight. -/
def postedWeight (weight : UInt64) : WeightRun ℕ Engine.exact where
  before := []
  faults := Faults.none
  now := 0
  write := .post { sampleBackend 1 {"default"} with
    backend := { (sampleBackend 1 {"default"}).backend with weight } }
  between := []
  answer := .posted (some 1)
  weight
  succeeds := rfl
  writes := rfl
  leaves := by simp

end DiscoveryDb

end Switchgear.Discovery
