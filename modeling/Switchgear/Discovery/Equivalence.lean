/-
  Switchgear.Discovery.Equivalence — the memory store and the database store
  answer the same, call after call, as long as no `put` re-partitions a
  backend.

  The two stores are related by what a caller can see of a record: its
  creation time as the column holds it, and the record itself (`Agree`).
  Each method keeps the relation and answers the same on both sides; the
  simulation rule of `Lib.Machine` carries this over whole runs.

  Two places are where the relation can break:

    * `put` on a known key — the upsert has no `partitions` in its update
      list, the map insert replaces the whole record,
    * `get_all` — the memory store sorts by the clock reading, the database
      by the column, which may hold less of it.
-/
import Switchgear.Lib.MapView
import Switchgear.Discovery.Memory
import Switchgear.Discovery.DbOutcome

namespace Switchgear.Discovery

open Switchgear.Lib
open Std (ExtTreeMap TransOrd LawfulEqOrd)

variable {K : Type}

/-! ## §1. What a caller sees of a record. -/

/-- A record and its creation time, as a timestamp column would hold it. -/
def DiscoveryBackendTimestamped.view (eng : Engine) (entry : DiscoveryBackendTimestamped K) :
    DateTime × DiscoveryBackend K :=
  (eng.storeTimestamp entry.created, entry.backend)

/-- A row's creation time and the record it is read back as. -/
def Model.view (row : Model K) : DateTime × DiscoveryBackend K :=
  (row.createdAt, row.toDomain)

/-- Both listings sort views in this order. -/
def viewOrder [Ord K] (a b : DateTime × DiscoveryBackend K) : Prop :=
  ((compare a.1 b.1).then (compare a.2.publicKey b.2.publicKey)).isLE = true

instance [Ord K] : DecidableRel (viewOrder (K := K)) :=
  fun _ _ => inferInstanceAs (Decidable (_ = true))

/-- The weights of a call fit the weight column. -/
def WeightsInColumn : Call K → Prop
  | .mutate (.post b) => WeightInColumn b.backend.weight
  | .mutate (.put b) => WeightInColumn b.backend.weight
  | .mutate (.patch p) => ∀ weight ∈ p.backend.weight, WeightInColumn weight
  | _ => True

instance : (call : Call K) → Decidable (WeightsInColumn call)
  | .mutate (.post b) => inferInstanceAs (Decidable (WeightInColumn b.backend.weight))
  | .mutate (.put b) => inferInstanceAs (Decidable (WeightInColumn b.backend.weight))
  | .mutate (.patch p) =>
      inferInstanceAs (Decidable (∀ weight ∈ p.backend.weight, WeightInColumn weight))
  | .mutate (.delete _) | .get _ | .getAll _ => isTrue trivial

section Views

variable (eng : Engine)

theorem stored_activeModel_view (now : DateTime) {b : DiscoveryBackend K}
    (hweight : WeightInColumn b.backend.weight) :
    (DiscoveryDb.stored eng (DiscoveryDb.activeModel now b)).view
      = DiscoveryBackendTimestamped.view eng { created := now, backend := b } := by
  simp only [Model.view, DiscoveryBackendTimestamped.view, DiscoveryDb.stored,
    DiscoveryDb.activeModel, Model.toDomain, asUsize_asI32 hweight]

/-- The upsert shows the new record if the partitions do not change with it. -/
theorem onConflictUpdate_view (now future : DateTime) {b : DiscoveryBackend K} {row : Model K}
    {entry : DiscoveryBackendTimestamped K} (hweight : WeightInColumn b.backend.weight)
    (hview : entry.view eng = row.view) (hkey : entry.backend.publicKey = b.publicKey)
    (hpartitions : entry.backend.backend.partitions = b.backend.partitions) :
    (DiscoveryDb.onConflictUpdate eng (DiscoveryDb.activeModel now b) future row).view
      = DiscoveryBackendTimestamped.view eng { created := entry.created, backend := b } := by
  obtain ⟨hcreated, hdomain⟩ := Prod.mk.inj hview
  have hid : row.id = b.publicKey := by
    rw [← hkey, hdomain]
    rfl
  have hparts : row.partitions = b.backend.partitions := by
    rw [← hpartitions, hdomain]
    rfl
  simp only [Model.view, DiscoveryBackendTimestamped.view, DiscoveryDb.onConflictUpdate,
    DiscoveryDb.activeModel, Model.toDomain, asUsize_asI32 hweight, hid, hparts, hcreated]

theorem patchRow_view (now : DateTime) {p : DiscoveryBackendPatchSparse} {row : Model K}
    {entry : DiscoveryBackendTimestamped K}
    (hweight : ∀ weight ∈ p.weight, WeightInColumn weight)
    (hview : entry.view eng = row.view) :
    (DiscoveryDb.patchRow eng now p row).view
      = (MemoryDiscoveryBackendStore.patchEntry p entry).view eng := by
  obtain ⟨hcreated, hdomain⟩ := Prod.mk.inj hview
  have hcolumn : asUsize ((p.weight.map asI32).getD row.weight)
      = p.weight.getD (asUsize row.weight) := by
    cases hw : p.weight with
    | none => rfl
    | some weight => exact asUsize_asI32 (hweight weight hw)
  simp only [Model.view, DiscoveryBackendTimestamped.view, DiscoveryDb.patchRow,
    MemoryDiscoveryBackendStore.patchEntry, Model.toDomain, hcolumn, hcreated, hdomain]

end Views

/-! ## §2. The relation, and the condition on a call. -/

variable [Ord K] [TransOrd K] [LawfulEqOrd K]

/-- The two stores show a caller the same. -/
structure Agree (eng : Engine) (mem : MemoryDiscoveryBackendStore K) (db : DiscoveryDb K) :
    Prop where
  view : SameView (DiscoveryBackendTimestamped.view eng) Model.view mem.store db.rows
  keys : OwnKeys DiscoveryBackendTimestamped.publicKey mem.store
  etag : ∃ value, db.etag = some value ∧ value.toUInt64 = mem.etag

/-- The timestamp column orders the stored records as their creation times and
keys do. -/
def OrderedByColumn (eng : Engine) (mem : MemoryDiscoveryBackendStore K) : Prop :=
  ∀ (ka kb : K) (a b : DiscoveryBackendTimestamped K),
    mem.store[ka]? = some a → mem.store[kb]? = some b →
    a.created < b.created → eng.storeTimestamp a.created = eng.storeTimestamp b.created →
    compare a.backend.publicKey b.backend.publicKey = .lt

/-- A call both stores answer alike: a `put` on a known key carries the stored
partitions; a listing that is sent is not split by the precision of the column. -/
def CallAgrees (eng : Engine) (mem : MemoryDiscoveryBackendStore K) : Call K → Prop
  | .mutate (.put b) => ∀ entry ∈ mem.store[b.publicKey]?,
      entry.backend.backend.partitions = b.backend.partitions
  | .getAll requestEtag => requestEtag ≠ some mem.etag → OrderedByColumn eng mem
  | _ => True

/-- Every stored record was created at or before `now`. -/
def CreatedBefore (mem : MemoryDiscoveryBackendStore K) (now : DateTime) : Prop :=
  ∀ (k : K) (entry : DiscoveryBackendTimestamped K),
    mem.store[k]? = some entry → entry.created ≤ now

/-- The mutation reaches its etag increment. -/
def Effective (db : DiscoveryDb K) : Mutation K → Prop
  | .post b => b.publicKey ∉ db.rows
  | .put _ => True
  | .patch p => p.publicKey ∈ db.rows
  | .delete k => k ∈ db.rows

instance (db : DiscoveryDb K) : (m : Mutation K) → Decidable (Effective db m)
  | .post b => inferInstanceAs (Decidable (b.publicKey ∉ db.rows))
  | .put _ => isTrue trivial
  | .patch p => inferInstanceAs (Decidable (p.publicKey ∈ db.rows))
  | .delete k => inferInstanceAs (Decidable (k ∈ db.rows))

/-- No statement of the call fails, a primary-key conflict apart: the etag
increment, when reached, stays in the range of its column. -/
def StatementsSucceed (db : DiscoveryDb K) : Call K → Prop
  -- a mutation that finds nothing to do has no increment that could fail
  | .mutate m => Effective db m → db.etag ≠ some Int64.maxValue
  | _ => True

instance (db : DiscoveryDb K) : (call : Call K) → Decidable (StatementsSucceed db call)
  | .mutate m => inferInstanceAs (Decidable (Effective db m → db.etag ≠ some Int64.maxValue))
  | .get _ | .getAll _ => isTrue trivial

omit [LawfulEqOrd K] in
/-- A column that keeps the whole reading never splits a listing. -/
theorem orderedByColumn_exact (mem : MemoryDiscoveryBackendStore K) :
    OrderedByColumn Engine.exact mem :=
  fun _ _ _ _ _ _ hlt hcol => absurd hcol hlt.ne

namespace Agree

variable {eng : Engine} {mem : MemoryDiscoveryBackendStore K} {db : DiscoveryDb K}

omit [LawfulEqOrd K] in
theorem new_migrated (eng : Engine) :
    Agree eng (MemoryDiscoveryBackendStore.new (K := K)) DiscoveryDb.migrated where
  view := SameView.empty
  keys := OwnKeys.empty
  etag := ⟨0, rfl, rfl⟩

omit [LawfulEqOrd K] in
theorem bumped_etag_eq (h : Agree eng mem db) (rows : ExtTreeMap K (Model K)) :
    ∃ value, (db.withRows rows).bumped.etag = some value ∧ value.toUInt64 = mem.etag + 1 := by
  obtain ⟨value, hvalue, hsame⟩ := h.etag
  refine ⟨value + 1, ?_, ?_⟩
  · rw [DiscoveryDb.bumped_etag, DiscoveryDb.withRows_etag, hvalue, Option.map_some]
  · rw [← hsame]
    exact UInt64.eq_of_toBitVec_eq rfl

/-- Both stores write a record under one key and count it. -/
theorem written (h : Agree eng mem db) {k : K} {entry : DiscoveryBackendTimestamped K}
    {row : Model K} (hview : entry.view eng = row.view) (hkey : entry.publicKey = k) :
    Agree eng { store := mem.store.insert k entry, etag := mem.etag + 1 }
      (db.withRows (db.rows.insert k row)).bumped where
  view := h.view.insert k hview
  keys := h.keys.insert hkey
  etag := h.bumped_etag_eq _

omit [LawfulEqOrd K] in
/-- Both stores remove a record and count it. -/
theorem erased (h : Agree eng mem db) (k : K) :
    Agree eng { store := mem.store.erase k, etag := mem.etag + 1 }
      (db.withRows (db.rows.erase k)).bumped where
  view := h.view.erase k
  keys := h.keys.erase k
  etag := h.bumped_etag_eq _

end Agree

/-! ## §3. The two listings. -/

section Listings

variable {eng : Engine} {mem : MemoryDiscoveryBackendStore K} {db : DiscoveryDb K}

omit [TransOrd K] [LawfulEqOrd K] in
/-- Where the column orders as the clock does, sorting records is sorting views. -/
theorem createdThenKey_iff_viewOrder {a b : DiscoveryBackendTimestamped K}
    (hab : a.created < b.created → eng.storeTimestamp a.created = eng.storeTimestamp b.created →
      compare a.backend.publicKey b.backend.publicKey = .lt)
    (hba : b.created < a.created → eng.storeTimestamp b.created = eng.storeTimestamp a.created →
      compare a.backend.publicKey b.backend.publicKey = .gt) :
    MemoryDiscoveryBackendStore.createdThenKey a b ↔ viewOrder (a.view eng) (b.view eng) := by
  unfold MemoryDiscoveryBackendStore.createdThenKey viewOrder DiscoveryBackendTimestamped.view
  rcases lt_trichotomy a.created b.created with hlt | heq | hgt
  -- the column keeps the order or makes the two equal; then the keys decide
  · rw [compare_lt_iff_lt.mpr hlt]
    rcases (eng.storeTimestamp_mono hlt.le).lt_or_eq with hcol | hcol
    · rw [compare_lt_iff_lt.mpr hcol]
    · simp [hcol, hab hlt hcol]
  · rw [heq]
    simp
  · rw [compare_gt_iff_gt.mpr hgt]
    rcases (eng.storeTimestamp_mono hgt.le).lt_or_eq with hcol | hcol
    · rw [compare_gt_iff_gt.mpr hcol]
    · simp [hcol, hba hgt hcol]

/-- **The listings agree**, in content and order. -/
theorem listing_eq_models (h : Agree eng mem db) (hordered : OrderedByColumn eng mem) :
    mem.listing = db.models.map Model.toDomain := by
  have hentry : ∀ entry ∈ mem.store.toList.map Prod.snd, ∃ k : K, mem.store[k]? = some entry := by
    intro entry hmem
    obtain ⟨⟨k, entry'⟩, hpair, rfl⟩ := List.mem_map.mp hmem
    exact ⟨k, ExtTreeMap.mem_toList_iff_getElem?_eq_some.mp hpair⟩
  have hmemory :
      ((mem.store.toList.map Prod.snd).insertionSort
          MemoryDiscoveryBackendStore.createdThenKey).map (DiscoveryBackendTimestamped.view eng)
        = ((mem.store.toList.map Prod.snd).map
            (DiscoveryBackendTimestamped.view eng)).insertionSort viewOrder := by
    apply List.map_insertionSort
    intro a ha b hb
    obtain ⟨ka, hka⟩ := hentry a ha
    obtain ⟨kb, hkb⟩ := hentry b hb
    refine createdThenKey_iff_viewOrder (hordered ka kb a b hka hkb) (fun hlt hcol => ?_)
    have hswap : compare a.backend.publicKey b.backend.publicKey
        = (compare b.backend.publicKey a.backend.publicKey).swap := Std.OrientedOrd.eq_swap
    rw [hswap, hordered kb ka b a hkb hka hlt hcol]
    rfl
  have hdb : db.models.map Model.view
      = ((db.rows.toList.map Prod.snd).map Model.view).insertionSort viewOrder :=
    List.map_insertionSort _ _ _ _ fun _ _ _ _ => Iff.rfl
  -- both sorts are sorts of one list of views; what remains is to forget the creation times
  have hviews := congrArg (List.map Prod.snd)
    ((hmemory.trans (congrArg _ h.view.values_map_eq)).trans hdb.symm)
  rw [List.map_map, List.map_map] at hviews
  exact hviews

end Listings

/-! ## §4. Each method keeps the relation and answers the same. -/

section Methods

variable {eng : Engine} {mem : MemoryDiscoveryBackendStore K} {db : DiscoveryDb K}

variable [ToString K]

omit [LawfulEqOrd K] in
theorem get_agrees (h : Agree eng mem db) (k : K) :
    (mem.get k).1 = (DiscoveryDb.get Faults.none k db).1
      ∧ Agree eng (mem.get k).2 (DiscoveryDb.get Faults.none k db).2 := by
  refine ⟨?_, h⟩
  have hk := congrArg (Option.map Prod.snd) (h.view k)
  rw [Option.map_map, Option.map_map] at hk
  exact congrArg Except.ok hk

omit [ToString K] in
theorem getAll_agrees (h : Agree eng mem db) (requestEtag : Option UInt64)
    (hordered : CallAgrees eng mem (.getAll requestEtag)) :
    (mem.getAll requestEtag).1 = (DiscoveryDb.getAll Faults.none requestEtag db).1
      ∧ Agree eng (mem.getAll requestEtag).2 (DiscoveryDb.getAll Faults.none requestEtag db).2 := by
  obtain ⟨value, hvalue, hsame⟩ := h.etag
  have hresponse : db.responseEtag = mem.etag := by
    unfold DiscoveryDb.responseEtag
    rw [hvalue, ← hsame]
    rfl
  unfold MemoryDiscoveryBackendStore.getAll
  rw [DiscoveryDb.getAll_none, hresponse]
  by_cases hcurrent : requestEtag = some mem.etag
  · rw [if_pos hcurrent, if_pos hcurrent]
    exact ⟨rfl, h⟩
  · rw [if_neg hcurrent, if_neg hcurrent, listing_eq_models h (hordered hcurrent)]
    exact ⟨rfl, h⟩

theorem post_agrees (h : Agree eng mem db) (now : DateTime) {b : DiscoveryBackend K}
    (hweight : WeightInColumn b.backend.weight)
    (hsucceed : b.publicKey ∉ db.rows → db.etag ≠ some Int64.maxValue) :
    (mem.post now b).1 = (DiscoveryDb.post eng Faults.none now b db).1
      ∧ Agree eng (mem.post now b).2 (DiscoveryDb.post eng Faults.none now b db).2 := by
  unfold MemoryDiscoveryBackendStore.post
  by_cases hmem : b.publicKey ∈ mem.store
  · rw [if_pos hmem, DiscoveryDb.post_conflict eng now rfl ((h.view.mem_iff _).mp hmem)]
    exact ⟨rfl, h⟩
  · have hfree : b.publicKey ∉ db.rows := fun hin => hmem ((h.view.mem_iff _).mpr hin)
    rw [if_neg hmem, DiscoveryDb.post_inserted eng now rfl hfree (DiscoveryDb.not_etagFails_none (hsucceed hfree))]
    exact ⟨rfl, h.written (stored_activeModel_view eng now hweight).symm rfl⟩

/-- The flag of the database is read off the two timestamps of the row: a new row
has them equal, an updated one has them a second or more apart. -/
theorem put_agrees (h : Agree eng mem db) {now : DateTime} (hcreated : CreatedBefore mem now)
    {b : DiscoveryBackend K} (hweight : WeightInColumn b.backend.weight)
    (hpartitions : CallAgrees eng mem (.mutate (.put b)))
    (hsucceed : db.etag ≠ some Int64.maxValue) :
    (mem.put now b).1 = (DiscoveryDb.put eng Faults.none now b db).1
      ∧ Agree eng (mem.put now b).2 (DiscoveryDb.put eng Faults.none now b db).2 := by
  rw [DiscoveryDb.put_upserted eng now b rfl rfl (DiscoveryDb.not_etagFails_none hsucceed)]
  unfold MemoryDiscoveryBackendStore.put DiscoveryDb.upsertedRows DiscoveryDb.putRow
  cases hentry : mem.store[b.publicKey]? with
  | none =>
      rw [(h.view.none_iff _).mp hentry]
      refine ⟨?_, h.written (stored_activeModel_view eng now hweight).symm rfl⟩
      exact congrArg Except.ok (decide_eq_true rfl).symm
  | some entry =>
      obtain ⟨row, hrow, hview⟩ := h.view.exists_right hentry
      rw [hrow]
      refine ⟨?_, h.written (onConflictUpdate_view eng now _ hweight hview
        (h.keys _ _ hentry) (hpartitions entry hentry)).symm rfl⟩
      have hcolumn : row.createdAt < eng.storeTimestamp (now + second) := by
        calc row.createdAt = eng.storeTimestamp entry.created := (Prod.mk.inj hview).1.symm
          _ ≤ eng.storeTimestamp now := eng.storeTimestamp_mono (hcreated _ _ hentry)
          _ < eng.storeTimestamp (now + second) := eng.storeTimestamp_second now
      exact congrArg Except.ok (decide_eq_false hcolumn.ne).symm

theorem patch_agrees (h : Agree eng mem db) (now : DateTime) {p : DiscoveryBackendPatch K}
    (hweight : ∀ weight ∈ p.backend.weight, WeightInColumn weight)
    (hsucceed : p.publicKey ∈ db.rows → db.etag ≠ some Int64.maxValue) :
    (mem.patch p).1 = (DiscoveryDb.patch eng Faults.none now p db).1
      ∧ Agree eng (mem.patch p).2 (DiscoveryDb.patch eng Faults.none now p db).2 := by
  unfold MemoryDiscoveryBackendStore.patch
  cases hentry : mem.store[p.publicKey]? with
  | none =>
      rw [DiscoveryDb.patch_missing eng now rfl ((h.view.none_iff _).mp hentry)]
      exact ⟨rfl, h⟩
  | some entry =>
      obtain ⟨row, hrow, hview⟩ := h.view.exists_right hentry
      have hmem : p.publicKey ∈ db.rows := by
        rw [ExtTreeMap.mem_iff_isSome_getElem?, hrow]
        rfl
      rw [DiscoveryDb.patch_updated eng now rfl hrow (DiscoveryDb.not_etagFails_none (hsucceed hmem))]
      have hkey : entry.publicKey = p.publicKey := h.keys _ _ hentry
      exact ⟨rfl, h.written (patchRow_view eng now hweight hview).symm hkey⟩

omit [LawfulEqOrd K] in
theorem delete_agrees (h : Agree eng mem db) (k : K)
    (hsucceed : k ∈ db.rows → db.etag ≠ some Int64.maxValue) :
    (mem.delete k).1 = (DiscoveryDb.delete eng Faults.none k db).1
      ∧ Agree eng (mem.delete k).2 (DiscoveryDb.delete eng Faults.none k db).2 := by
  unfold MemoryDiscoveryBackendStore.delete
  by_cases hmem : k ∈ mem.store
  · have hrow : k ∈ db.rows := (h.view.mem_iff k).mp hmem
    rw [ExtTreeMap.mem_iff_isSome_getElem?] at hmem
    rw [DiscoveryDb.delete_deleted eng rfl hrow (DiscoveryDb.not_etagFails_none (hsucceed hrow)), hmem]
    exact ⟨rfl, h.erased k⟩
  · have hrow : k ∉ db.rows := fun hin => hmem ((h.view.mem_iff k).mpr hin)
    rw [ExtTreeMap.mem_iff_isSome_getElem?, Bool.not_eq_true] at hmem
    rw [DiscoveryDb.delete_missing eng rfl hrow, hmem]
    exact ⟨rfl, h⟩

/-- **One call**: both stores answer the same and stay in agreement. -/
theorem machine_agrees (h : Agree eng mem db) {now : DateTime} (hcreated : CreatedBefore mem now)
    {call : Call K} (hcall : CallAgrees eng mem call) (hweights : WeightsInColumn call)
    (hsucceed : StatementsSucceed db call) :
    let mem' := MemoryDiscoveryBackendStore.backendStore.machine mem (now, call)
    let db' := (DiscoveryDb.backendStore eng Faults.none).machine db (now, call)
    mem'.1 = db'.1 ∧ Agree eng mem'.2 db'.2 := by
  intro mem' db'
  cases call with
  | get k =>
      obtain ⟨hanswer, hstate⟩ := get_agrees h k
      exact ⟨congrArg (Except.map Answer.backend) hanswer, hstate⟩
  | getAll etag =>
      obtain ⟨hanswer, hstate⟩ := getAll_agrees h etag hcall
      exact ⟨congrArg (Except.map Answer.backends) hanswer, hstate⟩
  | mutate m =>
      cases m with
      | post b =>
          obtain ⟨hanswer, hstate⟩ := post_agrees h now hweights hsucceed
          exact ⟨congrArg (fun r => Except.map Answer.mutated (Except.map .posted r)) hanswer,
            hstate⟩
      | put b =>
          obtain ⟨hanswer, hstate⟩ := put_agrees h hcreated hweights hcall (hsucceed trivial)
          exact ⟨congrArg (fun r => Except.map Answer.mutated (Except.map .flag r)) hanswer,
            hstate⟩
      | patch p =>
          obtain ⟨hanswer, hstate⟩ := patch_agrees h now hweights hsucceed
          exact ⟨congrArg (fun r => Except.map Answer.mutated (Except.map .flag r)) hanswer,
            hstate⟩
      | delete k =>
          obtain ⟨hanswer, hstate⟩ := delete_agrees h k hsucceed
          exact ⟨congrArg (fun r => Except.map Answer.mutated (Except.map .flag r)) hanswer,
            hstate⟩

end Methods

/-! ## §5. Whole runs. -/

section Runs

omit [LawfulEqOrd K] in
theorem CreatedBefore.mono {mem : MemoryDiscoveryBackendStore K} {now later : DateTime}
    (h : CreatedBefore mem now) (hle : now ≤ later) : CreatedBefore mem later :=
  fun k entry hentry => (h k entry hentry).trans hle

omit [LawfulEqOrd K] in
/-- No call creates a record in the future. -/
theorem machine_createdBefore {mem : MemoryDiscoveryBackendStore K} {now : DateTime}
    (h : CreatedBefore mem now) (call : Call K) :
    CreatedBefore (MemoryDiscoveryBackendStore.backendStore.machine mem (now, call)).2 now := by
  cases call with
  | get k => exact h
  | getAll etag =>
      show CreatedBefore (mem.getAll etag).2 now
      unfold MemoryDiscoveryBackendStore.getAll
      by_cases hcurrent : etag = some mem.etag
      · rw [if_pos hcurrent]
        exact h
      · rw [if_neg hcurrent]
        exact h
  | mutate m =>
      show CreatedBefore (MemoryDiscoveryBackendStore.backendStore.mutate now m mem).2 now
      rcases MemoryDiscoveryBackendStore.mutate_cases now m mem with
        heq | ⟨entry, hcreated, -, heq⟩ | heq
      · rw [heq]
        exact h
      · rw [heq]
        intro k entry' hentry
        rw [ExtTreeMap.getElem?_insert] at hentry
        by_cases hk : compare m.publicKey k = .eq
        · rw [if_pos hk, Option.some.injEq] at hentry
          rcases hcreated with hnow | ⟨old, hold, hsame⟩
          · rw [← hentry, hnow]
          · rw [← hentry, hsame]
            exact h _ old hold
        · rw [if_neg hk] at hentry
          exact h k entry' hentry
      · rw [heq]
        intro k entry' hentry
        rw [ExtTreeMap.getElem?_erase] at hentry
        by_cases hk : compare m.publicKey k = .eq
        · rw [if_pos hk] at hentry
          cases hentry
        · rw [if_neg hk] at hentry
          exact h k entry' hentry

omit [LawfulEqOrd K] in
/-- With a clock that never goes back, every call of a run meets only records
created before it. -/
theorem along_createdBefore :
    ∀ (mem : MemoryDiscoveryBackendStore K) (calls : List (DateTime × Call K)),
      (calls.map Prod.fst).Pairwise (· ≤ ·) → (∀ call ∈ calls, CreatedBefore mem call.1) →
      MemoryDiscoveryBackendStore.backendStore.machine.Along
        (fun mem call => CreatedBefore mem call.1) mem calls
  | _, [], _, _ => trivial
  | mem, (now, call) :: calls, hclock, hbefore => by
      obtain ⟨hfirst, hrest⟩ := List.pairwise_cons.mp hclock
      have hnow : CreatedBefore mem now := hbefore (now, call) List.mem_cons_self
      refine ⟨hnow, along_createdBefore _ calls hrest fun later hlater => ?_⟩
      exact (machine_createdBefore hnow call).mono
        (hfirst later.1 (List.mem_map_of_mem hlater))

variable [ToString K]

/-- **The two stores are interchangeable** over every run in which no `put`
re-partitions a known backend and no listing that is sent is split by the column:
every call gets the same answer. -/
theorem run_answers_agree (eng : Engine) (calls : List (DateTime × Call K))
    (hclock : (calls.map Prod.fst).Pairwise (· ≤ ·))
    (hweights : ∀ call ∈ calls, WeightsInColumn call.2)
    (hsucceed : (DiscoveryDb.backendStore eng Faults.none).machine.Along
      (fun db call => StatementsSucceed db call.2) DiscoveryDb.migrated calls)
    (hcalls : MemoryDiscoveryBackendStore.backendStore.machine.Along
      (fun mem call => CallAgrees eng mem call.2) MemoryDiscoveryBackendStore.new calls) :
    (MemoryDiscoveryBackendStore.backendStore.machine.run
        MemoryDiscoveryBackendStore.new calls).1
      = ((DiscoveryDb.backendStore eng Faults.none).machine.run
          DiscoveryDb.migrated calls).1 := by
  have hempty : ∀ call ∈ calls,
      CreatedBefore (MemoryDiscoveryBackendStore.new (K := K)) call.1 := by
    intro call _ k entry h
    simp [MemoryDiscoveryBackendStore.new] at h
  have hcreated := along_createdBefore _ calls hclock hempty
  have hweights' := MemoryDiscoveryBackendStore.backendStore.machine.along_of_forall
    (P := fun _ call => WeightsInColumn call.2) MemoryDiscoveryBackendStore.new calls
    fun call hcall _ => hweights call hcall
  exact (Machine.run_simulation MemoryDiscoveryBackendStore.backendStore.machine
    (DiscoveryDb.backendStore eng Faults.none).machine (Agree eng) _ _
    (fun _ _ (_, _) hagree hmem hdb => machine_agrees hagree hmem.1 hmem.2.1 hmem.2.2 hdb)
    _ _ calls (Agree.new_migrated eng) (hcreated.and (hcalls.and hweights')) hsucceed).1

end Runs

theorem run_answers_agree_same_partitions :
    ((MemoryDiscoveryBackendStore.backendStore (K := Nat)).machine.run .new
        [(0, .mutate (.put (sampleBackend 1 {"a"}))), (5, .mutate (.put (sampleBackend 1 {"a"}))),
          (7, .getAll none)]).1
      = ((DiscoveryDb.backendStore Engine.exact Faults.none).machine.run DiscoveryDb.migrated
        [(0, .mutate (.put (sampleBackend 1 {"a"}))), (5, .mutate (.put (sampleBackend 1 {"a"}))),
          (7, .getAll none)]).1 := by
  refine run_answers_agree Engine.exact _ (by decide) (by decide) (by decide) ?_
  refine ⟨?_, ?_, fun _ => orderedByColumn_exact _, trivial⟩
  · show ∀ entry ∈ _, _
    decide
  · show ∀ entry ∈ _, _
    decide

/-- Two puts of one key with different partitions: the database keeps the first. -/
theorem put_keeps_old_partitions :
    ¬ ∀ (eng : Engine) (calls : List (DateTime × Call Nat)),
      (calls.map Prod.fst).Pairwise (· ≤ ·) →
      (∀ call ∈ calls, WeightsInColumn call.2) →
      (DiscoveryDb.backendStore eng Faults.none).machine.Along
        (fun db call => StatementsSucceed db call.2) DiscoveryDb.migrated calls →
      (MemoryDiscoveryBackendStore.backendStore.machine.run
          MemoryDiscoveryBackendStore.new calls).1
        = ((DiscoveryDb.backendStore eng Faults.none).machine.run
            DiscoveryDb.migrated calls).1 := by
  intro h
  have hrun := h Engine.exact
    [(0, .mutate (.put (sampleBackend 1 {"a"}))), (5, .mutate (.put (sampleBackend 1 {"b"}))), (7, .get 1)]
    (by decide) (by decide) (by decide)
  revert hrun
  decide

end Switchgear.Discovery
