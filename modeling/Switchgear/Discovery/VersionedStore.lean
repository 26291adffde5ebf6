/-
  Switchgear.Discovery.VersionedStore — what both discovery stores promise a
  conditional reader.

  A store state has an etag and a content; `get_all` answers "not modified"
  exactly when it is asked for its etag; a mutation leaves both alone or
  moves the etag one up.  `memory` and `db` are the two instances: the memory
  store, and the database store with no statement failing.

  The promise holds below `2 ^ 63`, where the `big_integer` column ends.
-/
import Switchgear.Lib.KeyedMap
import Switchgear.Lib.Versioned
import Switchgear.Discovery.Memory
import Switchgear.Discovery.DbOutcome

namespace Switchgear.Discovery

open Switchgear.Lib
open Std (ExtTreeMap TransOrd LawfulEqOrd)

/-- The number of increments an etag has room for. -/
def etagRoom : ℕ := 2 ^ 63

/-- A discovery store, seen as content under an etag. -/
structure VersionedStore (K σ ε : Type) where
  store : DiscoveryBackendStore K σ ε
  /-- The state before the first mutation. -/
  new : σ
  /-- The states the store can be in. -/
  Wf : σ → Prop
  etag : σ → UInt64
  content : σ → List (DiscoveryBackend K)
  lookup : σ → K → Option (DiscoveryBackend K)
  wf_new : Wf new
  etag_new : etag new = 0
  content_new : content new = []
  get_eq : ∀ s, Wf s → ∀ k, store.get k s = (.ok (lookup s k), s)
  getAll_eq : ∀ s, Wf s → ∀ requestEtag, store.getAll requestEtag s =
    (.ok { etag := etag s
           backends := if requestEtag = some (etag s) then none else some (content s) }, s)
  mem_content_iff : ∀ s, Wf s → ∀ b, b ∈ content s ↔ lookup s b.publicKey = some b
  nodup_content : ∀ s, Wf s → ((content s).map (·.publicKey)).Nodup
  mutate_spec : ∀ s, Wf s → (etag s).toNat + 1 < etagRoom → ∀ now m,
    Wf (store.mutate now m s).2 ∧
      ((etag (store.mutate now m s).2 = etag s ∧ content (store.mutate now m s).2 = content s)
        ∨ etag (store.mutate now m s).2 = etag s + 1)

namespace VersionedStore

variable {K σ ε : Type} (S : VersionedStore K σ ε)

/-- The content of the store under its etag, as a number. -/
def versioned : Versioned σ (List (DiscoveryBackend K)) where
  version := fun s => (S.etag s).toNat
  content := S.content

theorem etag_succ_toNat {etag : UInt64} (h : etag.toNat + 1 < etagRoom) :
    (etag + 1).toNat = etag.toNat + 1 := by
  unfold etagRoom at h
  rw [UInt64.toNat_add, UInt64.toNat_one]
  omega

theorem mutate_writes {s : σ} (hwf : S.Wf s) (hroom : (S.etag s).toNat + 1 < etagRoom)
    (now : DateTime) (m : Mutation K) :
    S.versioned.Writes s (S.store.mutate now m s).2 := by
  rcases (S.mutate_spec s hwf hroom now m).2 with ⟨hetag, hcontent⟩ | hetag
  · exact .inl ⟨congrArg UInt64.toNat hetag, hcontent⟩
  · right
    show (S.etag s).toNat < (S.etag _).toNat
    rw [hetag, etag_succ_toNat hroom]
    omega

/-- Each mutation takes at most one place of the room. -/
theorem mutate_etag_le {s : σ} (hwf : S.Wf s) (hroom : (S.etag s).toNat + 1 < etagRoom)
    (now : DateTime) (m : Mutation K) :
    (S.etag (S.store.mutate now m s).2).toNat ≤ (S.etag s).toNat + 1 := by
  rcases (S.mutate_spec s hwf hroom now m).2 with ⟨hetag, -⟩ | hetag
  · rw [hetag]
    omega
  · rw [hetag, etag_succ_toNat hroom]

end VersionedStore

/-! ## The two stores. -/

section Instances

variable {K : Type} [Ord K] [TransOrd K] [LawfulEqOrd K]

omit [LawfulEqOrd K] in
theorem MemoryDiscoveryBackendStore.listing_perm (mem : MemoryDiscoveryBackendStore K) :
    ((mem.store.toList.map Prod.snd).insertionSort createdThenKey).Perm
      (mem.store.toList.map Prod.snd) :=
  List.perm_insertionSort _ _

/-- `MemoryDiscoveryBackendStore`. -/
def VersionedStore.memory :
    VersionedStore K (MemoryDiscoveryBackendStore K) DiscoveryBackendStoreError where
  store := MemoryDiscoveryBackendStore.backendStore
  new := .new
  Wf := fun s => OwnKeys DiscoveryBackendTimestamped.publicKey s.store
  etag := fun s => s.etag
  content := fun s => s.listing
  lookup := fun s k => s.store[k]?.map DiscoveryBackendTimestamped.backend
  wf_new := OwnKeys.empty
  etag_new := rfl
  content_new := rfl
  get_eq := fun _ _ _ => rfl
  getAll_eq := by
    intro s _ requestEtag
    show s.getAll requestEtag = _
    unfold MemoryDiscoveryBackendStore.getAll
    by_cases hcurrent : requestEtag = some s.etag
    · rw [if_pos hcurrent, if_pos hcurrent]
    · rw [if_neg hcurrent, if_neg hcurrent]
  mem_content_iff := fun s hwf b =>
    hwf.mem_listing_iff (f := DiscoveryBackendTimestamped.backend) s.listing_perm
      (fun _ => rfl) b
  nodup_content := fun s hwf =>
    hwf.nodup_listing (f := DiscoveryBackendTimestamped.backend) s.listing_perm (fun _ => rfl)
  mutate_spec := by
    intro s hwf _ now m
    rcases MemoryDiscoveryBackendStore.mutate_cases now m s with
      heq | ⟨entry, -, hkey, heq⟩ | heq
    · rw [heq]
      exact ⟨hwf, .inl ⟨rfl, rfl⟩⟩
    · rw [heq]
      exact ⟨hwf.insert (hkey hwf), .inr rfl⟩
    · rw [heq]
      exact ⟨hwf.erase _, .inr rfl⟩

omit [LawfulEqOrd K] in
theorem DiscoveryDb.models_perm (db : DiscoveryDb K) :
    db.models.Perm (db.rows.toList.map Prod.snd) :=
  List.perm_insertionSort _ _

omit [TransOrd K] [LawfulEqOrd K] in
/-- The last value of the column is beyond the room. -/
theorem DiscoveryDb.etag_ne_max {db : DiscoveryDb K}
    (hroom : db.responseEtag.toNat + 1 < etagRoom) : db.etag ≠ some Int64.maxValue := by
  intro hmax
  unfold DiscoveryDb.responseEtag at hroom
  rw [hmax] at hroom
  exact absurd hroom (by decide)

omit [TransOrd K] [LawfulEqOrd K] in
theorem DiscoveryDb.bumped_responseEtag {db : DiscoveryDb K} (hsome : db.etag.isSome = true) :
    db.bumped.responseEtag = db.responseEtag + 1 := by
  obtain ⟨value, hvalue⟩ := Option.isSome_iff_exists.mp hsome
  unfold DiscoveryDb.responseEtag
  rw [DiscoveryDb.bumped_etag, hvalue]
  exact UInt64.eq_of_toBitVec_eq rfl

omit [TransOrd K] [LawfulEqOrd K] in
theorem DiscoveryDb.bumped_etag_isSome {db : DiscoveryDb K} (hsome : db.etag.isSome = true) :
    db.bumped.etag.isSome = true := by
  rw [DiscoveryDb.bumped_etag, Option.isSome_map]
  exact hsome

/-- `DbDiscoveryBackendStore` over a migrated database, with no statement failing. -/
def VersionedStore.db [ToString K] (eng : Engine) :
    VersionedStore K (DiscoveryDb K) DiscoveryBackendStoreError where
  store := DiscoveryDb.backendStore eng Faults.none
  new := DiscoveryDb.migrated
  Wf := fun db => OwnKeys Model.id db.rows ∧ db.etag.isSome = true
  etag := fun db => db.responseEtag
  content := fun db => db.models.map Model.toDomain
  lookup := fun db k => db.rows[k]?.map Model.toDomain
  wf_new := ⟨OwnKeys.empty, rfl⟩
  etag_new := rfl
  content_new := rfl
  get_eq := fun _ _ _ => rfl
  getAll_eq := fun db _ requestEtag => DiscoveryDb.getAll_none requestEtag db
  mem_content_iff := fun db hwf b =>
    hwf.1.mem_listing_iff (f := Model.toDomain) db.models_perm (fun _ => rfl) b
  nodup_content := fun db hwf =>
    hwf.1.nodup_listing (f := Model.toDomain) db.models_perm (fun _ => rfl)
  mutate_spec := by
    intro db hwf hroom now m
    rcases DiscoveryDb.mutate_cases eng now m (DiscoveryDb.etag_ne_max hroom) with
      heq | ⟨row, hkey, heq⟩ | heq
    · rw [heq]
      exact ⟨hwf, .inl ⟨rfl, rfl⟩⟩
    · rw [heq]
      exact ⟨⟨hwf.1.insert (hkey hwf.1), DiscoveryDb.bumped_etag_isSome hwf.2⟩,
        .inr (DiscoveryDb.bumped_responseEtag hwf.2)⟩
    · rw [heq]
      exact ⟨⟨hwf.1.erase _, DiscoveryDb.bumped_etag_isSome hwf.2⟩,
        .inr (DiscoveryDb.bumped_responseEtag hwf.2)⟩

end Instances

end Switchgear.Discovery
