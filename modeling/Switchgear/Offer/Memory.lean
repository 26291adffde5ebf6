/-
  Switchgear.Offer.Memory — `MemoryOfferStore`: two hash maps, of offers and of
  metadata, under one mutex each.

  A method locks what it needs before it reads anything and is one step of the
  state; the order of the locks is the subject of `Offer.MemoryLocks`.  The
  content of a `HashMap` is an extensional map; where a listing shows, it is
  sorted.  `{offer:?}` in a message is the text of `Repr`.
-/
import Switchgear.Lib.ForeignKey
import Switchgear.Lib.KeyedMap
import Switchgear.ServiceApi.Offer
import Switchgear.Offer.Error

namespace Switchgear.Offer

open Switchgear.Lib
open Std (ExtTreeMap)

/-! ## §1. The state. -/

structure OfferRecordTimestamped (A : Type) where
  created : DateTime
  offer : OfferRecord A
  deriving DecidableEq

structure OfferMetadataTimestamped (A : Type) where
  created : DateTime
  metadata : OfferMetadata A
  deriving DecidableEq

def OfferRecordTimestamped.key {A : Type} (entry : OfferRecordTimestamped A) : OfferKey :=
  entry.offer.key

def OfferRecordTimestamped.metadataKey {A : Type} (entry : OfferRecordTimestamped A) :
    OfferKey :=
  entry.offer.metadataKey

def OfferMetadataTimestamped.key {A : Type} (entry : OfferMetadataTimestamped A) : OfferKey :=
  entry.metadata.key

structure MemoryOfferStore (A : Type) where
  offer : ExtTreeMap OfferKey (OfferRecordTimestamped A)
  metadata : ExtTreeMap OfferKey (OfferMetadataTimestamped A)

namespace MemoryOfferStore

variable {A : Type}

def new : MemoryOfferStore A := { offer := ∅, metadata := ∅ }

/-! ## §2. Offers. -/

def getOffer (partition : String) (id : Uuid) (sparse : Option Bool)
    (self : MemoryOfferStore A) :
    Except OfferStoreError (Option (OfferRecord A)) × MemoryOfferStore A :=
  let sparse := sparse.getD true
  (.ok (self.offer[({ partition, id } : OfferKey)]?.bind fun offer =>
    if sparse then some offer.offer
    else
      -- an offer whose metadata is gone is not found at all
      self.metadata[({ partition, id := offer.offer.offer.metadataId } : OfferKey)]?.map
        fun metadata => offer.offer.withMetadata metadata.metadata.metadata), self)

/-- The comparison of a listing: creation time, then id. -/
def createdThenId (a b : DateTime × Uuid) : Prop :=
  ((compare a.1 b.1).then (compare a.2 b.2)).isLE = true

instance : DecidableRel createdThenId := fun _ _ => inferInstanceAs (Decidable (_ = true))

def offerRank (entry : OfferRecordTimestamped A) : DateTime × Uuid :=
  (entry.created, entry.offer.id)

def metadataRank (entry : OfferMetadataTimestamped A) : DateTime × Uuid :=
  (entry.created, entry.metadata.id)

/-- The entries of a partition, sorted; then `skip(start).take(count)`. -/
def page {V W : Type} (rank : V → DateTime × Uuid) (value : V → W) (partition : String)
    (start count : UInt64) (store : ExtTreeMap OfferKey V) : List W :=
  let entries := (store.toList.filter fun p => p.1.partition == partition).map Prod.snd
  let entries := entries.insertionSort fun a b => createdThenId (rank a) (rank b)
  ((entries.drop start.toNat).take count.toNat).map value

def getOffers (partition : String) (start count : UInt64) (self : MemoryOfferStore A) :
    Except OfferStoreError (List (OfferRecord A)) × MemoryOfferStore A :=
  (.ok (page offerRank (·.offer) partition start count self.offer), self)

/-- The error of an offer whose metadata is not there. -/
def metadataNotFound [Repr A] (context : String) (offer : OfferRecord A) : OfferStoreError :=
  .invalidInputError (context ++ reprStr offer)
    ("metadata " ++ Uuid.hyphenated offer.offer.metadataId ++ " not found for offer "
      ++ Uuid.hyphenated offer.id)

def postOffer [Repr A] (now : DateTime) (offer : OfferRecord A) (self : MemoryOfferStore A) :
    Except OfferStoreError (Option Uuid) × MemoryOfferStore A :=
  -- the reference is asked before the key, unlike in the database
  if offer.metadataKey ∉ self.metadata then
    (.error (metadataNotFound "post offer " offer), self)
  else if offer.key ∈ self.offer then
    (.ok none, self)
  else
    (.ok (some offer.id),
      { self with offer := self.offer.insert offer.key { created := now, offer } })

def putOffer [Repr A] (now : DateTime) (offer : OfferRecord A) (self : MemoryOfferStore A) :
    Except OfferStoreError Bool × MemoryOfferStore A :=
  if offer.metadataKey ∉ self.metadata then
    (.error (metadataNotFound "put offer " offer), self)
  else
    -- a replaced entry gets a new creation time and moves to the end of the listing
    let wasNew := self.offer[offer.key]?.isNone
    (.ok wasNew, { self with offer := self.offer.insert offer.key { created := now, offer } })

def deleteOffer (partition : String) (id : Uuid) (self : MemoryOfferStore A) :
    Except OfferStoreError Bool × MemoryOfferStore A :=
  let key : OfferKey := { partition, id }
  (.ok self.offer[key]?.isSome, { self with offer := self.offer.erase key })

/-! ## §3. Metadata. -/

def getMetadata (partition : String) (id : Uuid) (self : MemoryOfferStore A) :
    Except OfferStoreError (Option (OfferMetadata A)) × MemoryOfferStore A :=
  (.ok (self.metadata[({ partition, id } : OfferKey)]?.map (·.metadata)), self)

def getAllMetadata (partition : String) (start count : UInt64) (self : MemoryOfferStore A) :
    Except OfferStoreError (List (OfferMetadata A)) × MemoryOfferStore A :=
  (.ok (page metadataRank (·.metadata) partition start count self.metadata),
    self)

def postMetadata (now : DateTime) (metadata : OfferMetadata A) (self : MemoryOfferStore A) :
    Except OfferStoreError (Option Uuid) × MemoryOfferStore A :=
  if metadata.key ∈ self.metadata then
    (.ok none, self)
  else
    (.ok (some metadata.id),
      { self with metadata := self.metadata.insert metadata.key { created := now, metadata } })

def putMetadata (now : DateTime) (metadata : OfferMetadata A) (self : MemoryOfferStore A) :
    Except OfferStoreError Bool × MemoryOfferStore A :=
  let wasNew := self.metadata[metadata.key]?.isNone
  (.ok wasNew,
    { self with metadata := self.metadata.insert metadata.key { created := now, metadata } })

/-- Some stored offer refers to the metadata. -/
def metadataInUse (partition : String) (id : Uuid) (self : MemoryOfferStore A) : Bool :=
  (self.offer.toList.map Prod.snd).any fun offer =>
    offer.offer.partition == partition && offer.offer.offer.metadataId == id

def deleteMetadata (partition : String) (id : Uuid) (self : MemoryOfferStore A) :
    Except OfferStoreError Bool × MemoryOfferStore A :=
  -- the offers are asked first, also for metadata that is not there
  if self.metadataInUse partition id then
    (.error (.invalidInputError
      ("delete metadata " ++ partition ++ "/" ++ Uuid.hyphenated id)
      ("metadata " ++ Uuid.hyphenated id ++ " is referenced by existing offers")), self)
  else
    let key : OfferKey := { partition, id }
    (.ok self.metadata[key]?.isSome, { self with metadata := self.metadata.erase key })

/-- `impl OfferStore for MemoryOfferStore`. -/
def offerStore [Repr A] : OfferStore A (MemoryOfferStore A) OfferStoreError where
  getOffer := getOffer
  getOffers := getOffers
  postOffer := postOffer
  putOffer := putOffer
  deleteOffer := deleteOffer

/-- `impl OfferMetadataStore for MemoryOfferStore`. -/
def metadataStore : OfferMetadataStore A (MemoryOfferStore A) OfferStoreError where
  getMetadata := getMetadata
  getAllMetadata := getAllMetadata
  postMetadata := postMetadata
  putMetadata := putMetadata
  deleteMetadata := deleteMetadata

/-- The store as a machine over the ten calls. -/
def machine [Repr A] :
    Machine (MemoryOfferStore A) (DateTime × OfferCall A)
      (Except OfferStoreError (OfferAnswer A)) :=
  offerMachine offerStore metadataStore

/-! ## §4. A listing does not depend on the order of the map. -/

/-- The comparison of a listing, as one of pairs. -/
def compareRank : DateTime × Uuid → DateTime × Uuid → Ordering :=
  compareLex (compareOn Prod.fst) (compareOn Prod.snd)

instance : Std.TransCmp compareRank :=
  inferInstanceAs (Std.TransCmp (compareLex (compareOn Prod.fst) (compareOn Prod.snd)))

theorem createdThenId_iff (a b : DateTime × Uuid) :
    createdThenId a b ↔ (compareRank a b).isLE = true := Iff.rfl

theorem createdThenId_total (a b : DateTime × Uuid) : createdThenId a b ∨ createdThenId b a := by
  have hswap : compareRank b a = (compareRank a b).swap := Std.OrientedCmp.eq_swap
  rw [createdThenId_iff, createdThenId_iff, hswap]
  cases compareRank a b <;> simp

theorem createdThenId_trans {a b c : DateTime × Uuid} (hab : createdThenId a b)
    (hbc : createdThenId b c) : createdThenId a c := by
  rw [createdThenId_iff] at hab hbc ⊢
  exact Std.TransCmp.isLE_trans hab hbc

theorem createdThenId_antisymm {a b : DateTime × Uuid} (hab : createdThenId a b)
    (hba : createdThenId b a) : a = b := by
  have heq : compareRank a b = .eq := Std.OrientedCmp.isLE_antisymm hab hba
  obtain ⟨hcreated, hid⟩ := Ordering.then_eq_eq.mp heq
  exact Prod.ext (Std.LawfulEqOrd.eq_of_compare hcreated) (Std.LawfulEqOrd.eq_of_compare hid)

section Page

variable {V W : Type} {rank : V → DateTime × Uuid} {keyOf : V → OfferKey}
  {store : ExtTreeMap OfferKey V}

instance : Std.Total fun a b : V => createdThenId (rank a) (rank b) :=
  ⟨fun a b => createdThenId_total (rank a) (rank b)⟩

instance : IsTrans V fun a b => createdThenId (rank a) (rank b) :=
  ⟨fun _ _ _ => createdThenId_trans⟩

/-- Entries of one partition with the same rank are the same entry. -/
theorem eq_of_rank_eq (hkeys : OwnKeys keyOf store) (hrank : ∀ v, (rank v).2 = (keyOf v).id)
    {partition : String} {a b : V}
    (ha : a ∈ (store.toList.filter fun p => p.1.partition == partition).map Prod.snd)
    (hb : b ∈ (store.toList.filter fun p => p.1.partition == partition).map Prod.snd)
    (h : rank a = rank b) : a = b := by
  obtain ⟨⟨ka, a'⟩, hina, rfl⟩ := List.mem_map.mp ha
  obtain ⟨⟨kb, b'⟩, hinb, rfl⟩ := List.mem_map.mp hb
  obtain ⟨hla, hpa⟩ := List.mem_filter.mp hina
  obtain ⟨hlb, hpb⟩ := List.mem_filter.mp hinb
  have hfa := ExtTreeMap.mem_toList_iff_getElem?_eq_some.mp hla
  have hfb := ExtTreeMap.mem_toList_iff_getElem?_eq_some.mp hlb
  have hid : (keyOf a').id = (keyOf b').id := by rw [← hrank, ← hrank, h]
  rw [hkeys ka a' hfa, hkeys kb b' hfb] at hid
  have hkey : ka = kb := by
    cases ka
    cases kb
    rw [OfferKey.mk.injEq]
    exact ⟨(beq_iff_eq.mp hpa).trans (beq_iff_eq.mp hpb).symm, hid⟩
  rw [hkey, hfb] at hfa
  exact (Option.some.inj hfa).symm

/-- Sorted from whatever order, the entries of a partition are in the same order. -/
theorem sort_of_perm (hkeys : OwnKeys keyOf store) (hrank : ∀ v, (rank v).2 = (keyOf v).id)
    (partition : String) {entries : List V}
    (hperm : entries.Perm
      ((store.toList.filter fun p => p.1.partition == partition).map Prod.snd)) :
    entries.insertionSort (fun a b => createdThenId (rank a) (rank b))
      = ((store.toList.filter fun p => p.1.partition == partition).map
          Prod.snd).insertionSort fun a b => createdThenId (rank a) (rank b) := by
  refine List.Perm.eq_of_pairwise ?_ (List.pairwise_insertionSort _ _)
    (List.pairwise_insertionSort _ _)
    ((List.perm_insertionSort _ _).trans (hperm.trans (List.perm_insertionSort _ _).symm))
  intro a b ha hb hab hba
  rw [List.mem_insertionSort] at ha hb
  exact eq_of_rank_eq hkeys hrank (hperm.mem_iff.mp ha) hb (createdThenId_antisymm hab hba)

/-- Scanned in whatever order, the map gives the same page. -/
theorem page_of_perm (hkeys : OwnKeys keyOf store) (hrank : ∀ v, (rank v).2 = (keyOf v).id)
    (value : V → W) (partition : String) (start count : UInt64) {entries : List V}
    (hperm : entries.Perm
      ((store.toList.filter fun p => p.1.partition == partition).map Prod.snd)) :
    ((((entries.insertionSort fun a b => createdThenId (rank a) (rank b)).drop
        start.toNat).take count.toNat).map value)
      = page rank value partition start count store := by
  unfold page
  rw [sort_of_perm hkeys hrank partition hperm]

end Page

end MemoryOfferStore

end Switchgear.Offer
