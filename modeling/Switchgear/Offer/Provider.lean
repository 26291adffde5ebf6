/-
  Switchgear.Offer.Provider — `StoreOfferProvider` over an offer store, and what
  it serves of the memory store.

  Main result:
    * `stored_offers_are_served` — in every reachable state of the memory store
      an offer is served if and only if it is stored, with its current metadata.
-/
import Switchgear.ServiceApi.LnUrl
import Switchgear.Offer.Consistency

namespace Switchgear.Offer

open Switchgear.Lib

variable {A σ ε : Type}

namespace StoreOfferProvider

/-- `StoreOfferProvider::offer`. -/
def offer (text : OfferText A) (sha256 : Sha256) (store : OfferStore A σ ε) (_hostname : String)
    (partition : String) (id : Uuid) (s : σ) : Except ε (Option Offer) × σ :=
  match store.getOffer partition id (some false) s with
  | (.error e, s') => (.error e, s')
  | (.ok none, s') => (.ok none, s')
  | (.ok (some offer), s') =>
      match offer.offer.metadata with
      | none => (.ok none, s')
      | some metadata => (.ok (some (text.toOffer sha256 offer metadata)), s')

end StoreOfferProvider

namespace MemoryOfferStore

variable {store : MemoryOfferStore A}

/-- In a consistent store the metadata of an offer is found whenever the offer is. -/
theorem Consistent.getOffer_full (h : Consistent store) (partition : String) (id : Uuid) :
    (getOffer partition id (some false) store).1
      = .ok (store.offer[({ partition, id } : OfferKey)]?.bind fun entry =>
          store.metadata[entry.metadataKey]?.map fun metadata =>
            entry.offer.withMetadata metadata.metadata.metadata) := by
  unfold getOffer
  dsimp only
  cases hentry : store.offer[({ partition, id } : OfferKey)]? with
  | none => rfl
  | some entry =>
      -- the record carries the partition it is looked up under
      have hkey : entry.offer.partition = partition :=
        congrArg OfferKey.partition (h.offerKeys _ entry hentry)
      have hmetadata : entry.metadataKey
          = { partition, id := entry.offer.offer.metadataId } := by
        unfold OfferRecordTimestamped.metadataKey OfferRecord.metadataKey
        rw [hkey]
      rw [Option.bind_some, Option.bind_some, hmetadata]
      rfl

theorem getOffer_sparse (partition : String) (id : Uuid) (store : MemoryOfferStore A) :
    (getOffer partition id (some true) store).1
      = .ok (store.offer[({ partition, id } : OfferKey)]?.map (·.offer)) := by
  unfold getOffer
  cases store.offer[({ partition, id } : OfferKey)]? <;> rfl

/-- A stored offer is served with the metadata it refers to. -/
theorem Consistent.offer_stored [Repr A] (h : Consistent store) (text : OfferText A)
    (sha256 : Sha256) (hostname : String) {partition : String} {id : Uuid}
    {entry : OfferRecordTimestamped A}
    (hentry : store.offer[({ partition, id } : OfferKey)]? = some entry) :
    ∃ metadata, store.metadata[entry.metadataKey]? = some metadata
      ∧ StoreOfferProvider.offer text sha256 offerStore hostname partition id store
          = (.ok (some (text.toOffer sha256 entry.offer metadata.metadata.metadata)), store) := by
  obtain ⟨metadata, hmetadata⟩ := h.references.exists_parent hentry
  refine ⟨metadata, hmetadata, ?_⟩
  have hget : (offerStore (A := A)).getOffer partition id (some false) store
      = (.ok (some (entry.offer.withMetadata metadata.metadata.metadata)), store) := by
    refine Prod.ext ?_ rfl
    rw [show (offerStore (A := A)).getOffer = getOffer from rfl, h.getOffer_full partition id,
      hentry, Option.bind_some, hmetadata]
    rfl
  unfold StoreOfferProvider.offer
  rw [hget]
  rfl

theorem offer_missing [Repr A] (text : OfferText A) (sha256 : Sha256)
    (hostname : String) {partition : String} {id : Uuid}
    (hentry : store.offer[({ partition, id } : OfferKey)]? = none) :
    StoreOfferProvider.offer text sha256 offerStore hostname partition id store
      = (.ok none, store) := by
  have hget : (offerStore (A := A)).getOffer partition id (some false) store
      = (.ok none, store) := by
    refine Prod.ext ?_ rfl
    show (getOffer partition id (some false) store).1 = .ok none
    unfold getOffer
    rw [hentry]
    rfl
  unfold StoreOfferProvider.offer
  rw [hget]

/-- **Stored offers are served**: in every reachable state the two maps are consistent, the
full and the sparse read of an offer answer `Some` alike, and the provider serves exactly
the stored offers, each with its current metadata. -/
theorem stored_offers_are_served [Repr A] (text : OfferText A) (sha256 : Sha256)
    (calls : List (DateTime × OfferCall A)) (hostname partition : String) (id : Uuid) :
    let store := (machine.run (new : MemoryOfferStore A) calls).2
    Consistent store
    ∧ ((∃ offer, (getOffer partition id (some false) store).1 = .ok (some offer))
        ↔ ∃ offer, (getOffer partition id (some true) store).1 = .ok (some offer))
    ∧ match store.offer[({ partition, id } : OfferKey)]? with
      | none =>
          StoreOfferProvider.offer text sha256 offerStore hostname partition id store
            = (.ok none, store)
      | some entry => ∃ metadata, store.metadata[entry.metadataKey]? = some metadata
          ∧ StoreOfferProvider.offer text sha256 offerStore hostname partition id store
              = (.ok (some (text.toOffer sha256 entry.offer metadata.metadata.metadata)),
                  store) := by
  intro store
  have h : Consistent store := consistent_run calls
  refine ⟨h, ?_, ?_⟩
  · rw [h.getOffer_full, getOffer_sparse]
    cases hentry : store.offer[({ partition, id } : OfferKey)]? with
    | none => simp
    | some entry =>
        obtain ⟨metadata, hmetadata⟩ := h.references.exists_parent hentry
        simp [hmetadata]
  · cases hentry : store.offer[({ partition, id } : OfferKey)]? with
    | none => exact offer_missing text sha256 hostname hentry
    | some entry => exact h.offer_stored text sha256 hostname hentry

end MemoryOfferStore

end Switchgear.Offer
