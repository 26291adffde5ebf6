/-
  Switchgear.Offer.Frame — what leaves a stored offer as it is.

  An offer and its metadata are written by three calls alone: a put or a delete of
  the offer, and a put of the metadata.  A post finds the key taken, and a delete
  of the metadata finds it in use.

  Main result:
    * `Holds.run` — without these calls, over whole runs, the offer is served as
      it was.
-/
import Switchgear.Offer.Provider

namespace Switchgear.Offer

open Switchgear.Lib
open Std (ExtTreeMap)

variable {A σ ε : Type}

/-- The calls that write the entry of an offer, or its metadata. -/
def OfferRecordTimestamped.WrittenBy (entry : OfferRecordTimestamped A) : OfferCall A → Prop
  | .putOffer offer => offer.key = entry.key
  | .deleteOffer partition id => ({ partition, id } : OfferKey) = entry.key
  | .putMetadata metadata => metadata.key = entry.metadataKey
  | _ => False

instance (entry : OfferRecordTimestamped A) (call : OfferCall A) :
    Decidable (entry.WrittenBy call) :=
  match call with
  | .putOffer offer => inferInstanceAs (Decidable (offer.key = entry.key))
  | .deleteOffer partition id =>
      inferInstanceAs (Decidable (({ partition, id } : OfferKey) = entry.key))
  | .putMetadata metadata => inferInstanceAs (Decidable (metadata.key = entry.metadataKey))
  | .getOffer .. | .getOffers .. | .postOffer _ | .getMetadata .. | .getAllMetadata ..
  | .postMetadata _ | .deleteMetadata .. => isFalse not_false

namespace MemoryOfferStore

/-- The store has this entry of an offer, with this metadata. -/
structure Holds (store : MemoryOfferStore A) (entry : OfferRecordTimestamped A)
    (metadata : OfferMetadataTimestamped A) : Prop where
  offer : store.offer[entry.key]? = some entry
  metadata : store.metadata[entry.metadataKey]? = some metadata

section Keep

variable {store : MemoryOfferStore A} {entry : OfferRecordTimestamped A}
  {metadata : OfferMetadataTimestamped A}

/-! ## §1. One call. -/

theorem getElem?_insert_of_ne {V : Type} {m : ExtTreeMap OfferKey V} {k k' : OfferKey}
    (hne : k ≠ k') (v : V) : (m.insert k v)[k']? = m[k']? := by
  rw [ExtTreeMap.getElem?_insert, if_neg]
  intro heq
  exact hne (Std.LawfulEqOrd.eq_of_compare heq)

theorem getElem?_erase_of_ne {V : Type} {m : ExtTreeMap OfferKey V} {k k' : OfferKey}
    (hne : k ≠ k') : (m.erase k)[k']? = m[k']? := by
  rw [ExtTreeMap.getElem?_erase, if_neg]
  intro heq
  exact hne (Std.LawfulEqOrd.eq_of_compare heq)

/-- A key that is not there is another one. -/
theorem ne_of_not_mem {V : Type} {m : ExtTreeMap OfferKey V} {k k' : OfferKey} {v : V}
    (hk : k ∉ m) (hv : m[k']? = some v) : k ≠ k' := by
  intro heq
  subst heq
  apply hk
  rw [ExtTreeMap.mem_iff_isSome_getElem?, hv]
  rfl

theorem Holds.insertOffer (h : Holds store entry metadata) {k : OfferKey} (hne : k ≠ entry.key)
    (v : OfferRecordTimestamped A) :
    Holds { store with offer := store.offer.insert k v } entry metadata where
  offer := (getElem?_insert_of_ne hne v).trans h.offer
  metadata := h.metadata

theorem Holds.insertMetadata (h : Holds store entry metadata) {k : OfferKey}
    (hne : k ≠ entry.metadataKey) (v : OfferMetadataTimestamped A) :
    Holds { store with metadata := store.metadata.insert k v } entry metadata where
  offer := h.offer
  metadata := (getElem?_insert_of_ne hne v).trans h.metadata

variable [Repr A]

/-- A call that does not write them keeps both entries. -/
theorem Holds.step (h : Holds store entry metadata) (now : DateTime) {call : OfferCall A}
    (hcall : ¬ entry.WrittenBy call) : Holds (machine store (now, call)).2 entry metadata := by
  cases call with
  | getOffer partition id sparse => exact h
  | getOffers partition start count => exact h
  | getMetadata partition id => exact h
  | getAllMetadata partition start count => exact h
  | postOffer offer =>
      show Holds (postOffer now offer store).2 entry metadata
      unfold postOffer
      split
      · exact h
      · split
        · exact h
        · rename_i hfree
          exact h.insertOffer (ne_of_not_mem hfree h.offer) _
  | putOffer offer =>
      show Holds (putOffer now offer store).2 entry metadata
      unfold putOffer
      split
      · exact h
      · exact h.insertOffer hcall _
  | deleteOffer partition id =>
      show Holds (deleteOffer partition id store).2 entry metadata
      exact ⟨(getElem?_erase_of_ne hcall).trans h.offer, h.metadata⟩
  | postMetadata posted =>
      show Holds (postMetadata now posted store).2 entry metadata
      unfold postMetadata
      split
      · exact h
      · rename_i hfree
        exact h.insertMetadata (ne_of_not_mem hfree h.metadata) _
  | putMetadata put =>
      show Holds (putMetadata now put store).2 entry metadata
      exact h.insertMetadata hcall _
  | deleteMetadata partition id =>
      show Holds (deleteMetadata partition id store).2 entry metadata
      unfold deleteMetadata
      split
      · exact h
      · rename_i hfree
        have hne : ({ partition, id } : OfferKey) ≠ entry.metadataKey := by
          intro heq
          exact hfree ((metadataInUse_iff partition id).mpr ⟨_, entry, h.offer, heq.symm⟩)
        exact ⟨h.offer, (getElem?_erase_of_ne hne).trans h.metadata⟩

/-! ## §2. Whole runs. -/

/-- Without a call that writes them, both entries stay over a run. -/
theorem Holds.run (h : Holds store entry metadata) (calls : List (DateTime × OfferCall A))
    (hcalls : ∀ call ∈ calls, ¬ entry.WrittenBy call.2) :
    Holds (machine.run store calls).2 entry metadata :=
  machine.run_invariant (fun s => Holds s entry metadata) (fun _ a => ¬ entry.WrittenBy a.2)
    (fun _ a h hcall => h.step a.1 hcall) store calls h
    (machine.along_of_forall store calls fun a ha _ => hcalls a ha)

omit [Repr A] in
/-- The full read of an offer that is there. -/
theorem Holds.getOffer (h : Holds store entry metadata) :
    getOffer entry.offer.partition entry.offer.id (some false) store
      = (.ok (some (entry.offer.withMetadata metadata.metadata.metadata)), store) := by
  have hoffer : store.offer[({ partition := entry.offer.partition, id := entry.offer.id } :
      OfferKey)]? = some entry := h.offer
  have hmetadata : store.metadata[({ partition := entry.offer.partition
                                     id := entry.offer.offer.metadataId } : OfferKey)]?
      = some metadata := h.metadata
  unfold MemoryOfferStore.getOffer
  rw [hoffer]
  dsimp only
  rw [Option.bind_some, Option.getD_some, if_neg Bool.false_ne_true, hmetadata]
  rfl

end Keep

/-- An offer that is served is there with its metadata, in a consistent store. -/
theorem Consistent.holds [Repr A] {store : MemoryOfferStore A} (h : Consistent store)
    {partition : String} {id : Uuid} {record : OfferRecord A}
    (hget : (getOffer partition id (some false) store).1 = .ok (some record)) :
    ∃ entry metadata, Holds store entry metadata ∧ entry.key = { partition, id }
      ∧ record = entry.offer.withMetadata metadata.metadata.metadata := by
  rw [h.getOffer_full] at hget
  cases hentry : store.offer[({ partition, id } : OfferKey)]? with
  | none =>
      rw [hentry] at hget
      cases hget
  | some entry =>
      obtain ⟨metadata, hmetadata⟩ := h.references.exists_parent hentry
      have hkey := h.offerKeys _ entry hentry
      rw [hentry, Option.bind_some, hmetadata, Option.map_some] at hget
      refine ⟨entry, metadata, ⟨?_, hmetadata⟩, hkey, ?_⟩
      · rw [hkey]
        exact hentry
      · exact (Option.some.inj (Except.ok.inj hget)).symm

end MemoryOfferStore

end Switchgear.Offer
