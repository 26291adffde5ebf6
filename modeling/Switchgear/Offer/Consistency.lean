/-
  Switchgear.Offer.Consistency — what every reachable state of `MemoryOfferStore`
  satisfies, and that its partitions do not see each other.

  `machine_cases` says once what a call may write, with the partition it is
  addressed to; the invariant (`Consistent`) and the isolation of partitions
  (`SamePartition`) are derived from it.

  Main result:
    * `partition_isolation` — the answers to the calls of one partition are
      those of the run without all other calls.
-/
import Switchgear.Lib.MapPart
import Switchgear.Offer.Memory

namespace Switchgear.Offer

open Switchgear.Lib
open Std (ExtTreeMap)

namespace MemoryOfferStore

variable {A : Type} {self : MemoryOfferStore A}

/-! ## §1. What a call writes. -/

/-- Nothing, an offer whose metadata is there, the removal of an offer, metadata, or the
removal of metadata nobody refers to; all under keys of the partition of the call. -/
theorem machine_cases [Repr A] (now : DateTime) (call : OfferCall A)
    (self : MemoryOfferStore A) :
    (machine self (now, call)).2 = self
    ∨ (∃ entry : OfferRecordTimestamped A, entry.key.partition = call.partition
        ∧ entry.metadataKey ∈ self.metadata
        ∧ (machine self (now, call)).2
            = { self with offer := self.offer.insert entry.key entry })
    ∨ (∃ key : OfferKey, key.partition = call.partition
        ∧ (machine self (now, call)).2 = { self with offer := self.offer.erase key })
    ∨ (∃ entry : OfferMetadataTimestamped A, entry.key.partition = call.partition
        ∧ (machine self (now, call)).2
            = { self with metadata := self.metadata.insert entry.key entry })
    ∨ (∃ key : OfferKey, key.partition = call.partition
        ∧ self.metadataInUse key.partition key.id = false
        ∧ (machine self (now, call)).2 = { self with metadata := self.metadata.erase key }) := by
  cases call with
  | getOffer partition id sparse => exact .inl rfl
  | getOffers partition start count => exact .inl rfl
  | getMetadata partition id => exact .inl rfl
  | getAllMetadata partition start count => exact .inl rfl
  | postOffer offer =>
      show (postOffer now offer self).2 = self ∨ _
      unfold postOffer
      by_cases hmissing : offer.metadataKey ∉ self.metadata
      · rw [if_pos hmissing]
        exact .inl rfl
      · rw [if_neg hmissing]
        by_cases htaken : offer.key ∈ self.offer
        · rw [if_pos htaken]
          exact .inl rfl
        · right; left
          refine ⟨{ created := now, offer }, rfl, not_not.mp hmissing, ?_⟩
          show (postOffer now offer self).2 = _
          unfold postOffer
          rw [if_neg hmissing, if_neg htaken]
          rfl
  | putOffer offer =>
      by_cases hmissing : offer.metadataKey ∉ self.metadata
      · left
        show (putOffer now offer self).2 = self
        unfold putOffer
        rw [if_pos hmissing]
      · right; left
        refine ⟨{ created := now, offer }, rfl, not_not.mp hmissing, ?_⟩
        show (putOffer now offer self).2 = _
        unfold putOffer
        rw [if_neg hmissing]
        rfl
  | deleteOffer partition id => exact .inr (.inr (.inl ⟨{ partition, id }, rfl, rfl⟩))
  | postMetadata metadata =>
      by_cases htaken : metadata.key ∈ self.metadata
      · left
        show (postMetadata now metadata self).2 = self
        unfold postMetadata
        rw [if_pos htaken]
      · right; right; right; left
        refine ⟨{ created := now, metadata }, rfl, ?_⟩
        show (postMetadata now metadata self).2 = _
        unfold postMetadata
        rw [if_neg htaken]
        rfl
  | putMetadata metadata =>
      exact .inr (.inr (.inr (.inl ⟨{ created := now, metadata }, rfl, rfl⟩)))
  | deleteMetadata partition id =>
      cases hused : self.metadataInUse partition id with
      | true =>
          left
          show (deleteMetadata partition id self).2 = self
          unfold deleteMetadata
          rw [if_pos hused]
      | false =>
          right; right; right; right
          refine ⟨{ partition, id }, rfl, hused, ?_⟩
          show (deleteMetadata partition id self).2 = _
          unfold deleteMetadata
          rw [if_neg (by simp [hused])]

/-! ## §2. The invariant. -/

/-- Every record is under its own key, and every offer refers to metadata that is there. -/
structure Consistent (store : MemoryOfferStore A) : Prop where
  offerKeys : OwnKeys OfferRecordTimestamped.key store.offer
  metadataKeys : OwnKeys OfferMetadataTimestamped.key store.metadata
  references : References OfferRecordTimestamped.metadataKey store.offer store.metadata

theorem consistent_new : Consistent (new : MemoryOfferStore A) where
  offerKeys := OwnKeys.empty
  metadataKeys := OwnKeys.empty
  references := References.empty _

/-- The scan of `delete_metadata` finds an offer that refers to the metadata, if there
is one. -/
theorem metadataInUse_iff (partition : String) (id : Uuid) :
    self.metadataInUse partition id = true
      ↔ ∃ (key : OfferKey) (entry : OfferRecordTimestamped A),
          self.offer[key]? = some entry ∧ entry.metadataKey = { partition, id } := by
  unfold metadataInUse
  rw [any_values_iff]
  have htest : ∀ entry : OfferRecordTimestamped A,
      (entry.offer.partition == partition && entry.offer.offer.metadataId == id) = true
        ↔ entry.metadataKey = { partition, id } := by
    intro entry
    unfold OfferRecordTimestamped.metadataKey OfferRecord.metadataKey
    simp
  simp only [htest]

theorem Consistent.step [Repr A] (h : Consistent self) (now : DateTime) (call : OfferCall A) :
    Consistent (machine self (now, call)).2 := by
  rcases machine_cases now call self with heq | ⟨entry, -, hparent, heq⟩ | ⟨key, -, heq⟩
    | ⟨entry, -, heq⟩ | ⟨key, -, hfree, heq⟩
  · rw [heq]
    exact h
  · rw [heq]
    exact ⟨h.offerKeys.insert rfl, h.metadataKeys, h.references.insertChild hparent _⟩
  · rw [heq]
    exact ⟨h.offerKeys.erase key, h.metadataKeys, h.references.eraseChild key⟩
  · rw [heq]
    exact ⟨h.offerKeys, h.metadataKeys.insert rfl, h.references.insertParent _ _⟩
  -- the scan before the removal is what keeps the references
  · rw [heq]
    refine ⟨h.offerKeys, h.metadataKeys.erase key, h.references.eraseParent ?_⟩
    intro key' entry hentry hrefers
    have hused := (metadataInUse_iff key.partition key.id).mpr ⟨key', entry, hentry, hrefers⟩
    rw [hfree] at hused
    cases hused

/-- **Every reachable state is consistent.** -/
theorem consistent_run [Repr A] (calls : List (DateTime × OfferCall A)) :
    Consistent (machine.run (new : MemoryOfferStore A) calls).2 :=
  machine.run_invariant Consistent (fun _ _ => True)
    (fun _ a h _ => h.step a.1 a.2) _ calls consistent_new
    (machine.along_of_forall _ _ fun _ _ _ => trivial)

/-! ## §3. Partitions. -/

/-- The keys of a partition. -/
def inPartition (partition : String) (key : OfferKey) : Bool := key.partition == partition

/-- Two consistent stores hold the same in a partition. -/
structure SamePartition (partition : String) (s t : MemoryOfferStore A) : Prop where
  left : Consistent s
  right : Consistent t
  offer : AgreeOn (inPartition partition) s.offer t.offer
  metadata : AgreeOn (inPartition partition) s.metadata t.metadata

variable {partition : String} {s t : MemoryOfferStore A}

/-- A call to another partition does not show. -/
theorem SamePartition.skip [Repr A] (h : SamePartition partition s t) (now : DateTime)
    {call : OfferCall A} (hcall : call.partition ≠ partition) :
    SamePartition partition (machine s (now, call)).2 t := by
  have houtside : ∀ key : OfferKey, key.partition = call.partition →
      inPartition partition key = false := by
    intro key hkey
    unfold inPartition
    rw [hkey]
    exact beq_false_of_ne hcall
  have hleft := h.left.step now call
  -- each kind of write is under a key of the call's partition, outside of this one
  rcases machine_cases now call s with heq | ⟨entry, hkey, -, heq⟩ | ⟨key, hkey, heq⟩
    | ⟨entry, hkey, heq⟩ | ⟨key, hkey, -, heq⟩
  · rw [heq]
    exact h
  · rw [heq] at hleft ⊢
    exact ⟨hleft, h.right, h.offer.insert_outside (houtside _ hkey) entry, h.metadata⟩
  · rw [heq] at hleft ⊢
    exact ⟨hleft, h.right, h.offer.erase_outside (houtside _ hkey), h.metadata⟩
  · rw [heq] at hleft ⊢
    exact ⟨hleft, h.right, h.offer, h.metadata.insert_outside (houtside _ hkey) entry⟩
  · rw [heq] at hleft ⊢
    exact ⟨hleft, h.right, h.offer, h.metadata.erase_outside (houtside _ hkey)⟩

/-- A page of a partition shows nothing else. -/
theorem page_congr {V W : Type} {rank : V → DateTime × Uuid} {value : V → W}
    {m d : ExtTreeMap OfferKey V} (h : AgreeOn (inPartition partition) m d)
    (start count : UInt64) :
    page rank value partition start count m = page rank value partition start count d := by
  have hlists : (m.toList.filter fun p => p.1.partition == partition)
      = d.toList.filter fun p => p.1.partition == partition := h.toList_filter
  unfold page
  rw [hlists]

/-- Whether metadata of a partition is in use depends on the offers of the partition. -/
theorem metadataInUse_congr (h : SamePartition partition s t) (id : Uuid) :
    s.metadataInUse partition id = t.metadataInUse partition id := by
  -- an offer lies in the partition of its metadata, so the scan sees only one partition
  have hkey : ∀ {u : MemoryOfferStore A} {key : OfferKey} {entry : OfferRecordTimestamped A},
      Consistent u → u.offer[key]? = some entry → entry.metadataKey = { partition, id } →
      inPartition partition key = true := by
    intro u key entry hu hentry hrefers
    have hown := hu.offerKeys key entry hentry
    have hpartition : entry.key.partition = entry.metadataKey.partition := rfl
    unfold inPartition
    rw [← hown, hpartition, hrefers]
    exact beq_self_eq_true partition
  rw [Bool.eq_iff_iff, metadataInUse_iff, metadataInUse_iff]
  constructor
  · rintro ⟨key, entry, hentry, hrefers⟩
    refine ⟨key, entry, ?_, hrefers⟩
    rw [← h.offer key (hkey h.left hentry hrefers)]
    exact hentry
  · rintro ⟨key, entry, hentry, hrefers⟩
    refine ⟨key, entry, ?_, hrefers⟩
    rw [h.offer key (hkey h.right hentry hrefers)]
    exact hentry

/-! ## §4. The ten methods on two such stores. -/

/-- Two outcomes of a call: the same answer, and the same content of the partition. -/
structure Alike {β : Type} (partition : String) (left right : β × MemoryOfferStore A) :
    Prop where
  answer : left.1 = right.1
  offer : AgreeOn (inPartition partition) left.2.offer right.2.offer
  metadata : AgreeOn (inPartition partition) left.2.metadata right.2.metadata

namespace SamePartition

theorem offer_eq (h : SamePartition partition s t) {key : OfferKey}
    (hkey : key.partition = partition) : s.offer[key]? = t.offer[key]? :=
  h.offer key (beq_iff_eq.mpr hkey)

theorem metadata_eq (h : SamePartition partition s t) {key : OfferKey}
    (hkey : key.partition = partition) : s.metadata[key]? = t.metadata[key]? :=
  h.metadata key (beq_iff_eq.mpr hkey)

theorem mem_offer_iff (h : SamePartition partition s t) {key : OfferKey}
    (hkey : key.partition = partition) : key ∈ s.offer ↔ key ∈ t.offer :=
  h.offer.mem_iff (beq_iff_eq.mpr hkey)

theorem mem_metadata_iff (h : SamePartition partition s t) {key : OfferKey}
    (hkey : key.partition = partition) : key ∈ s.metadata ↔ key ∈ t.metadata :=
  h.metadata.mem_iff (beq_iff_eq.mpr hkey)

theorem getOffer_alike (h : SamePartition partition s t) (id : Uuid) (sparse : Option Bool) :
    Alike partition (getOffer partition id sparse s) (getOffer partition id sparse t) := by
  refine ⟨?_, h.offer, h.metadata⟩
  unfold getOffer
  dsimp only
  rw [h.offer_eq rfl]
  cases t.offer[({ partition, id } : OfferKey)]? with
  | none => rfl
  | some offer =>
      dsimp only [Option.bind_some]
      rw [h.metadata_eq rfl]

theorem getMetadata_alike (h : SamePartition partition s t) (id : Uuid) :
    Alike partition (getMetadata partition id s) (getMetadata partition id t) := by
  refine ⟨?_, h.offer, h.metadata⟩
  unfold getMetadata
  rw [h.metadata_eq rfl]

theorem postOffer_alike [Repr A] (h : SamePartition partition s t) (now : DateTime)
    {offer : OfferRecord A} (hcall : offer.partition = partition) :
    Alike partition (postOffer now offer s) (postOffer now offer t) := by
  have hparent : offer.metadataKey ∈ s.metadata ↔ offer.metadataKey ∈ t.metadata :=
    h.mem_metadata_iff hcall
  have htaken : offer.key ∈ s.offer ↔ offer.key ∈ t.offer := h.mem_offer_iff hcall
  unfold postOffer
  by_cases hmissing : offer.metadataKey ∉ t.metadata
  · rw [if_pos (mt hparent.mp hmissing), if_pos hmissing]
    exact ⟨rfl, h.offer, h.metadata⟩
  · rw [if_neg (mt (mt hparent.mpr) hmissing), if_neg hmissing]
    by_cases hkey : offer.key ∈ t.offer
    · rw [if_pos (htaken.mpr hkey), if_pos hkey]
      exact ⟨rfl, h.offer, h.metadata⟩
    · rw [if_neg (mt htaken.mp hkey), if_neg hkey]
      exact ⟨rfl, h.offer.insert _ _, h.metadata⟩

theorem putOffer_alike [Repr A] (h : SamePartition partition s t) (now : DateTime)
    {offer : OfferRecord A} (hcall : offer.partition = partition) :
    Alike partition (putOffer now offer s) (putOffer now offer t) := by
  have hparent : offer.metadataKey ∈ s.metadata ↔ offer.metadataKey ∈ t.metadata :=
    h.mem_metadata_iff hcall
  unfold putOffer
  by_cases hmissing : offer.metadataKey ∉ t.metadata
  · rw [if_pos (mt hparent.mp hmissing), if_pos hmissing]
    exact ⟨rfl, h.offer, h.metadata⟩
  · have hold : s.offer[offer.key]? = t.offer[offer.key]? := h.offer_eq hcall
    rw [if_neg (mt (mt hparent.mpr) hmissing), if_neg hmissing, hold]
    exact ⟨rfl, h.offer.insert _ _, h.metadata⟩

theorem deleteOffer_alike (h : SamePartition partition s t) (id : Uuid) :
    Alike partition (deleteOffer partition id s) (deleteOffer partition id t) := by
  unfold deleteOffer
  dsimp only
  rw [h.offer_eq rfl]
  exact ⟨rfl, h.offer.erase _, h.metadata⟩

theorem postMetadata_alike (h : SamePartition partition s t) (now : DateTime)
    {metadata : OfferMetadata A} (hcall : metadata.partition = partition) :
    Alike partition (postMetadata now metadata s) (postMetadata now metadata t) := by
  have htaken : metadata.key ∈ s.metadata ↔ metadata.key ∈ t.metadata :=
    h.mem_metadata_iff hcall
  unfold postMetadata
  by_cases hkey : metadata.key ∈ t.metadata
  · rw [if_pos (htaken.mpr hkey), if_pos hkey]
    exact ⟨rfl, h.offer, h.metadata⟩
  · rw [if_neg (mt htaken.mp hkey), if_neg hkey]
    exact ⟨rfl, h.offer, h.metadata.insert _ _⟩

theorem putMetadata_alike (h : SamePartition partition s t) (now : DateTime)
    {metadata : OfferMetadata A} (hcall : metadata.partition = partition) :
    Alike partition (putMetadata now metadata s) (putMetadata now metadata t) := by
  have hold : s.metadata[metadata.key]? = t.metadata[metadata.key]? := h.metadata_eq hcall
  unfold putMetadata
  rw [hold]
  exact ⟨rfl, h.offer, h.metadata.insert _ _⟩

theorem deleteMetadata_alike (h : SamePartition partition s t) (id : Uuid) :
    Alike partition (deleteMetadata partition id s) (deleteMetadata partition id t) := by
  unfold deleteMetadata
  rw [metadataInUse_congr h id]
  split
  · exact ⟨rfl, h.offer, h.metadata⟩
  · dsimp only
    rw [h.metadata_eq rfl]
    exact ⟨rfl, h.offer, h.metadata.erase _⟩

/-- A call to the partition is answered the same, and writes the same. -/
theorem alike [Repr A] (h : SamePartition partition s t) (now : DateTime) {call : OfferCall A}
    (hcall : call.partition = partition) :
    Alike partition (machine s (now, call)) (machine t (now, call)) := by
  cases call with
  | getOffer _ id sparse =>
      subst hcall
      have halike := h.getOffer_alike id sparse
      exact ⟨congrArg (Except.map _) halike.answer, halike.offer, halike.metadata⟩
  | getOffers _ start count =>
      subst hcall
      exact ⟨congrArg (fun page => Except.ok (OfferAnswer.offers page))
        (page_congr h.offer start count), h.offer, h.metadata⟩
  | postOffer offer =>
      have halike := h.postOffer_alike now hcall
      exact ⟨congrArg (Except.map _) halike.answer, halike.offer, halike.metadata⟩
  | putOffer offer =>
      have halike := h.putOffer_alike now hcall
      exact ⟨congrArg (Except.map _) halike.answer, halike.offer, halike.metadata⟩
  | deleteOffer _ id =>
      subst hcall
      have halike := h.deleteOffer_alike id
      exact ⟨congrArg (Except.map _) halike.answer, halike.offer, halike.metadata⟩
  | getMetadata _ id =>
      subst hcall
      have halike := h.getMetadata_alike id
      exact ⟨congrArg (Except.map _) halike.answer, halike.offer, halike.metadata⟩
  | getAllMetadata _ start count =>
      subst hcall
      exact ⟨congrArg (fun page => Except.ok (OfferAnswer.allMetadata page))
        (page_congr h.metadata start count), h.offer, h.metadata⟩
  | postMetadata metadata =>
      have halike := h.postMetadata_alike now hcall
      exact ⟨congrArg (Except.map _) halike.answer, halike.offer, halike.metadata⟩
  | putMetadata metadata =>
      have halike := h.putMetadata_alike now hcall
      exact ⟨congrArg (Except.map _) halike.answer, halike.offer, halike.metadata⟩
  | deleteMetadata _ id =>
      subst hcall
      have halike := h.deleteMetadata_alike id
      exact ⟨congrArg (Except.map _) halike.answer, halike.offer, halike.metadata⟩

end SamePartition

/-- **Partitions are isolated**: in every run from the empty store, the calls addressed to a
partition are answered as in the run of these calls alone, at the same clock readings. -/
theorem partition_isolation [Repr A] (partition : String)
    (calls : List (DateTime × OfferCall A)) :
    ((calls.zip (machine.run (new : MemoryOfferStore A) calls).1).filter
        fun p => p.1.2.partition == partition).map Prod.snd
      = (machine.run (new : MemoryOfferStore A)
          (calls.filter fun p => p.2.partition == partition)).1 := by
  refine machine.run_filter (SamePartition partition) (fun p => p.2.partition == partition)
    ?_ ?_ new new calls
    ⟨consistent_new, consistent_new, AgreeOn.refl _ _, AgreeOn.refl _ _⟩
  · rintro s t ⟨now, call⟩ h hcall
    have halike := h.alike now (beq_iff_eq.mp hcall)
    exact ⟨halike.answer, h.left.step now call, h.right.step now call, halike.offer,
      halike.metadata⟩
  · rintro s t ⟨now, call⟩ h hcall
    exact h.skip now (beq_eq_false_iff_ne.mp hcall)

end MemoryOfferStore

end Switchgear.Offer
