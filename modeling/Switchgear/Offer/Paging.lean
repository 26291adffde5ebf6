/-
  Switchgear.Offer.Paging — a client that pages through `get_offers` or
  `get_all_metadata` of the memory store while others put values under keys that
  are there.

  `put_offer` and `put_metadata` store the time of the put as the creation time,
  and a listing is sorted by it: a put moves its entry to the place of its new
  time.  The client's offset counts places, so an entry that is carried past
  others is missed or met twice.

    * `Unmoved` — the put carries its entry past no other one of the partition,
      unless the client has passed both,
    * `drop_sortedEntries_insert` — such a put leaves alone what is still to be read,
    * `paging_receives_listing` — over whole runs: the client receives the listing,
    * `putOffer_keeps_listing`, `putMetadata_keeps_listing` — the database store, which
      keeps the creation time of a row, never moves an entry.
-/
import Switchgear.Lib.Paging
import Switchgear.Offer.StoredNumbers

namespace Switchgear.Offer

open Switchgear.Lib
open Std (ExtTreeMap)

namespace MemoryOfferStore

/-! ## §1. A put in a sorted partition. -/

section Sorted

variable {V : Type} (rank : V → DateTime × Uuid)

/-- The entries of a partition, sorted: what a page is cut from. -/
def sortedEntries (partition : String) (store : ExtTreeMap OfferKey V) : List V :=
  ((store.toList.filter fun p => p.1.partition == partition).map Prod.snd).insertionSort
    fun a b => createdThenId (rank a) (rank b)

variable {rank} {keyOf : V → OfferKey} {store : ExtTreeMap OfferKey V}

theorem page_eq {W : Type} (value : V → W) (partition : String) (start count : UInt64) :
    page rank value partition start count store
      = (((sortedEntries rank partition store).drop start.toNat).take count.toNat).map value := rfl

/-- The values of a partition are those whose own keys are in it. -/
theorem partition_values (hkeys : OwnKeys keyOf store) (partition : String) :
    (store.toList.filter fun p => p.1.partition == partition).map Prod.snd
      = (store.toList.map Prod.snd).filter fun v => (keyOf v).partition == partition := by
  rw [List.filter_map]
  congr 1
  apply List.filter_congr
  intro p hp
  show _ = ((keyOf p.2).partition == partition)
  rw [hkeys p.1 p.2 (ExtTreeMap.mem_toList_iff_getElem?_eq_some.mp hp)]

theorem mem_sortedEntries_iff (hkeys : OwnKeys keyOf store) {partition : String} {v : V} :
    v ∈ sortedEntries rank partition store
      ↔ store[keyOf v]? = some v ∧ (keyOf v).partition = partition := by
  unfold sortedEntries
  rw [List.mem_insertionSort, partition_values hkeys, List.mem_filter, hkeys.mem_values_iff,
    beq_iff_eq]

/-- The put of a value of rank `new` carries its entry past no other one of the partition,
unless both stand before `start`. -/
def Unmoved (rank : V → DateTime × Uuid) (keyOf : V → OfferKey) (partition : String) (start : ℕ)
    (store : ExtTreeMap OfferKey V) (key : OfferKey) (new : DateTime × Uuid) : Prop :=
  ∀ old ∈ store[key]?, ∀ other ∈ sortedEntries rank partition store,
    key.partition = partition → keyOf other ≠ key →
    (createdThenId (rank other) (rank old) ↔ createdThenId (rank other) new)
      ∨ (old ∈ (sortedEntries rank partition store).take start
          ∧ other ∈ (sortedEntries rank partition store).take start)

instance [DecidableEq V] (partition : String) (start : ℕ) (key : OfferKey)
    (new : DateTime × Uuid) : Decidable (Unmoved rank keyOf partition start store key new) :=
  inferInstanceAs (Decidable (∀ old ∈ store[key]?, _))

/-- The value in the place of the one under its key. -/
def replaced (keyOf : V → OfferKey) (v e : V) : V := if keyOf e = keyOf v then v else e

theorem keyOf_replaced (keyOf : V → OfferKey) (v e : V) : keyOf (replaced keyOf v e) = keyOf e := by
  unfold replaced
  by_cases he : keyOf e = keyOf v
  · rw [if_pos he, he]
  · rw [if_neg he]

theorem sortedEntries_insert (hkeys : OwnKeys keyOf store)
    (hrank : ∀ v, (rank v).2 = (keyOf v).id) (partition : String) {v : V}
    (hmem : keyOf v ∈ store) :
    sortedEntries rank partition (store.insert (keyOf v) v)
      = (((store.toList.filter fun p => p.1.partition == partition).map Prod.snd).map
          (replaced keyOf v)).insertionSort fun a b => createdThenId (rank a) (rank b) := by
  refine (sort_of_perm (hkeys.insert rfl) hrank partition ?_).symm
  rw [partition_values hkeys, partition_values (hkeys.insert rfl)]
  have hvalues := (hkeys.values_insert_perm rfl hmem).filter fun w => (keyOf w).partition == partition
  have hfilter : ((store.toList.map Prod.snd).map (replaced keyOf v)).filter
        (fun w => (keyOf w).partition == partition)
      = ((store.toList.map Prod.snd).filter fun w => (keyOf w).partition == partition).map
          (replaced keyOf v) := by
    rw [List.filter_map]
    congr 1
    apply List.filter_congr
    intro e _
    show ((keyOf (replaced keyOf v e)).partition == partition) = _
    rw [keyOf_replaced keyOf v e]
  rw [← hfilter]
  exact hvalues.symm

/-- Ids are not repeated in a partition. -/
theorem nodup_ids (hkeys : OwnKeys keyOf store) (partition : String) :
    (((store.toList.filter fun p => p.1.partition == partition).map Prod.snd).map
      fun v => (keyOf v).id).Nodup := by
  rw [partition_values hkeys, List.nodup_map_iff_inj_on (hkeys.nodup_keys.of_map.filter _)]
  intro a ha b hb hid
  obtain ⟨hmema, hpa⟩ := List.mem_filter.mp ha
  obtain ⟨hmemb, hpb⟩ := List.mem_filter.mp hb
  have hkey : keyOf a = keyOf b := by
    cases ha' : keyOf a
    cases hb' : keyOf b
    rw [ha', hb'] at hid
    rw [ha'] at hpa
    rw [hb'] at hpb
    rw [OfferKey.mk.injEq]
    exact ⟨(beq_iff_eq.mp hpa).trans (beq_iff_eq.mp hpb).symm, hid⟩
  exact List.inj_on_of_nodup_map hkeys.nodup_keys hmema hmemb hkey

/-- A put that carries its entry past no unread one leaves alone what is still to be read. -/
theorem drop_sortedEntries_insert (hkeys : OwnKeys keyOf store)
    (hrank : ∀ v, (rank v).2 = (keyOf v).id) {partition : String} {start : ℕ} {v : V}
    (hmem : keyOf v ∈ store) (hunmoved : Unmoved rank keyOf partition start store (keyOf v) (rank v)) :
    (((sortedEntries rank partition (store.insert (keyOf v) v)).map
        fun v => (keyOf v).id).drop start)
      = ((sortedEntries rank partition store).map fun v => (keyOf v).id).drop start := by
  rw [← List.map_drop, ← List.map_drop, sortedEntries_insert hkeys hrank partition hmem]
  -- how the put places its entry against another one
  have hold : ∀ {old}, store[keyOf old]? = some old → keyOf old = keyOf v → old ∈ store[keyOf v]? := by
    intro old hfound hkey
    rw [← hkey]
    exact hfound
  refine drop_sort_replaced ?_ (nodup_ids hkeys partition) ?_ start ?_
  · intro e
    exact congrArg OfferKey.id (keyOf_replaced keyOf v e)
  · intro a b hab hba
    show (keyOf a).id = (keyOf b).id
    rw [← hrank, ← hrank, createdThenId_antisymm hab hba]
  · intro e he f hf hne hle
    have hlisted : ∀ {w}, w ∈ (store.toList.filter fun p => p.1.partition == partition).map Prod.snd →
        w ∈ sortedEntries rank partition store := fun h => (List.mem_insertionSort _).mpr h
    obtain ⟨hfounde, hpe⟩ := (mem_sortedEntries_iff hkeys).mp (hlisted he)
    obtain ⟨hfoundf, hpf⟩ := (mem_sortedEntries_iff hkeys).mp (hlisted hf)
    have hkne : keyOf e ≠ keyOf f := fun h => hne (congrArg OfferKey.id h)
    show createdThenId (rank (replaced keyOf v e)) (rank (replaced keyOf v f)) ∨ _
    by_cases hev : keyOf e = keyOf v
    · have hfv : keyOf f ≠ keyOf v := fun h => hkne (hev.trans h.symm)
      have hpv : (keyOf v).partition = partition := hev ▸ hpe
      rw [replaced, replaced, if_pos hev, if_neg hfv]
      rcases hunmoved e (hold hfounde hev) f (hlisted hf) hpv hfv with hiff | hboth
      · left
        -- `f` stands behind `e`, so it does not stand before the new rank either
        have hnot : ¬ createdThenId (rank f) (rank e) := by
          intro hfe
          have hsame := createdThenId_antisymm hle hfe
          exact hne (by rw [← hrank, ← hrank, hsame])
        exact (createdThenId_total _ _).resolve_right (mt hiff.mpr hnot)
      · exact .inr hboth
    · by_cases hfv : keyOf f = keyOf v
      · have hpv : (keyOf v).partition = partition := hfv ▸ hpf
        rw [replaced, replaced, if_neg hev, if_pos hfv]
        rcases hunmoved f (hold hfoundf hfv) e (hlisted he) hpv hev with hiff | hboth
        · exact .inl (hiff.mp hle)
        · exact .inr hboth.symm
      · rw [replaced, replaced, if_neg hev, if_neg hfv]
        exact .inl hle

end Sorted

/-! ## §2. What one call of another client does to a listing. -/

variable {A : Type}

/-- What the client pages through. -/
inductive Listing where
  | offers
  | metadata
  deriving DecidableEq

/-- The ids of a page. -/
def pageIds (listing : Listing) (partition : String) (count : UInt64) (self : MemoryOfferStore A)
    (start : ℕ) : List Uuid :=
  match listing with
  | .offers =>
      ((getOffers partition (UInt64.ofNat start) count self).1.toOption.getD []).map (·.id)
  | .metadata =>
      ((getAllMetadata partition (UInt64.ofNat start) count self).1.toOption.getD []).map (·.id)

/-- The ids of the whole partition, as one listing shows them. -/
def listingIds (listing : Listing) (partition : String) (self : MemoryOfferStore A) : List Uuid :=
  match listing with
  | .offers => (sortedEntries offerRank partition self.offer).map fun entry => entry.key.id
  | .metadata => (sortedEntries metadataRank partition self.metadata).map fun entry => entry.key.id

/-- A call of another client: a read, or a put of a new value under a key that is there. -/
def OnlyReplaces (self : MemoryOfferStore A) : OfferCall A → Prop
  | .putOffer offer => offer.key ∈ self.offer
  | .putMetadata metadata => metadata.key ∈ self.metadata
  | .postOffer _ | .postMetadata _ | .deleteOffer _ _ | .deleteMetadata _ _ => False
  | .getOffer _ _ _ | .getOffers _ _ _ | .getMetadata _ _ | .getAllMetadata _ _ _ => True

/-- A put that takes effect carries its entry of the listing past no other one, unless the
client has read both. -/
def KeepsPlace (listing : Listing) (partition : String) (start : ℕ) (self : MemoryOfferStore A)
    (now : DateTime) : OfferCall A → Prop
  | .putOffer offer => listing = .offers → offer.metadataKey ∈ self.metadata →
      Unmoved offerRank OfferRecordTimestamped.key partition start self.offer offer.key
        (now, offer.id)
  | .putMetadata metadata => listing = .metadata →
      Unmoved metadataRank OfferMetadataTimestamped.key partition start self.metadata metadata.key
        (now, metadata.id)
  | _ => True

instance (self : MemoryOfferStore A) : (call : OfferCall A) → Decidable (OnlyReplaces self call)
  | .putOffer offer => inferInstanceAs (Decidable (offer.key ∈ self.offer))
  | .putMetadata metadata => inferInstanceAs (Decidable (metadata.key ∈ self.metadata))
  | .postOffer _ | .postMetadata _ | .deleteOffer _ _ | .deleteMetadata _ _ => isFalse id
  | .getOffer _ _ _ | .getOffers _ _ _ | .getMetadata _ _ | .getAllMetadata _ _ _ => isTrue trivial

instance [DecidableEq A] (listing : Listing) (partition : String) (start : ℕ)
    (self : MemoryOfferStore A) (now : DateTime) :
    (call : OfferCall A) → Decidable (KeepsPlace listing partition start self now call)
  | .putOffer offer =>
      inferInstanceAs (Decidable (listing = .offers → offer.metadataKey ∈ self.metadata →
        Unmoved offerRank OfferRecordTimestamped.key partition start self.offer offer.key
          (now, offer.id)))
  | .putMetadata metadata =>
      inferInstanceAs (Decidable (listing = .metadata →
        Unmoved metadataRank OfferMetadataTimestamped.key partition start self.metadata
          metadata.key (now, metadata.id)))
  | .postOffer _ | .postMetadata _ | .deleteOffer _ _ | .deleteMetadata _ _
  | .getOffer _ _ _ | .getOffers _ _ _ | .getMetadata _ _ | .getAllMetadata _ _ _ => isTrue trivial

theorem pageIds_eq (listing : Listing) (partition : String) (count : UInt64)
    (self : MemoryOfferStore A) {start : ℕ} (hstart : start < 2 ^ 64) :
    pageIds listing partition count self start
      = ((listingIds listing partition self).drop start).take count.toNat := by
  have hoffset : (UInt64.ofNat start).toNat = start := UInt64.toNat_ofNat_of_lt' hstart
  cases listing with
  | offers =>
      show (page offerRank (·.offer) partition (UInt64.ofNat start) count self.offer).map _ = _
      rw [page_eq, hoffset, List.map_map, List.map_take, List.map_drop]
      rfl
  | metadata =>
      show (page metadataRank (·.metadata) partition (UInt64.ofNat start) count
        self.metadata).map _ = _
      rw [page_eq, hoffset, List.map_map, List.map_take, List.map_drop]
      rfl

/-- A call that keeps its place leaves alone what is still to be read. -/
theorem step_drop_listingIds [Repr A] {self : MemoryOfferStore A} (hconsistent : Consistent self)
    {listing : Listing} {partition : String} {start : ℕ} {now : DateTime} {call : OfferCall A}
    (honly : OnlyReplaces self call) (hplace : KeepsPlace listing partition start self now call) :
    (listingIds listing partition (machine self (now, call)).2).drop start
      = (listingIds listing partition self).drop start := by
  cases call with
  | putOffer offer =>
      show (listingIds listing partition (putOffer now offer self).2).drop start = _
      unfold putOffer
      by_cases hparent : offer.metadataKey ∈ self.metadata
      · rw [if_neg (not_not.mpr hparent)]
        cases listing with
        | metadata => rfl
        | offers =>
            exact drop_sortedEntries_insert hconsistent.offerKeys (fun _ => rfl)
              (v := { created := now, offer }) honly (hplace rfl hparent)
      · rw [if_pos hparent]
  | putMetadata metadata =>
      cases listing with
      | offers => rfl
      | metadata =>
          exact drop_sortedEntries_insert hconsistent.metadataKeys (fun _ => rfl)
            (v := { created := now, metadata }) honly (hplace rfl)
  | postOffer _ => cases honly
  | postMetadata _ => cases honly
  | deleteOffer _ _ => cases honly
  | deleteMetadata _ _ => cases honly
  | getOffer _ _ _ => rfl
  | getOffers _ _ _ => rfl
  | getMetadata _ _ => rfl
  | getAllMetadata _ _ _ => rfl

/-! ## §3. Runs of the client among others. -/

variable [Repr A]

/-- The store, the client that pages through a listing, and the calls of the others. -/
def paging (listing : Listing) (partition : String) (count : UInt64) :
    Machine (MemoryOfferStore A × Pager Uuid) (Option (DateTime × OfferCall A)) Unit :=
  pagingMachine (pageIds listing partition count) (fun self call => (machine self call).2)
    count.toNat (2 ^ 64)

/-- Every call of the others only replaces values. -/
def OthersReplace (listing : Listing) (partition : String) (count : UInt64)
    (store : MemoryOfferStore A) (inputs : List (Option (DateTime × OfferCall A))) : Prop :=
  (paging listing partition count).Along
    (fun state input => ∀ call ∈ input, OnlyReplaces state.1 call.2) (store, Pager.start) inputs

/-- Every call of the others keeps its place. -/
def OthersKeepPlace (listing : Listing) (partition : String) (count : UInt64)
    (store : MemoryOfferStore A) (inputs : List (Option (DateTime × OfferCall A))) : Prop :=
  (paging listing partition count).Along
    (fun state input => ∀ call ∈ input,
      KeepsPlace listing partition (state.2.pages * count.toNat) state.1 call.1 call.2)
    (store, Pager.start) inputs

instance (listing : Listing) (partition : String) (count : UInt64) (store : MemoryOfferStore A)
    (inputs : List (Option (DateTime × OfferCall A))) :
    Decidable (OthersReplace listing partition count store inputs) :=
  inferInstanceAs (Decidable ((paging listing partition count).Along _ _ _))

instance [DecidableEq A] (listing : Listing) (partition : String) (count : UInt64)
    (store : MemoryOfferStore A) (inputs : List (Option (DateTime × OfferCall A))) :
    Decidable (OthersKeepPlace listing partition count store inputs) :=
  inferInstanceAs (Decidable ((paging listing partition count).Along _ _ _))

/-- The client has read the pages it asked for of the listing at the start; when it is done
it has the listing; and asking often enough makes it done. -/
structure ReceivesListing (initial : List Uuid) (count : UInt64) (requests : ℕ)
    (client : Pager Uuid) : Prop where
  pages : client.received = initial.take (client.pages * count.toNat)
  complete : client.done = true → client.received = initial
  done : initial.length < 2 ^ 64 → initial.length < requests * count.toNat → client.done = true

/-- **Paging through the memory store**: from every reachable store, in every run whose puts
keep their places, the client receives the listing as it was at the start. -/
theorem paging_receives_listing (listing : Listing) (partition : String) (count : UInt64)
    (calls : List (DateTime × OfferCall A)) (inputs : List (Option (DateTime × OfferCall A)))
    (hreplace : OthersReplace listing partition count (machine.run new calls).2 inputs)
    (hplace : OthersKeepPlace listing partition count (machine.run new calls).2 inputs) :
    ReceivesListing (listingIds listing partition (machine.run (new : MemoryOfferStore A) calls).2)
      count (inputs.countP Option.isNone)
      ((paging listing partition count).run ((machine.run new calls).2, Pager.start) inputs).2.2 := by
  have hboth := hreplace.and hplace
  generalize hstore : (machine.run (new : MemoryOfferStore A) calls).2 = store at hboth ⊢
  have hconsistent : Consistent store := hstore ▸ consistent_run calls
  have hkeep := Machine.Along.of_invariant
    (fun state : MemoryOfferStore A × Pager Uuid => Consistent state.1)
    (Q := fun state input => ∀ call ∈ input,
      (listingIds listing partition (machine state.1 call).2).drop (state.2.pages * count.toNat)
        = (listingIds listing partition state.1).drop (state.2.pages * count.toNat))
    (by
      rintro ⟨self, client⟩ input h -
      cases input with
      | none => exact h
      | some call => exact h.step call.1 call.2)
    (by
      rintro ⟨self, client⟩ input h hinput call hcall
      exact step_drop_listingIds h (hinput.1 call hcall) (hinput.2 call hcall))
    hconsistent hboth
  have hread := paging_hasRead (pageIds listing partition count)
    (fun self call => (machine self call).2) count.toNat (2 ^ 64) (listingIds listing partition)
    (fun self start hstart => pageIds_eq listing partition count self hstart) store inputs hkeep
  have hprogress := paging_progress (pageIds listing partition count)
    (fun self call => (machine self call).2) count.toNat (2 ^ 64) store Pager.start inputs
  refine ⟨hread.1, fun hdone => hread.received_of_done hdone, ?_⟩
  intro hfits hrequests
  rcases hprogress with (hdone | hlimit) | hpages
  · exact hdone
  · exact hread.2.mpr (by omega)
  · refine hread.2.mpr ?_
    rw [hpages]
    show _ < (0 + inputs.countP Option.isNone) * count.toNat
    rw [Nat.zero_add]
    exact hrequests

/-- Two offers of the default partition, the first posted first. -/
def twoTeas : List (DateTime × OfferCall String) :=
  [(1, .postMetadata { id := 7, partition := "default", metadata := tea }),
    (2, .postOffer (teaOffer 7 none)), (3, .postOffer { teaOffer 7 none with id := 2 })]

/-- The last offer of the listing is put again between the pages. -/
theorem paging_receives_listing_last_put :
    ReceivesListing (listingIds .offers "default" (machine.run new twoTeas).2) 1 3
      ((paging .offers "default" 1).run ((machine.run new twoTeas).2, Pager.start)
        [none, some (4, .putOffer { teaOffer 7 none with id := 2 }), none, none]).2.2 :=
  paging_receives_listing .offers "default" 1 twoTeas
    [none, some (4, .putOffer { teaOffer 7 none with id := 2 }), none, none]
    (by decide) (by decide)

/-- The first offer of the listing is put again after it has been read: it moves to the end,
is read a second time, and the other one is not read at all. -/
theorem moved_offer_read_twice :
    ¬ ∀ (listing : Listing) (partition : String) (count : UInt64)
        (calls : List (DateTime × OfferCall String))
        (inputs : List (Option (DateTime × OfferCall String))),
      1 ≤ count → OthersReplace listing partition count (machine.run new calls).2 inputs →
      ReceivesListing (listingIds listing partition (machine.run new calls).2) count
        (inputs.countP Option.isNone)
        ((paging listing partition count).run ((machine.run new calls).2, Pager.start)
          inputs).2.2 := by
  intro h
  have hrun := (h .offers "default" 1 twoTeas
    [none, some (4, .putOffer (teaOffer 7 none)), none, none] (by decide) (by decide)).complete
  revert hrun
  decide

end MemoryOfferStore

/-! ## §4. The database store. -/

namespace OfferDb

open MemoryOfferStore

variable {A : Type} {eng : Engine} {db : OfferDb} {partition : String}

/-- The rank of a row in the `ORDER BY` of `get_offers`. -/
def offerRowRank (row : OfferModel) : DateTime × Uuid := (row.createdAt, row.id)

/-- The rank of a row in the `ORDER BY` of `get_all_metadata`. -/
def metadataRowRank (row : MetadataModel) : DateTime × Uuid := (row.createdAt, row.id)

/-- A row put on a row keeps its creation time. -/
theorem putRow_rank (now : DateTime) (offer : OfferRecord A) {row : OfferModel}
    (hrow : db.offers[offer.key]? = some row) :
    offerRowRank (putRow eng now offer db) = offerRowRank row := by
  unfold putRow
  rw [hrow]
  rfl

theorem putOffer_keeps_listing [Repr A] (faults : Faults) (now : DateTime)
    {offer : OfferRecord A} (hkeys : OwnKeys OfferModel.key db.offers)
    (hmem : offer.key ∈ db.offers) :
    (sortedEntries offerRowRank partition (putOffer eng faults now offer db).2.offers).map
        (fun row => row.key.id)
      = (sortedEntries offerRowRank partition db.offers).map fun row => row.key.id := by
  rcases putOffer_outcome eng faults now db offer with ⟨e, herror⟩ | hput
  · rw [herror]
  · rw [hput]
    have hkey := putRow_key eng now offer hkeys
    have hunmoved : Unmoved offerRowRank OfferModel.key partition 0 db.offers offer.key
        (offerRowRank (putRow eng now offer db)) := by
      intro old hold other _ _ _
      rw [putRow_rank now offer hold]
      exact .inl Iff.rfl
    rw [← hkey] at hmem hunmoved ⊢
    exact drop_sortedEntries_insert hkeys (fun _ => rfl) hmem hunmoved

theorem putMetadata_keeps_listing (text : OfferText A) (now : DateTime)
    {metadata : OfferMetadata A} (hkeys : OwnKeys MetadataModel.key db.metadata)
    (hmem : metadata.key ∈ db.metadata) :
    (sortedEntries metadataRowRank partition
        (putMetadata eng Faults.none text now metadata db).2.metadata).map (fun row => row.key.id)
      = (sortedEntries metadataRowRank partition db.metadata).map fun row => row.key.id := by
  obtain ⟨row, hrow⟩ := Option.isSome_iff_exists.mp (ExtTreeMap.mem_iff_isSome_getElem?.mp hmem)
  have hkey : (putMetadataRow eng text now metadata db).key = metadata.key := by
    unfold putMetadataRow
    rw [hrow]
    exact hkeys metadata.key row hrow
  have hunmoved : Unmoved metadataRowRank MetadataModel.key partition 0 db.metadata metadata.key
      (metadataRowRank (putMetadataRow eng text now metadata db)) := by
    intro old hold other _ _ _
    left
    unfold putMetadataRow
    rw [hold]
    rfl
  rw [putMetadata_ok]
  rw [← hkey] at hmem hunmoved ⊢
  exact drop_sortedEntries_insert hkeys (fun _ => rfl) hmem hunmoved

end OfferDb

end Switchgear.Offer
