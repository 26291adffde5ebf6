/-
  Switchgear.Service.PostAnswers — what the answer to a post tells of the store.

  Both post handlers call the store first and build the `Location` header from the
  partition afterwards.  The header is refused where the partition has a control
  character other than a tab; then the answer is an error whatever the store did.

  Main result:
    * `posts_answer_tells_iff` — the answer tells what the store did, IFF the store
      refuses the record or the partition is a header text.
-/
import Switchgear.Offer.Db
import Switchgear.Service.OfferHandlers

namespace Switchgear.Service

open Switchgear.Lib
open Switchgear.Offer
open Std (ExtTreeMap)

/-! ## §1. What a store does, and what an answer tells. -/

section Definitions

variable {A σ ε ρ : Type}

/-- What the post of a store does: a record it accepts is stored, and the store is another one
then; any other is not, and the store is left alone. -/
structure PostContract (post : DateTime → ρ → σ → Except ε (Option Uuid) × σ)
    (accepts : ρ → σ → Prop) (holds : ρ → σ → Prop) : Prop where
  inserted : ∀ now record state, accepts record state →
    (∃ id, (post now record state).1 = .ok (some id))
      ∧ holds record (post now record state).2 ∧ (post now record state).2 ≠ state
  refused : ∀ now record state, ¬ accepts record state →
    (∀ id, (post now record state).1 ≠ .ok (some id)) ∧ (post now record state).2 = state

/-- A status that says the request failed. -/
def isErrorStatus (status : StatusCode) : Prop := 400 ≤ status

/-- After an error the store is as it was, and what was created is there. -/
structure AnswerTells (state : σ) (stored : σ → Prop) (outcome : HttpResponse × σ) : Prop where
  error : isErrorStatus outcome.1.status → outcome.2 = state
  created : outcome.1.status = StatusCode.created → stored outcome.2

/-- A text without control characters, tabs apart. -/
def HeaderText (text : String) : Prop := ∀ c ∈ text.toList, isHeaderChar c = true

instance (text : String) : Decidable (HeaderText text) :=
  inferInstanceAs (Decidable (∀ c ∈ text.toList, isHeaderChar c = true))

end Definitions

/-! ## §2. The answer of a post handler. -/

section Posted

variable {σ ε ρ : Type} [HasServiceErrorSource ε] {state : σ} {stored : σ → Prop}
  {location : String}

theorem isErrorStatus_toHttpStatus (source : ServiceErrorSource) :
    isErrorStatus source.toHttpStatus ∧ source.toHttpStatus ≠ StatusCode.created := by
  unfold isErrorStatus
  cases source <;> decide

/-- A store that is left alone is told by any answer but "created". -/
theorem answerTells_of_refused {outcome : Except ε (Option Uuid) × σ}
    (hnone : ∀ id, outcome.1 ≠ .ok (some id)) (hstate : outcome.2 = state) :
    AnswerTells state stored
      (OfferService.answer OfferService.noBody (respond (postedResponse location) outcome)) := by
  obtain ⟨result, state'⟩ := outcome
  cases result with
  | error e =>
      refine ⟨fun _ => hstate, ?_⟩
      intro hcreated
      exact absurd hcreated (isErrorStatus_toHttpStatus _).2
  | ok posted =>
      cases posted with
      | some id => exact absurd rfl (hnone id)
      | none =>
          refine ⟨fun _ => hstate, ?_⟩
          unfold OfferService.answer respond postedResponse
          by_cases hlocation : HeaderText location
          · rw [headerValue_ok hlocation]
            intro hcreated
            cases hcreated
          · rw [headerValue_error hlocation]
            intro hcreated
            cases hcreated

/-- A store that took the record is told IFF the location is a header value. -/
theorem answerTells_of_inserted {outcome : Except ε (Option Uuid) × σ}
    (hsome : ∃ id, outcome.1 = .ok (some id)) (hstored : stored outcome.2)
    (hstate : outcome.2 ≠ state) :
    AnswerTells state stored
        (OfferService.answer OfferService.noBody (respond (postedResponse location) outcome))
      ↔ HeaderText location := by
  obtain ⟨result, state'⟩ := outcome
  obtain ⟨id, hid⟩ := hsome
  obtain rfl : result = .ok (some id) := hid
  unfold OfferService.answer respond postedResponse
  by_cases hlocation : HeaderText location
  · rw [headerValue_ok hlocation]
    refine iff_of_true ⟨?_, fun _ => hstored⟩ hlocation
    intro herror
    have hnot : ¬ 400 ≤ StatusCode.created := by decide
    exact absurd herror hnot
  · rw [headerValue_error hlocation]
    -- the record is stored, and the answer is an internal error
    refine iff_of_false ?_ hlocation
    intro htells
    have herror : 400 ≤ StatusCode.internalServerError := by decide
    exact hstate (htells.error herror)

/-- The answer to a post tells what the store did IFF the store refuses the record or its
location is a header value. -/
theorem answerTells_iff {post : DateTime → ρ → σ → Except ε (Option Uuid) × σ}
    {accepts holds : ρ → σ → Prop} (hpost : PostContract post accepts holds) (now : DateTime)
    (record : ρ) :
    AnswerTells state (holds record)
        (OfferService.answer OfferService.noBody
          (respond (postedResponse location) (post now record state)))
      ↔ (accepts record state → HeaderText location) := by
  by_cases haccepts : accepts record state
  · obtain ⟨hsome, hstored, hstate⟩ := hpost.inserted now record state haccepts
    rw [answerTells_of_inserted hsome hstored hstate]
    exact ⟨fun h _ => h, fun h => h haccepts⟩
  · obtain ⟨hnone, hstate⟩ := hpost.refused now record state haccepts
    exact iff_of_true (answerTells_of_refused hnone hstate) fun h => absurd h haccepts

end Posted

/-! ## §3. The memory store. -/

section Memory

variable {A : Type} [Repr A]

/-- The memory store takes an offer with a new key whose metadata is there. -/
def memoryAcceptsOffer (offer : OfferRecord A) (state : MemoryOfferStore A) : Prop :=
  offer.metadataKey ∈ state.metadata ∧ offer.key ∉ state.offer

def memoryHoldsOffer (offer : OfferRecord A) (state : MemoryOfferStore A) : Prop :=
  state.offer[offer.key]?.map OfferRecordTimestamped.offer = some offer

def memoryAcceptsMetadata (metadata : OfferMetadata A) (state : MemoryOfferStore A) : Prop :=
  metadata.key ∉ state.metadata

def memoryHoldsMetadata (metadata : OfferMetadata A) (state : MemoryOfferStore A) : Prop :=
  state.metadata[metadata.key]?.map OfferMetadataTimestamped.metadata = some metadata

/-- Inserting a new key gives another map. -/
theorem insert_ne_of_not_mem {V : Type} {m : ExtTreeMap OfferKey V} {key : OfferKey}
    (h : key ∉ m) (value : V) : m.insert key value ≠ m := by
  intro heq
  apply h
  rw [← heq]
  exact ExtTreeMap.mem_insert_self

theorem memory_postOffer_contract :
    PostContract (MemoryOfferStore.postOffer (A := A)) memoryAcceptsOffer memoryHoldsOffer where
  inserted now offer state h := by
    have hpost : MemoryOfferStore.postOffer now offer state
        = (.ok (some offer.id),
            { state with offer := state.offer.insert offer.key { created := now, offer } }) :=
      (if_neg (not_not.mpr h.1)).trans (if_neg h.2)
    rw [hpost]
    refine ⟨⟨offer.id, rfl⟩, ?_, ?_⟩
    · unfold memoryHoldsOffer
      dsimp only
      rw [ExtTreeMap.getElem?_insert_self]
      rfl
    · intro heq
      exact insert_ne_of_not_mem h.2 _ (congrArg MemoryOfferStore.offer heq)
  refused now offer state h := by
    unfold MemoryOfferStore.postOffer
    by_cases hmetadata : offer.metadataKey ∈ state.metadata
    · rw [if_neg (not_not.mpr hmetadata)]
      have hkey : offer.key ∈ state.offer := by
        by_contra hkey
        exact h ⟨hmetadata, hkey⟩
      rw [if_pos hkey]
      exact ⟨by simp, rfl⟩
    · rw [if_pos hmetadata]
      exact ⟨by simp, rfl⟩

omit [Repr A] in
theorem memory_postMetadata_contract :
    PostContract (MemoryOfferStore.postMetadata (A := A)) memoryAcceptsMetadata
      memoryHoldsMetadata where
  inserted now metadata state h := by
    have hpost : MemoryOfferStore.postMetadata now metadata state
        = (.ok (some metadata.id),
            { state with
              metadata := state.metadata.insert metadata.key { created := now, metadata } }) :=
      if_neg h
    rw [hpost]
    refine ⟨⟨metadata.id, rfl⟩, ?_, ?_⟩
    · unfold memoryHoldsMetadata
      dsimp only
      rw [ExtTreeMap.getElem?_insert_self]
      rfl
    · intro heq
      exact insert_ne_of_not_mem h _ (congrArg MemoryOfferStore.metadata heq)
  refused now metadata state h := by
    have hkey : metadata.key ∈ state.metadata := not_not.mp h
    unfold MemoryOfferStore.postMetadata
    rw [if_pos hkey]
    exact ⟨by simp, rfl⟩

end Memory

/-! ## §4. The database store. -/

section Database

variable {A : Type} [Repr A] (eng : Engine) (faults : Faults) (text : OfferText A)

/-- The insert of the offer runs, and no constraint forbids it. -/
def dbAcceptsOffer (offer : OfferRecord A) (db : OfferDb) : Prop :=
  faults.statement = none ∧ offer.key ∉ db.offers ∧ offer.metadataKey ∈ db.metadata

/-- The row of the offer is there, as an insert writes it. -/
def dbHoldsOffer (offer : OfferRecord A) (db : OfferDb) : Prop :=
  ∃ now, db.offers[offer.key]? = some (OfferDb.storedOffer eng (OfferDb.offerActiveModel now offer))

def dbAcceptsMetadata (metadata : OfferMetadata A) (db : OfferDb) : Prop :=
  faults.statement = none ∧ metadata.key ∉ db.metadata

def dbHoldsMetadata (metadata : OfferMetadata A) (db : OfferDb) : Prop :=
  ∃ now, db.metadata[metadata.key]?
    = some (OfferDb.storedMetadata eng (OfferDb.metadataActiveModel text now metadata))

/-- Only the fault of its one statement matters to a post. -/
theorem postOffer_eq_none {faults : Faults} (hstatement : faults.statement = none)
    (now : DateTime) (offer : OfferRecord A) (db : OfferDb) :
    OfferDb.postOffer eng faults now offer db = OfferDb.postOffer eng Faults.none now offer db := by
  unfold OfferDb.postOffer
  rw [hstatement]
  rfl

omit [Repr A] in
theorem postMetadata_eq_none {faults : Faults} (hstatement : faults.statement = none)
    (now : DateTime) (metadata : OfferMetadata A) (db : OfferDb) :
    OfferDb.postMetadata eng faults text now metadata db
      = OfferDb.postMetadata eng Faults.none text now metadata db := by
  unfold OfferDb.postMetadata
  rw [hstatement]
  rfl

theorem db_postOffer_contract :
    PostContract (OfferDb.postOffer (A := A) eng faults) (dbAcceptsOffer faults)
      (dbHoldsOffer eng) where
  inserted now offer db h := by
    obtain ⟨hstatement, hfree, hparent⟩ := h
    rw [postOffer_eq_none eng hstatement, OfferDb.postOffer_inserted now hfree hparent]
    refine ⟨⟨offer.id, rfl⟩, ⟨now, ExtTreeMap.getElem?_insert_self⟩, ?_⟩
    intro heq
    exact insert_ne_of_not_mem hfree _ (congrArg OfferDb.offers heq)
  refused now offer db h := by
    cases hstatement : faults.statement with
    | some e =>
        unfold OfferDb.postOffer
        rw [hstatement, Statement.exec_fault]
        dsimp only
        split_ifs
        · exact ⟨by simp, rfl⟩
        · exact ⟨by simp, rfl⟩
        · exact ⟨by simp, rfl⟩
    | none =>
        rw [postOffer_eq_none eng hstatement]
        by_cases htaken : offer.key ∈ db.offers
        · rw [OfferDb.postOffer_taken now htaken]
          exact ⟨by simp, rfl⟩
        · have horphan : offer.metadataKey ∉ db.metadata := fun hparent =>
            h ⟨hstatement, htaken, hparent⟩
          rw [OfferDb.postOffer_orphan now htaken horphan]
          exact ⟨by simp, rfl⟩

omit [Repr A] in
theorem db_postMetadata_contract :
    PostContract (OfferDb.postMetadata eng faults text) (dbAcceptsMetadata faults)
      (dbHoldsMetadata eng text) where
  inserted now metadata db h := by
    obtain ⟨hstatement, hfree⟩ := h
    rw [postMetadata_eq_none eng text hstatement, OfferDb.postMetadata_inserted text now hfree]
    refine ⟨⟨metadata.id, rfl⟩, ⟨now, ExtTreeMap.getElem?_insert_self⟩, ?_⟩
    intro heq
    exact insert_ne_of_not_mem hfree _ (congrArg OfferDb.metadata heq)
  refused now metadata db h := by
    cases hstatement : faults.statement with
    | some e =>
        unfold OfferDb.postMetadata
        rw [hstatement, Statement.exec_fault]
        dsimp only
        split_ifs
        · exact ⟨by simp, rfl⟩
        · exact ⟨by simp, rfl⟩
    | none =>
        rw [postMetadata_eq_none eng text hstatement]
        have htaken : metadata.key ∈ db.metadata := by
          by_contra hfree
          exact h ⟨hstatement, hfree⟩
        rw [OfferDb.postMetadata_taken text now htaken]
        exact ⟨by simp, rfl⟩

end Database

/-! ## §5. The posts of the service. -/

section Main

variable {A σ ε : Type} [HasServiceErrorSource ε]

variable {text : OfferText A} {service : OfferState A σ ε} {request : HttpRequest}

/-- The response to a post of an offer the extractor accepts. -/
theorem servePostOffer_eq (hpost : request.method = .post) {offer : OfferRecord A}
    (hextract : extractJson text.recordCodec.decode request.body = .ok offer) (now : DateTime)
    (state : σ) :
    OfferService.servePostOffer text service now request state
      = OfferService.answer OfferService.noBody
          (respond (postedResponse (OfferHandlers.location offer.partition offer.id))
            (service.offerStore.postOffer now offer.withoutMetadata state)) := by
  unfold OfferService.servePostOffer withJson
  rw [hpost, hextract]
  rfl

theorem servePostMetadata_eq (hpost : request.method = .post) {metadata : OfferMetadata A}
    (hextract : extractJson text.metadataCodec.decode request.body = .ok metadata)
    (now : DateTime) (state : σ) :
    OfferService.servePostMetadata text service now request state
      = OfferService.answer OfferService.noBody
          (respond (postedResponse (OfferHandlers.location metadata.partition metadata.id))
            (service.metadataStore.postMetadata now metadata state)) := by
  unfold OfferService.servePostMetadata withJson
  rw [hpost, hextract]
  rfl

/-- **The answer to a post tells what the store did IFF the store refuses the record or the
partition is a header text**, for every record the extractor accepts, on both post routes. -/
theorem posts_answer_tells_iff (text : OfferText A) (service : OfferState A σ ε)
    {acceptsOffer holdsOffer : OfferRecord A → σ → Prop}
    {acceptsMetadata holdsMetadata : OfferMetadata A → σ → Prop}
    (hoffer : PostContract service.offerStore.postOffer acceptsOffer holdsOffer)
    (hmetadata : PostContract service.metadataStore.postMetadata acceptsMetadata holdsMetadata)
    (now : DateTime) (state : σ) (request : HttpRequest) (hpost : request.method = .post) :
    (∀ offer, extractJson text.recordCodec.decode request.body = .ok offer →
      (AnswerTells state (holdsOffer offer.withoutMetadata)
          (OfferService.servePostOffer text service now request state)
        ↔ (acceptsOffer offer.withoutMetadata state → HeaderText offer.partition)))
    ∧ ∀ metadata, extractJson text.metadataCodec.decode request.body = .ok metadata →
      (AnswerTells state (holdsMetadata metadata)
          (OfferService.servePostMetadata text service now request state)
        ↔ (acceptsMetadata metadata state → HeaderText metadata.partition)) := by
  constructor
  · intro offer hextract
    rw [servePostOffer_eq hpost hextract, answerTells_iff hoffer]
    exact imp_congr_right fun _ => OfferHandlers.forall_mem_location offer.partition offer.id
  · intro metadata hextract
    rw [servePostMetadata_eq hpost hextract, answerTells_iff hmetadata]
    exact imp_congr_right fun _ => OfferHandlers.forall_mem_location metadata.partition metadata.id

/-- Metadata of the examples, in a partition. -/
def sampleMetadataIn (partition : String) : OfferMetadata String where
  id := 7
  partition
  metadata := { text := "tea", longText := none, image := none, identifier := none }

/-- The post of that metadata. -/
def samplePost (partition : String) : HttpRequest :=
  .json .post { base := "https://base.com", segments := ["metadata"] }
    (plainText.metadataCodec.encode (sampleMetadataIn partition))

theorem extract_samplePost (partition : String) :
    extractJson plainText.metadataCodec.decode (samplePost partition).body
      = .ok (sampleMetadataIn partition) := by
  have hread : plainText.metadataCodec.decode
      (plainText.metadataCodec.encode (sampleMetadataIn partition))
        = some (sampleMetadataIn partition) := plainText.metadata_roundTrips _
  unfold samplePost HttpRequest.json extractJson
  dsimp only
  rw [hread]

theorem posts_answer_tells_default :
    AnswerTells MemoryOfferStore.new (memoryHoldsMetadata (sampleMetadataIn "default"))
      (OfferService.servePostMetadata plainText (memoryService String 100) 0
        (samplePost "default") MemoryOfferStore.new) := by
  have htells := (posts_answer_tells_iff plainText (memoryService String 100)
    memory_postOffer_contract memory_postMetadata_contract 0 MemoryOfferStore.new
    (samplePost "default") rfl).2 (sampleMetadataIn "default") (extract_samplePost "default")
  exact htells.mpr fun _ => List.all_eq_true.mp (by decide)

/-- A line break in the partition: the answer is an internal error and the metadata is
stored. -/
theorem line_break_hides_insert :
    ¬ AnswerTells MemoryOfferStore.new (memoryHoldsMetadata (sampleMetadataIn "a\nb"))
      (OfferService.servePostMetadata plainText (memoryService String 100) 0
        (samplePost "a\nb") MemoryOfferStore.new) := by
  rw [servePostMetadata_eq rfl (extract_samplePost "a\nb")]
  intro htells
  have hcontract := memory_postMetadata_contract (A := String)
  have hlocation := (answerTells_iff hcontract 0 (sampleMetadataIn "a\nb")).mp htells
    ExtTreeMap.not_mem_empty
  have hpartition := (OfferHandlers.forall_mem_location "a\nb" 7).mp hlocation
  exact absurd (hpartition '\n' (by decide)) (by decide)

end Main

end Switchgear.Service
