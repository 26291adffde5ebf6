/-
  Switchgear.Offer.Provenance — where the records of a store come from.

  The store is reached through the management service alone, by requests of anyone.
  A record is in it because a request with a valid token posted or put exactly this
  record; it has been there ever since.

  Main result:
    * `stored_records_were_authorized` — over whole runs of requests, with the
      tokens and the extractors in between.
-/
import Switchgear.Offer.Frame
import Switchgear.Offer.OverHttp
import Switchgear.Service.OfferCalls

namespace Switchgear.Offer

open Switchgear.Lib Switchgear.Service
open Std (ExtTreeMap)

namespace MemoryOfferStore

variable {A : Type} [Repr A] {store : MemoryOfferStore A} {key : OfferKey} {now : DateTime}

/-! ## §1. What one call writes. -/

theorem insert_written {V : Type} {m : ExtTreeMap OfferKey V} {written v : V} {k : OfferKey}
    (h : (m.insert k written)[key]? = some v) : m[key]? = some v ∨ k = key ∧ v = written := by
  by_cases hkey : k = key
  · subst hkey
    rw [ExtTreeMap.getElem?_insert_self] at h
    exact .inr ⟨rfl, (Option.some.inj h).symm⟩
  · rw [getElem?_insert_of_ne hkey] at h
    exact .inl h

theorem erase_written {V : Type} {m : ExtTreeMap OfferKey V} {v : V} {k : OfferKey}
    (h : (m.erase k)[key]? = some v) : m[key]? = some v := by
  by_cases hkey : k = key
  · subst hkey
    rw [ExtTreeMap.getElem?_erase_self] at h
    cases h
  · rw [getElem?_erase_of_ne hkey] at h
    exact h

/-- An offer that is new in the store is the one the call posts or puts. -/
theorem offer_written {call : OfferCall A} {entry : OfferRecordTimestamped A}
    (h : (machine store (now, call)).2.offer[key]? = some entry) :
    store.offer[key]? = some entry
      ∨ entry.key = key ∧ entry.created = now
        ∧ (call = .postOffer entry.offer ∨ call = .putOffer entry.offer) := by
  cases call with
  | getOffer partition id sparse => exact .inl h
  | getOffers partition start count => exact .inl h
  | getMetadata partition id => exact .inl h
  | getAllMetadata partition start count => exact .inl h
  | putMetadata metadata => exact .inl h
  | deleteOffer partition id => exact .inl (erase_written h)
  | postOffer offer =>
      replace h : (postOffer now offer store).2.offer[key]? = some entry := h
      unfold postOffer at h
      split at h
      · exact .inl h
      -- the reference is there; a key that is taken writes nothing
      · split at h
        · exact .inl h
        · rcases insert_written h with hbefore | ⟨hkey, rfl⟩
          · exact .inl hbefore
          · exact .inr ⟨hkey, rfl, .inl rfl⟩
  | putOffer offer =>
      replace h : (putOffer now offer store).2.offer[key]? = some entry := h
      unfold putOffer at h
      split at h
      · exact .inl h
      · rcases insert_written h with hbefore | ⟨hkey, rfl⟩
        · exact .inl hbefore
        · exact .inr ⟨hkey, rfl, .inr rfl⟩
  | postMetadata metadata =>
      replace h : (postMetadata now metadata store).2.offer[key]? = some entry := h
      unfold postMetadata at h
      split_ifs at h
      · exact .inl h
      · exact .inl h
  | deleteMetadata partition id =>
      replace h : (deleteMetadata partition id store).2.offer[key]? = some entry := h
      unfold deleteMetadata at h
      split_ifs at h
      · exact .inl h
      · exact .inl h

/-- The same of metadata. -/
theorem metadata_written {call : OfferCall A} {entry : OfferMetadataTimestamped A}
    (h : (machine store (now, call)).2.metadata[key]? = some entry) :
    store.metadata[key]? = some entry
      ∨ entry.key = key ∧ entry.created = now
        ∧ (call = .postMetadata entry.metadata ∨ call = .putMetadata entry.metadata) := by
  cases call with
  | getOffer partition id sparse => exact .inl h
  | getOffers partition start count => exact .inl h
  | getMetadata partition id => exact .inl h
  | getAllMetadata partition start count => exact .inl h
  | deleteOffer partition id => exact .inl h
  | postOffer offer =>
      replace h : (postOffer now offer store).2.metadata[key]? = some entry := h
      unfold postOffer at h
      split_ifs at h
      · exact .inl h
      · exact .inl h
      · exact .inl h
  | putOffer offer =>
      replace h : (putOffer now offer store).2.metadata[key]? = some entry := h
      unfold putOffer at h
      split_ifs at h
      · exact .inl h
      · exact .inl h
  | putMetadata metadata =>
      rcases insert_written h with hbefore | ⟨hkey, rfl⟩
      · exact .inl hbefore
      · exact .inr ⟨hkey, rfl, .inr rfl⟩
  | postMetadata metadata =>
      replace h : (postMetadata now metadata store).2.metadata[key]? = some entry := h
      unfold postMetadata at h
      split_ifs at h
      · exact .inl h
      · rcases insert_written h with hbefore | ⟨hkey, rfl⟩
        · exact .inl hbefore
        · exact .inr ⟨hkey, rfl, .inl rfl⟩
  | deleteMetadata partition id =>
      replace h : (deleteMetadata partition id store).2.metadata[key]? = some entry := h
      unfold deleteMetadata at h
      split_ifs at h
      · exact .inl h
      · exact .inl (erase_written h)

end MemoryOfferStore

/-! ## §2. Whole runs of requests. -/

section Runs

variable {A S V : Type} (jwt : JsonWebToken S V) (bearer : String → Option String)
  (authAuthority : V) (text : OfferText A) (maxPageSize : UInt64)

/-- The request has a token for the offer service that is valid when it is checked, and asks
for one of the calls. -/
def AuthorizedFor (calls : List (OfferCall A)) (input : ServiceInput) : Prop :=
  (∃ token claims, (input.request.headers.lookup "authorization").bind bearer = some token
      ∧ OfferBearerTokenValidator.validateToken jwt authAuthority input.checked token
        = some claims)
    ∧ ∃ call ∈ calls, OfferService.requestCall text maxPageSize input.request = some call

variable [Repr A]

/-- The service over a memory store, with its tokens. -/
def managedStore : Machine (MemoryOfferStore A) ServiceInput HttpResponse :=
  offerServer (offerAuthLayer jwt bearer authAuthority) text (memoryService A maxPageSize)

variable {jwt bearer authAuthority text maxPageSize}

/-- A step of the service changes nothing, or is the call of a request with a valid token. -/
theorem managedStore_step (store : MemoryOfferStore A) (input : ServiceInput) :
    (managedStore jwt bearer authAuthority text maxPageSize store input).2 = store
      ∨ ∃ call, (∀ calls, call ∈ calls →
          AuthorizedFor jwt bearer authAuthority text maxPageSize calls input)
        ∧ (managedStore jwt bearer authAuthority text maxPageSize store input).2
          = (MemoryOfferStore.machine store (input.now, call)).2 := by
  have hstep : (managedStore jwt bearer authAuthority text maxPageSize store input).2
      = (authorizedCall (offerAuthLayer jwt bearer authAuthority) text maxPageSize input).elim
          store fun call => (MemoryOfferStore.machine store call).2 :=
    offerServer_translates (offerAuthLayer jwt bearer authAuthority) text
      (memoryService A maxPageSize) store input
  unfold authorizedCall at hstep
  split_ifs at hstep with hauth
  · cases hcall : OfferService.requestCall text maxPageSize input.request with
    | none =>
        rw [hcall] at hstep
        exact .inl hstep
    | some call =>
        rw [hcall] at hstep
        unfold BearerTokenAuthLayer.authorizes at hauth
        rw [Option.any_eq_true] at hauth
        obtain ⟨token, htoken, hvalid⟩ := hauth
        obtain ⟨claims, hclaims⟩ := Option.isSome_iff_exists.mp hvalid
        right
        refine ⟨call, ?_, hstep⟩
        intro calls hmem
        exact ⟨⟨token, claims, htoken, hclaims⟩, call, hmem, hcall⟩
  · exact .inl hstep

variable (jwt bearer authAuthority text maxPageSize) in
/-- A request of the run with a valid token asked for one of the calls; the store has shown the
value ever since. -/
def CameFrom {W : Type} (inputs : List ServiceInput) (view : MemoryOfferStore A → Option W)
    (value : W) (created : DateTime) (calls : List (OfferCall A)) : Prop :=
  ∃ before input after, inputs = before ++ input :: after
    ∧ AuthorizedFor jwt bearer authAuthority text maxPageSize calls input
    ∧ created = input.now
    ∧ ∀ more, more <+: after →
        view ((managedStore jwt bearer authAuthority text maxPageSize).run MemoryOfferStore.new
          (before ++ input :: more)).2 = some value

/-- What only these calls write came from one of them. -/
theorem cameFrom_of_written {W : Type} (view : MemoryOfferStore A → Option W) (created : W → DateTime)
    (calls : W → List (OfferCall A)) (hnew : view MemoryOfferStore.new = none)
    (hwritten : ∀ store now call value,
      view (MemoryOfferStore.machine store (now, call)).2 = some value →
        view store = some value ∨ created value = now ∧ call ∈ calls value)
    (inputs : List ServiceInput) (value : W)
    (hend : view ((managedStore jwt bearer authAuthority text maxPageSize).run
      MemoryOfferStore.new inputs).2 = some value) :
    CameFrom jwt bearer authAuthority text maxPageSize inputs view value (created value)
      (calls value) := by
  have hstep : ∀ store input value,
      view (managedStore jwt bearer authAuthority text maxPageSize store input).2 = some value →
        view store = some value
          ∨ created value = input.now
            ∧ AuthorizedFor jwt bearer authAuthority text maxPageSize (calls value) input := by
    intro store input value hshown
    rcases managedStore_step store input with hkept | ⟨call, hauth, hcall⟩
    · left
      rw [← hkept]
      exact hshown
    · rw [hcall] at hshown
      rcases hwritten store input.now call value hshown with hbefore | ⟨hcreated, hmem⟩
      · exact .inl hbefore
      · exact .inr ⟨hcreated, hauth (calls value) hmem⟩
  rcases (managedStore jwt bearer authAuthority text maxPageSize).last_write view
    (fun _ input value => created value = input.now
      ∧ AuthorizedFor jwt bearer authAuthority text maxPageSize (calls value) input)
    hstep MemoryOfferStore.new inputs value hend with hnever | ⟨before, input, after, hrun, hw, hsince⟩
  · have hstart : view MemoryOfferStore.new = some value := hnever [] List.nil_prefix
    rw [hnew] at hstart
    cases hstart
  · exact ⟨before, input, after, hrun, hw.2, hw.1, hsince⟩

/-- **Every stored record was written by a request with a valid token**: over every run of
requests from an empty store, an offer that is there at the end was posted or put, as it is, by
a request of the run whose token was valid; it got its creation time then and has been there
ever since.  So with metadata; and both are under their own keys. -/
theorem stored_records_were_authorized (inputs : List ServiceInput) (k : OfferKey) :
    let final := ((managedStore jwt bearer authAuthority text maxPageSize).run
      MemoryOfferStore.new inputs).2
    (∀ entry, final.offer[k]? = some entry → entry.key = k
      ∧ CameFrom jwt bearer authAuthority text maxPageSize inputs (fun store => store.offer[k]?)
          entry entry.created [.postOffer entry.offer, .putOffer entry.offer])
    ∧ ∀ entry, final.metadata[k]? = some entry → entry.key = k
      ∧ CameFrom jwt bearer authAuthority text maxPageSize inputs
          (fun store => store.metadata[k]?) entry entry.created
          [.postMetadata entry.metadata, .putMetadata entry.metadata] := by
  have hconsistent : MemoryOfferStore.Consistent ((managedStore jwt bearer authAuthority text
      maxPageSize).run MemoryOfferStore.new inputs).2 := by
    have hcalls : ((managedStore jwt bearer authAuthority text maxPageSize).run
        MemoryOfferStore.new inputs).2 = (MemoryOfferStore.machine.run MemoryOfferStore.new
          (inputs.filterMap (authorizedCall (offerAuthLayer jwt bearer authAuthority) text
            maxPageSize))).2 :=
      Machine.run_translated (offerServer_translates (offerAuthLayer jwt bearer authAuthority) text
        (memoryService A maxPageSize)) MemoryOfferStore.new inputs
    rw [hcalls]
    exact MemoryOfferStore.consistent_run _
  intro final
  constructor
  · intro entry hentry
    refine ⟨hconsistent.offerKeys k entry hentry, ?_⟩
    apply cameFrom_of_written (fun store => store.offer[k]?) OfferRecordTimestamped.created
      (fun entry => [.postOffer entry.offer, .putOffer entry.offer])
      (ExtTreeMap.getElem?_empty) _ inputs entry hentry
    intro store now call entry hshown
    rcases MemoryOfferStore.offer_written hshown with hbefore | ⟨-, hcreated, hcall⟩
    · exact .inl hbefore
    · right
      refine ⟨hcreated, ?_⟩
      rcases hcall with rfl | rfl <;> simp
  · intro entry hentry
    refine ⟨hconsistent.metadataKeys k entry hentry, ?_⟩
    apply cameFrom_of_written (fun store => store.metadata[k]?) OfferMetadataTimestamped.created
      (fun entry => [.postMetadata entry.metadata, .putMetadata entry.metadata])
      (ExtTreeMap.getElem?_empty) _ inputs entry hentry
    intro store now call entry hshown
    rcases MemoryOfferStore.metadata_written hshown with hbefore | ⟨-, hcreated, hcall⟩
    · exact .inl hbefore
    · right
      refine ⟨hcreated, ?_⟩
      rcases hcall with rfl | rfl <;> simp

end Runs

/-- A request of the examples, with a token. -/
def withToken (token : String) (request : HttpRequest) : HttpRequest :=
  { request with headers := ("authorization", "Bearer " ++ token) :: request.headers }

/-- Post metadata and an offer; a token of the other service and an old one delete nothing. -/
def sampleInputs : List ServiceInput :=
  let metadata := HttpRequest.json .post sampleRemoteClient.metadataUrl
    (plainText.metadataCodec.encode sampleRemoteMetadata)
  let offer := HttpRequest.json .post sampleRemoteClient.offerUrl
    (plainText.recordCodec.encode sampleRemoteOffer)
  let delete := HttpRequest.plain .delete (sampleRemoteClient.offersPartitionIdUrl "default" 1)
  [{ checked := second, now := 1, request := withToken "offer.1000" metadata },
    { checked := second, now := 2, request := withToken "offer.1000" offer },
    { checked := second, now := 3, request := withToken "discovery.1000" delete },
    { checked := 1061 * second, now := 4, request := withToken "offer.1000" delete }]

theorem stored_records_were_authorized_sample :
    CameFrom plainTokens plainBearer () plainText 100 sampleInputs
      (fun store => store.offer[({ partition := "default", id := 1 } : OfferKey)]?)
      { created := 2, offer := sampleRemoteOffer.withoutMetadata } 2
      [.postOffer sampleRemoteOffer.withoutMetadata,
        .putOffer sampleRemoteOffer.withoutMetadata] := by
  have hentry : ((managedStore plainTokens plainBearer () plainText 100).run MemoryOfferStore.new
      sampleInputs).2.offer[({ partition := "default", id := 1 } : OfferKey)]?
      = some { created := 2, offer := sampleRemoteOffer.withoutMetadata } := by decide +kernel
  exact ((stored_records_were_authorized sampleInputs { partition := "default", id := 1 }).1 _
    hentry).2

end Switchgear.Offer
