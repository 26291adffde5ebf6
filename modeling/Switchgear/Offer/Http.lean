/-
  Switchgear.Offer.Http — `HttpOfferStore`.

  The methods come in five shapes (read one, read a page, post, put, delete), each
  used for offers and for metadata with its own URL and error contexts.
-/
import Switchgear.Offer.Error
import Switchgear.ServiceApi.Http
import Switchgear.ServiceApi.OfferJson

namespace Switchgear.Offer

open Switchgear.Lib

/-- The client, with what it takes from its environment: the texts of values and of a
status. -/
structure HttpOfferStore (A : Type) where
  baseUrl : String
  text : OfferText A
  displayStatus : StatusCode → String

namespace HttpOfferStore

variable {A σ α : Type} (self : HttpOfferStore A)

/-! ## §1. URLs and errors. -/

def offerUrl : HttpUrl := { base := self.baseUrl, segments := ["offers"] }

def metadataUrl : HttpUrl := { base := self.baseUrl, segments := ["metadata"] }

def offersPartitionUrl (partition : String) : HttpUrl :=
  { self.offerUrl with segments := self.offerUrl.segments ++ [partition] }

def offersPartitionIdUrl (partition : String) (id : Uuid) : HttpUrl :=
  { self.offersPartitionUrl partition with
    segments := (self.offersPartitionUrl partition).segments ++ [id.hyphenated] }

def metadataPartitionUrl (partition : String) : HttpUrl :=
  { self.metadataUrl with segments := self.metadataUrl.segments ++ [partition] }

def metadataPartitionIdUrl (partition : String) (id : Uuid) : HttpUrl :=
  { self.metadataPartitionUrl partition with
    segments := (self.metadataPartitionUrl partition).segments ++ [id.hyphenated] }

/-- `format!("sparse={sparse}")`. -/
def sparseQuery (sparse : Bool) : String := "sparse=" ++ toString sparse

/-- `format!("start={start}&count={count}")`. -/
def pageQuery (start count : UInt64) : String :=
  "start=" ++ toString start ++ "&count=" ++ toString count

/-- The error of a status the method does not expect. -/
def generalError (status : StatusCode) (context : String) : OfferStoreError :=
  if status.isSuccess then
    .internalError .upstream context ("unexpected http status " ++ self.displayStatus status)
  else if status.isClientError then
    .invalidInputError context ("invalid input, http status: " ++ self.displayStatus status)
  else .httpStatusError .upstream context status

/-! ## §2. The five shapes. -/

variable (send : Transport σ)

/-- A read of one record: not found is no error. -/
def readOne (decode : Json → Option α) (url : HttpUrl) (getting parsing : String) (state : σ) :
    Except OfferStoreError (Option α) × σ :=
  match send (.plain .get url) state with
  | (.error e, state) => (.error (.httpError .upstream getting e), state)
  | (.ok response, state) =>
      if response.status = StatusCode.ok then
        match response.body.bind decode with
        | none =>
            (.error (.deserializationError .upstream parsing "error decoding response body"), state)
        | some value => (.ok (some value), state)
      else if response.status = StatusCode.notFound then (.ok none, state)
      else (.error (self.generalError response.status getting), state)

/-- A read of a page. -/
def readPage (decode : Json → Option (List α)) (url : HttpUrl) (getting parsing : String)
    (state : σ) : Except OfferStoreError (List α) × σ :=
  match send (.plain .get url) state with
  | (.error e, state) => (.error (.httpError .upstream getting e), state)
  | (.ok response, state) =>
      if response.status = StatusCode.ok then
        match response.body.bind decode with
        | none =>
            (.error (.deserializationError .upstream parsing "error decoding response body"), state)
        | some values => (.ok values, state)
      else (.error (self.generalError response.status getting), state)

/-- A post: the id is the one that was sent. -/
def postRecord (url : HttpUrl) (body : Json) (id : Uuid) (posting : String) (state : σ) :
    Except OfferStoreError (Option Uuid) × σ :=
  match send (.json .post url body) state with
  | (.error e, state) => (.error (.httpError .upstream posting e), state)
  | (.ok response, state) =>
      if response.status = StatusCode.created then (.ok (some id), state)
      else if response.status = StatusCode.conflict then (.ok none, state)
      else (.error (self.generalError response.status posting), state)

def putRecord (url : HttpUrl) (body : Json) (putting : String) (state : σ) :
    Except OfferStoreError Bool × σ :=
  match send (.json .put url body) state with
  | (.error e, state) => (.error (.httpError .upstream putting e), state)
  | (.ok response, state) =>
      if response.status = StatusCode.created then (.ok true, state)
      else if response.status = StatusCode.noContent then (.ok false, state)
      else (.error (self.generalError response.status putting), state)

def deleteRecord (url : HttpUrl) (deleting : String) (state : σ) :
    Except OfferStoreError Bool × σ :=
  match send (.plain .delete url) state with
  | (.error e, state) => (.error (.httpError .upstream deleting e), state)
  | (.ok response, state) =>
      if response.status = StatusCode.noContent then (.ok true, state)
      else if response.status = StatusCode.notFound then (.ok false, state)
      else (.error (self.generalError response.status deleting), state)

/-! ## §3. The ten methods. -/

def getOffer (partition : String) (id : Uuid) (sparse : Option Bool) (state : σ) :
    Except OfferStoreError (Option (OfferRecord A)) × σ :=
  let sparse := sparse.getD true
  let url := (self.offersPartitionIdUrl partition id).withQuery (sparseQuery sparse)
  self.readOne send self.text.recordCodec.decode url ("get offer " ++ url.toText)
    ("parsing offer " ++ id.hyphenated) state

def getOffers (partition : String) (start count : UInt64) (state : σ) :
    Except OfferStoreError (List (OfferRecord A)) × σ :=
  let url := (self.offersPartitionUrl partition).withQuery (pageQuery start count)
  self.readPage send self.text.recordCodec.list.decode url ("get all offers " ++ url.toText)
    ("parsing all offers for " ++ url.toText) state

def postOffer (offer : OfferRecord A) (state : σ) : Except OfferStoreError (Option Uuid) × σ :=
  self.postRecord send self.offerUrl (self.text.recordCodec.encode offer) offer.id
    ("post offer: " ++ offer.id.hyphenated ++ ", url: " ++ self.offerUrl.toText) state

def putOffer (offer : OfferRecord A) (state : σ) : Except OfferStoreError Bool × σ :=
  let url := self.offersPartitionIdUrl offer.partition offer.id
  self.putRecord send url (self.text.recordCodec.encode offer) ("put offer " ++ url.toText) state

def deleteOffer (partition : String) (id : Uuid) (state : σ) : Except OfferStoreError Bool × σ :=
  let url := self.offersPartitionIdUrl partition id
  self.deleteRecord send url ("delete offer " ++ url.toText) state

def getMetadata (partition : String) (id : Uuid) (state : σ) :
    Except OfferStoreError (Option (OfferMetadata A)) × σ :=
  let url := self.metadataPartitionIdUrl partition id
  self.readOne send self.text.metadataCodec.decode url ("get offer metadata " ++ url.toText)
    ("parse offer metadata " ++ url.toText) state

def getAllMetadata (partition : String) (start count : UInt64) (state : σ) :
    Except OfferStoreError (List (OfferMetadata A)) × σ :=
  let url := (self.metadataPartitionUrl partition).withQuery (pageQuery start count)
  self.readPage send self.text.metadataCodec.list.decode url ("get all metadata " ++ url.toText)
    ("parse all metadata " ++ url.toText) state

def postMetadata (metadata : OfferMetadata A) (state : σ) :
    Except OfferStoreError (Option Uuid) × σ :=
  self.postRecord send self.metadataUrl (self.text.metadataCodec.encode metadata) metadata.id
    ("post offer metadata " ++ metadata.id.hyphenated ++ ", url: " ++ self.metadataUrl.toText) state

def putMetadata (metadata : OfferMetadata A) (state : σ) : Except OfferStoreError Bool × σ :=
  let url := self.metadataPartitionIdUrl metadata.partition metadata.id
  self.putRecord send url (self.text.metadataCodec.encode metadata)
    ("put offer metadata " ++ url.toText) state

def deleteMetadata (partition : String) (id : Uuid) (state : σ) :
    Except OfferStoreError Bool × σ :=
  let url := self.metadataPartitionIdUrl partition id
  self.deleteRecord send url ("delete offer metadata " ++ url.toText) state

/-- `impl OfferStore for HttpOfferStore`; the service reads its clock when a request
arrives. -/
def offerStore (send : DateTime → Transport σ) : OfferStore A σ OfferStoreError where
  getOffer := self.getOffer (send 0)
  getOffers := self.getOffers (send 0)
  postOffer now := self.postOffer (send now)
  putOffer now := self.putOffer (send now)
  deleteOffer := self.deleteOffer (send 0)

/-- `impl OfferMetadataStore for HttpOfferStore`. -/
def metadataStore (send : DateTime → Transport σ) : OfferMetadataStore A σ OfferStoreError where
  getMetadata := self.getMetadata (send 0)
  getAllMetadata := self.getAllMetadata (send 0)
  postMetadata now := self.postMetadata (send now)
  putMetadata now := self.putMetadata (send now)
  deleteMetadata := self.deleteMetadata (send 0)

end HttpOfferStore

end Switchgear.Offer
