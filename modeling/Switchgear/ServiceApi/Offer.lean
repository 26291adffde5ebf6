/-
  Switchgear.ServiceApi.Offer — the records of the offer API and the traits
  `OfferStore` and `OfferMetadataStore`.

  The type `A` stands for `EmailAddress`: all the code uses of it is its texts.

  A store is a record of functions over a state `σ`; `now` is what
  `Utc::now()` reads during the call.  `OfferCall` and `OfferAnswer` put the
  ten methods into one alphabet, so that a store is a `Machine`.
-/
import Switchgear.Lib.Machine
import Switchgear.ServiceApi.Service

namespace Switchgear.Offer

open Switchgear.Lib
open Std (TransOrd LawfulEqOrd)

/-! ## §1. Offers. -/

/-- `uuid::Uuid`: 128 bits. -/
abbrev Uuid := BitVec 128

/-- `Display` of a `Uuid`: 32 lowercase hexadecimal digits, hyphens after the 8th, 12th,
16th and 20th. -/
def Uuid.hyphenated (id : Uuid) : String :=
  let digits : List Char :=
    (List.range 32).map fun i => Nat.digitChar (id.toNat / 16 ^ (31 - i) % 16)
  let group : ℕ → ℕ → List Char := fun start length => (digits.drop start).take length
  String.ofList (group 0 8 ++ '-' :: group 8 4 ++ '-' :: group 12 4 ++ '-' :: group 16 4
    ++ '-' :: group 20 12)

-- the source's `Offer` is in the module `offer`
set_option linter.dupNamespace false in
/-- `Offer`: a stored offer with its metadata rendered and hashed. -/
structure Offer where
  partition : String
  id : Uuid
  maxSendable : UInt64
  minSendable : UInt64
  metadataJsonString : String
  metadataJsonHash : Bytes
  timestamp : DateTime
  expires : Option DateTime
  deriving DecidableEq

set_option linter.dupNamespace false in
/-- `Offer::is_expired`, at a reading of the clock. -/
def Offer.isExpired (now : DateTime) (self : Offer) : Bool :=
  if now < self.timestamp then true
  else
    match self.expires with
    | some expires => decide (expires < now)
    | none => false

/-! ## §2. Records. -/

inductive OfferMetadataImage where
  | png (bytes : Bytes)
  | jpeg (bytes : Bytes)
  deriving Repr, DecidableEq

inductive OfferMetadataIdentifier (A : Type) where
  | text (address : A)
  | email (address : A)
  deriving Repr, DecidableEq

structure OfferMetadataSparse (A : Type) where
  text : String
  longText : Option String
  image : Option OfferMetadataImage
  identifier : Option (OfferMetadataIdentifier A)
  deriving Repr, DecidableEq

structure OfferMetadata (A : Type) where
  id : Uuid
  partition : String
  metadata : OfferMetadataSparse A
  deriving Repr, DecidableEq

structure OfferRecordSparse (A : Type) where
  maxSendable : UInt64
  minSendable : UInt64
  metadataId : Uuid
  metadata : Option (OfferMetadataSparse A)
  timestamp : DateTime
  expires : Option DateTime
  deriving Repr, DecidableEq

structure OfferRecord (A : Type) where
  partition : String
  id : Uuid
  offer : OfferRecordSparse A
  deriving Repr, DecidableEq

/-- `offer.offer.metadata = None`. -/
def OfferRecord.withoutMetadata {A : Type} (offer : OfferRecord A) : OfferRecord A :=
  { offer with offer := { offer.offer with metadata := none } }

/-- `offer.offer.metadata = Some(metadata)`. -/
def OfferRecord.withMetadata {A : Type} (offer : OfferRecord A)
    (metadata : OfferMetadataSparse A) : OfferRecord A :=
  { offer with offer := { offer.offer with metadata := some metadata } }

/-- `(partition, id)`: the key of both kinds of record. -/
structure OfferKey where
  partition : String
  id : Uuid
  deriving Repr, DecidableEq

instance : Ord OfferKey where
  compare a b := (compare a.partition b.partition).then (compare a.id b.id)

instance : TransOrd OfferKey :=
  inferInstanceAs (Std.TransCmp
    (compareLex (compareOn OfferKey.partition) (compareOn OfferKey.id)))

instance : LawfulEqOrd OfferKey where
  eq_of_compare {a b} h := by
    obtain ⟨hpartition, hid⟩ := Ordering.then_eq_eq.mp h
    cases a
    cases b
    rw [OfferKey.mk.injEq]
    exact ⟨LawfulEqOrd.eq_of_compare hpartition, LawfulEqOrd.eq_of_compare hid⟩

def OfferRecord.key {A : Type} (offer : OfferRecord A) : OfferKey :=
  { partition := offer.partition, id := offer.id }

/-- The key of the metadata the offer refers to. -/
def OfferRecord.metadataKey {A : Type} (offer : OfferRecord A) : OfferKey :=
  { partition := offer.partition, id := offer.offer.metadataId }

def OfferMetadata.key {A : Type} (metadata : OfferMetadata A) : OfferKey :=
  { partition := metadata.partition, id := metadata.id }

/-! ## §3. The store traits. -/

/-- `trait OfferStore` over a store state `σ`. -/
structure OfferStore (A σ ε : Type) where
  getOffer : (partition : String) → Uuid → (sparse : Option Bool) → σ →
    Except ε (Option (OfferRecord A)) × σ
  getOffers : (partition : String) → (start count : UInt64) → σ →
    Except ε (List (OfferRecord A)) × σ
  postOffer : DateTime → OfferRecord A → σ → Except ε (Option Uuid) × σ
  putOffer : DateTime → OfferRecord A → σ → Except ε Bool × σ
  deleteOffer : (partition : String) → Uuid → σ → Except ε Bool × σ

/-- `trait OfferMetadataStore` over a store state `σ`. -/
structure OfferMetadataStore (A σ ε : Type) where
  getMetadata : (partition : String) → Uuid → σ → Except ε (Option (OfferMetadata A)) × σ
  getAllMetadata : (partition : String) → (start count : UInt64) → σ →
    Except ε (List (OfferMetadata A)) × σ
  postMetadata : DateTime → OfferMetadata A → σ → Except ε (Option Uuid) × σ
  putMetadata : DateTime → OfferMetadata A → σ → Except ε Bool × σ
  deleteMetadata : (partition : String) → Uuid → σ → Except ε Bool × σ

/-- One call of the two traits. -/
inductive OfferCall (A : Type) where
  | getOffer (partition : String) (id : Uuid) (sparse : Option Bool)
  | getOffers (partition : String) (start count : UInt64)
  | postOffer (offer : OfferRecord A)
  | putOffer (offer : OfferRecord A)
  | deleteOffer (partition : String) (id : Uuid)
  | getMetadata (partition : String) (id : Uuid)
  | getAllMetadata (partition : String) (start count : UInt64)
  | postMetadata (metadata : OfferMetadata A)
  | putMetadata (metadata : OfferMetadata A)
  | deleteMetadata (partition : String) (id : Uuid)
  deriving DecidableEq

/-- What a call answers when it does not fail. -/
inductive OfferAnswer (A : Type) where
  | offer (offer : Option (OfferRecord A))
  | offers (offers : List (OfferRecord A))
  | metadata (metadata : Option (OfferMetadata A))
  | allMetadata (metadata : List (OfferMetadata A))
  | posted (id : Option Uuid)
  | flag (value : Bool)
  deriving DecidableEq

/-- The partition a call is addressed to. -/
def OfferCall.partition {A : Type} : OfferCall A → String
  | .getOffer partition _ _ => partition
  | .getOffers partition _ _ => partition
  | .postOffer offer => offer.partition
  | .putOffer offer => offer.partition
  | .deleteOffer partition _ => partition
  | .getMetadata partition _ => partition
  | .getAllMetadata partition _ _ => partition
  | .postMetadata metadata => metadata.partition
  | .putMetadata metadata => metadata.partition
  | .deleteMetadata partition _ => partition

/-- Two stores over one state as a machine: each input is a clock reading and a call. -/
def offerMachine {A σ ε : Type} (S : OfferStore A σ ε) (M : OfferMetadataStore A σ ε) :
    Machine σ (DateTime × OfferCall A) (Except ε (OfferAnswer A)) :=
  fun s (now, call) =>
    match call with
    | .getOffer partition id sparse =>
        let (r, s') := S.getOffer partition id sparse s; (r.map .offer, s')
    | .getOffers partition start count =>
        let (r, s') := S.getOffers partition start count s; (r.map .offers, s')
    | .postOffer offer => let (r, s') := S.postOffer now offer s; (r.map .posted, s')
    | .putOffer offer => let (r, s') := S.putOffer now offer s; (r.map .flag, s')
    | .deleteOffer partition id =>
        let (r, s') := S.deleteOffer partition id s; (r.map .flag, s')
    | .getMetadata partition id =>
        let (r, s') := M.getMetadata partition id s; (r.map .metadata, s')
    | .getAllMetadata partition start count =>
        let (r, s') := M.getAllMetadata partition start count s; (r.map .allMetadata, s')
    | .postMetadata metadata =>
        let (r, s') := M.postMetadata now metadata s; (r.map .posted, s')
    | .putMetadata metadata => let (r, s') := M.putMetadata now metadata s; (r.map .flag, s')
    | .deleteMetadata partition id =>
        let (r, s') := M.deleteMetadata partition id s; (r.map .flag, s')

end Switchgear.Offer
