/-
  Switchgear.ServiceApi.LnUrl — the metadata of an offer as LNURL wallets read it.

  The metadata is an array of pairs of a type and a value, written as compact
  JSON.  SHA-256 is a parameter: any function to 32 bytes.
-/
import Switchgear.ServiceApi.OfferJson

namespace Switchgear.Offer

open Switchgear.Lib

/-- `sha2::Sha256::digest`. -/
structure Sha256 where
  digest : Bytes → Bytes
  length_digest : ∀ bytes, (digest bytes).length = 32

/-- A pair of an entry type and its value. -/
def lnUrlEntry (entryType value : String) : Json := .array [.string entryType, .string value]

namespace OfferText

variable {A : Type} (text : OfferText A)

def lnUrlImageEntry : OfferMetadataImage → Json
  | .png image => lnUrlEntry "image/png;base64" (text.base64.display image)
  | .jpeg image => lnUrlEntry "image/jpeg;base64" (text.base64.display image)

def lnUrlIdentifierEntry : OfferMetadataIdentifier A → Json
  | .text identifier => lnUrlEntry "text/identifier" (text.emailAddress identifier)
  | .email identifier => lnUrlEntry "text/email" (text.emailAddress identifier)

/-- `Serialize` of `LnUrlOfferMetadata`. -/
def lnUrlOfferMetadata (metadata : OfferMetadataSparse A) : Json :=
  .array (lnUrlEntry "text/plain" metadata.text
    :: ((metadata.longText.map (lnUrlEntry "text/long-desc")).toList
      ++ (metadata.image.map text.lnUrlImageEntry).toList
      ++ (metadata.identifier.map text.lnUrlIdentifierEntry).toList))

/-- `serde_json::to_string(&lnurl_metadata)`: strings and arrays never fail to serialize. -/
def metadataJsonString (metadata : OfferMetadataSparse A) : String :=
  (text.lnUrlOfferMetadata metadata).compact

/-- The offer that a record and its metadata make. -/
def toOffer (sha256 : Sha256) (offer : OfferRecord A) (metadata : OfferMetadataSparse A) :
    Offer where
  partition := offer.partition
  id := offer.id
  maxSendable := offer.offer.maxSendable
  minSendable := offer.offer.minSendable
  metadataJsonString := text.metadataJsonString metadata
  metadataJsonHash := sha256.digest (utf8 (text.metadataJsonString metadata))
  timestamp := offer.offer.timestamp
  expires := offer.offer.expires

end OfferText

/-- The metadata of a plain text, and a function with its hash. -/
def coffee : OfferMetadataSparse String :=
  { text := "coffee", longText := none, image := none, identifier := none }

def coffeeHash : Sha256 where
  digest bytes :=
    if bytes = utf8 "[[\"text/plain\",\"coffee\"]]" then
      [112, 212, 229, 78, 93, 162, 27, 2, 145, 173, 113, 138, 221, 93, 184, 51,
       66, 105, 130, 247, 14, 213, 43, 122, 206, 230, 240, 173, 113, 212, 215, 251]
    else List.replicate 32 0
  length_digest bytes := by
    split
    · rfl
    · exact List.length_replicate

end Switchgear.Offer
