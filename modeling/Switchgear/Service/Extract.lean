/-
  Switchgear.Service.Extract — the extractors `Scheme`, `ValidatedHost` and
  `UuidParam`.

  The `Host` extractor of `axum_extra` is a parameter: from the headers to the
  host value, or nothing.
-/
import Switchgear.ServiceApi.Http
import Switchgear.ServiceApi.Offer

namespace Switchgear.Service

open Switchgear.Lib
open Switchgear.Offer (Uuid)

/-- `HeaderMap`, with its names in lower case. -/
abbrev RequestHeaders := List (String × Bytes)

/-- `HeaderValue::to_str`: visible ASCII and tabs. -/
def headerToStr (value : Bytes) : Option String :=
  if value.all fun b => (32 ≤ b && b < 127) || b == 9 then
    some (String.ofList (value.map fun b => Char.ofNat b.toNat))
  else none

namespace Scheme

/-- `str::trim` of what `to_str` reads. -/
def trim (text : List Char) : List Char :=
  (text.dropWhile fun c => c == ' ' || c == '\t').rdropWhile fun c => c == ' ' || c == '\t'

def parseForwardedProto (forwarded : Bytes) : Option String :=
  (headerToStr forwarded).bind fun forwarded =>
    (forwarded.toList.splitOn ';').findSome? fun s =>
      let s := (trim s).map Char.toLower
      if "proto=".toList.isPrefixOf s then (s.splitOn '=').getLast?.map String.ofList else none

/-- `Scheme::from_request_parts`, with the scheme of the state. -/
def fromRequestParts (headers : RequestHeaders) (scheme : String) : String :=
  match (headers.lookup "forwarded").bind parseForwardedProto with
  | some proto => proto
  | none =>
      match (headers.lookup "x-forwarded-proto").bind headerToStr with
      | some proto => proto
      | none => scheme

end Scheme

namespace ValidatedHost

/-- `hostname.split(':').next()`. -/
def domain (hostname : String) : String :=
  String.ofList (hostname.toList.takeWhile fun c => c != ':')

/-- `ValidatedHost::from_request_parts`. -/
def fromRequestParts (extractHost : RequestHeaders → Option String)
    (allowedHosts : Finset String) (headers : RequestHeaders) : Except StatusCode String :=
  match extractHost headers with
  | none => .error StatusCode.badRequest
  | some hostname =>
      if allowedHosts ≠ ∅ ∧ domain hostname ∉ allowedHosts then .error StatusCode.badRequest
      else .ok hostname

/-- With a list of allowed hosts, a host passes IFF its domain is in the list. -/
theorem fromRequestParts_ok_iff {extractHost : RequestHeaders → Option String}
    {allowedHosts : Finset String} (hne : allowedHosts.Nonempty) {headers : RequestHeaders}
    {hostname : String} :
    fromRequestParts extractHost allowedHosts headers = .ok hostname
      ↔ extractHost headers = some hostname ∧ domain hostname ∈ allowedHosts := by
  have hne' : allowedHosts ≠ ∅ := hne.ne_empty
  unfold fromRequestParts
  cases extractHost headers with
  | none => simp
  | some host =>
      by_cases hmem : domain host ∈ allowedHosts
      · simp only [hne', hmem, ne_eq, not_false_eq_true, not_true_eq_false, and_false, if_false,
          Except.ok.injEq, Option.some.injEq]
        constructor
        · intro heq
          subst heq
          exact ⟨rfl, hmem⟩
        · intro h
          exact h.1
      · simp only [hne', hmem, ne_eq, not_false_eq_true, and_self, if_true, reduceCtorEq,
          Option.some.injEq, false_iff, not_and]
        intro heq
        subst heq
        exact hmem

end ValidatedHost

/-- `UuidParam`: the two parameters of a path. -/
structure UuidParam where
  partition : String
  id : Offer.Uuid
  deriving DecidableEq

/-- `UuidParam::from_request_parts`; `path` is nothing when a parameter is no UTF-8. -/
def UuidParam.fromRequestParts (parseUuid : String → Option Offer.Uuid)
    (path : Option (String × String)) : Except StatusCode UuidParam :=
  match path with
  | none => .error StatusCode.notFound
  | some (partition, id) =>
      match parseUuid id with
      | none => .error StatusCode.notFound
      | some id => .ok { partition, id }

/-- `Path<(String, String)>`: the two parameters decoded, or nothing when one is no UTF-8. -/
def pathParams (partition id : List Char) : Option (String × String) := do
  let partition ← UrlPath.percentDecode partition
  let id ← UrlPath.percentDecode id
  return (partition, id)

/-- `UuidParam` of a path. -/
def uuidParam (parseUuid : String → Option Offer.Uuid) (partition id : List Char) :
    Option UuidParam :=
  (UuidParam.fromRequestParts parseUuid (pathParams partition id)).toOption

theorem fromRequestParts_of_uuidParam {parseUuid : String → Option Offer.Uuid}
    {partition id : List Char} {param : UuidParam}
    (h : uuidParam parseUuid partition id = some param) :
    UuidParam.fromRequestParts parseUuid (pathParams partition id) = .ok param := by
  unfold uuidParam at h
  cases hparam : UuidParam.fromRequestParts parseUuid (pathParams partition id) with
  | error status =>
      rw [hparam] at h
      cases h
  | ok read =>
      rw [hparam] at h
      exact congrArg Except.ok (Option.some.inj h)

/-! Ids in a path. -/

theorem mem_hyphenated {id : Uuid} {c : Char} (h : c ∈ id.hyphenated.toList) :
    c = '-' ∨ ∃ n < 16, c = Nat.digitChar n := by
  unfold Uuid.hyphenated at h
  dsimp only at h
  rw [String.toList_ofList] at h
  generalize hdigits : (List.range 32).map
    (fun i => Nat.digitChar (id.toNat / 16 ^ (31 - i) % 16)) = digits at h
  have hgroup : ∀ start length : ℕ, c ∈ (digits.drop start).take length →
      ∃ n < 16, c = Nat.digitChar n := by
    intro start length hmem
    have hdigit := List.mem_of_mem_drop (List.mem_of_mem_take hmem)
    rw [← hdigits] at hdigit
    obtain ⟨i, -, rfl⟩ := List.mem_map.mp hdigit
    exact ⟨_, Nat.mod_lt _ (by decide), rfl⟩
  simp only [List.mem_append, List.mem_cons] at h
  rcases h with (((h | rfl | h) | rfl | h) | rfl | h) | rfl | h
  · exact .inr (hgroup _ _ h)
  · exact .inl rfl
  · exact .inr (hgroup _ _ h)
  · exact .inl rfl
  · exact .inr (hgroup _ _ h)
  · exact .inl rfl
  · exact .inr (hgroup _ _ h)
  · exact .inl rfl
  · exact .inr (hgroup _ _ h)

/-- An id is a plain segment. -/
theorem plainSegment_hyphenated (id : Uuid) : UrlPath.PlainSegment id.hyphenated.toList := by
  have hhyphen : '-' ∈ id.hyphenated.toList := by
    unfold Uuid.hyphenated
    dsimp only
    rw [String.toList_ofList]
    simp
  have hdigit : ∀ n < 16, UrlPath.isUnreserved (Nat.digitChar n) = true := by decide
  refine ⟨List.ne_nil_of_mem hhyphen, ?_, ?_, ?_⟩
  · intro c hc
    rcases mem_hyphenated hc with rfl | ⟨n, hn, rfl⟩
    · decide
    · exact hdigit n hn
  · intro heq
    rw [heq] at hhyphen
    revert hhyphen
    decide
  · intro heq
    rw [heq] at hhyphen
    revert hhyphen
    decide

end Switchgear.Service
