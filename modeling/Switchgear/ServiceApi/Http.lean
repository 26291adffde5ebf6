/-
  Switchgear.ServiceApi.Http — the messages a client and a service exchange.

  A URL is what it was built from: the base URL of the service, the path segments
  after it and the query.  A client parses it and sends it normalised (`sent`); a
  server reads the text that comes (`target`).  A body is its JSON value, or
  nothing where it is no JSON text.
-/
import Switchgear.Lib.Json
import Switchgear.Lib.UrlSegment
import Switchgear.ServiceApi.Service

namespace Switchgear

open Switchgear.Lib

inductive Method where
  | get
  | post
  | put
  | patch
  | delete
  deriving Repr, DecidableEq

abbrev Headers := List (String × String)

structure HttpUrl where
  base : String
  segments : List String
  query : Option String := none
  deriving Repr, DecidableEq

/-- `format!("{url}?{query}")`. -/
def HttpUrl.withQuery (url : HttpUrl) (query : String) : HttpUrl :=
  { url with query := some query }

def HttpUrl.queryText (url : HttpUrl) : String :=
  match url.query with
  | none => ""
  | some query => "?" ++ query

def HttpUrl.toText (url : HttpUrl) : String :=
  url.segments.foldl (fun text segment => text ++ "/" ++ segment) url.base ++ url.queryText

/-- The text after the base URL. -/
def HttpUrl.pathText (url : HttpUrl) : String :=
  url.segments.foldl (fun text segment => text ++ "/" ++ segment) "" ++ url.queryText

theorem HttpUrl.toList_segments (segments : List String) :
    ∀ text : String, (segments.foldl (fun text segment => text ++ "/" ++ segment) text).toList
      = text.toList ++ UrlPath.pathText (segments.map String.toList) := by
  induction segments with
  | nil => intro text; simp [UrlPath.pathText]
  | cons segment segments ih =>
      intro text
      rw [List.foldl_cons, ih]
      simp [UrlPath.pathText]

theorem HttpUrl.toList_queryText (url : HttpUrl) :
    url.queryText.toList = UrlPath.queryText (url.query.map String.toList) := by
  unfold HttpUrl.queryText
  cases url.query with
  | none => rfl
  | some query =>
      dsimp only
      rw [String.toList_append]
      rfl

theorem HttpUrl.toList_pathText (url : HttpUrl) :
    url.pathText.toList = UrlPath.pathText (url.segments.map String.toList)
      ++ UrlPath.queryText (url.query.map String.toList) := by
  unfold HttpUrl.pathText
  rw [String.toList_append, HttpUrl.toList_segments, HttpUrl.toList_queryText]
  rfl

theorem HttpUrl.toList_toText (url : HttpUrl) :
    url.toText.toList = url.base.toList ++ (UrlPath.pathText (url.segments.map String.toList)
      ++ UrlPath.queryText (url.query.map String.toList)) := by
  unfold HttpUrl.toText
  rw [String.toList_append, HttpUrl.toList_segments, HttpUrl.toList_queryText, List.append_assoc]

/-- What a server reads of the path and the query. -/
def HttpUrl.target (url : HttpUrl) : UrlPath.Target := UrlPath.Target.ofText url.pathText.toList

/-- What a client sends of a URL: it parses the text and writes it down again. -/
def HttpUrl.sent (url : HttpUrl) : HttpUrl :=
  let target := UrlPath.target url.pathText.toList
  { base := url.base
    segments := target.segments.map fun segment =>
      String.ofList (UrlPath.percentEncode UrlPath.pathSet segment)
    query := target.query.map fun query =>
      String.ofList (UrlPath.percentEncode UrlPath.querySet query) }

/-- A URL that is sent as it is. -/
structure HttpUrl.Plain (url : HttpUrl) : Prop where
  segments : ∀ segment ∈ url.segments, UrlPath.PlainSegment segment.toList
  query : ∀ query ∈ url.query, ∀ c ∈ query.toList, UrlPath.querySet c = false

namespace HttpUrl.Plain

variable {url : HttpUrl}

/-- The client's parser reads the segments and the query that were put together. -/
theorem target_pathText (h : url.Plain) :
    UrlPath.target url.pathText.toList
      = { segments := url.segments.map String.toList, query := url.query.map String.toList } := by
  rw [HttpUrl.toList_pathText]
  apply UrlPath.target_pathText
  · intro segment hsegment
    obtain ⟨text, htext, rfl⟩ := List.mem_map.mp hsegment
    exact h.segments text htext
  · intro text htext
    obtain ⟨query, hmem, rfl⟩ := Option.map_eq_some_iff.mp htext
    exact UrlPath.plainQuery_of_querySet (h.query query hmem)

theorem percentEncode_segments (h : url.Plain) :
    (url.segments.map String.toList).map (UrlPath.percentEncode UrlPath.pathSet)
      = url.segments.map String.toList := by
  refine (List.map_congr_left fun segment hsegment => ?_).trans (List.map_id _)
  obtain ⟨text, htext, rfl⟩ := List.mem_map.mp hsegment
  exact UrlPath.percentEncode_plain (h.segments text htext)

theorem percentEncode_query (h : url.Plain) :
    (url.query.map String.toList).map (UrlPath.percentEncode UrlPath.querySet)
      = url.query.map String.toList := by
  cases hquery : url.query with
  | none => rfl
  | some query => exact congrArg some (UrlPath.percentEncode_of_not_mem (h.query query hquery))

theorem sent (h : url.Plain) : url.sent = url := by
  have hsegments := congrArg (List.map String.ofList) h.percentEncode_segments
  have hquery := congrArg (Option.map String.ofList) h.percentEncode_query
  simp only [List.map_map, Function.comp_def, String.ofList_toList, List.map_id'] at hsegments
  simp only [Option.map_map, Function.comp_def, String.ofList_toList, Option.map_id'] at hquery
  unfold HttpUrl.sent
  rw [h.target_pathText]
  simp only [List.map_map, Option.map_map, Function.comp_def]
  rw [hsegments, hquery]

/-- The server reads the segments and the query that were put together. -/
theorem target (h : url.Plain) :
    url.target
      = { segments := url.segments.map String.toList, query := url.query.map String.toList } := by
  have htext : url.pathText.toList = (UrlPath.target url.pathText.toList).toText := by
    unfold UrlPath.Target.toText
    rw [h.target_pathText, h.percentEncode_segments, h.percentEncode_query,
      HttpUrl.toList_pathText]
  unfold HttpUrl.target
  rw [htext, UrlPath.ofText_toText _ fun segment hsegment =>
    UrlPath.not_slash_of_mem_target hsegment, h.target_pathText, h.percentEncode_segments,
    h.percentEncode_query]

end HttpUrl.Plain

structure HttpRequest where
  method : Method
  url : HttpUrl
  headers : Headers
  body : Option Json

/-- A request without headers or a body of its own. -/
def HttpRequest.plain (method : Method) (url : HttpUrl) : HttpRequest where
  method
  url
  headers := []
  body := none

/-- `.json(&body)`. -/
def HttpRequest.json (method : Method) (url : HttpUrl) (body : Json) : HttpRequest where
  method
  url
  headers := [("content-type", "application/json")]
  body := some body

/-- What a client sends of a request. -/
def HttpRequest.sent (request : HttpRequest) : HttpRequest :=
  { request with url := request.url.sent }

theorem HttpRequest.sent_plain {request : HttpRequest} (h : request.url.Plain) :
    request.sent = request := by
  unfold HttpRequest.sent
  rw [h.sent]

structure HttpResponse where
  status : StatusCode
  headers : Headers
  body : Option Json

/-- Sends a request to a service with state `σ`; `error` is a failed transport. -/
abbrev Transport (σ : Type) := HttpRequest → σ → Except String HttpResponse × σ

/-- The text of a `secp256k1::PublicKey` (`Display`), which `FromStr` reads back. -/
structure PublicKeyText (K : Type) where
  display : K → String
  parse : String → Option K
  parse_display : ∀ key, parse (display key) = some key

end Switchgear
