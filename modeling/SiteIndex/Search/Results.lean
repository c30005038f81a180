import SiteIndex.Index.Keywords
import SiteIndex.Query.Matching
import SiteIndex.Search.Scoring
import SiteIndex.Text.Natural

/-!
# Keyword search

The pages that qualify for a query, in one ranking: the higher score first, and the natural
order of the shasums where scores are equal. A request names the page of the ranking that it
wants to see. A hit shows the sentences of its description that hold a word of the query.
-/

namespace SiteIndex.Search

open Index (Summary)
open Posting (Tables.shasum)

/-- What to search for. -/
structure Request where
  /-- The language of the hits; all of them if there is none or it is empty. -/
  locale : Option String := none
  query : String
  /-- How many hits a page has; zero for the number that is configured. -/
  size : Nat := 0
  /-- The page, counted from zero. -/
  page : Nat := 0

/-- A page with its score, before pages are cut. -/
structure Ranked where
  shasum : String
  score : Binary64
  summary : Summary

/-- A page of a site that was found. -/
structure Hit where
  shasum : String
  score : Binary64
  /-- The rank among all hits, counted from one. -/
  number : Nat
  summary : Summary
  fragments : List String

/-- A page of the ranking. -/
structure Results where
  hits : List Hit
  /-- The number of hits on all pages. -/
  total : Nat
  maxScore : Binary64

/-- The numbers of a request do not go beyond sixty-four bits. -/
def largest : Nat := 0xFFFFFFFFFFFFFFFF

/-- A character that ends a sentence. -/
def endsSentence (c : Char) : Bool := c = '.' || c = '!' || c = '?'

/-- Cuts a text after every character that ends a sentence. -/
def sentences : List Char → List (List Char)
  | [] => []
  | c :: cs =>
    if endsSentence c then [c] :: sentences cs
    else Text.pushChunk c (sentences cs)

/-- The sentences of a text that hold one of the words. -/
def fragments (words : List String) (text : String) : List String :=
  (((sentences text.toList).map fun s => String.ofList (Text.trimChars s)).filter (· ≠ "")).filter
    fun s => (uniqueTerms s).any words.contains

/-- The words of a query that a hit may hold. -/
def positiveWords (terms : List QueryTerm) : List String :=
  (terms.filter (·.occurrence ≠ .mustNot)).map (·.text)

/-- The page is in the language that is asked for. -/
def matchesLocale (locale : Option String) (language : String) : Bool :=
  match locale with
  | none | some "" => true
  | some locale => Text.lowerAscii language = Text.lowerAscii locale

/-- The scored pages with their summaries. -/
def describe : List Scored → Action Store (List Ranked)
  | [] => return []
  | scored :: rest => do
    let shasum ← Tables.shasum .keyword scored.index
    let summary := (← Index.Keywords.summary? shasum).getD .blank
    let others ← describe rest
    return { shasum, score := scored.score, summary } :: others

/-- One page comes before another in the ranking, or they are level. -/
def ranksBefore (a b : Ranked) : Bool :=
  ((b.score.compareTotal a.score).then (Text.Natural.compareText a.shasum b.shasum)).isLE

/-- The ranking. -/
def rank (found : List Ranked) : List Ranked := found.mergeSort ranksBefore

/-- The pages of a language in their ranking. -/
def ranking (locale : Option String) (terms : List QueryTerm) : Action Store (List Ranked) := do
  let found ← describe (← score .keyword terms)
  return rank (found.filter fun r => matchesLocale locale r.summary.language)

/-- The size of the pages of the ranking. -/
def pageSize (defaultSize : Nat) (r : Request) : Nat :=
  if r.size = 0 then max defaultSize 1 else r.size

/-- A page of a ranking. -/
def Results.ofRanking (defaultSize : Nat) (r : Request) (words : List String)
    (ranked : List Ranked) : Results :=
  let size := pageSize defaultSize r
  let offset := min (r.page * size) largest
  { hits := (window ranked offset (some size)).zipIdx.map fun (x, i) =>
      { shasum := x.shasum, score := x.score, number := offset + i + 1, summary := x.summary,
        fragments := fragments words x.summary.description }
    total := ranked.length
    maxScore := (ranked.head?.map (·.score)).getD .zero }

/-- Answers a request. -/
def search (defaultSize : Nat) (r : Request) : Action Store Results := do
  let terms := queryTerms r.query
  return .ofRanking defaultSize r (positiveWords terms) (← ranking r.locale terms)

/-- A hit as plain JSON. -/
def Hit.toJson (h : Hit) : Json :=
  .object [("id", .text h.shasum), ("url", .text h.summary.url), ("score", .float h.score),
    ("hitNumber", .int h.number),
    ("fields", .object [("url", .text h.summary.url), ("title", .text h.summary.title),
      ("description", .text h.summary.description)]),
    ("fragments", .array (h.fragments.map .text))]

/-- The results as plain JSON. The index is one part, which has answered. -/
def Results.toJson (r : Results) : Json :=
  .object [
    ("status", .object [("total", .int 1), ("failed", .int 0), ("successful", .int 1)]),
    ("hits", .array (r.hits.map Hit.toJson)),
    ("total", .int r.total),
    ("maxScore", .float r.maxScore)]

end SiteIndex.Search
