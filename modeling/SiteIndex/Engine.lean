import SiteIndex.Config
import SiteIndex.Index.Attributes
import SiteIndex.Query.Cache
import SiteIndex.Query.Projection
import SiteIndex.Search.Results
import SiteIndex.Site.Rebuild

/-!
# Engines

An engine keeps the attributes and the keywords of pages in one store and answers queries,
selections and searches over them. It is an indexer of a site: pages that a rebuild takes up are
posted to both indexes. An engine that is opened for reading only passes rebuilds over and
serves what its store holds.
-/

namespace SiteIndex

open Page (Stub)
open Query (Statement Selection MatchResult Projected)
open SiteIndex.Random (Generator)

/-- The indexes of a site with all that is kept for answering. -/
structure Engine where
  config : Config
  store : Store
  formats : Markup.Formats := .standard
  /-- The queries that were compiled last. -/
  queries : Query.Cache
  /-- Where the random choices of selections come from. -/
  generator : Generator

namespace Engine

/-- An engine over a store that is open. -/
def ofStore (config : Config) (store : Store) : Engine :=
  { config, store, queries := .ofLimit config.queryCacheSize, generator := .ofSeed 0 }

/-- Opens an engine on the entries that the file of its store holds. -/
def ofConfig (config : Config) (stored : Store.OrderedMap Bytes) : Outcome Engine := do
  return ofStore config (← config.openStore stored)

/-- What the file of the store holds after the engine is closed. -/
def close (e : Engine) : Store.OrderedMap Bytes := e.store.close.entries

/-- An action on the store. -/
def onStore {α : Type} (action : Action Store α) : Action Engine α :=
  action.within (·.store) fun store e => { e with store }

/-- The statement of a text. -/
def statement (text : String) : Action Engine Statement := .ofFunction fun e =>
  let (outcome, queries) := e.queries.statement text
  (outcome.mapError .syntaxError, { e with queries })

/-- The selection of a text. -/
def selection (text : String) : Action Engine Selection := .ofFunction fun e =>
  let (outcome, queries) := e.queries.selection text
  (outcome.mapError .syntaxError, { e with queries })

/-- The pages that a statement names, with the attributes that it reads. -/
def query (text : String) : Action Engine MatchResult := do
  onStore (Query.run .context (← statement text))

/-- Answers a selection; random choices move the generator on. -/
def select (text : String) : Action Engine Projected := do
  let s ← selection text
  .ofFunction fun e =>
    match (Query.select .context s e.generator).run e.store with
    | (.ok (projected, generator), store) => (projected, { e with store, generator })
    | (.error failure, store) => (.error failure, { e with store })

/-- Starts the random choices anew. -/
def seed (number : UInt64) : Action Engine Unit := .ofFunction fun e =>
  (.ok (), { e with generator := .ofSeed number })

/-- Answers a search. -/
def search (request : Search.Request) : Action Engine Search.Results := do
  onStore (Search.search (← Action.inspect (·.config.searchPageSize)) request)

/-- All words of the pages. -/
def keywords : Action Engine (List String) := onStore Index.Keywords.known

/-- The shasums of the pages with a word. -/
def keywordStubs (word : String) : Action Engine (List String) :=
  onStore (Index.Keywords.stubsOf word)

/-- The values of an attribute with the shasums of the pages that carry them. -/
def values (name : String) : Action Engine (List (Value × List String)) :=
  onStore (Index.Attributes.values name)

/-- All attributes of the pages. -/
def attributes : Action Engine (List String) := onStore Index.Attributes.names

/-- Posts a page under its attributes; returns under how many values. -/
def addAttributes (stub : Stub) (page : Page) : Action Engine Nat :=
  onStore (Index.Attributes.add stub page)

/-- Posts a page under its words; returns how many there are. -/
def addKeywords (stub : Stub) (page : Page) : Action Engine Nat := do
  onStore (Index.Keywords.add (← Action.inspect (·.formats)) stub page)

/-- Takes a page away from its attributes; returns from how many values. -/
def removeAttributes (stub : Stub) : Action Engine Nat := onStore (Index.Attributes.remove stub)

/-- Takes a page away from its words; returns how many there were. -/
def removeKeywords (stub : Stub) : Action Engine Nat := onStore (Index.Keywords.remove stub)

/-- Empties both indexes. -/
def clear : Action Engine Unit := do
  let _ ← onStore Index.Attributes.clear
  let _ ← onStore Index.Keywords.clear

/-- Sees to it that the driver of the store has every write. -/
def flush : Action Engine Unit := onStore Store.flush

/-- Reclaims the space of overwritten entries. -/
def compact : Action Engine Unit := onStore Store.compact

/-- Posts a page to both indexes, unless the engine is only read. -/
def add (stub : Stub) (page : Page) : Action Engine Unit := do
  if ← Action.inspect (·.config.readOnly) then return ()
  let _ ← addAttributes stub page
  let _ ← addKeywords stub page

/-- Takes a page out of both indexes, unless the engine is only read. -/
def remove (stub : Stub) : Action Engine Unit := do
  if ← Action.inspect (·.config.readOnly) then return ()
  let _ ← removeAttributes stub
  let _ ← removeKeywords stub

/-- The engine as an indexer of a site. -/
def indexer : Site.Indexer Engine := { add, remove }

end Engine

end SiteIndex
