import SiteIndex.Engine

/-!
# Building an index offline

A run fills an index from nothing with the pages of its providers. It starts all providers,
empties the index, lets one provider after the other hand over its pages, and then has the index
written out. Pages that cannot be indexed are counted; anything else that fails ends the filling.
Whatever happens, each provider that was started is shut down, the last one first.
-/

namespace SiteIndex.Precache

/-- A source of pages. -/
structure Provider (σ : Type) where
  startup : Action σ Unit
  /-- Hands over all pages. -/
  provide : Action σ Site.Report
  shutdown : Action σ Unit

/-- The index that is filled. -/
structure Target (σ : Type) where
  clear : Action σ Unit
  flush : Action σ Unit
  compact : Action σ Unit
  /-- The number of its keywords. -/
  keywords : Action σ Nat
  /-- The number of its attributes. -/
  attributes : Action σ Nat

/-- What a run has done. -/
structure Report where
  providers : Nat := 0
  files : Nat := 0
  indexed : Nat := 0
  failed : Nat := 0
  keywords : Nat := 0
  attributes : Nat := 0
  deriving DecidableEq, Repr

/-- Every page was indexed. -/
def Report.isSuccess (r : Report) : Bool := r.failed = 0

/-- The report with what a provider has handed over. -/
def Report.addProvider (r : Report) (site : Site.Report) : Report :=
  { r with
    providers := r.providers + 1
    files := r.files + site.files
    indexed := r.indexed + site.indexed
    failed := r.failed + site.faults.length }

variable {σ τ : Type}

/-- Starts providers up to the first that fails; gives those that were started, the last one
first. -/
def startAll : List (Provider σ) → List (Provider σ) → StateM σ (List (Provider σ) × Outcome Unit)
  | started, [] => return (started, .ok ())
  | started, provider :: rest => do
    match ← provider.startup.run with
    | .ok () => startAll (provider :: started) rest
    | .error failure => return (started, .error failure)

/-- Takes the pages of all providers. -/
def drain : List (Provider σ) → Report → Action σ Report
  | [], report => return report
  | provider :: rest, report => do drain rest (report.addProvider (← provider.provide))

/-- Fills the index from nothing and has it written out. -/
def refill (target : Target σ) (providers : List (Provider σ)) : Action σ Report := do
  target.clear
  let report ← drain providers {}
  target.flush
  target.compact
  return report

/-- Shuts providers down, whatever comes of it. -/
def stopAll : List (Provider σ) → StateM σ Unit
  | [] => return ()
  | provider :: rest => do
    let _ ← provider.shutdown.run
    stopAll rest

/-- Starts the providers, fills the index if all of them have started, and shuts down those that
have. -/
def fill (target : Target σ) (providers : List (Provider σ)) : Action σ Report :=
  ExceptT.mk do
    let (started, ready) ← startAll [] providers
    let outcome ←
      match ready with
      | .ok () => (refill target providers).run
      | .error failure => pure (.error failure)
    stopAll started
    return outcome

/-- Fills the index and counts what it has then. -/
def fillAndCount (target : Target σ) (providers : List (Provider σ)) : Action σ Report := do
  let report ← fill target providers
  return { report with keywords := ← target.keywords, attributes := ← target.attributes }

/-- An engine as the index that is filled. -/
def engineTarget : Target (Engine × τ) :=
  { clear := Engine.clear.onFirst
    flush := Engine.flush.onFirst
    compact := Engine.compact.onFirst
    keywords := (List.length <$> Engine.keywords : Action Engine Nat).onFirst
    attributes := (List.length <$> Engine.attributes : Action Engine Nat).onFirst }

/-- The provider of the pages of a site for an engine. -/
def Provider.ofSite (site : Site) : Provider (Engine × τ) :=
  { startup := return ()
    provide := ExceptT.mk do return .ok (← site.rebuild [Engine.indexer.onFirst] {}).1
    shutdown := return () }

/-- The configuration of a run: the store is written, and every write is made durable. -/
def configOf (config : Config) : Config := { config with readOnly := false, durable := true }

/-- Builds the index of a configuration over the entries that its file holds. Gives the outcome,
what the providers have left, and what the file holds then. -/
def run (config : Config) (stored : Store.OrderedMap Bytes)
    (providers : List (Provider (Engine × τ))) (rest : τ) :
    Outcome Report × τ × Store.OrderedMap Bytes :=
  match Engine.ofConfig (configOf config) stored with
  | .error failure => (.error failure, rest, stored)
  | .ok engine =>
    let (outcome, engine, rest) := (fillAndCount engineTarget providers).run (engine, rest)
    (outcome, rest, engine.close)

end SiteIndex.Precache
