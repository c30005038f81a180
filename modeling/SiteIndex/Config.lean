import SiteIndex.Failure
import SiteIndex.Json
import SiteIndex.Store.Basic
import SiteIndex.Toml.Reader

/-!
# Configuration

The settings of an engine. They are read from TOML or JSON; settings that are not there have
their defaults, and others that are not known are passed over. `Config.validate` says whether an
engine can be opened with them, and `Config.openStore` opens its store.
-/

namespace SiteIndex

open Store (BackendKind)

/-- The settings of an engine. -/
structure Config where
  backend : BackendKind := .memory
  /-- The file of a backend that keeps one. -/
  storagePath : Option String := none
  /-- How many compiled statements and how many selections are kept. -/
  queryCacheSize : Nat := 256
  /-- How many compiled patterns are kept. -/
  patternCacheSize : Nat := 256
  /-- How many writes wait before they go to the driver together. -/
  batchSize : Nat := 1000
  /-- How many writes go to the driver between compactions; none if zero. -/
  compactEvery : Nat := 10000
  readOnly : Bool := false
  /-- Every write is on the disk when it returns. -/
  durable : Bool := false
  defaultLanguage : String := "en"
  /-- How many hits a page of search results has. -/
  searchPageSize : Nat := 10
  deriving DecidableEq, Repr

/-- The value of a setting, whatever format it is written in. -/
inductive Setting where
  | text (content : String)
  | int (number : Int)
  | bool (truth : Bool)
  | null
  /-- The name of one of several choices over an empty value. -/
  | choice (name : String)
  | other
  deriving DecidableEq, Repr

namespace Setting

/-- The setting of a TOML value. -/
def ofToml : Toml → Setting
  | .text s => .text s
  | .int n => .int n.toInt
  | .bool b => .bool b
  | .table [(name, .table [])] => .choice name
  | .table [(name, .array [])] => .choice name
  | _ => .other

/-- The setting of a JSON value. -/
def ofJson : Json → Setting
  | .text s => .text s
  | .int n => .int n
  | .bool b => .bool b
  | .null => .null
  | .object [(name, .null)] => .choice name
  | _ => .other

/-- A natural number of sixty-four bits. -/
def asSize? : Setting → Option Nat
  | .int n => if 0 ≤ n ∧ n < 0x10000000000000000 then some n.toNat else none
  | _ => none

/-- A boolean. -/
def asBool? : Setting → Option Bool
  | .bool b => some b
  | _ => none

/-- A text. -/
def asText? : Setting → Option String
  | .text s => some s
  | _ => none

/-- A text, or null for none. -/
def asOptionalText? : Setting → Option (Option String)
  | .text s => some (some s)
  | .null => some none
  | _ => none

/-- A backend by its name. -/
def asBackend? : Setting → Option BackendKind
  | .text name | .choice name => [.memory, .redb, .sqlite].find? (·.name = name)
  | _ => none

end Setting

namespace Config

/-- The value of a setting, or its default if it is not there. A setting that is there must be
of the right kind. -/
def setting {α : Type} (find : String → Option Setting) (name : String)
    (read : Setting → Option α) (default : α) : Option α :=
  match find name with
  | none => some default
  | some s => read s

/-- The configuration of settings by their names. -/
def ofSettings? (find : String → Option Setting) : Option Config := do
  let default : Config := {}
  return {
    backend := ← setting find "backend" Setting.asBackend? default.backend
    storagePath := ← setting find "storage_path" Setting.asOptionalText? default.storagePath
    queryCacheSize := ← setting find "query_cache_size" Setting.asSize? default.queryCacheSize
    patternCacheSize := ← setting find "regex_cache_size" Setting.asSize? default.patternCacheSize
    batchSize := ← setting find "batch_size" Setting.asSize? default.batchSize
    compactEvery := ← setting find "compact_every" Setting.asSize? default.compactEvery
    readOnly := ← setting find "read_only" Setting.asBool? default.readOnly
    durable := ← setting find "durable" Setting.asBool? default.durable
    defaultLanguage := ← setting find "default_language" Setting.asText? default.defaultLanguage
    searchPageSize := ← setting find "search_page_size" Setting.asSize? default.searchPageSize }

/-- The configuration that a TOML text describes. -/
def ofToml (text : String) : Outcome Config :=
  match Toml.read? text.toList with
  | none => .error .invalidConfig
  | some fields =>
    match ofSettings? fun name => (fields.lookup name).map Setting.ofToml with
    | some config => .ok config
    | none => .error .invalidConfig

/-- The configuration that a JSON object describes. -/
def ofJson : Json → Outcome Config
  | .object fields =>
    match ofSettings? fun name => (fields.lookup name).map Setting.ofJson with
    | some config => .ok config
    | none => .error .invalidJson
  | _ => .error .invalidJson

/-- The configuration that serves a finished index: a file is only read. -/
def serving (backend : BackendKind) (path : String) : Config :=
  { backend, storagePath := some path, readOnly := backend.isFileBacked }

/-- What would keep an engine from being opened. -/
def validate (c : Config) : Outcome Unit :=
  if c.backend.isFileBacked && c.storagePath.isNone then
    .error (.missingStoragePath c.backend.name)
  else if c.queryCacheSize = 0 ∨ c.patternCacheSize = 0 then .error .zeroCacheSize
  else if c.batchSize = 0 then .error .zeroBatchSize
  else .ok ()

/-- Opens the store, on the entries that its file holds. Writes to a file are buffered. -/
def openStore (c : Config) (stored : Store.OrderedMap Bytes) : Outcome Store := do
  c.validate
  let empty := Store.Driver.ofBackend c.backend c.readOnly
  if !c.backend.isFileBacked then return .plain empty
  else
    let driver := { empty with entries := stored }
    return if c.readOnly then .plain driver
      else .buffered (.make driver c.batchSize c.compactEvery)

end Config

end SiteIndex
