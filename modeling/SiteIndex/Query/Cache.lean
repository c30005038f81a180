import SiteIndex.Binary64.Basic
import SiteIndex.Query.Reader
import SiteIndex.Text.Blank

/-!
# Caches of compiled queries

Compiled queries and patterns are kept under their text, the least recently used one making
room for a new one (`Recent`). A query cache holds statements and selections apart and counts
its hits and misses; what cannot be compiled is not kept.
-/

namespace SiteIndex.Query

/-- A bounded number of entries, the most recently used first. -/
structure Recent (α : Type) where
  capacity : Nat
  entries : List (String × α) := []

namespace Recent

variable {α : Type}

/-- No entries; there is room for at least one. -/
def ofLimit (limit : Nat) : Recent α := { capacity := max limit 1 }

/-- The entry of a key, which becomes the most recently used. -/
def find? (r : Recent α) (key : String) : Option (α × Recent α) :=
  (r.entries.lookup key).map fun x =>
    (x, { r with entries := (key, x) :: r.entries.filter (·.1 ≠ key) })

/-- Puts an entry in front; the last one goes if there are too many. -/
def put (r : Recent α) (key : String) (x : α) : Recent α :=
  { r with entries := ((key, x) :: r.entries.filter (·.1 ≠ key)).take r.capacity }

/-- The number of entries. -/
def size (r : Recent α) : Nat := r.entries.length

/-- Drops all entries. -/
def clear (r : Recent α) : Recent α := { r with entries := [] }

end Recent

/-- The compiled queries of an engine. -/
structure Cache where
  limit : Nat
  statements : Recent Statement
  selections : Recent Selection
  hits : Nat := 0
  misses : Nat := 0

namespace Cache

/-- An empty cache. -/
def ofLimit (limit : Nat) : Cache :=
  { limit, statements := .ofLimit limit, selections := .ofLimit limit }

/-- The statement of a text, of which blanks around it do not count. -/
def statement (c : Cache) (text : String) : Except SyntaxError Statement × Cache :=
  let key := Text.trim text
  match c.statements.find? key with
  | some (s, statements) => (.ok s, { c with statements, hits := c.hits + 1 })
  | none =>
    let c := { c with misses := c.misses + 1 }
    match readStatement key with
    | .ok s => (.ok s, { c with statements := c.statements.put key s })
    | .error e => (.error e, c)

/-- The selection of a text, of which blanks around it do not count. -/
def selection (c : Cache) (text : String) : Except SyntaxError Selection × Cache :=
  let key := Text.trim text
  match c.selections.find? key with
  | some (s, selections) => (.ok s, { c with selections, hits := c.hits + 1 })
  | none =>
    let c := { c with misses := c.misses + 1 }
    match readSelection key with
    | .ok s => (.ok s, { c with selections := c.selections.put key s })
    | .error e => (.error e, c)

/-- Drops all queries; the counts go on. -/
def clear (c : Cache) : Cache :=
  { c with statements := c.statements.clear, selections := c.selections.clear }

/-- The number of queries that are kept. -/
def size (c : Cache) : Nat := c.statements.size + c.selections.size

/-- The number of queries that there is nominally room for. -/
def capacity (c : Cache) : Nat := 2 * c.limit

/-- The share of hits among all calls, zero before the first. -/
def hitRate (c : Cache) : Binary64 :=
  if c.hits + c.misses = 0 then .zero else .ofNat c.hits / .ofNat (c.hits + c.misses)

end Cache

/-- The compiled patterns of an engine. -/
abbrev PatternCache := Recent Pattern.Regex

/-- The regular expression of a pattern. -/
def PatternCache.get (c : PatternCache) (literal : PatternLiteral) :
    Outcome Pattern.Regex × PatternCache :=
  match c.find? literal.source with
  | some (r, c) => (.ok r, c)
  | none =>
    match Pattern.compile? literal.source with
    | some r => (.ok r, c.put literal.source r)
    | none => (.error .invalidPattern, c)

end SiteIndex.Query
