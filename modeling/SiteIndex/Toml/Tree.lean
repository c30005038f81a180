import SiteIndex.Toml.Basic

/-!
# Tables that a TOML document builds up

A document defines its tables line by line. `Node` keeps with each table how it came to be,
because that decides whether a later line may still add to it: a dotted key only adds to a
table that dotted keys made, a header opens a table once, and a header in double brackets
opens the next table of a list.
-/

namespace SiteIndex.Toml

/-- How a table came to be. -/
inductive Origin where
  /-- It has a header of its own, or is the root. -/
  | header
  /-- It stands on the way to a longer header. -/
  | implied
  /-- It stands on the way of a dotted key. -/
  | dotted
  deriving DecidableEq, Repr

/-- A table while the document is being read. -/
inductive Node where
  | leaf (value : Toml)
  | table (origin : Origin) (fields : List (String × Node))
  /-- A list of tables, the newest one first. -/
  | tables (newest : List (String × Node)) (earlier : List (List (String × Node)))

/-- The fields of a table while the document is being read. -/
abbrev Fields := List (String × Node)

/-- Puts a node under a name, in place of the one that was there. -/
def Fields.put (name : String) (node : Node) : Fields → Fields
  | [] => [(name, node)]
  | (k, n) :: rest => if k = name then (k, node) :: rest else (k, n) :: put name node rest

/-- Changes the table at the end of a path, and makes the tables on the way that are missing.
Values are in the way of a path, and so are tables with a header in the way of dotted keys. -/
def Fields.descend (dotted : Bool) (change : Origin → Fields → Option Fields) :
    List String → Origin → Fields → Option Fields
  | [], origin, fields => change origin fields
  | name :: path, _, fields =>
    match fields.lookup name with
    | none => do
      let origin := if dotted then .dotted else .implied
      some (fields.put name (.table origin (← descend dotted change path origin [])))
    | some (.leaf _) => none
    | some (.tables newest earlier) => do
      some (fields.put name (.tables (← descend dotted change path .header newest) earlier))
    | some (.table origin inner) =>
      if dotted && origin = .header then none
      else do some (fields.put name (.table origin (← descend dotted change path origin inner)))

/-- Cuts a path into the way and the last name. -/
def splitLast : List String → List String × String
  | [] => ([], "")
  | [name] => ([], name)
  | name :: rest =>
    let (way, last) := splitLast rest
    (name :: way, last)

/-- Defines a key of a table once. A dotted key needs a table that dotted keys made. -/
def Fields.define (path : List String) (value : Toml) (origin : Origin) (fields : Fields) :
    Option Fields :=
  let (way, last) := splitLast path
  fields.descend true (fun origin fields =>
    if (origin = .dotted) = way.isEmpty then none
    else if (fields.lookup last).isSome then none
    else some (fields.put last (.leaf value))) way origin

/-- Opens the table of a header. -/
def Fields.openTable (path : List String) (fields : Fields) : Option Fields :=
  let (way, last) := splitLast path
  fields.descend false (fun _ fields =>
    match fields.lookup last with
    | none => some (fields.put last (.table .header []))
    | some (.table .implied inner) => some (fields.put last (.table .header inner))
    | some _ => none) way .header

/-- Opens the next table of a list. -/
def Fields.openNext (path : List String) (fields : Fields) : Option Fields :=
  let (way, last) := splitLast path
  fields.descend false (fun _ fields =>
    match fields.lookup last with
    | none => some (fields.put last (.tables [] []))
    | some (.tables newest earlier) => some (fields.put last (.tables [] (newest :: earlier)))
    | some _ => none) way .header

mutual

/-- The value of a node. -/
def Node.toToml : Node → Toml
  | .leaf value => value
  | .table _ fields => .table (toTomlFields fields)
  | .tables newest earlier =>
    .array ((.table (toTomlFields newest) :: toTomlTables earlier).reverse)

/-- The values of fields. -/
def toTomlFields : List (String × Node) → List (String × Toml)
  | [] => []
  | (name, node) :: rest => (name, node.toToml) :: toTomlFields rest

/-- The values of tables. -/
def toTomlTables : List (List (String × Node)) → List Toml
  | [] => []
  | fields :: rest => .table (toTomlFields fields) :: toTomlTables rest

end

end SiteIndex.Toml
