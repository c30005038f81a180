import SiteIndex.Binary64.Basic

/-!
# YAML values

The values that a YAML document is made of. `Yaml.same` tells whether two keys of a mapping
are the same key: the order of the entries of a mapping does not matter, and the two float
zeros are one number.
-/

namespace SiteIndex

/-- A YAML value. Keys of mappings are values of any kind, and no two of them are the same. -/
inductive Yaml where
  | null
  | bool (truth : Bool)
  | int (number : Int)
  | float (number : Binary64)
  | text (content : String)
  | sequence (items : List Yaml)
  | mapping (entries : List (Yaml × Yaml))
  | tagged (tag : String) (inner : Yaml)
  deriving Repr

namespace Yaml

mutual

/-- The two values are the same. -/
def same : Yaml → Yaml → Bool
  | .null, .null => true
  | .bool a, .bool b => a == b
  | .int a, .int b => a == b
  | .float a, .float b => (a.isNaN && b.isNaN) || a.sameNumber b
  | .text a, .text b => a == b
  | .sequence as, .sequence bs => sameItems as bs
  | .mapping as, .mapping bs => as.length == bs.length && hasEntries as bs
  | .tagged s a, .tagged t b => s == t && same a b
  | _, _ => false

/-- The two lists have the same items in the same order. -/
def sameItems : List Yaml → List Yaml → Bool
  | [], [] => true
  | a :: as, b :: bs => same a b && sameItems as bs
  | _, _ => false

/-- Each of the first entries is among the second ones. -/
def hasEntries : List (Yaml × Yaml) → List (Yaml × Yaml) → Bool
  | [], _ => true
  | (k, v) :: rest, bs => bs.any (fun e => same k e.1 && same v e.2) && hasEntries rest bs

end

end Yaml

end SiteIndex
