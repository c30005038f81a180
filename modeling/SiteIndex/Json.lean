import SiteIndex.Binary64.Basic

/-!
# JSON values

The plain data that results are handed out as. The fields of an object keep the order in
which they were put.
-/

namespace SiteIndex

/-- A JSON value. -/
inductive Json where
  | null
  | bool (value : Bool)
  | int (value : Int)
  | float (value : Binary64)
  | text (value : String)
  | array (items : List Json)
  | object (fields : List (String × Json))
  deriving Repr

end SiteIndex
