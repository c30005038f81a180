import SiteIndex.Yaml.Node
import SiteIndex.Yaml.Plain

/-!
# Reading YAML documents

The value of a document: aliases are replaced by the nodes that they stand for, tags of one's
own are kept, and a mapping must not have a key twice. Sequences and mappings stand at most 128
deep within each other, and a document may follow a hundred aliases for each of its parts, so
that a short text cannot grow without bounds.
-/

namespace SiteIndex.Yaml

mutual

/-- The nodes with anchors, in the order of the text. -/
def anchored : Node → List (Nat × Node)
  | .scalar props plain body => (props.anchor.map (·, .scalar props plain body)).toList
  | .sequence props items =>
    (props.anchor.map (·, .sequence props items)).toList ++ anchoredItems items
  | .mapping props entries =>
    (props.anchor.map (·, .mapping props entries)).toList ++ anchoredEntries entries
  | .alias _ => []

/-- The nodes with anchors in a list. -/
def anchoredItems : List Node → List (Nat × Node)
  | [] => []
  | item :: rest => anchored item ++ anchoredItems rest

/-- The nodes with anchors in entries. -/
def anchoredEntries : List (Node × Node) → List (Nat × Node)
  | [] => []
  | (name, content) :: rest => anchored name ++ anchored content ++ anchoredEntries rest

end

mutual

/-- The parts of a node: a sequence and a mapping have a start and an end. -/
def parts : Node → Nat
  | .scalar _ _ _ | .alias _ => 1
  | .sequence _ items => partsOfItems items + 2
  | .mapping _ entries => partsOfEntries entries + 2

/-- The parts of the nodes in a list. -/
def partsOfItems : List Node → Nat
  | [] => 0
  | item :: rest => parts item + partsOfItems rest

/-- The parts of the nodes in entries. -/
def partsOfEntries : List (Node × Node) → Nat
  | [] => 0
  | (name, content) :: rest => parts name + parts content + partsOfEntries rest

end

/-- The nodes that aliases stand for, and how many aliases may be followed. -/
structure Aliases where
  nodes : List (Nat × Node)
  limit : Nat

/-- The aliases of a document. Of two anchors with one number the later one counts. -/
def Aliases.of (root : Node) : Aliases :=
  { nodes := (anchored root).reverse, limit := 100 * parts root }

/-- Reads values and counts the aliases that were followed, or fails. -/
abbrev Following := StateT Nat Option

/-- The node that an alias stands for. -/
def Aliases.follow (aliases : Aliases) (number : Nat) : Following Node := do
  let followed := (← get) + 1
  set followed
  if aliases.limit < followed then failure
  else
    match aliases.nodes.lookup number with
    | some target => return target
    | none => failure

/-- A tag of one's own: it starts with an exclamation mark, which does not belong to its
name. -/
def ownTag? (props : Properties) : Option String := do
  let tag ← props.tag
  match tag.toList with
  | ['!'] => some "!"
  | '!' :: name => some (.ofList name)
  | _ => none

/-- The properties of a node that is no alias. -/
def Node.properties : Node → Properties
  | .scalar props _ _ | .sequence props _ | .mapping props _ => props
  | .alias _ => {}

/-- The entries of a mapping, none of whose keys comes twice. -/
def readEntries (name content : Node → Following Yaml) :
    List (Node × Node) → List (Yaml × Yaml) → Following (List (Yaml × Yaml))
  | [], _ => return []
  | (k, v) :: rest, before => do
    let k ← name k
    if before.any (fun e => e.1.same k) then failure
    else
      let v ← content v
      return (k, v) :: (← readEntries name content rest (before ++ [(k, v)]))

/-- The value of the content of a node that is no alias. Its tag has been taken note of if
`noted`, and then the tags of the keys of a mapping do not count. There is no `inner` reader
where nothing may stand deeper. -/
def contentValue (inner : Option (Bool → Node → Following Yaml)) (noted : Bool) :
    Node → Following Yaml
  | .scalar props plain body => fun followed =>
    (ofScalar? (if noted then none else props.tag) plain body).map (·, followed)
  | .sequence _ items =>
    match inner with
    | some inner => return .sequence (← items.mapM (inner false))
    | none => failure
  | .mapping _ entries =>
    match inner with
    | some inner => return .mapping (← readEntries (inner noted) (inner false) entries [])
    | none => failure
  | .alias _ => failure

/-- The value of a node that is no alias, with its own tag. -/
def taggedValue (inner : Option (Bool → Node → Following Yaml)) (noted : Bool) (node : Node) :
    Following Yaml :=
  match ownTag? node.properties with
  | some tag =>
    if noted then contentValue inner true node
    else return .tagged tag (← contentValue inner true node)
  | none => contentValue inner noted node

/-- The value of a node, in which nodes stand at most `depth` deep. -/
def Aliases.value (aliases : Aliases) : (depth : Nat) → (noted : Bool) → Node → Following Yaml
  | depth, noted, node =>
    let inner := match depth with
      | 0 => none
      | depth + 1 => some (value aliases depth)
    match node with
    | .alias number => do taggedValue inner false (← aliases.follow number)
    | node => taggedValue inner noted node

/-- How deep sequences and mappings may stand within each other. -/
def deepest : Nat := 128

/-- The value of the only document of a text, null if there is no document. -/
def read? (cs : List Char) : Option Yaml := do
  match ← document? (← tokens? cs) with
  | none => some .null
  | some root => ((Aliases.of root).value deepest false root).run' 0

end SiteIndex.Yaml
