import SiteIndex.Yaml.Layout

/-!
# Nodes of YAML documents

A document is a tree of nodes. A node may have a tag and an anchor, and an alias stands for the
node of an anchor before it. Anchors are kept as numbers: the number of an anchor is the count
of names known when it is met, so that a name that is used again moves to a new number.
-/

namespace SiteIndex.Yaml

/-- What stands in front of the content of a node. -/
structure Properties where
  tag : Option String := none
  anchor : Option Nat := none
  deriving Repr

/-- A node of a document. -/
inductive Node where
  | scalar (props : Properties) (plain : Bool) (text : String)
  | sequence (props : Properties) (items : List Node)
  | mapping (props : Properties) (entries : List (Node × Node))
  | alias (anchor : Nat)
  deriving Repr

/-- The node where there is no content. -/
def Node.absent : Node := .scalar {} true ""

/-- The rest of the tokens, the anchors met so far, and the handles of tags. -/
structure TokenStream where
  tokens : List Token
  anchors : List (String × Nat) := []
  handles : List (String × String) := []

/-- Reads from a stream, or fails. -/
abbrev Reading := StateT TokenStream Option

namespace TokenStream

/-- The next token. -/
def peek : Reading (Option Token) := return (← get).tokens.head?

/-- Goes on to the next token. -/
def advance : Reading Unit := modify fun s => { s with tokens := s.tokens.tail }

/-- Goes on if the next token is the given one. -/
def accept (token : Token) : Reading Bool := do
  if (← peek) = some token then
    advance
    return true
  else return false

/-- The next token is one of those given. -/
def stopsAt (stops : List Token) : Reading Bool := do
  return (← peek).any stops.contains

/-- Gives a number to an anchor. -/
def bind (name : String) : Reading Nat := do
  let s ← get
  let number := s.anchors.length
  set { s with anchors := (name, number) :: s.anchors.filter (·.1 ≠ name) }
  return number

/-- The tag that a handle and a suffix stand for. -/
def tagOf (handle suffix : String) : Reading String := do
  if handle.isEmpty then return suffix
  else
    match (← get).handles.lookup handle with
    | some stem => return stem ++ suffix
    | none => failure

/-- The anchor in front of a node, if there is one. -/
def anchor? : Reading (Option Nat) := do
  match ← peek with
  | some (.anchor name) =>
    advance
    return some (← bind name)
  | _ => return none

/-- The tag in front of a node, if there is one. -/
def tag? : Reading (Option String) := do
  match ← peek with
  | some (.tag handle suffix) =>
    advance
    return some (← tagOf handle suffix)
  | _ => return none

/-- The properties of a node, in either order. -/
def properties : Reading Properties := do
  match ← anchor? with
  | some anchor => return { tag := ← tag?, anchor := some anchor }
  | none =>
    match ← tag? with
    | some tag => return { tag := some tag, anchor := ← anchor? }
    | none => return {}

end TokenStream

open TokenStream

/-- The node of a scalar. A tag that is a single mark only says that there is no other. -/
def Node.ofScalar (props : Properties) (plain : Bool) (text : String) : Node :=
  if props.tag = some "!" then .scalar { props with tag := none } plain text
  else .scalar props plain text

/-- A node that may be left out before one of the tokens given. -/
def optionalNode (stops : List Token) (node : Reading Node) : Reading Node := do
  if ← stopsAt stops then return .absent else node

mutual

/-- A node. In a block it may be a block itself, and the items of a mapping's value need no
indentation of their own. Of two calls within each other one takes a token. -/
def node : (fuel : Nat) → (block unindented : Bool) → Reading Node
  | 0, _, _ => failure
  | fuel + 1, block, unindented => do
    match ← peek with
    | some (.alias name) =>
      advance
      match (← get).anchors.lookup name with
      | some number => return .alias number
      | none => failure
    | _ =>
      let props ← properties
      match ← peek with
      | some (.scalar plain content) =>
        advance
        return .ofScalar props plain content
      | some .openSequence =>
        advance
        return .sequence props (← flowItems fuel true)
      | some .openMapping =>
        advance
        return .mapping props (← flowEntries fuel true)
      | next =>
        if unindented && next = some .item then
          return .sequence props (← unindentedItems fuel)
        else if block && next = some .sequenceStart then
          advance
          return .sequence props (← blockItems fuel)
        else if block && next = some .mappingStart then
          advance
          return .mapping props (← blockEntries fuel)
        else if props.tag.isSome || props.anchor.isSome then return .scalar props true ""
        else failure

/-- The items of a block and its end. -/
def blockItems : (fuel : Nat) → Reading (List Node)
  | 0 => failure
  | fuel + 1 => do
    if ← accept .blockEnd then return []
    else if ← accept .item then
      let first ← optionalNode [.item, .blockEnd] (node fuel true false)
      return first :: (← blockItems fuel)
    else failure

/-- Items at the indentation of the mapping around them. -/
def unindentedItems : (fuel : Nat) → Reading (List Node)
  | 0 => failure
  | fuel + 1 => do
    if ← accept .item then
      let first ← optionalNode [.item, .key, .value, .blockEnd] (node fuel true false)
      return first :: (← unindentedItems fuel)
    else return []

/-- The entries of a block and its end. -/
def blockEntries : (fuel : Nat) → Reading (List (Node × Node))
  | 0 => failure
  | fuel + 1 => do
    if ← accept .blockEnd then return []
    else if ← accept .key then
      let stops := [.key, .value, .blockEnd]
      let name ← optionalNode stops (node fuel true true)
      let content ←
        if ← accept .value then optionalNode stops (node fuel true true) else pure .absent
      return (name, content) :: (← blockEntries fuel)
    else failure

/-- The items between brackets and the closing one. A key makes an item a mapping with one
entry. -/
def flowItems : (fuel : Nat) → (first : Bool) → Reading (List Node)
  | 0, _ => failure
  | fuel + 1, first => do
    if ← accept .closeSequence then return []
    else
      unless first do
        unless ← accept .comma do failure
      if ← accept .closeSequence then return []
      else
        let item ←
          if ← accept .key then
            let name ←
              if ← stopsAt [.value, .comma, .closeSequence] then
                advance
                pure .absent
              else node fuel false false
            let content ←
              if ← accept .value then
                optionalNode [.comma, .closeSequence] (node fuel false false)
              else pure .absent
            pure (.mapping {} [(name, content)])
          else node fuel false false
        return item :: (← flowItems fuel false)

/-- The entries between braces and the closing one. -/
def flowEntries : (fuel : Nat) → (first : Bool) → Reading (List (Node × Node))
  | 0, _ => failure
  | fuel + 1, first => do
    if ← accept .closeMapping then return []
    else
      unless first do
        unless ← accept .comma do failure
      if ← accept .closeMapping then return []
      else
        let entry ←
          if ← accept .key then
            let name ← optionalNode [.value, .comma, .closeMapping] (node fuel false false)
            let content ←
              if ← accept .value then
                optionalNode [.comma, .closeMapping] (node fuel false false)
              else pure .absent
            pure (name, content)
          else
            let name ← node fuel false false
            pure (name, .absent)
        return entry :: (← flowEntries fuel false)

end

/-- The handles that stand for something in every document. -/
def standardHandles : List (String × String) :=
  [("!", "!"), ("!!", "tag:yaml.org,2002:")]

/-- Reads the directives of a document: at most one version, of the two that are known, and
each handle at most once. -/
def directives? (versioned : Bool) (handles : List (String × String)) :
    List Token → Option (List (String × String) × List Token)
  | .version major minor :: rest =>
    if versioned || major ≠ 1 || (minor ≠ 1 && minor ≠ 2) then none
    else directives? true handles rest
  | .tagDirective handle stem :: rest =>
    if (handles.lookup handle).isSome then none
    else directives? versioned ((handle, stem) :: handles) rest
  | rest => some (handles, rest)

/-- A token that only stands between documents. -/
def Token.isBetween : Token → Bool
  | .version _ _ | .tagDirective _ _ | .documentStart | .documentEnd => true
  | _ => false

/-- The tokens start with a directive or the mark of a document. -/
def startsMarked : List Token → Bool
  | .documentEnd :: _ => false
  | token :: _ => token.isBetween
  | [] => false

/-- The node of the only document of a text, none if there is no document. -/
def document? (tokens : List Token) : Option (Option Node) := do
  if tokens.isEmpty then some none
  else
    let fuel := 3 * tokens.length + 3
    let (root, rest) ←
      if startsMarked tokens then
        let (handles, rest) ← directives? false [] tokens
        match rest with
        | .documentStart :: rest =>
          let stream : TokenStream := { tokens := rest, handles := handles ++ standardHandles }
          if rest.head?.all Token.isBetween then some (.absent, stream)
          else (node fuel true false).run stream
        | _ => none
      else (node fuel true false).run { tokens, handles := standardHandles }
    if (rest.tokens.dropWhile (· = .documentEnd)).isEmpty then some (some root) else none

end SiteIndex.Yaml
