import SiteIndex.Text.Utf8
import SiteIndex.Yaml.Scalar

/-!
# Tokens of YAML texts

What the layout of a YAML text is made of, and the readers of tags, anchors and directives.
-/

namespace SiteIndex.Yaml

/-- A token. Blocks have no brackets in the text; their start and end come from the
indentation. -/
inductive Token where
  | sequenceStart | mappingStart | blockEnd
  | openSequence | closeSequence | openMapping | closeMapping
  | item | comma | key | value
  | alias (name : String)
  | anchor (name : String)
  | tag (handle suffix : String)
  | scalar (plain : Bool) (text : String)
  | version (major minor : Nat)
  | tagDirective (handle stem : String)
  | documentStart | documentEnd
  deriving DecidableEq, Repr

/-- The characters that may follow an anchor without a gap. -/
def endsAnchor (c : Char) : Bool :=
  c = '?' || c = ':' || c = ',' || c = ']' || c = '\x7d' || c = '%' || c = '@' || c = '\x60'

/-- The name of an anchor or an alias. -/
def anchorName? (cs : List Char) : Option (String × List Char) :=
  let name := cs.takeWhile isNameChar
  let rest := cs.dropWhile isNameChar
  if !name.isEmpty && (atGap rest || rest.head?.any endsAnchor) then some (.ofList name, rest)
  else none

/-- A character of a tag. Between angle brackets, commas and square brackets belong to it. -/
def isTagChar (verbatim : Bool) (c : Char) : Bool :=
  isNameChar c || ";/?:@&=+$.!~*'()".toList.contains c
    || (verbatim && (c = ',' || c = '[' || c = ']'))

/-- The byte that an escape in a tag stands for. -/
def tagByte? : List Char → Option (UInt8 × List Char)
  | '%' :: a :: b :: rest => do
    some (.ofNat ((← hexDigit? a) * 16 + (← hexDigit? b)), rest)
  | _ => none

/-- The bytes of a run of escapes. -/
def tagBytes? : (fuel : Nat) → List Char → Option (Bytes × List Char)
  | 0, _ => none
  | fuel + 1, cs =>
    if cs.head? = some '%' then do
      let (b, rest) ← tagByte? cs
      let (more, rest) ← tagBytes? fuel rest
      some (b :: more, rest)
    else some ([], cs)

/-- The characters of a tag. Escapes write its characters as UTF-8. -/
def tagText? (verbatim : Bool) : (fuel : Nat) → List Char → Option (List Char × List Char)
  | 0, _ => none
  | _ + 1, [] => some ([], [])
  | fuel + 1, c :: rest =>
    if c = '%' then do
      let (bytes, rest) ← tagBytes? fuel (c :: rest)
      let (more, rest) ← tagText? verbatim fuel rest
      some ((← Text.Utf8.decode? bytes).toList ++ more, rest)
    else if isTagChar verbatim c then
      (tagText? verbatim fuel rest).map fun (more, rest) => (c :: more, rest)
    else some ([], c :: rest)

/-- The characters of a tag, at least one. -/
def tagUri? (verbatim : Bool) (cs : List Char) : Option (List Char × List Char) := do
  let (uri, rest) ← tagText? verbatim (cs.length + 1) cs
  if uri.isEmpty then none else some (uri, rest)

/-- A tag after its exclamation mark: handle, suffix and the text after it. A single mark is
the tag itself. -/
def tagParts? (cs : List Char) : Option (String × String × List Char) :=
  match cs with
  | '<' :: rest => do
    match ← tagUri? true rest with
    | (uri, '>' :: rest) => some ("", .ofList uri, rest)
    | _ => none
  | _ => do
    let name := cs.takeWhile isNameChar
    match cs.dropWhile isNameChar with
    | '!' :: rest =>
      let (uri, rest) ← tagUri? false rest
      some (.ofList ('!' :: name ++ ['!']), .ofList uri, rest)
    | rest =>
      let (more, rest) ← tagText? false (rest.length + 1) rest
      if (name ++ more).isEmpty then some ("", "!", rest)
      else some ("!", .ofList (name ++ more), rest)

/-- A tag after its exclamation mark, and the gap, or the comma in brackets, that ends it. -/
def tag? (flow : Bool) (cs : List Char) : Option (Token × List Char) := do
  let (handle, suffix, rest) ← tagParts? cs
  if (flow && rest.head? = some ',') || atGap rest then some (.tag handle suffix, rest) else none

/-- A number of a version, of at most nine digits. -/
def versionNumber? (cs : List Char) : Option (Nat × List Char) :=
  let digits := cs.takeWhile Char.isDigit
  if digits.isEmpty || 9 < digits.length then none
  else some (digits.foldl (fun n c => 10 * n + (c.toNat - '0'.toNat)) 0, cs.dropWhile Char.isDigit)

/-- A version. -/
def version? (cs : List Char) : Option (Token × List Char) := do
  let (major, rest) ← versionNumber? (cs.dropWhile isBlank)
  match rest with
  | '.' :: rest =>
    let (minor, rest) ← versionNumber? rest
    some (.version major minor, rest)
  | _ => none

/-- A handle and the text it stands for. -/
def tagDirective? (cs : List Char) : Option (Token × List Char) := do
  match cs.dropWhile isBlank with
  | '!' :: rest =>
    let name := rest.takeWhile isNameChar
    let (handle, rest) ← match rest.dropWhile isNameChar with
      | '!' :: rest => some ('!' :: name ++ ['!'], rest)
      | rest => if name.isEmpty then some (['!'], rest) else none
    if rest.head?.any isBlank then
      let (uri, rest) ← tagUri? true (rest.dropWhile isBlank)
      if atGap rest then some (.tagDirective (.ofList handle) (.ofList uri), rest) else none
    else none
  | _ => none

/-- A directive after its percent sign, with the end of its line. -/
def directive? (cs : List Char) : Option (Token × List Char) := do
  let name := cs.takeWhile isNameChar
  let rest := cs.dropWhile isNameChar
  if !atGap rest then none
  else
    let (token, rest) ←
      if name = "YAML".toList then version? rest
      else if name = "TAG".toList then tagDirective? rest
      else none
    some (token, ← blockHeadEnd? rest)

end SiteIndex.Yaml
