import SiteIndex.Failure
import SiteIndex.Json.Reader
import SiteIndex.NameMap
import SiteIndex.Text.AttributeName
import SiteIndex.Text.Blank
import SiteIndex.Time.Reader
import SiteIndex.Toml.Reader
import SiteIndex.Value.Basic
import SiteIndex.Yaml.Reader

/-!
# Frontmatter

A page may start with fields about itself: TOML between lines of `+++`, YAML between lines of
`---`, or a JSON object. The names of the fields are put into camel case, of two that become
the same the later one counts, and fields that are tables, mappings, objects or null are left
out. `splitDelimited?` finds the header, and `Frontmatter.split` reads it.
-/

namespace SiteIndex

/-- The attributes of a page by their names. -/
abbrev Context := NameMap Value

namespace Page

/-- How the frontmatter of a page is written. -/
inductive FrontmatterStyle where
  | toml | yaml | json
  deriving DecidableEq, Repr

/-- The frontmatter of a page and the body that follows it. -/
structure Frontmatter where
  /-- The style, unless there is no frontmatter. -/
  style : Option FrontmatterStyle := none
  fields : Context := ∅
  body : String

/-- An integer, or a float if it does not fit sixty-four bits with a sign. -/
def numberValue (n : Int) : Value :=
  if -0x8000000000000000 ≤ n ∧ n < 0x8000000000000000 then .int (.ofInt n) else .float (.ofInt n)

/-- A text that reads as a time is one. -/
def momentValue (m : Toml.Moment) : Value :=
  match Time.Instant.read? m.text with
  | some t => .time t
  | none => .text m.text

mutual

/-- The value of a TOML field; a table has none. -/
def tomlValue? : Toml → Option Value
  | .text s => some (.text s)
  | .int n => some (.int n)
  | .float x => some (.float x)
  | .bool b => some (.bool b)
  | .time m => some (momentValue m)
  | .array items => some (.list (tomlValues items))
  | .table _ => none

/-- The values of the items that have one. -/
def tomlValues : List Toml → List Value
  | [] => []
  | item :: rest => (tomlValue? item).toList ++ tomlValues rest

end

mutual

/-- The value of a YAML field; null and a mapping have none. Tags are passed over. -/
def yamlValue? : Yaml → Option Value
  | .null => none
  | .bool b => some (.bool b)
  | .int n => some (numberValue n)
  | .float x => some (.float x)
  | .text s => some (.text s)
  | .sequence items => some (.list (yamlValues items))
  | .mapping _ => none
  | .tagged _ inner => yamlValue? inner

/-- The values of the items that have one. -/
def yamlValues : List Yaml → List Value
  | [] => []
  | item :: rest => (yamlValue? item).toList ++ yamlValues rest

end

mutual

/-- The value of a JSON field; null and an object have none. -/
def jsonValue? : Json → Option Value
  | .null => none
  | .bool b => some (.bool b)
  | .int n => some (numberValue n)
  | .float x => some (.float x)
  | .text s => some (.text s)
  | .array items => some (.list (jsonValues items))
  | .object _ => none

/-- The values of the items that have one. -/
def jsonValues : List Json → List Value
  | [] => []
  | item :: rest => (jsonValue? item).toList ++ jsonValues rest

end

/-- The name of a YAML field: a text, perhaps with a tag. -/
def yamlName? : Yaml → Option String
  | .text s => some s
  | .tagged _ inner => yamlName? inner
  | _ => none

/-- The context of fields in order. -/
def contextOf (fields : List (String × Value)) : Context :=
  .ofList (fields.map fun (name, value) => (Text.camelCase name, value))

/-- The context of TOML fields, in the order of their names. -/
def tomlContext (fields : List (String × Toml)) : Context :=
  contextOf ((NameMap.ofList fields).entries.filterMap fun (name, field) =>
    (tomlValue? field).map (name, ·))

/-- The context of YAML entries, in their own order. -/
def yamlContext (entries : List (Yaml × Yaml)) : Context :=
  contextOf (entries.filterMap fun (name, field) => do
    some (← yamlName? name, ← yamlValue? field))

/-- The context of JSON fields, in the order of their names; of repeated ones the last
counts. -/
def jsonContext (fields : List (String × Json)) : Context :=
  contextOf ((NameMap.ofList fields).entries.filterMap fun (name, field) =>
    (jsonValue? field).map (name, ·))

/-- The text without a line break at its front. -/
def dropLineBreak : List Char → List Char
  | '\r' :: '\n' :: rest => rest
  | '\n' :: rest => rest
  | rest => rest

/-- Cuts after the first line feed. -/
def splitLine : List Char → List Char × List Char
  | [] => ([], [])
  | '\n' :: rest => (['\n'], rest)
  | c :: rest =>
    let (line, rest) := splitLine rest
    (c :: line, rest)

/-- The rest after the first line is shorter. -/
theorem length_splitLine_le (cs : List Char) : (splitLine cs).2.length ≤ cs.length := by
  fun_induction splitLine cs with
  | case1 => simp
  | case2 rest => simp
  | case3 c rest _ line tail heq ih =>
    rw [heq] at ih
    exact Nat.le_succ_of_le ih

/-- The rest after the first line of a text is shorter than the text. -/
theorem length_splitLine_lt (c : Char) (cs : List Char) :
    (splitLine (c :: cs)).2.length < (c :: cs).length := by
  unfold splitLine
  split
  · simp_all
  · simp_all
  · rename_i d rest _ heq
    obtain ⟨rfl, rfl⟩ := List.cons.inj heq
    exact Nat.lt_succ_of_le (length_splitLine_le cs)

/-- The lines before the first one that is the delimiter, blanks at its end apart, and the text
after it. -/
def untilDelimiter? (delimiter : List Char) : List Char → Option (List Char × List Char)
  | [] => none
  | c :: cs =>
    let line := splitLine (c :: cs)
    if Text.trimEnd line.1 = delimiter then some ([], line.2)
    else (untilDelimiter? delimiter line.2).map fun (head, body) => (line.1 ++ head, body)
termination_by cs => cs.length
decreasing_by exact length_splitLine_lt c cs

/-- The header and the body of a text after its opening delimiter, which must end its line. -/
def splitDelimited? (delimiter : List Char) : List Char → Option (List Char × List Char)
  | '\r' :: '\n' :: rest => untilDelimiter? delimiter rest
  | '\n' :: rest => untilDelimiter? delimiter rest
  | _ => none

/-- The text without a byte order mark at its front. -/
def dropByteOrderMark : List Char → List Char
  | '\ufeff' :: rest => rest
  | rest => rest

namespace Frontmatter

/-- Frontmatter in TOML, after the opening delimiter. -/
def ofToml (rest : List Char) : Outcome Frontmatter :=
  match splitDelimited? ['+', '+', '+'] rest with
  | none => .error (.unterminatedFrontmatter "+++")
  | some (head, body) =>
    match Toml.read? head with
    | none => .error .invalidToml
    | some fields =>
      .ok { style := some .toml, fields := tomlContext fields, body := .ofList body }

/-- Frontmatter in YAML, after the opening delimiter. A document without content has no
fields. -/
def ofYaml (rest : List Char) : Outcome Frontmatter :=
  match splitDelimited? ['-', '-', '-'] rest with
  | none => .error (.unterminatedFrontmatter "---")
  | some (head, body) =>
    match Yaml.read? head with
    | none => .error .invalidYaml
    | some .null => .ok { style := some .yaml, body := .ofList body }
    | some (.mapping entries) =>
      .ok { style := some .yaml, fields := yamlContext entries, body := .ofList body }
    | some _ => .error .yamlNotMapping

/-- Frontmatter in JSON, from its opening brace on. -/
def ofJson (text : List Char) : Outcome Frontmatter :=
  match Json.Reader.readFront? text with
  | none => .error .invalidJson
  | some (.object fields, rest) =>
    .ok { style := some .json, fields := jsonContext fields, body := .ofList (dropLineBreak rest) }
  | some _ => .error .jsonNotObject

/-- The frontmatter and the body of a page. The first characters tell the style. -/
def split (text : String) : Outcome Frontmatter :=
  match dropByteOrderMark text.toList with
  | '+' :: '+' :: '+' :: rest => ofToml rest
  | '-' :: '-' :: '-' :: rest => ofYaml rest
  | '\x7b' :: rest => ofJson ('\x7b' :: rest)
  | rest => .ok { body := .ofList rest }

end Frontmatter

end Page

end SiteIndex
