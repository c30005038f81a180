import SiteIndex.Toml.Scalar
import SiteIndex.Toml.Tree

/-!
# Reading TOML documents

A document is a sequence of lines, each with a header, a key and its value, a comment or
nothing. `read?` gives the fields of the root table, or nothing if a line is not well formed
or defines a name a second time.
-/

namespace SiteIndex.Toml

/-- A character of a key without quotes. -/
def isBare (c : Char) : Bool := c.isAlphanum || c = '-' || c = '_'

/-- One name of a key. -/
def name? (cs : List Char) : Option (String × List Char) :=
  match cs with
  | '"' :: _ => (line? cs).map fun (s, rest) => (.ofList s, rest)
  | '\'' :: _ => (line? cs).map fun (s, rest) => (.ofList s, rest)
  | _ =>
    let bare := cs.takeWhile isBare
    if bare.isEmpty then none else some (.ofList bare, cs.dropWhile isBare)

/-- The names of a key, parted by points. Each name has a character, so that as much fuel as
there are characters is enough. -/
def names? : (fuel : Nat) → List Char → Option (List String × List Char)
  | 0, _ => none
  | fuel + 1, cs => do
    let (name, rest) ← name? (cs.dropWhile isBlank)
    match rest.dropWhile isBlank with
    | '.' :: rest =>
      let (more, rest) ← names? fuel rest
      some (name :: more, rest)
    | rest => some ([name], rest)

/-- How many names and how many brackets within each other are refused. -/
def tooDeep : Nat := 80

/-- A key. -/
def key? (cs : List Char) : Option (List String × List Char) := do
  let (path, rest) ← names? (cs.length + 1) cs
  if path.length < tooDeep then some (path, rest) else none

/-- Skips blanks, line ends and comments in an array. What cannot be skipped stays in front. -/
def skipLines (inComment : Bool) : List Char → List Char
  | [] => []
  | '\n' :: rest => skipLines false rest
  | '\r' :: '\n' :: rest => skipLines false rest
  | c :: rest =>
    if inComment then (if isVisible c then skipLines true rest else c :: rest)
    else if isBlank c then skipLines false rest
    else if c = '#' then skipLines true rest
    else c :: rest

mutual

/-- A value from the front of a text. Each step reads a character, so that as much fuel as
there are characters is enough. -/
def value? : (depth fuel : Nat) → List Char → Option (Toml × List Char)
  | _, 0, _ => none
  | depth, fuel + 1, cs =>
    match cs with
    | 't' :: 'r' :: 'u' :: 'e' :: rest => some (.bool true, rest)
    | 'f' :: 'a' :: 'l' :: 's' :: 'e' :: rest => some (.bool false, rest)
    | '[' :: rest =>
      match depth, skipLines false rest with
      | 0, _ => none
      | _ + 1, ']' :: rest => some (.array [], rest)
      | depth + 1, rest => (items? depth fuel rest).map fun (read, rest) => (.array read, rest)
    | '\x7b' :: rest =>
      match depth, rest.dropWhile isBlank with
      | 0, _ => none
      | _ + 1, '\x7d' :: rest => some (.table [], rest)
      | depth + 1, rest =>
        (fields? depth fuel [] rest).map fun (read, rest) => (.table (toTomlFields read), rest)
    | '"' :: _ => (string? cs).map fun (s, rest) => (.text (.ofList s), rest)
    | '\'' :: _ => (string? cs).map fun (s, rest) => (.text (.ofList s), rest)
    | _ => numeral? cs

/-- The items of an array and its end, perhaps with a comma before it. -/
def items? : (depth fuel : Nat) → List Char → Option (List Toml × List Char)
  | _, 0, _ => none
  | depth, fuel + 1, cs =>
    match value? depth fuel cs with
    | none => none
    | some (item, rest) =>
      match skipLines false rest with
      | ']' :: rest => some ([item], rest)
      | ',' :: rest =>
        match skipLines false rest with
        | ']' :: rest => some ([item], rest)
        | rest => (items? depth fuel rest).map fun (more, rest) => (item :: more, rest)
      | _ => none

/-- The fields of an inline table and its end, added to those before them. -/
def fields? : (depth fuel : Nat) → Fields → List Char → Option (Fields × List Char)
  | _, 0, _, _ => none
  | depth, fuel + 1, fields, cs =>
    match key? cs with
    | some (path, '=' :: rest) =>
      match value? depth fuel (rest.dropWhile isBlank) with
      | none => none
      | some (item, rest) =>
        match fields.define path item .header, rest.dropWhile isBlank with
        | some fields, '\x7d' :: rest => some (fields, rest)
        | some fields, ',' :: rest => fields? depth fuel fields rest
        | _, _ => none
    | _ => none

end

/-- The rest of a line without content. -/
def endLine? (cs : List Char) : Option (List Char) :=
  let rest :=
    match cs.dropWhile isBlank with
    | '#' :: rest => rest.dropWhile isVisible
    | rest => rest
  match rest with
  | [] => some []
  | rest => newline? rest

/-- The document up to a line: its tables and the table that keys go to. -/
structure Draft where
  root : Fields := []
  current : List String := []

/-- A line from the front of a text, and the document with it. -/
def line (draft : Draft) (cs : List Char) : Option (Draft × List Char) :=
  match cs.dropWhile isBlank with
  | '[' :: '[' :: rest => do
    let (path, rest) ← key? rest
    let rest ← expect? ']' (← expect? ']' rest)
    some ({ root := ← draft.root.openNext path, current := path }, ← endLine? rest)
  | '[' :: rest => do
    let (path, rest) ← key? rest
    let rest ← expect? ']' rest
    some ({ root := ← draft.root.openTable path, current := path }, ← endLine? rest)
  | [] => some (draft, [])
  | '#' :: rest => do some (draft, ← endLine? ('#' :: rest))
  | '\n' :: rest => some (draft, rest)
  | '\r' :: '\n' :: rest => some (draft, rest)
  | rest => do
    let (path, rest) ← key? rest
    let rest ← expect? '=' rest
    let (item, rest) ← value? (tooDeep - 1) (rest.length + 1) (rest.dropWhile isBlank)
    let root ← draft.root.descend false (fun origin fields => fields.define path item origin)
      draft.current .header
    some ({ draft with root }, ← endLine? rest)

/-- The lines of a text. Each has a character, so that as much fuel as there are characters is
enough. -/
def lines : (fuel : Nat) → Draft → List Char → Option Draft
  | 0, _, _ => none
  | _ + 1, draft, [] => some draft
  | fuel + 1, draft, cs =>
    match line draft cs with
    | some (draft, rest) => lines fuel draft rest
    | none => none

/-- The fields of the root table of a document, which may start with a byte order mark. -/
def read? (cs : List Char) : Option (List (String × Toml)) :=
  let cs := match cs with
    | '\ufeff' :: rest => rest
    | _ => cs
  (lines (cs.length + 1) {} cs).map fun draft => toTomlFields draft.root

end SiteIndex.Toml
