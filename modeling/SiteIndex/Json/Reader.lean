import SiteIndex.Json.Number

/-!
# Reading JSON texts

The grammar is the strict one: no comments, no commas at the end, no characters below the
space in a string, and escaped surrogates only in pairs. At most 127 arrays and objects stand
within each other. The fields of an object keep the order and the repetitions of the text, so
that each reader of objects decides what a repeated name means.

`readFront?` reads one value from the front of a text, and `read?` a whole text.
-/

namespace SiteIndex.Json.Reader

/-- The blanks between tokens. -/
def isBlank (c : Char) : Bool := c = ' ' || c = '\t' || c = '\n' || c = '\r'

/-- Skips blanks. -/
def skipBlanks (cs : List Char) : List Char := cs.dropWhile isBlank

/-- The value of a hexadecimal digit. -/
def hexDigit? (c : Char) : Option Nat :=
  if c.isDigit then some (c.toNat - '0'.toNat)
  else if 'a' ≤ c ∧ c ≤ 'f' then some (c.toNat - 'a'.toNat + 10)
  else if 'A' ≤ c ∧ c ≤ 'F' then some (c.toNat - 'A'.toNat + 10)
  else none

/-- The code unit of four hexadecimal digits. -/
def unit? (a b c d : Char) : Option Nat := do
  some (((← hexDigit? a) * 16 + (← hexDigit? b)) * 256 + (← hexDigit? c) * 16 + (← hexDigit? d))

/-- A unit that starts a pair. -/
def isHighSurrogate (n : Nat) : Bool := 0xD800 ≤ n && n < 0xDC00

/-- A unit that ends a pair. -/
def isLowSurrogate (n : Nat) : Bool := 0xDC00 ≤ n && n < 0xE000

/-- The character of a pair of units. -/
def joinSurrogates (high low : Nat) : Char :=
  .ofNat (0x10000 + (high - 0xD800) * 0x400 + (low - 0xDC00))

/-- The character of an escape of one letter. -/
def unescape? : Char → Option Char
  | '"' => some '"'
  | '\\' => some '\\'
  | '/' => some '/'
  | 'b' => some '\x08'
  | 'f' => some '\x0c'
  | 'n' => some '\n'
  | 'r' => some '\r'
  | 't' => some '\t'
  | _ => none

/-- Puts a character in front of what is read after it. -/
def push (c : Char) : Option (List Char × List Char) → Option (List Char × List Char) :=
  Option.map fun (body, rest) => (c :: body, rest)

/-- The rest of a string and the text after its end. -/
def stringBody? : List Char → Option (List Char × List Char)
  | [] => none
  | '"' :: rest => some ([], rest)
  | '\\' :: 'u' :: a :: b :: c :: d :: rest =>
    match unit? a b c d with
    | none => none
    | some high =>
      if isLowSurrogate high then none
      else if isHighSurrogate high then
        match rest with
        | '\\' :: 'u' :: a :: b :: c :: d :: rest =>
          match unit? a b c d with
          | none => none
          | some low =>
            if isLowSurrogate low then push (joinSurrogates high low) (stringBody? rest)
            else none
        | _ => none
      else push (.ofNat high) (stringBody? rest)
  | '\\' :: c :: rest =>
    match unescape? c with
    | some d => push d (stringBody? rest)
    | none => none
  | c :: rest => if c < ' ' || c = '\\' then none else push c (stringBody? rest)

/-- How many arrays and objects may stand within each other. -/
def deepest : Nat := 127

mutual

/-- A value from the front of a text. Each step reads a character, so that as much fuel as
there are characters is enough. -/
def value? : (depth fuel : Nat) → List Char → Option (Json × List Char)
  | _, 0, _ => none
  | depth, fuel + 1, cs =>
    match skipBlanks cs with
    | 'n' :: 'u' :: 'l' :: 'l' :: rest => some (.null, rest)
    | 't' :: 'r' :: 'u' :: 'e' :: rest => some (.bool true, rest)
    | 'f' :: 'a' :: 'l' :: 's' :: 'e' :: rest => some (.bool false, rest)
    | '"' :: rest => (stringBody? rest).map fun (body, rest) => (.text (.ofList body), rest)
    | '[' :: rest =>
      match depth, skipBlanks rest with
      | 0, _ => none
      | _ + 1, ']' :: rest => some (.array [], rest)
      | depth + 1, rest => (items? depth fuel rest).map fun (read, rest) => (.array read, rest)
    | '\x7b' :: rest =>
      match depth, skipBlanks rest with
      | 0, _ => none
      | _ + 1, '\x7d' :: rest => some (.object [], rest)
      | depth + 1, rest => (fields? depth fuel rest).map fun (read, rest) => (.object read, rest)
    | rest => Number.read? rest

/-- The items of an array and its end. -/
def items? : (depth fuel : Nat) → List Char → Option (List Json × List Char)
  | _, 0, _ => none
  | depth, fuel + 1, cs =>
    match value? depth fuel cs with
    | none => none
    | some (item, rest) =>
      match skipBlanks rest with
      | ']' :: rest => some ([item], rest)
      | ',' :: rest => (items? depth fuel rest).map fun (more, rest) => (item :: more, rest)
      | _ => none

/-- The fields of an object and its end. -/
def fields? : (depth fuel : Nat) → List Char → Option (List (String × Json) × List Char)
  | _, 0, _ => none
  | depth, fuel + 1, cs =>
    match skipBlanks cs with
    | '"' :: rest =>
      match stringBody? rest with
      | none => none
      | some (name, rest) =>
        match skipBlanks rest with
        | ':' :: rest =>
          match value? depth fuel rest with
          | none => none
          | some (item, rest) =>
            match skipBlanks rest with
            | '\x7d' :: rest => some ([(.ofList name, item)], rest)
            | ',' :: rest =>
              (fields? depth fuel rest).map fun (more, rest) =>
                ((.ofList name, item) :: more, rest)
            | _ => none
        | _ => none
    | _ => none

end

/-- One value from the front of a text, and the text after it. -/
def readFront? (cs : List Char) : Option (Json × List Char) := value? deepest (cs.length + 1) cs

/-- The value that a whole text holds, with blanks around it. -/
def read? (cs : List Char) : Option Json := do
  let (read, rest) ← readFront? cs
  if (skipBlanks rest).isEmpty then some read else none

end SiteIndex.Json.Reader
