import SiteIndex.Page.LanguageCodes
import SiteIndex.Text.Blank

/-!
# Language tags

A directory whose name reads as a language tag, such as `pt-BR` or `zh-Hant-TW`, holds the pages
of that language. The first part of a tag is the code of a language. A code of three letters
has to be followed by another part, since many names of three letters are meant otherwise.
-/

namespace SiteIndex.Page

/-- The parts of a tag between its hyphens. -/
def tagParts (tag : String) : List (List Char) := Text.splitBy (· = '-') tag.toList

/-- Two or three ASCII letters. -/
def isPrimary (part : List Char) : Bool :=
  (part.length = 2 || part.length = 3) && part.all Char.isAlpha

/-- Two to eight ASCII letters or digits. -/
def isSubtag (part : List Char) : Bool :=
  2 ≤ part.length && part.length ≤ 8 && part.all Char.isAlphanum

/-- The name reads as a language tag. -/
def isLanguageTag (name : String) : Bool :=
  match tagParts name with
  | [] => false
  | primary :: rest =>
    let code := primary.map Char.toLower
    isPrimary primary && rest.all isSubtag
      && (if primary.length = 2 then isShortCode code else !rest.isEmpty && isLongCode code)

/-- A later part of a tag in its usual case: a region of two bytes in upper case, a script of
four with a capital, all else in lower case. -/
def normalizeSubtag (part : List Char) : List Char :=
  let size := (String.ofList part).utf8ByteSize
  if size = 2 then part.map Char.toUpper
  else if size = 4 then
    match part with
    | [] => []
    | c :: rest => c.toUpper :: rest.map Char.toLower
  else part.map Char.toLower

/-- A tag in its usual case. -/
def normalizeTag (tag : String) : String :=
  match tagParts tag with
  | [] => ""
  | primary :: rest =>
    "-".intercalate
      (.ofList (primary.map Char.toLower) :: rest.map fun part => .ofList (normalizeSubtag part))

end SiteIndex.Page
