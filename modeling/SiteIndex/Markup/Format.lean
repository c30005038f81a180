import SiteIndex.Files.Path
import SiteIndex.Markup.Markdown

/-!
# Formats of pages

The format of a page is known by the last part of its file's name. A `Format` says what of a
page's content is text, and what its title is. A site serves the formats that it has a reader
for (`Formats`).
-/

namespace SiteIndex.Markup

/-- How the content of a page is written. -/
inductive Format where
  | markdown | html | plain
  deriving DecidableEq, Repr

namespace Format

/-- The name of a format. -/
def name : Format → String
  | markdown => "md"
  | html => "html"
  | plain => "txt"

/-- What a reader sees of a content. -/
def text : Format → String → String
  | markdown => markdownText
  | html => htmlText
  | plain => Text.collapse

/-- The title that a content gives itself. -/
def title? : Format → String → Option String
  | markdown => markdownTitle?
  | html => htmlTitle?
  | plain => fun _ => none

end Format

/-- The formats of a site by the last part of file names. -/
abbrev Formats := List (String × Format)

namespace Formats

/-- Markdown, HTML and plain text. -/
def standard : Formats :=
  [("md", .markdown), ("markdown", .markdown), ("html", .html), ("htm", .html), ("txt", .plain)]

/-- The format of a name in any case. -/
def find? (formats : Formats) (name : String) : Option Format :=
  formats.lookup (.ofList (name.toList.map Char.toLower))

end Formats

/-- The name of the format of a file: what follows the last point of its name in lower case,
or nothing if the name has no other point than one in front. -/
def formatOf (path : String) : String :=
  match Files.splitLastPoint? (Files.fileName path) with
  | some (stem, name) => if stem = "" then "" else .ofList (name.toList.map Char.toLower)
  | none => ""

end SiteIndex.Markup
