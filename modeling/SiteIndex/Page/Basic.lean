import SiteIndex.Markup.Format
import SiteIndex.Page.Frontmatter
import SiteIndex.Page.Stub
import SiteIndex.Page.Url

/-!
# Pages

A page is made from its stub and the file as it is. What is not said in the
frontmatter follows from the file: the address from the path, the title from the content or the
name, the description from the first words. The context of a page is what it is indexed by: the
frontmatter, with the attributes that every page has put over it.
-/

namespace SiteIndex

open Files (FileSystem)
open Markup (Format Formats)
open Time (Instant)

/-- A page. -/
structure Page where
  shasum : String
  source : String
  url : String
  title : String
  description : String
  language : String
  format : String
  sectionName : String
  /-- A second address. -/
  permalink : Option String
  /-- Former addresses. -/
  redirects : List String
  /-- The address of the page that this one translates. -/
  translates : Option String
  created : Instant
  updated : Instant
  content : String
  frontmatter : Context
  context : Context

namespace Page

/-- How many words of its content describe a page. -/
def descriptionWords : Nat := 30

/-- The first words of a text. -/
def excerpt (text : String) : String :=
  " ".intercalate (((Text.chunks text.toList).take descriptionWords).map .ofList)

/-- The text of a field. -/
def textField? (fields : Context) (name : String) : Option String :=
  (fields.get? name).bind Value.asText?

/-- The time of a field: a time or a text that reads as one. -/
def timeField? (fields : Context) (name : String) : Option Instant :=
  match fields.get? name with
  | some (.time t) => some t
  | some (.text s) => Time.Instant.read? s
  | _ => none

/-- The addresses that a page had before. -/
def redirectsOf (fields : Context) : List String :=
  match fields.get? "redirect" with
  | some value => (value.fanOut.filterMap Value.asText?).map normalizeUrl
  | none => []

/-- The attributes that every page has, besides its frontmatter. -/
def builtIns (page : Page) : List (String × Value) :=
  [("url", .text page.url), ("title", .text page.title),
    ("description", .text page.description), ("language", .text page.language),
    ("format", .text page.format), ("section", .text page.sectionName),
    ("created", .time page.created), ("updated", .time page.updated),
    ("shasum", .text page.shasum)]
    ++ (page.permalink.map fun url => ("permalink", .text url)).toList
    ++ [("content", .text page.content)]

/-- Puts the attributes of every page over those of the frontmatter. -/
def withContext (page : Page) : Page :=
  { page with
    context := page.builtIns.foldl (fun c e => c.insert e.1 e.2) page.frontmatter }

/-- The page of a stub, from the text of its file and the times of the file. -/
def assemble (stub : Stub) (raw : String) (created modified : Instant) (format : Option Format) :
    Outcome Page := do
  let split ← Frontmatter.split raw
  let fields := split.fields
  let content := split.body
  let text := (format.map (·.text content)).getD content
  return withContext
    { shasum := stub.shasum
      source := stub.source
      url := ((textField? fields "url").map normalizeUrl).getD (urlForPath stub.mount stub.source)
      title := ((textField? fields "title").or (format.bind (·.title? content))).getD
        (defaultTitle stub.source)
      description := (textField? fields "description").getD (excerpt text)
      language := stub.language
      format := Markup.formatOf stub.source
      sectionName := (textField? fields "section").getD (sectionOf stub.source)
      permalink := (textField? fields "permalink").map normalizeUrl
      redirects := redirectsOf fields
      translates := (textField? fields "translates").map normalizeUrl
      created := (timeField? fields "created").getD created
      updated := (timeField? fields "updated").getD modified
      content
      frontmatter := fields
      context := ∅ }

/-- The page of a stub as its file is now. -/
def make (stub : Stub) (files : FileSystem) (formats : Formats) : Outcome Page := do
  let bytes ← files.read stub.source
  match Text.Utf8.decode? bytes with
  | none => throw (.notUtf8 files.name stub.source)
  | some raw =>
    assemble stub raw (← files.created stub.source) (← files.modified stub.source)
      (formats.find? (Markup.formatOf stub.source))

end Page

end SiteIndex
