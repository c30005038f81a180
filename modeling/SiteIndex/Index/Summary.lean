import SiteIndex.Failure
import SiteIndex.Json.Quoted
import SiteIndex.Json.Reader
import SiteIndex.Text.Utf8

/-!
# Summaries of pages

What a search result shows of a page without reading its file. A summary is stored as a JSON
object with one field for each part.
-/

namespace SiteIndex.Index

/-- What a search result shows of a page. -/
structure Summary where
  url : String
  title : String
  description : String
  language : String
  deriving DecidableEq, Repr

namespace Summary

/-- The summary of a page that has none. -/
def blank : Summary := ⟨"", "", "", ""⟩

/-- The text of a field. -/
def fieldText (name value : String) : List Char := Json.quoted name ++ ':' :: Json.quoted value

/-- The bytes that are stored. -/
def encode (s : Summary) : Bytes :=
  Text.Utf8.encodeChars
    ('\x7b' :: fieldText "url" s.url ++ ',' :: fieldText "title" s.title
      ++ ',' :: fieldText "description" s.description
      ++ ',' :: fieldText "language" s.language ++ ['\x7d'])

/-- The text of a field that is there once. -/
def field? (fields : List (String × Json)) (name : String) : Option String :=
  match fields.filter (·.1 = name) with
  | [(_, .text s)] => some s
  | _ => none

/-- The summary of a JSON value: an object, in which other fields are passed over, or a list of
the parts in order. -/
def ofJson? : Json → Option Summary
  | .object fields => do
    return {
      url := ← field? fields "url"
      title := ← field? fields "title"
      description := ← field? fields "description"
      language := ← field? fields "language" }
  | .array [.text url, .text title, .text description, .text language] =>
    some { url, title, description, language }
  | _ => none

/-- Reads what is stored. -/
def decode (bytes : Bytes) : Outcome Summary :=
  match (do ofJson? (← Json.Reader.read? (← Text.Utf8.decode? bytes).toList)) with
  | some s => .ok s
  | none => .error .invalidJson

end Summary

end SiteIndex.Index
