import SiteIndex.Index.Summary
import SiteIndex.Page.Basic
import SiteIndex.Posting.Tables
import SiteIndex.Search.Token

/-!
# The index of keywords

Which pages hold which words. The words of a page are those of its title, its description and
the text of its content; with them goes a summary of the page.
-/

namespace SiteIndex.Index.Keywords

open Markup (Formats)
open Page (Stub)
open Posting

/-- The text of a page whose words are indexed. -/
def visibleText (formats : Formats) (page : Page) : String :=
  let body := ((formats.find? page.format).map (·.text page.content)).getD page.content
  page.title ++ "\n" ++ page.description ++ "\n" ++ body

/-- The summary of a page. -/
def summaryOf (page : Page) : Summary :=
  { url := page.url, title := page.title, description := page.description,
    language := page.language }

/-- Posts a stub under words. -/
def addAll (index : UInt32) : List String → Action Store Unit
  | [] => return ()
  | token :: rest => do
    let _ ← Tables.addToken .keyword token index
    addAll index rest

/-- Posts a page under its words, unless it is indexed already; returns how many there are. -/
def add (formats : Formats) (stub : Stub) (page : Page) : Action Store Nat := do
  match ← Tables.stubIndex? .keyword stub.shasum with
  | some _ => return 0
  | none =>
    let terms := Search.uniqueTerms (visibleText formats page)
    let index ← Tables.ensureStub .keyword stub.shasum
    addAll index terms
    Tables.setSummary .keyword stub.shasum (summaryOf page).encode
    return terms.length

/-- Takes a stub away from words. -/
def removeAll (index : UInt32) : List String → Action Store Unit
  | [] => return ()
  | token :: rest => do
    let _ ← Tables.removeToken .keyword token index
    removeAll index rest

/-- Takes a page out of the index; returns how many words it had. -/
def remove (stub : Stub) : Action Store Nat := do
  match ← Tables.stubIndex? .keyword stub.shasum with
  | none => return 0
  | some index =>
    let tokens ← Tables.tokensOf .keyword index
    removeAll index tokens
    Tables.removeSummary .keyword stub.shasum
    let _ ← Tables.forgetStub .keyword stub.shasum
    return tokens.length

/-- All words, in the order of their bytes. -/
def known : Action Store (List String) := Tables.tokens .keyword

/-- The shasums of the pages with a word, in any case and with blanks around it. -/
def stubsOf (word : String) : Action Store (List String) := do
  let word := Text.lower (Text.trim word)
  if word = "" then return []
  else Tables.shasums .keyword (← Tables.tokenPostings .keyword word).stubs

/-- The summary of a page, if it has one. -/
def summary? (shasum : String) : Action Store (Option Summary) := do
  match ← Tables.summary? .keyword shasum with
  | some bytes => return some (← Summary.decode bytes)
  | none => return none

/-- Empties the index; returns how many entries it had. -/
def clear : Action Store Nat := Tables.clear .keyword

end SiteIndex.Index.Keywords
