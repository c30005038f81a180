import SiteIndex.Page.Basic
import SiteIndex.Posting.Tables

/-!
# The index of attributes

Which pages carry which values of which attributes. A page is posted under every value of its
context, a list under each of its items; the content itself is not an attribute.
-/

namespace SiteIndex.Index.Attributes

open Page (Stub)
open Posting

/-- Attributes that are not indexed. -/
def unindexed : List String := ["content", "frontmatter"]

/-- The attributes of a context with their single values, in the order of the names. -/
def postings (context : Context) : List (String × Value) :=
  (context.entries.filter fun e => !unindexed.contains e.1).flatMap fun (name, value) =>
    value.fanOut.map (name, ·)

/-- Posts a stub under values; returns how many of them were new to it. -/
def addAll (index : UInt32) : List (String × Value) → Action Store Nat
  | [] => return 0
  | (name, value) :: rest => do
    let added ← Tables.addValue .context name value index
    let more ← addAll index rest
    return if added then more + 1 else more

/-- Posts a page under its values, unless it is indexed already; returns how many there are. -/
def add (stub : Stub) (page : Page) : Action Store Nat := do
  match ← Tables.stubIndex? .context stub.shasum with
  | some _ => return 0
  | none =>
    let index ← Tables.ensureStub .context stub.shasum
    addAll index (postings page.context)

/-- Takes a stub away from the values of an attribute; returns from how many. -/
def removeFrom (index : UInt32) (name : String) : List ValuePostings → Action Store Nat
  | [] => return 0
  | entry :: rest => do
    let removed ←
      if entry.postings.contains index then Tables.removeValue .context name entry.value index
      else pure false
    let more ← removeFrom index name rest
    return if removed then more + 1 else more

/-- Takes a stub away from every value of the attributes; returns from how many. -/
def removeFromAll (index : UInt32) : List String → Action Store Nat
  | [] => return 0
  | name :: rest => do
    let removed ← removeFrom index name (← Tables.values .context name)
    let more ← removeFromAll index rest
    return removed + more

/-- Takes a page out of the index; returns from how many values. -/
def remove (stub : Stub) : Action Store Nat := do
  match ← Tables.stubIndex? .context stub.shasum with
  | none => return 0
  | some index =>
    let removed ← removeFromAll index (← Tables.attributes .context)
    let _ ← Tables.forgetStub .context stub.shasum
    return removed

/-- The values of an attribute in the order in which they were first seen, with the shasums of
the pages that carry them. -/
def values (name : String) : Action Store (List (Value × List String)) := do
  (← Tables.values .context name).mapM fun entry =>
    return (entry.value, ← Tables.shasums .context entry.postings.stubs)

/-- The attributes that ever had a value. -/
def names : Action Store (List String) := Tables.attributes .context

/-- Empties the index; returns how many entries it had. -/
def clear : Action Store Nat := Tables.clear .context

end SiteIndex.Index.Attributes
