import SiteIndex.Page.Basic
import SiteIndex.Page.Language

/-!
# The catalog of a site

Which pages there are, and where they are found: by their paths and addresses within a mount
and a language, by addresses that they had before, and by the pages that they translate. Pages
are registered one after the other; of two pages at one place the later one is found.
-/

namespace SiteIndex.Site

open Page (Stub normalizeUrl normalizeTag)

/-- The pages of one mount in one language. -/
structure Tree where
  paths : NameMap Stub := ∅
  urls : NameMap Stub := ∅

/-- The pages of a site. -/
structure Catalog where
  /-- The pages by mount point and language. -/
  trees : NameMap (NameMap Tree) := ∅
  /-- All pages by their shasums. -/
  stubs : NameMap Stub := ∅
  /-- The pages that stand for addresses of former times. -/
  redirects : NameMap Stub := ∅
  /-- The pages that translate the page at an address, in the order of their registration. -/
  translating : NameMap (List Stub) := ∅

/-- The tree with a page. -/
def Tree.register (t : Tree) (stub : Stub) (page : Page) : Tree :=
  let urls := t.urls.insert page.url stub
  { paths := t.paths.insert stub.source stub
    urls := match page.permalink with
      | some permalink => urls.insert permalink stub
      | none => urls }

namespace Catalog

/-- The pages of a mount in a language. -/
def tree? (c : Catalog) (point language : String) : Option Tree := do
  (← c.trees.get? point).get? language

/-- The catalog with a page. -/
def register (c : Catalog) (stub : Stub) (page : Page) : Catalog :=
  let languages := (c.trees.get? stub.mount).getD ∅
  let tree := ((languages.get? stub.language).getD {}).register stub page
  { trees := c.trees.insert stub.mount (languages.insert stub.language tree)
    stubs := c.stubs.insert stub.shasum stub
    redirects := page.redirects.foldl (fun m url => m.insert url stub) c.redirects
    translating := match page.translates with
      | some url => c.translating.insert url (((c.translating.get? url).getD []) ++ [stub])
      | none => c.translating }

/-- The page at an address or a path in one language, in the first mount that has one. -/
def lookupIn (c : Catalog) (points : List String) (language url : String) : Option Stub :=
  points.findSome? fun point => do
    let tree ← c.tree? point language
    (tree.urls.get? (normalizeUrl url)).or (tree.paths.get? (Files.cleanPath url))

/-- The page at an address or a path in a language, or else in the fallback. -/
def lookup (c : Catalog) (points : List String) (fallback language url : String) : Option Stub :=
  (c.lookupIn points (normalizeTag language) url).or (c.lookupIn points fallback url)

/-- An address is the one given or lies below it. -/
def isUnder (top url : String) : Bool :=
  url = top || (Files.dropFront? (if top = "/" then top else top ++ "/") url).isSome

/-- The entries of a tree at an address or below it, without the pages found before. -/
def entriesUnder (top : String) (found : List (String × Stub)) (tree : Tree) :
    List (String × Stub) :=
  tree.urls.entries.foldl (fun found e =>
    if isUnder top e.1 && !found.any (fun f => f.2.shasum = e.2.shasum) then found ++ [e]
    else found) found

/-- The pages in a language at an address or below it, each once, in the order of the addresses
at which they were found first. -/
def lookupPrefix (c : Catalog) (points : List String) (language url : String) : List Stub :=
  let trees := points.filterMap fun point => c.tree? point (normalizeTag language)
  let found := trees.foldl (entriesUnder (normalizeUrl url)) []
  (found.mergeSort fun a b => a.1 ≤ b.1).map (·.2)

/-- The page that had an address before. -/
def lookupRedirect (c : Catalog) (url : String) : Option Stub := c.redirects.get? (normalizeUrl url)

/-- The pages that translate the page at an address. -/
def lookupTranslating (c : Catalog) (url : String) : List Stub :=
  (c.translating.get? (normalizeUrl url)).getD []

/-- The pages of shasums; those that are not known are passed over. -/
def resolve (c : Catalog) (shasums : List String) : List Stub := shasums.filterMap c.stubs.get?

end Catalog

end SiteIndex.Site
