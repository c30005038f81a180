import SiteIndex.Files.Basic
import SiteIndex.Text.Utf8

/-!
# Stubs of pages

A stub stands for one revision of a page: for the content of a file at a place of the site. Its
shasum is the digest of the place and the content, so that the same content at the same place
has the same stub, and any change gives another one.
-/

namespace SiteIndex.Page

open Files (FileSystem)

/-- Where the file of a stub is found: a mount by its number, and the directory of it that holds
the pages of a language, if there is one. -/
structure Home where
  mount : Nat := 0
  dir : Option String := none
  deriving DecidableEq, Repr

/-- One revision of a page. -/
structure Stub where
  shasum : String
  /-- The path of the file below its home. -/
  source : String
  /-- The point at which the files are mounted. -/
  mount : String
  language : String
  /-- The language of pages that are not there in their own. -/
  fallback : String
  home : Home := {}
  deriving DecidableEq, Repr

/-- The bytes whose digest a stub is known by: each part is followed by a zero byte. -/
def identityBytes (mount language source content : String) : Bytes :=
  [mount, language, source, content].flatMap fun part => Text.Utf8.encode part ++ [0]

/-- The shasum of a stub. -/
def identity (mount language source content : String) : String :=
  Bytes.hex (Digest.sha256 (identityBytes mount language source content))

/-- The stub of a file with the content as it is. -/
def Stub.ofFile (files : FileSystem) (source mount language fallback : String) :
    Outcome Stub := do
  let content ← files.shasum source
  return { shasum := identity mount language source content, source, mount, language, fallback }

end SiteIndex.Page
