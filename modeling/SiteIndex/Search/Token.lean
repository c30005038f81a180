import SiteIndex.Text.Blank
import SiteIndex.Text.Case
import SiteIndex.Text.Words

/-!
# Tokens

The words of a text in lower case, as they are indexed (`tokenize`, `uniqueTerms`), and the
terms of a keyword query, in which a sign before a word says whether it must or must not occur
(`queryTerms`).
-/

namespace SiteIndex.Search

/-- A word of a text. -/
structure Token where
  /-- The word in lower case. -/
  text : String
  /-- The number of the word among those that are kept. -/
  position : Nat
  /-- The byte offset of the word in the text. -/
  offset : Nat
  /-- The number of bytes of the word in the text. -/
  length : Nat
  deriving DecidableEq, Repr

/-- The length in bytes above which words are left out. -/
def maxTokenLength : Nat := 255

/-- Numbers the tokens in order. -/
def numberTokens (position : Nat) : List (Nat × List Char) → List Token
  | [] => []
  | (offset, word) :: rest =>
    { text := .ofList (Text.lowerChars word), position, offset, length := Text.byteLength word }
      :: numberTokens (position + 1) rest

/-- The words of a text that are not too long. -/
def tokenizeWithin (maxLength : Nat) (text : String) : List Token :=
  numberTokens 0
    ((Text.words text.toList).filter fun word => Text.byteLength word.2 ≤ maxLength)

/-- The words of a text. -/
def tokenize (text : String) : List Token := tokenizeWithin maxTokenLength text

/-- The list without repeats; of equal items the first one stays. -/
def distinct {α : Type} [BEq α] (items : List α) : List α :=
  items.foldl (fun seen x => if seen.contains x then seen else seen ++ [x]) []

/-- The distinct words of a text in the order of their first occurrence. -/
def uniqueTermsWithin (maxLength : Nat) (text : String) : List String :=
  distinct ((tokenizeWithin maxLength text).map (·.text))

/-- The distinct words of a text in the order of their first occurrence. -/
def uniqueTerms (text : String) : List String := uniqueTermsWithin maxTokenLength text

/-- How a term bears on the pages to be found. -/
inductive Occurrence where
  | must | should | mustNot
  deriving DecidableEq, Repr

/-- A term of a keyword query. -/
structure QueryTerm where
  text : String
  occurrence : Occurrence
  deriving DecidableEq, Repr

/-- The sign of a chunk of a query and the chunk without it. -/
def splitSign : List Char → Occurrence × List Char
  | '+' :: rest => (.must, rest)
  | '-' :: rest => (.mustNot, rest)
  | chunk => (.should, chunk)

/-- The words of a chunk with its sign. -/
def chunkTerms (maxLength : Nat) (chunk : List Char) : List QueryTerm :=
  let (occurrence, body) := splitSign chunk
  (tokenizeWithin maxLength (.ofList body)).map fun t => { text := t.text, occurrence }

/-- Adds a term unless its word is there already. -/
def addTerm (terms : List QueryTerm) (t : QueryTerm) : List QueryTerm :=
  if terms.any (·.text == t.text) then terms else terms ++ [t]

/-- The terms of a query. The first occurrence of a word decides its sign. -/
def queryTermsWithin (maxLength : Nat) (query : String) : List QueryTerm :=
  ((Text.chunks query.toList).flatMap (chunkTerms maxLength)).foldl addTerm []

/-- The terms of a query. -/
def queryTerms (query : String) : List QueryTerm := queryTermsWithin maxTokenLength query

end SiteIndex.Search
