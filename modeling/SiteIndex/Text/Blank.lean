import SiteIndex.Text.Class

/-!
# Blanks around and between words

`trim` removes the blanks at both ends of a text and `chunks` cuts a text at its blanks, for
the White_Space property of Unicode. The ASCII blank of the query language has its own class.
-/

namespace SiteIndex.Text

/-- Drops the blanks in front. -/
def trimStart (cs : List Char) : List Char := cs.dropWhile isBlank

/-- Drops the blanks at the end. -/
def trimEnd (cs : List Char) : List Char := (cs.reverse.dropWhile isBlank).reverse

/-- Drops the blanks at both ends. -/
def trimChars (cs : List Char) : List Char := trimEnd (trimStart cs)

/-- The text without the blanks at both ends. -/
def trim (text : String) : String := .ofList (trimChars text.toList)

/-- Adds a character to the chunk that is being read, ahead of the chunks that follow it. -/
def pushChunk (c : Char) : List (List Char) → List (List Char)
  | [] => [[c]]
  | chunk :: rest => (c :: chunk) :: rest

/-- Cuts at every character of the class and keeps the pieces, empty ones too. -/
def splitBy (cut : Char → Bool) : List Char → List (List Char)
  | [] => [[]]
  | c :: cs => if cut c then [] :: splitBy cut cs else pushChunk c (splitBy cut cs)

/-- The pieces of a text between its blanks, none of them empty. -/
def chunks (cs : List Char) : List (List Char) :=
  (splitBy isBlank cs).filter (!·.isEmpty)

/-- The pieces joined by single spaces. -/
def collapse (text : String) : String :=
  " ".intercalate ((chunks text.toList).map .ofList)

end SiteIndex.Text
