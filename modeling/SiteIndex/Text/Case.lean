import SiteIndex.Text.CaseTables

/-!
# Case mapping

Full lower and upper case in the sense of Unicode: a character may map to several. In a text
a capital sigma at the end of a word becomes the final sigma (`lower`). `caseVariants` lists
the characters that a comparison without regard to case takes for equal.
-/

namespace SiteIndex.Text

/-- The character that the run assigns to a code point that belongs to it. -/
def CaseRun.image? (c : Nat) (run : CaseRun) : Option Char :=
  if run.first ≤ c ∧ c ≤ run.last ∧ (c - run.first) % run.step = 0 then
    some (.ofNat (c + run.shift).toNat)
  else none

/-- The code point of the run that maps to `c`. -/
def CaseRun.preimage? (c : Nat) (run : CaseRun) : Option Char :=
  let source := (c - run.shift).toNat
  if run.image? source = some (.ofNat c) then some (.ofNat source) else none

/-- The lower case of one character. -/
def lowerChar (c : Char) : List Char :=
  if c = 'İ' then ['i', '\u0307']
  else [(lowerRuns.findSome? (·.image? c.toNat)).getD c]

/-- The upper case of one character. -/
def upperChar (c : Char) : List Char :=
  match upperExpansions.lookup c.toNat with
  | some codes => codes.map .ofNat
  | none => [(upperRuns.findSome? (·.image? c.toNat)).getD c]

/-- Whether the nearest character that is not ignored for case is cased. -/
def casedAhead (cs : List Char) : Bool :=
  match cs.dropWhile caseIgnorable.contains with
  | [] => false
  | c :: _ => cased.contains c

/-- A capital sigma is final after a cased character and not before one. -/
def lowerSigma (before after : List Char) : Char :=
  if casedAhead before && !casedAhead after then 'ς' else 'σ'

/-- Lower case of a text whose characters before `cs` are `before`, nearest first. -/
def lowerFrom (before : List Char) : List Char → List Char
  | [] => []
  | c :: cs =>
    (if c = 'Σ' then [lowerSigma before cs] else lowerChar c) ++ lowerFrom (c :: before) cs

/-- The lower case of a text. -/
def lowerChars (cs : List Char) : List Char := lowerFrom [] cs

/-- The lower case of a text. -/
def lower (text : String) : String := .ofList (lowerChars text.toList)

/-- ASCII lower case; every other character stays. -/
def lowerAscii (text : String) : String := .ofList (text.toList.map Char.toLower)

/-- Simple case folding of one character. -/
def foldChar (c : Char) : Char := (foldRuns.findSome? (·.image? c.toNat)).getD c

/-- The characters with the same simple case folding, the folding itself first. -/
def caseVariants (c : Char) : List Char :=
  let folded := foldChar c
  folded :: foldRuns.filterMap (·.preimage? folded.toNat)

end SiteIndex.Text
