import SiteIndex.Pattern.CharSet

/-!
# Regular expressions

Regular expressions over characters with assertions about positions. `Regex.ends` gives all
positions where a match that starts at one of given positions can end; since only the question
whether a text holds a match is asked, it makes no difference which match is preferred.
-/

namespace SiteIndex.Pattern

/-- A condition on a position of a text. -/
inductive Assertion where
  | textStart | textEnd
  /-- The start or the end of a line; lines end with a line feed. -/
  | lineStart | lineEnd
  /-- The same where lines may also end with a carriage return. -/
  | lineStartAny | lineEndAny
  /-- A boundary of words; `ascii` words are made of ASCII characters. -/
  | wordBoundary (ascii : Bool)
  | notWordBoundary (ascii : Bool)
  | wordStart (ascii : Bool)
  | wordEnd (ascii : Bool)
  | wordStartHalf (ascii : Bool)
  | wordEndHalf (ascii : Bool)
  deriving DecidableEq, Repr

/-- A regular expression. -/
inductive Regex where
  | empty
  | chars (set : CharSet)
  | assertion (a : Assertion)
  | cat (left right : Regex)
  | alt (left right : Regex)
  /-- At least `least` and at most `most` times. -/
  | repeated (body : Regex) (least : Nat) (most : Option Nat)

/-- The word test of an assertion. -/
def isWord (ascii : Bool) (c : Option Char) : Bool :=
  c.any fun c => if ascii then CharSet.isAsciiWord c else Text.isWordCharacter c

/-- The assertion holds between the characters before and after a position. -/
def Assertion.holds (before after : Option Char) : Assertion → Bool
  | textStart => before.isNone
  | textEnd => after.isNone
  | lineStart => before.all (· = '\n')
  | lineEnd => after.all (· = '\n')
  | lineStartAny =>
    before.all fun c => c = '\n' || (c = '\r' && after ≠ some '\n')
  | lineEndAny =>
    after.all fun c => c = '\r' || (c = '\n' && before ≠ some '\r')
  | wordBoundary ascii => isWord ascii before != isWord ascii after
  | notWordBoundary ascii => isWord ascii before == isWord ascii after
  | wordStart ascii => !isWord ascii before && isWord ascii after
  | wordEnd ascii => isWord ascii before && !isWord ascii after
  | wordStartHalf ascii => !isWord ascii before
  | wordEndHalf ascii => !isWord ascii after

namespace Regex

/-- The states of an automaton for the expression, by which its size is limited. -/
def size : Regex → Nat
  | empty => 1
  | chars set => set.size
  | assertion _ => 1
  | cat a b => a.size + b.size
  | alt a b => a.size + b.size + 1
  | repeated body least most =>
    match most with
    | some most => body.size * most + 1
    | none => body.size * max least 1 + 1

/-- Adds positions to an ascending list of positions. -/
def merge : List Nat → List Nat → List Nat
  | [], ys => ys
  | x :: xs, ys => x :: (merge xs ys).filter (· ≠ x)

/-- Applies a step until no new position comes up, at most `fuel` times; a text with `n`
characters has `n + 1` positions. -/
def closure (step : List Nat → List Nat) : Nat → List Nat → List Nat → List Nat
  | 0, seen, _ => seen
  | fuel + 1, seen, fresh =>
    let new := (step fresh).filter (!seen.contains ·)
    if new.isEmpty then seen else closure step fuel (new ++ seen) new

/-- Applies a step a number of times; without positions there is nothing left to do. -/
def times (step : List Nat → List Nat) : Nat → List Nat → List Nat
  | 0, starts => starts
  | n + 1, starts => if starts.isEmpty then [] else times step n (step starts)

/-- Applies a step up to a number of times and gathers the positions. -/
def upTo (step : List Nat → List Nat) : Nat → List Nat → List Nat
  | 0, starts => starts
  | n + 1, starts => if starts.isEmpty then [] else merge starts (upTo step n (step starts))

/-- The positions where a match can end that starts at one of the given positions. -/
def ends (text : Array Char) : Regex → List Nat → List Nat
  | empty, starts => starts
  | chars set, starts => starts.filterMap fun i =>
    match text[i]? with
    | some c => if set.contains c then some (i + 1) else none
    | none => none
  | assertion a, starts => starts.filter fun i =>
    a.holds (if i = 0 then none else text[i - 1]?) text[i]?
  | cat a b, starts => ends text b (ends text a starts)
  | alt a b, starts => merge (ends text a starts) (ends text b starts)
  | repeated body least most, starts =>
    let after := times (ends text body) least starts
    match most with
    | some most => upTo (ends text body) (most - least) after
    | none => closure (ends text body) (text.size + 1) after after

/-- Some part of the text matches. -/
def isMatch (r : Regex) (text : String) : Bool :=
  let cs := text.toList.toArray
  !(r.ends cs (List.range (cs.size + 1))).isEmpty

end Regex

end SiteIndex.Pattern
