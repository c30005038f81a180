import SiteIndex.Text.Category

/-!
# Quoted names in messages

A message shows a name between double quotes. Quotes and backslashes in it are escaped, and
so are the characters that a reader could not see or that would change the one before them.
-/

namespace SiteIndex.Text

/-- Categories whose characters have no visible form of their own. -/
def isInvisible (c : Char) : Bool :=
  c ≠ ' ' && (categoryCc.contains c || categoryCf.contains c || categoryCo.contains c
    || categoryCn.contains c || categoryZs.contains c || categoryZl.contains c
    || categoryZp.contains c)

/-- Marks that attach to the character before them. -/
def isCombining (c : Char) : Bool := categoryMn.contains c || categoryMe.contains c

/-- A character as it stands in a quoted name. -/
def escapeChar (c : Char) : List Char :=
  if c = '\x00' then ['\\', '0']
  else if c = '\t' then ['\\', 't']
  else if c = '\r' then ['\\', 'r']
  else if c = '\n' then ['\\', 'n']
  else if c = '\\' ∨ c = '"' then ['\\', c]
  else if isCombining c || isInvisible c then
    '\\' :: 'u' :: '\x7b' :: Nat.toDigits 16 c.toNat ++ ['\x7d']
  else [c]

/-- The name between quotation marks. -/
def quoted (name : String) : String :=
  .ofList ('"' :: name.toList.flatMap escapeChar ++ ['"'])

end SiteIndex.Text
