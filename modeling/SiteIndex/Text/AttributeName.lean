import SiteIndex.Text.Case

/-!
# Attribute names

Attribute names are spelled in many ways, and the library knows each by one spelling. Hyphens,
low lines, spaces and points part the words of a name, the first character is in lower case
and every later word starts in upper case: `page-type` and `Page_Type` are `pageType`.
-/

namespace SiteIndex.Text

/-- The characters that part the words of an attribute name. -/
def isNameSeparator (c : Char) : Bool := c = '-' || c = '_' || c = ' ' || c = '.'

/-- The rest of a name after its first character; `start` says that a word begins here. -/
def camelTail (start : Bool) : List Char → List Char
  | [] => []
  | c :: cs =>
    if isNameSeparator c then camelTail true cs
    else (if start then upperChar c else [c]) ++ camelTail false cs

/-- The camel case form of a name. -/
def camelChars (cs : List Char) : List Char :=
  match cs.dropWhile isNameSeparator with
  | [] => []
  | c :: rest => lowerChar c ++ camelTail false rest

/-- The camel case form of a name. -/
def camelCase (name : String) : String := .ofList (camelChars name.toList)

end SiteIndex.Text
