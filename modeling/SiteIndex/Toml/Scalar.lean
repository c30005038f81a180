import SiteIndex.Binary64.Read
import SiteIndex.Toml.Basic

/-!
# Strings, numbers and times in TOML texts

Each reader takes the front of a text and returns what it read with the text after it, or
nothing if the front is not well formed.
-/

namespace SiteIndex.Toml

/-- The blanks within a line. -/
def isBlank (c : Char) : Bool := c = ' ' || c = '\t'

/-- A character of a comment, a tab or any other that is not a control character. -/
def isVisible (c : Char) : Bool := c = '\t' || (' ' ≤ c && c ≠ '\x7f')

/-- Puts a character in front of what is read after it. -/
def push (c : Char) : Option (List Char × List Char) → Option (List Char × List Char) :=
  Option.map fun (body, rest) => (c :: body, rest)

/-- The value of a hexadecimal digit. -/
def hexDigit? (c : Char) : Option Nat :=
  if c.isDigit then some (c.toNat - '0'.toNat)
  else if 'a' ≤ c ∧ c ≤ 'f' then some (c.toNat - 'a'.toNat + 10)
  else if 'A' ≤ c ∧ c ≤ 'F' then some (c.toNat - 'A'.toNat + 10)
  else none

/-- The character whose code point the digits write. -/
def codePoint? (digits : List Char) : Option Char := do
  let n ← digits.foldlM (fun n c => return n * 16 + (← hexDigit? c)) 0
  if n.isValidChar then some (.ofNat n) else none

/-- The character of an escape and the text after it. -/
def escape? : List Char → Option (Char × List Char)
  | 'b' :: rest => some ('\x08', rest)
  | 't' :: rest => some ('\t', rest)
  | 'n' :: rest => some ('\n', rest)
  | 'f' :: rest => some ('\x0c', rest)
  | 'r' :: rest => some ('\r', rest)
  | '"' :: rest => some ('"', rest)
  | '\\' :: rest => some ('\\', rest)
  | 'u' :: rest =>
    if rest.length < 4 then none else (codePoint? (rest.take 4)).map (·, rest.drop 4)
  | 'U' :: rest =>
    if rest.length < 8 then none else (codePoint? (rest.take 8)).map (·, rest.drop 8)
  | _ => none

/-- The rest of a string in double quotes on one line. -/
def basicBody? : (fuel : Nat) → List Char → Option (List Char × List Char)
  | 0, _ => none
  | _ + 1, '"' :: rest => some ([], rest)
  | fuel + 1, '\\' :: rest => do
    let (c, rest) ← escape? rest
    push c (basicBody? fuel rest)
  | fuel + 1, c :: rest => if isVisible c then push c (basicBody? fuel rest) else none
  | _ + 1, [] => none

/-- The rest of a string in single quotes on one line. -/
def literalBody? : List Char → Option (List Char × List Char)
  | [] => none
  | '\'' :: rest => some ([], rest)
  | c :: rest => if isVisible c then push c (literalBody? rest) else none

/-- A line end at the front of a text. -/
def newline? : List Char → Option (List Char)
  | '\n' :: rest => some rest
  | '\r' :: '\n' :: rest => some rest
  | _ => none

/-- The text without a line end at its front. -/
def dropNewline (cs : List Char) : List Char := (newline? cs).getD cs

/-- Skips blanks and line ends. -/
def skipSpace : List Char → List Char
  | ' ' :: rest => skipSpace rest
  | '\t' :: rest => skipSpace rest
  | '\n' :: rest => skipSpace rest
  | '\r' :: '\n' :: rest => skipSpace rest
  | rest => rest

/-- Up to two quotes before the three that close a string belong to it. -/
def closing? (quote : Char) (cs : List Char) : Option (List Char × List Char) :=
  let run := (cs.takeWhile (· = quote)).length
  if run < 3 then none
  else some (List.replicate (min run 5 - 3) quote, cs.drop (min run 5))

/-- The rest of a string in three double quotes. A backslash at the end of a line joins the
line with the next text. -/
def basicLines? : (fuel : Nat) → List Char → Option (List Char × List Char)
  | 0, _ => none
  | fuel + 1, cs =>
    match cs with
    | [] => none
    | '"' :: rest =>
      match closing? '"' cs with
      | some (body, rest) => some (body, rest)
      | none => push '"' (basicLines? fuel rest)
    | '\\' :: rest =>
      match newline? (rest.dropWhile isBlank) with
      | some rest => basicLines? fuel (skipSpace rest)
      | none =>
        match escape? rest with
        | some (c, rest) => push c (basicLines? fuel rest)
        | none => none
    | '\n' :: rest => push '\n' (basicLines? fuel rest)
    | '\r' :: '\n' :: rest => push '\n' (basicLines? fuel rest)
    | c :: rest => if isVisible c then push c (basicLines? fuel rest) else none

/-- The rest of a string in three single quotes. -/
def literalLines? : List Char → Option (List Char × List Char)
  | [] => none
  | '\'' :: rest =>
    match closing? '\'' ('\'' :: rest) with
    | some (body, rest) => some (body, rest)
    | none => push '\'' (literalLines? rest)
  | '\n' :: rest => push '\n' (literalLines? rest)
  | '\r' :: '\n' :: rest => push '\n' (literalLines? rest)
  | c :: rest => if isVisible c then push c (literalLines? rest) else none

/-- A string on one line. -/
def line? : List Char → Option (List Char × List Char)
  | '"' :: rest => basicBody? (rest.length + 1) rest
  | '\'' :: rest => literalBody? rest
  | _ => none

/-- A string. -/
def string? : List Char → Option (List Char × List Char)
  | '"' :: '"' :: '"' :: rest =>
    let rest := dropNewline rest
    basicLines? (rest.length + 1) rest
  | '\'' :: '\'' :: '\'' :: rest => literalLines? (dropNewline rest)
  | cs => line? cs

/-- Digits of a class with single underscores between them, without the underscores. -/
def digits? (isDigit : Char → Bool) : List Char → Option (List Char × List Char)
  | [] => none
  | c :: rest =>
    if !isDigit c then none
    else
      match rest with
      | '_' :: rest => push c (digits? isDigit rest)
      | d :: rest =>
        if isDigit d then push c (digits? isDigit (d :: rest)) else some ([c], d :: rest)
      | [] => some ([c], [])

/-- The number that digits of a base write. -/
def inBase (base : Nat) (digits : List Char) : Nat :=
  digits.foldl (fun n c => n * base + (hexDigit? c).getD 0) 0

/-- An integer of sixty-four bits. -/
def int64? (n : Int) : Option Toml :=
  if -0x8000000000000000 ≤ n ∧ n < 0x8000000000000000 then some (.int (.ofInt n)) else none

/-- An integer with the mark of its base. -/
def based? (base : Nat) (isDigit : Char → Bool) (cs : List Char) : Option (Toml × List Char) := do
  let (digits, rest) ← digits? isDigit cs
  some (← int64? (inBase base digits), rest)

/-- The digits before the point: a zero in front stands alone. -/
def wholeDigits? : List Char → Option (List Char × List Char)
  | '0' :: rest => some (['0'], rest)
  | cs => digits? Char.isDigit cs

/-- The exponent of a float, if there is one. -/
def exponent? : List Char → Option (Int × List Char)
  | c :: rest =>
    if c = 'e' || c = 'E' then do
      let (negative, cs) := Binary64.splitSign rest
      let (digits, rest) ← digits? Char.isDigit cs
      let n : Int := Binary64.digitsValue digits
      some (if negative then -n else n, rest)
    else some (0, c :: rest)
  | [] => some (0, [])

/-- A float, which is not above the largest double. -/
def float? (negative : Bool) (digits : List Char) (exponent : Int) : Option Toml :=
  let x := Binary64.ofDecimal negative (Binary64.digitsValue digits) exponent
  if x = .infinity false then none else some (.float x)

/-- A number in decimal digits. -/
def decimal? (negative : Bool) (cs : List Char) : Option (Toml × List Char) := do
  let (whole, rest) ← wholeDigits? cs
  match rest with
  | '.' :: rest =>
    let (decimals, rest) ← digits? Char.isDigit rest
    let (exponent, rest) ← exponent? rest
    some (← float? negative (whole ++ decimals) (exponent - decimals.length), rest)
  | c :: _ =>
    if c = 'e' || c = 'E' then
      let (exponent, rest) ← exponent? rest
      some (← float? negative whole exponent, rest)
    else
      let n : Int := Binary64.digitsValue whole
      some (← int64? (if negative then -n else n), rest)
  | [] =>
    let n : Int := Binary64.digitsValue whole
    some (← int64? (if negative then -n else n), [])

/-- A number, or a word for one that is infinite or none at all. -/
def number? : List Char → Option (Toml × List Char)
  | '0' :: 'x' :: rest => based? 16 (fun c => (hexDigit? c).isSome) rest
  | '0' :: 'o' :: rest => based? 8 (fun c => '0' ≤ c && c ≤ '7') rest
  | '0' :: 'b' :: rest => based? 2 (fun c => c = '0' || c = '1') rest
  | cs =>
    match Binary64.splitSign cs with
    | (negative, 'i' :: 'n' :: 'f' :: rest) => some (.float (.infinity negative), rest)
    | (negative, 'n' :: 'a' :: 'n' :: rest) => some (.float (.nan negative), rest)
    | (negative, rest) => decimal? negative rest

/-- A number of exactly `width` digits. -/
def fixed? (width : Nat) (cs : List Char) : Option (Nat × List Char) :=
  let digits := cs.take width
  if digits.length = width && digits.all Char.isDigit then
    some (Binary64.digitsValue digits, cs.drop width)
  else none

/-- A character at the front of a text. -/
def expect? (c : Char) : List Char → Option (List Char)
  | d :: rest => if c = d then some rest else none
  | [] => none

/-- The year is one of four hundred that has a 29th of February. -/
def isLeapYear (year : Nat) : Bool := year % 4 = 0 && (year % 100 ≠ 0 || year % 400 = 0)

/-- The days of a month. -/
def daysIn (year month : Nat) : Nat :=
  if month = 2 then (if isLeapYear year then 29 else 28)
  else if month = 4 ∨ month = 6 ∨ month = 9 ∨ month = 11 then 30
  else 31

/-- A date. -/
def date? (cs : List Char) : Option (Date × List Char) := do
  let (year, rest) ← fixed? 4 cs
  let (month, rest) ← fixed? 2 (← expect? '-' rest)
  let (day, rest) ← fixed? 2 (← expect? '-' rest)
  if 1 ≤ month ∧ month ≤ 12 ∧ 1 ≤ day ∧ day ≤ daysIn year month then
    some (⟨year, month, day⟩, rest)
  else none

/-- Decimals of a second, if there are any, cut after the ninth. -/
def nanos? : List Char → Option (Nat × List Char)
  | '.' :: rest =>
    let digits := rest.takeWhile Char.isDigit
    let kept := digits.take 9
    if digits.isEmpty then none
    else some (Binary64.digitsValue kept * Nat.pow 10 (9 - kept.length), rest.dropWhile Char.isDigit)
  | rest => some (0, rest)

/-- A time of day. -/
def timeOfDay? (cs : List Char) : Option (TimeOfDay × List Char) := do
  let (hour, rest) ← fixed? 2 cs
  let (minute, rest) ← fixed? 2 (← expect? ':' rest)
  let (second, rest) ← fixed? 2 (← expect? ':' rest)
  let (nanos, rest) ← nanos? rest
  if hour < 24 ∧ minute < 60 ∧ second ≤ 60 then some (⟨hour, minute, second, nanos⟩, rest)
  else none

/-- An offset, if there is one. -/
def offset? : List Char → Option (Option Offset × List Char)
  | 'Z' :: rest => some (some .universal, rest)
  | 'z' :: rest => some (some .universal, rest)
  | c :: rest =>
    if c = '+' || c = '-' then do
      let (hour, rest) ← fixed? 2 rest
      let (minute, rest) ← fixed? 2 (← expect? ':' rest)
      let ahead : Int := hour * 60 + minute
      if hour < 24 ∧ minute < 60 then
        some (some (.minutes (if c = '-' then -ahead else ahead)), rest)
      else none
    else some (none, c :: rest)
  | [] => some (none, [])

/-- The text goes on with two digits and a colon, as only a time does. -/
def startsTime (cs : List Char) : Bool :=
  match fixed? 2 cs with
  | some (_, ':' :: _) => true
  | _ => false

/-- The text goes on with four digits and a hyphen, as only a date does. -/
def startsDate (cs : List Char) : Bool :=
  match fixed? 4 cs with
  | some (_, '-' :: _) => true
  | _ => false

/-- A date, perhaps with a time after a `T` or a space. -/
def dated? (cs : List Char) : Option (Moment × List Char) := do
  let (date, rest) ← date? cs
  match rest with
  | c :: after =>
    if (c = 'T' || c = 't' || c = ' ') && startsTime after then
      let (clock, rest) ← timeOfDay? after
      let (offset, rest) ← offset? rest
      some ({ date := some date, time := some clock, offset }, rest)
    else some ({ date := some date }, rest)
  | [] => some ({ date := some date }, [])

/-- A number, a date or a time. -/
def numeral? (cs : List Char) : Option (Toml × List Char) :=
  if startsDate cs then (dated? cs).map fun (m, rest) => (.time m, rest)
  else if startsTime cs then
    (timeOfDay? cs).map fun (t, rest) => (.time { time := some t }, rest)
  else number? cs

end SiteIndex.Toml
