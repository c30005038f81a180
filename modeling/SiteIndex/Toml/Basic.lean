import SiteIndex.Binary64.Basic

/-!
# TOML values

The values that a TOML document is made of. Dates and times are kept as they are written, in
parts, and `Moment.text` writes them in one form.
-/

namespace SiteIndex

namespace Toml

/-- A day of a calendar without a time zone. -/
structure Date where
  year : Nat
  month : Nat
  day : Nat
  deriving DecidableEq, Repr

/-- A time of day. The second may be a leap second. -/
structure TimeOfDay where
  hour : Nat
  minute : Nat
  second : Nat
  nanos : Nat := 0
  deriving DecidableEq, Repr

/-- How a time stands to the universal time. -/
inductive Offset where
  | universal
  | minutes (ahead : Int)
  deriving DecidableEq, Repr

/-- A date, a time or both, the latter perhaps with an offset. -/
structure Moment where
  date : Option Date := none
  time : Option TimeOfDay := none
  offset : Option Offset := none
  deriving DecidableEq, Repr

/-- A number in at least `width` digits. -/
def padded (width n : Nat) : String :=
  let digits := Nat.toDigits 10 n
  .ofList (List.replicate (width - digits.length) '0' ++ digits)

/-- `2024-01-31`. -/
def Date.text (d : Date) : String :=
  padded 4 d.year ++ "-" ++ padded 2 d.month ++ "-" ++ padded 2 d.day

/-- `07:32:00.5`, with as many decimals as there are. -/
def TimeOfDay.text (t : TimeOfDay) : String :=
  let decimals := (padded 9 t.nanos).toList.reverse.dropWhile (· = '0')
  padded 2 t.hour ++ ":" ++ padded 2 t.minute ++ ":" ++ padded 2 t.second
    ++ (if decimals.isEmpty then "" else .ofList ('.' :: decimals.reverse))

/-- `Z` or `+02:00`. -/
def Offset.text : Offset → String
  | universal => "Z"
  | minutes ahead =>
    (if ahead < 0 then "-" else "+")
      ++ padded 2 (ahead.natAbs / 60) ++ ":" ++ padded 2 (ahead.natAbs % 60)

/-- A moment with a `T` between its date and its time. -/
def Moment.text (m : Moment) : String :=
  let date := (m.date.map Date.text).getD ""
  let time := (m.time.map TimeOfDay.text).getD ""
  let offset := (m.offset.map Offset.text).getD ""
  date ++ (if m.date.isSome && m.time.isSome then "T" else "") ++ time ++ offset

end Toml

/-- A TOML value. -/
inductive Toml where
  | text (content : String)
  | int (number : Int64)
  | float (number : Binary64)
  | bool (truth : Bool)
  | time (moment : Toml.Moment)
  | array (items : List Toml)
  | table (fields : List (String × Toml))
  deriving Repr

end SiteIndex
