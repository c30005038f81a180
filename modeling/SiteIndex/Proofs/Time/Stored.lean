import Mathlib.Algebra.Group.Nat.Defs
import SiteIndex.Proofs.Time.Calendar
import SiteIndex.Time.Reader

/-!
# Stored instants read back

Reading the stored text of an instant gives the instant (`ofStored?_storedText`), for all instants
that exist: those with a date in range and with leap seconds at the end of a minute only.
-/

namespace SiteIndex.Time

/-! ## Reading numbers -/

namespace Scan

variable {α β : Type} {cs rest : List Char}

/-- A reader that succeeds leaves the rest to the next one. -/
theorem bind_eq {x : Scan α} {f : α → Scan β} {a : α} (h : x cs = some (a, rest)) :
    (x >>= f) cs = f a rest := by
  show StateT.bind x f cs = _
  simp [StateT.bind, h]

/-- A given character is read. -/
theorem char_cons (c : Char) : char c (c :: rest) = some ((), rest) := by
  have hsatisfy : satisfy (· == c) (c :: rest) = some (c, rest) := by simp [satisfy]
  unfold char
  rw [bind_eq hsatisfy]
  rfl

/-- Nothing is skipped before a character of another class. -/
theorem skipWhile_eq {accept : Char → Bool} (h : ∀ c, cs.head? = some c → accept c = false) :
    skipWhile accept cs = some ((), cs) := by
  cases cs with
  | nil => rfl
  | cons c cs =>
      rw [skipWhile, List.dropWhile_cons_of_neg]
      simp [h c rfl]

/-- A text that does not go on with a digit. -/
def Stops (cs : List Char) : Prop := ∀ c, cs.head? = some c → c.isDigit = false

/-- A text that goes on with another character does not go on with a digit. -/
theorem stops_cons {c : Char} (h : c.isDigit = false) : Stops (c :: cs) := by
  intro d hd
  cases hd
  exact h

/-- The digits in front of a text that does not go on with one. -/
theorem digits_append {ds : List Char} {least : Nat} {most : Option Nat}
    (hdigits : ∀ c ∈ ds, c.isDigit = true) (hstop : Stops rest) (hleast : least ≤ ds.length)
    (hmost : ∀ n, most = some n → ds.length ≤ n) :
    digits least most (ds ++ rest) = some (ds, rest) := by
  have hrest : rest.takeWhile Char.isDigit = [] := by
    cases rest with
    | nil => rfl
    | cons c rest => rw [List.takeWhile_cons_of_neg (by simp [hstop c rfl])]
  have hrun : (ds ++ rest).takeWhile Char.isDigit = ds := by
    rw [List.takeWhile_append_of_pos hdigits, hrest, List.append_nil]
  unfold digits
  dsimp only
  rw [hrun]
  cases most with
  | none => simp [Nat.not_lt.2 hleast]
  | some n => simp [List.take_of_length_le (hmost n rfl), Nat.not_lt.2 hleast]

/-- The number in front of a text that does not go on with a digit. -/
theorem number_append {ds : List Char} {least : Nat} {most : Option Nat}
    (hdigits : ∀ c ∈ ds, c.isDigit = true) (hstop : Stops rest) (hleast : least ≤ ds.length)
    (hmost : ∀ n, most = some n → ds.length ≤ n) :
    number least most (ds ++ rest) = some (Nat.ofDigitChars 10 ds 0, rest) := by
  unfold number
  rw [bind_eq (digits_append hdigits hstop hleast hmost), Nat.ofDigitChars_eq_foldl]
  rfl

/-- No visible character of ASCII is a blank. -/
theorem isBlank_of_visible {c : Char} (hlow : 33 ≤ c.toNat) (hhigh : c.toNat ≤ 126) :
    Text.isBlank c = false := by
  have hranges : Text.whiteSpace.ranges = [(9, 13), (0x20, 0x20), (0x85, 0x85), (0xA0, 0xA0),
    (0x1680, 0x1680), (0x2000, 0x200A), (0x2028, 0x2029), (0x202F, 0x202F), (0x205F, 0x205F),
    (0x3000, 0x3000)] := by decide +kernel
  simp only [Text.isBlank, Text.CodeRanges.contains, hranges, Text.CodeRanges.mem]
  simp
  omega

/-- No digit is a blank. -/
theorem isBlank_of_isDigit {c : Char} (h : c.isDigit = true) : Text.isBlank c = false := by
  have hrange : 48 ≤ c.toNat ∧ c.toNat ≤ 57 := Char.isDigit_iff_toNat.1 h
  exact isBlank_of_visible (by omega) (by omega)

/-- No blank is skipped before another character. -/
theorem blanks_cons {c : Char} (h : Text.isBlank c = false) :
    blanks (c :: rest) = some ((), c :: rest) := by
  refine skipWhile_eq fun d hd => ?_
  cases hd
  exact h

/-- No blank is skipped before a digit. -/
theorem blanks_append {ds : List Char} (hdigits : ∀ c ∈ ds, c.isDigit = true) (hne : ds ≠ []) :
    blanks (ds ++ rest) = some ((), ds ++ rest) := by
  cases ds with
  | nil => exact absurd rfl hne
  | cons d ds => exact blanks_cons (isBlank_of_isDigit (hdigits d (List.mem_cons_self ..)))

/-- The next character is seen and stays. -/
theorem peek_eq : peek cs = some (cs.head?, cs) := rfl

end Scan

/-! ## Written numbers -/

namespace Instant

/-- The digits of a number with zeros in front up to a width. -/
def paddedDigits (width n : Nat) : List Char :=
  List.replicate (width - (Nat.toDigits 10 n).length) '0' ++ Nat.toDigits 10 n

variable {width n : Nat}

/-- The text of a number is made of its digits. -/
theorem toList_padded (width n : Nat) : (padded width n).toList = paddedDigits width n := by
  rw [padded, String.toList_ofList, paddedDigits]

/-- The written number consists of digits. -/
theorem isDigit_paddedDigits : ∀ c ∈ paddedDigits width n, c.isDigit = true := by
  intro c hc
  rcases List.mem_append.1 hc with hc | hc
  · rw [(List.mem_replicate.1 hc).2]
    rfl
  · exact Nat.isDigit_of_mem_toDigits (by decide) (by decide) hc

/-- The written number has the value of the number. -/
theorem ofDigitChars_paddedDigits (width n : Nat) :
    Nat.ofDigitChars 10 (paddedDigits width n) 0 = n := by
  rw [paddedDigits, Nat.ofDigitChars_append, Nat.ofDigitChars_replicate_zero, Nat.mul_zero,
    Nat.ofDigitChars_ten_toDigits]

/-- The written number has at least one digit. -/
theorem length_paddedDigits_pos : 1 ≤ (paddedDigits width n).length := by
  rw [paddedDigits, List.length_append]
  have := Nat.length_toDigits_pos (b := 10) (n := n)
  omega

/-- A number that fits the width is written in that width. -/
theorem length_paddedDigits (hwidth : 0 < width) (hn : n < 10 ^ width) :
    (paddedDigits width n).length = width := by
  have hle := (Nat.length_toDigits_le_iff (by decide) hwidth).2 hn
  rw [paddedDigits, List.length_append, List.length_replicate]
  omega

end Instant

/-! ## Reading the parts of an instant -/

namespace Scan

open Instant

variable {rest : List Char}

/-- A number of two digits is read. -/
theorem field_append {n : Nat} (hn : n < 100) (hstop : Stops rest) :
    field (paddedDigits 2 n ++ rest) = some (n, rest) := by
  have hlength : (paddedDigits 2 n).length = 2 := length_paddedDigits (by decide) hn
  have hne : paddedDigits 2 n ≠ [] := by
    intro h
    simp [h] at hlength
  unfold field
  rw [bind_eq (blanks_append isDigit_paddedDigits hne)]
  have hmost : ∀ k, some 2 = some k → (paddedDigits 2 n).length ≤ k := by
    intro k hk
    cases hk
    exact Nat.le_of_eq hlength
  rw [number_append isDigit_paddedDigits hstop length_paddedDigits_pos hmost,
    ofDigitChars_paddedDigits]

/-- A year that starts with a digit has at most four of them. -/
theorem year_digit {d : Char} (hd : d.isDigit = true) :
    year (d :: rest) = (do return ((← number 1 (some 4)) : Int) : Scan Int) (d :: rest) := by
  have hminus : d ≠ '-' := by
    rintro rfl
    cases hd
  have hplus : d ≠ '+' := by
    rintro rfl
    cases hd
  unfold year
  rw [bind_eq (blanks_cons (isBlank_of_isDigit hd)), bind_eq peek_eq, List.head?_cons]
  refine congrFun ?_ (d :: rest)
  split
  case h_1 heq => exact absurd (Option.some.inj heq) hminus
  case h_2 heq => exact absurd (Option.some.inj heq) hplus
  case h_3 => rfl

/-- Digits after a minus are a year before the first, however many there are. -/
theorem year_minus (n : Nat) (hstop : Stops rest) :
    year (("-" ++ padded 4 n).toList ++ rest) = some (-(n : Int), rest) := by
  have hchars : ("-" ++ padded 4 n).toList = '-' :: paddedDigits 4 n := by
    rw [String.toList_append, toList_padded]
    rfl
  have hminus : Text.isBlank '-' = false := isBlank_of_visible (by decide) (by decide)
  have hany : ∀ k, none = some k → (paddedDigits 4 n).length ≤ k := nofun
  rw [hchars, List.cons_append, year, bind_eq (blanks_cons hminus), bind_eq peek_eq]
  show (char '-' >>= _) _ = _
  rw [bind_eq (char_cons '-'),
    bind_eq (number_append isDigit_paddedDigits hstop length_paddedDigits_pos hany),
    ofDigitChars_paddedDigits]
  rfl

/-- Digits after a plus are a year, however many there are. -/
theorem year_plus (n : Nat) (hstop : Stops rest) :
    year (("+" ++ padded 4 n).toList ++ rest) = some ((n : Int), rest) := by
  have hchars : ("+" ++ padded 4 n).toList = '+' :: paddedDigits 4 n := by
    rw [String.toList_append, toList_padded]
    rfl
  have hplus : Text.isBlank '+' = false := isBlank_of_visible (by decide) (by decide)
  have hany : ∀ k, none = some k → (paddedDigits 4 n).length ≤ k := nofun
  rw [hchars, List.cons_append, year, bind_eq (blanks_cons hplus), bind_eq peek_eq]
  show (char '+' >>= _) _ = _
  rw [bind_eq (char_cons '+'),
    bind_eq (number_append isDigit_paddedDigits hstop length_paddedDigits_pos hany),
    ofDigitChars_paddedDigits]
  rfl

/-- Without a sign the reader takes at most four digits, and a short year has just four. -/
theorem year_short {n : Nat} (hn : n < 10 ^ 4) (hstop : Stops rest) :
    year ((padded 4 n).toList ++ rest) = some ((n : Int), rest) := by
  have hlength : (paddedDigits 4 n).length = 4 := length_paddedDigits (by decide) hn
  have hmost : ∀ k, some 4 = some k → (paddedDigits 4 n).length ≤ k := by
    intro k hk
    cases hk
    exact Nat.le_of_eq hlength
  rw [toList_padded]
  cases hds : paddedDigits 4 n with
  | nil => simp [hds] at hlength
  | cons d ds =>
      have hd : d.isDigit = true := isDigit_paddedDigits d (hds ▸ List.mem_cons_self ..)
      rw [List.cons_append, year_digit hd, ← List.cons_append, ← hds,
        bind_eq (number_append isDigit_paddedDigits hstop length_paddedDigits_pos hmost),
        ofDigitChars_paddedDigits]
      rfl

/-- A year is read as it is written. -/
theorem year_append (y : Int) (hstop : Stops rest) :
    year ((yearText y).toList ++ rest) = some (y, rest) := by
  unfold yearText
  split
  case isTrue hneg =>
    have hvalue : -(y.natAbs : Int) = y := by omega
    rw [year_minus y.natAbs hstop, hvalue]
  case isFalse hnonneg =>
    have hvalue : (y.toNat : Int) = y := by omega
    split
    case isTrue hshort => rw [year_short (by omega) hstop, hvalue]
    case isFalse hlong => rw [year_plus y.toNat hstop, hvalue]

/-- A date is read as it is written. -/
theorem date_append {d : Date} (hmonth : d.month < 100) (hday : d.day < 100)
    (hstop : Stops rest) :
    date blanks ((yearText d.year).toList ++ '-' :: (paddedDigits 2 d.month
      ++ '-' :: (paddedDigits 2 d.day ++ rest))) = some (d, rest) := by
  have hminus : Text.isBlank '-' = false := isBlank_of_visible (by decide) (by decide)
  unfold date
  rw [bind_eq (year_append d.year (stops_cons rfl)), bind_eq (blanks_cons hminus),
    bind_eq (char_cons '-'), bind_eq (field_append hmonth (stops_cons rfl)),
    bind_eq (blanks_cons hminus), bind_eq (char_cons '-'), bind_eq (field_append hday hstop)]
  rfl

/-- A time of day is read as it is written. -/
theorem clock_append {hour minute second : Nat} (hhour : hour < 100) (hminute : minute < 100)
    (hsecond : second < 100) (hstop : Stops rest) :
    clock blanks (paddedDigits 2 hour ++ ':' :: (paddedDigits 2 minute
      ++ ':' :: (paddedDigits 2 second ++ rest))) = some ((hour, minute, second), rest) := by
  have hcolon : Text.isBlank ':' = false := isBlank_of_visible (by decide) (by decide)
  unfold clock
  rw [bind_eq (field_append hhour (stops_cons rfl)), bind_eq (blanks_cons hcolon),
    bind_eq (char_cons ':'), bind_eq (field_append hminute (stops_cons rfl)),
    bind_eq (blanks_cons hcolon), bind_eq (char_cons ':'), bind_eq (field_append hsecond hstop)]
  rfl

/-- Without a point there is no fraction of a second. -/
theorem fraction_none {c : Char} (h : c ≠ '.') : fraction (c :: rest) = some (0, c :: rest) := by
  unfold fraction
  rw [bind_eq peek_eq, List.head?_cons]
  show _ = (pure 0 : Scan Nat) (c :: rest)
  refine congrFun ?_ (c :: rest)
  split
  case h_1 heq => exact absurd (Option.some.inj heq) h
  case h_2 => rfl

/-- A fraction of a second is read from the digits after its point. -/
theorem fraction_digits {width n : Nat} (hwidth : 0 < width) (hnine : width ≤ 9)
    (hn : n < 10 ^ width) (hstop : Stops rest) :
    fraction ('.' :: (paddedDigits width n ++ rest)) = some (10 ^ (9 - width) * n, rest) := by
  have hlength := length_paddedDigits hwidth hn
  have hany : ∀ k, none = some k → (paddedDigits width n).length ≤ k := by
    intro k hk
    cases hk
  unfold fraction
  rw [bind_eq peek_eq]
  show (char '.' >>= _) _ = _
  rw [bind_eq (char_cons '.'),
    bind_eq (digits_append isDigit_paddedDigits hstop length_paddedDigits_pos hany)]
  have htake : (paddedDigits width n).take 9 = paddedDigits width n :=
    List.take_of_length_le (by omega)
  have hvalue : Nat.ofDigitChars 10
      (paddedDigits width n ++ List.replicate (9 - width) '0') 0 = 10 ^ (9 - width) * n := by
    rw [Nat.ofDigitChars_append, Nat.ofDigitChars_replicate_zero, ofDigitChars_paddedDigits]
  rw [Nat.ofDigitChars_eq_foldl] at hvalue
  rw [htake, hlength]
  exact congrArg (fun v => some (v, rest)) hvalue

/-- A fraction of a second is read as it is written. -/
theorem fraction_append {n : Nat} (hn : n < 1000000000) {c : Char} (hc : c.isDigit = false)
    (hpoint : c ≠ '.') :
    fraction ((fractionText n).toList ++ c :: rest) = some (n, c :: rest) := by
  have hchars : ∀ w k, ("." ++ padded w k).toList ++ c :: rest
      = '.' :: (paddedDigits w k ++ c :: rest) := by
    intro w k
    rw [String.toList_append, toList_padded]
    rfl
  unfold fractionText
  split
  case isTrue hzero =>
    subst hzero
    exact fraction_none hpoint
  case isFalse hnonzero =>
    split
    case isTrue hthree =>
      have hvalue : 10 ^ (9 - 3) * (n / 1000000) = n := by omega
      rw [hchars, fraction_digits (by decide) (by decide) (by omega) (stops_cons hc), hvalue]
    case isFalse =>
      split
      case isTrue hsix =>
        have hvalue : 10 ^ (9 - 6) * (n / 1000) = n := by omega
        rw [hchars, fraction_digits (by decide) (by decide) (by omega) (stops_cons hc), hvalue]
      case isFalse =>
        have hvalue : 10 ^ (9 - 9) * n = n := by omega
        rw [hchars, fraction_digits (by decide) (by decide) (by omega) (stops_cons hc), hvalue]

/-- A fraction of a second does not go on with a digit. -/
theorem stops_fractionText {n : Nat} {c : Char} (hc : c.isDigit = false) :
    Stops ((fractionText n).toList ++ c :: rest) := by
  have hpoint : ∀ w k, Stops (("." ++ padded w k).toList ++ c :: rest) := by
    intro w k
    rw [String.toList_append]
    exact stops_cons rfl
  unfold fractionText
  split
  · exact stops_cons hc
  · split
    · exact hpoint _ _
    · split
      · exact hpoint _ _
      · exact hpoint _ _

/-- The letter Z is an offset of zero. -/
theorem storedOffset_zulu : storedOffset ['Z'] = some (0, []) := rfl

end Scan

/-! ## Whole instants -/

namespace Instant

open Scan

/-- The instant has a date in range, and leap seconds at the end of a minute only. -/
structure Exists (t : Instant) : Prop where
  inRange : Date.yearInRange (Date.ofDays t.day).year = true
  leap : 1000000000 ≤ t.nanos.val → t.second.val % 60 = 59

variable {t : Instant}

/-- An instant is put together from its parts again. -/
theorem ofLocal?_parts (h : t.Exists) :
    ofLocal? (Date.ofDays t.day) (t.second.val / 3600) (t.second.val / 60 % 60)
      (t.second.val % 60 + t.nanos.val / 1000000000) (t.nanos.val % 1000000000) 0 = some t := by
  have hsecond := t.second.isLt
  have hnanos := t.nanos.isLt
  have hleap := h.leap
  have hvalid := Date.isValid_ofDays h.inRange
  have hwhole : min (t.second.val % 60 + t.nanos.val / 1000000000) 59 = t.second.val % 60 := by
    omega
  have hfraction : (if t.second.val % 60 + t.nanos.val / 1000000000 = 60
      then 1000000000 + t.nanos.val % 1000000000 else t.nanos.val % 1000000000)
        = t.nanos.val := by
    split <;> omega
  have htotal : (Date.ofDays t.day).toDays * 86400 + ((t.second.val / 3600 * 3600
      + t.second.val / 60 % 60 * 60 + t.second.val % 60 : Nat) : Int) - 0
        = t.day * 86400 + t.second.val := by
    rw [Date.toDays_ofDays]
    omega
  have hday : (t.day * 86400 + (t.second.val : Int)) / 86400 = t.day := by omega
  have hrest : ((t.day * 86400 + (t.second.val : Int)) % 86400).toNat = t.second.val := by omega
  have hchecks : (t.second.val / 3600 < 24 ∧ t.second.val / 60 % 60 < 60 ∧
      t.second.val % 60 + t.nanos.val / 1000000000 ≤ 60) ∧
      t.nanos.val % 1000000000 < 1000000000 := by omega
  unfold ofLocal?
  simp only [hvalid, hchecks, decide_true, Bool.and_self, if_true, hwhole, hfraction, htotal,
    hday, h.inRange, hrest, Fin.ofNat_val_eq_self]

/-- The characters of a stored instant. -/
theorem toList_storedText (t : Instant) :
    t.storedText.toList = (yearText (Date.ofDays t.day).year).toList
      ++ '-' :: (paddedDigits 2 (Date.ofDays t.day).month
      ++ '-' :: (paddedDigits 2 (Date.ofDays t.day).day
      ++ 'T' :: (paddedDigits 2 (t.second.val / 3600)
      ++ ':' :: (paddedDigits 2 (t.second.val / 60 % 60)
      ++ ':' :: (paddedDigits 2 (t.second.val % 60 + t.nanos.val / 1000000000)
      ++ ((fractionText (t.nanos.val % 1000000000)).toList ++ ['Z'])))))) := by
  simp [storedText, localText, String.toList_append, toList_padded]

/-- The month and the day of the month have two digits at most. -/
theorem month_day_lt (day : Int) : (Date.ofDays day).month < 100 ∧ (Date.ofDays day).day < 100 := by
  obtain ⟨_, hmonth, _, hday⟩ := Date.ofDays_fields day
  have hdays : daysInMonth (Date.ofDays day).year (Date.ofDays day).month ≤ 31 := by
    unfold daysInMonth
    split <;> split <;> omega
  exact ⟨by omega, by omega⟩

/-- The stored text of an instant denotes that instant. -/
theorem ofStored?_storedText (h : t.Exists) : ofStored? t.storedText = some t := by
  have hsecond := t.second.isLt
  have hnanos := t.nanos.isLt
  obtain ⟨hmonth, hday⟩ := month_day_lt t.day
  have hread : stored t.storedText.toList = some (t, []) := by
    unfold stored
    rw [toList_storedText, bind_eq (date_append hmonth hday (stops_cons rfl))]
    have hmark : ∀ cs, dateTimeMark ('T' :: cs) = some ((), cs) := fun _ => rfl
    rw [bind_eq (hmark _), bind_eq (clock_append (by omega) (by omega) (by omega)
      (stops_fractionText rfl))]
    show (fraction >>= _) _ = _
    have hzulu : Text.isBlank 'Z' = false := isBlank_of_visible (by decide) (by decide)
    rw [bind_eq (fraction_append (by omega) rfl (by decide)), bind_eq (blanks_cons hzulu),
      bind_eq storedOffset_zulu]
    have hempty : blanks [] = some ((), []) := rfl
    have hfinish : finish [] = some ((), []) := rfl
    rw [bind_eq hempty, bind_eq hfinish]
    show StateT.lift (ofLocal? _ _ _ _ _ 0) [] = _
    rw [ofLocal?_parts h]
    rfl
  rw [ofStored?, hread]
  rfl

/-- A number of at most nine digits is not written with more. -/
theorem length_paddedDigits_le {width n : Nat} (hwidth : width ≤ 9) (hn : n < 10 ^ 9) :
    (paddedDigits width n).length ≤ 9 := by
  have hdigits := (Nat.length_toDigits_le_iff (by decide) (show 0 < 9 by decide)).2 hn
  rw [paddedDigits, List.length_append, List.length_replicate]
  omega

/-- Nor is it with a character in front. -/
theorem length_append_padded_le {front : String} (hfront : front.toList.length = 1) {width n : Nat}
    (hwidth : width ≤ 9) (hn : n < 10 ^ 9) : (front ++ padded width n).toList.length ≤ 10 := by
  have hdigits := length_paddedDigits_le hwidth hn
  rw [String.toList_append, toList_padded, List.length_append]
  omega

/-- A year in range is short. -/
theorem length_yearText_le {year : Int} (h : Date.yearInRange year = true) :
    (yearText year).toList.length ≤ 10 := by
  simp only [Date.yearInRange, Bool.and_eq_true, decide_eq_true_eq] at h
  unfold yearText
  split
  · exact length_append_padded_le rfl (by decide) (by omega)
  · split
    · rw [toList_padded]
      exact Nat.le_succ_of_le (length_paddedDigits_le (by decide) (by omega))
    · exact length_append_padded_le rfl (by decide) (by omega)

/-- A fraction of a second is short. -/
theorem length_fractionText_le {n : Nat} (hn : n < 10 ^ 9) :
    (fractionText n).toList.length ≤ 10 := by
  unfold fractionText
  split
  · decide
  · split
    · exact length_append_padded_le rfl (by decide) (by omega)
    · split
      · exact length_append_padded_le rfl (by decide) (by omega)
      · exact length_append_padded_le rfl (by decide) hn

/-- The stored text of an instant is short. -/
theorem length_storedText_le (h : t.Exists) : t.storedText.toList.length ≤ 100 := by
  have hsecond := t.second.isLt
  have hnanos := t.nanos.isLt
  obtain ⟨hmonth, hday⟩ := month_day_lt t.day
  have hyear := length_yearText_le h.inRange
  have hfraction := length_fractionText_le
    (show t.nanos.val % 1000000000 < 10 ^ 9 from Nat.mod_lt _ (by decide))
  have htwo : ∀ n, n < 100 → (paddedDigits 2 n).length = 2 := fun n hn =>
    length_paddedDigits (by decide) hn
  rw [toList_storedText]
  simp only [List.length_append, List.length_cons, List.length_nil]
  rw [htwo _ hmonth, htwo _ hday, htwo _ (by omega), htwo _ (by omega), htwo _ (by omega)]
  omega

end Instant

end SiteIndex.Time
