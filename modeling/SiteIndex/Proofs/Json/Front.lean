import SiteIndex.Json.Reader
import SiteIndex.Proofs.Query.Tokens

/-!
# A value at the front of a text

What is read from the front of a text depends on the part that it takes, and on the character
behind that part at most: a number goes on as long as it can, everything else has its own end. So
the part that a value takes holds that value in every text that goes on in the same way
(`Number.read?_front`, `stringBody?_front`, `readFront?_front`), and the object at the front of a
text is a text of its own (`readFront?_object`). The induction for values is on the fuel; its claim
for items and fields (`Fronts`) leaves the text behind them open, since each of them reads its
closing bracket.
-/

namespace SiteIndex.Json

open Query.Grammar (NotNext run_iff)

variable {α : Type}

/-- A text goes on with a character of a class unless it does not. -/
theorem exists_of_not_notNext {p : Char → Bool} {cs : List Char} (h : ¬ NotNext p cs) :
    ∃ c rest, cs = c :: rest ∧ p c = true := by
  cases cs with
  | nil => exact absurd Query.Grammar.notNext_nil h
  | cons c rest => exact ⟨c, rest, rfl, by simpa using h⟩

/-- Texts that go on alike stay so behind a common front. -/
theorem head?_append_congr {rest more : List α} (front : List α) (h : more.head? = rest.head?) :
    (front ++ more).head? = (front ++ rest).head? := by
  cases front with
  | nil => exact h
  | cons c front => rfl

/-- A run of a class ends at the same place in a text that goes on alike. -/
theorem run_congr {p : Char → Bool} {cs more : List Char}
    (h : more.head? = (cs.dropWhile p).head?) :
    (cs.takeWhile p ++ more).takeWhile p = cs.takeWhile p ∧
      (cs.takeWhile p ++ more).dropWhile p = more := by
  obtain ⟨hrun, hnext, -⟩ := run_iff.1 (⟨rfl, rfl⟩ : cs.takeWhile p = _ ∧ cs.dropWhile p = _)
  refine run_iff.2 ⟨hrun, fun c hc => hnext c ?_, rfl⟩
  rwa [← h]

/-- From the front of a text the reader takes `a`, which leaves `rest`, and it takes the same from
every text with that front that goes on with the same character. -/
def TakesFront (read : List Char → Option (α × List Char)) (cs : List Char) (a : α)
    (rest : List Char) : Prop :=
  ∃ front, cs = front ++ rest ∧
    ∀ more, more.head? = rest.head? → read (front ++ more) = some (a, more)

namespace TakesFront

variable {read next : List Char → Option (α × List Char)} {cs rest : List Char} {a : α}

/-- A reader that takes nothing. -/
theorem of_rest (h : ∀ more, more.head? = rest.head? → read more = some (a, more)) :
    TakesFront read rest a rest :=
  ⟨[], rfl, h⟩

/-- A reader that takes a character and goes on with another one. -/
theorem cons {c : Char} (h : TakesFront next cs a rest)
    (hread : ∀ more, read (c :: more) = next more) : TakesFront read (c :: cs) a rest := by
  obtain ⟨front, rfl, hfront⟩ := h
  exact ⟨c :: front, rfl, fun more hmore => (hread _).trans (hfront more hmore)⟩

/-- A reader that takes a run of a class and goes on with another one. -/
theorem run {p : Char → Bool} (h : TakesFront next (cs.dropWhile p) a rest)
    (hread : ∀ more, more.takeWhile p = cs.takeWhile p → read more = next (more.dropWhile p)) :
    TakesFront read cs a rest := by
  obtain ⟨front, hdrop, hfront⟩ := h
  have hcs : cs = cs.takeWhile p ++ front ++ rest := by
    rw [List.append_assoc, ← hdrop, List.takeWhile_append_dropWhile]
  refine ⟨cs.takeWhile p ++ front, hcs, fun more hmore => ?_⟩
  have hhead : (front ++ more).head? = (cs.dropWhile p).head? :=
    hdrop ▸ head?_append_congr front hmore
  obtain ⟨htake, hdrop'⟩ := run_congr hhead
  rw [List.append_assoc, hread _ htake, hdrop']
  exact hfront more hmore

/-- A reader that looks at the next character and makes something of what another one takes. -/
theorem map {β : Type} {made : List Char → Option (β × List Char)} {b : β}
    (h : TakesFront read cs a rest)
    (hmade : ∀ more left, more.head? = cs.head? → read more = some (a, left) →
      made more = some (b, left)) : TakesFront made cs b rest := by
  obtain ⟨front, rfl, hfront⟩ := h
  exact ⟨front, rfl, fun more hmore =>
    hmade _ _ (head?_append_congr front hmore) (hfront more hmore)⟩

end TakesFront

/-- The value is a number. -/
def isNumber : Json → Bool
  | .int _ | .float _ => true
  | _ => false

/-! ## Numbers -/

namespace Number

variable {negative : Bool} {digits cs rest : List Char} {v : Json}

/-- The digits of an exponent behind its sign. -/
def magnitude? (negative : Bool) (cs : List Char) : Option (Int × List Char) :=
  if (cs.takeWhile Char.isDigit).isEmpty then none
  else
    let n : Int := Binary64.digitsValue (cs.takeWhile Char.isDigit)
    some (if negative then -n else n, cs.dropWhile Char.isDigit)

theorem exponent?_cons (c : Char) (cs : List Char) :
    exponent? (c :: cs) = if c = '-' then magnitude? true cs
      else if c = '+' then magnitude? false cs else magnitude? false (c :: cs) := by
  unfold exponent?
  by_cases hminus : c = '-'
  · rw [if_pos hminus]
    simp only [if_pos hminus]
    rfl
  · rw [if_neg hminus]
    by_cases hplus : c = '+'
    · rw [if_pos hplus]
      simp only [if_neg hminus, if_pos hplus]
      rfl
    · rw [if_neg hplus]
      simp only [if_neg hminus, if_neg hplus]
      rfl

theorem magnitude?_front {n : Int} (h : magnitude? negative cs = some (n, rest)) :
    TakesFront (magnitude? negative) cs n rest := by
  have hread : ∀ more, more.takeWhile Char.isDigit = cs.takeWhile Char.isDigit →
      magnitude? negative more = some (n, more.dropWhile Char.isDigit) := by
    intro more hmore
    rw [magnitude?] at h ⊢
    rw [hmore]
    by_cases hempty : (cs.takeWhile Char.isDigit).isEmpty = true
    · rw [if_pos hempty] at h
      cases h
    · rw [if_neg hempty] at h ⊢
      obtain ⟨rfl, -⟩ := Prod.mk.inj (Option.some.inj h)
      rfl
  obtain ⟨-, rfl⟩ := Prod.mk.inj (Option.some.inj (h.symm.trans (hread cs rfl)))
  exact TakesFront.run (.of_rest fun _ _ => rfl) hread

/-- An exponent is read in the same way from every text that goes on in the same way. -/
theorem exponent?_front {n : Int} (h : exponent? cs = some (n, rest)) :
    TakesFront exponent? cs n rest := by
  cases cs with
  | nil => cases h
  | cons c cs =>
      rw [exponent?_cons] at h
      split_ifs at h with hminus hplus
      · exact (magnitude?_front h).cons fun more => by rw [exponent?_cons, if_pos hminus]
      · exact (magnitude?_front h).cons fun more => by
          rw [exponent?_cons, if_neg hminus, if_pos hplus]
      · refine (magnitude?_front h).map fun more left hmore hleft => ?_
        obtain ⟨more, rfl⟩ := List.head?_eq_some_iff.1 hmore
        rw [exponent?_cons, if_neg hminus, if_neg hplus, hleft]

/-- The characters that announce an exponent. -/
def isMark (c : Char) : Bool := c = 'e' || c = 'E'

theorem scale_of_notNext {number : Scaled} (h : NotNext isMark cs) :
    tail?.scale negative number cs = number.toFloat?.map fun x => (signed negative x, cs) := by
  cases cs with
  | nil => cases hx : number.toFloat? <;> simp [tail?.scale, hx]
  | cons c cs =>
      have hmark : ¬ (decide (c = 'e') || decide (c = 'E')) = true :=
        Bool.eq_false_iff.1 (h c rfl)
      rw [tail?.scale, if_neg hmark]
      cases hx : number.toFloat? <;> rfl

theorem scale_cons {number : Scaled} {c : Char} (h : isMark c = true) (cs : List Char) :
    tail?.scale negative number (c :: cs) = (exponent? cs).bind fun (e, rest) =>
      ({ number with exponent := number.exponent + e }.toFloat?).map
        fun x => (signed negative x, rest) := by
  have hmark : (decide (c = 'e') || decide (c = 'E')) = true := h
  rw [tail?.scale, if_pos hmark]
  cases exponent? cs with
  | none => rfl
  | some read =>
      show (Scaled.toFloat? _ >>= _) = Option.map _ (Scaled.toFloat? _)
      cases Scaled.toFloat? _ <;> rfl

/-- A number is scaled in the same way in every text that goes on in the same way. -/
theorem scale_front {number : Scaled} (h : tail?.scale negative number cs = some (v, rest)) :
    v.isNumber = true ∧ TakesFront (tail?.scale negative number) cs v rest := by
  by_cases hmark : NotNext isMark cs
  · rw [scale_of_notNext hmark] at h
    obtain ⟨x, hx, hv⟩ := Option.map_eq_some_iff.1 h
    obtain ⟨rfl, rfl⟩ := Prod.mk.inj hv
    refine ⟨rfl, .of_rest fun more hmore => ?_⟩
    rw [scale_of_notNext (fun c hc => hmark c (hmore ▸ hc)), hx]
    rfl
  · obtain ⟨c, cs, rfl, hc⟩ := exists_of_not_notNext hmark
    rw [scale_cons hc] at h
    obtain ⟨⟨e, left⟩, hexponent, hscaled⟩ := Option.bind_eq_some_iff.1 h
    obtain ⟨x, hx, hv⟩ := Option.map_eq_some_iff.1 hscaled
    obtain ⟨rfl, rfl⟩ := Prod.mk.inj hv
    have hrun : TakesFront (fun cs => tail?.scale negative number (c :: cs)) cs
        (signed negative x) left :=
      (exponent?_front hexponent).map fun more left _ hleft => by
        rw [scale_cons hc, hleft, Option.bind_some]
        show Option.map _ (Scaled.toFloat? _) = _
        rw [hx]
        rfl
    exact ⟨rfl, hrun.cons fun _ => rfl⟩

/-- The characters that carry a number on behind its first digits. -/
def goesOn (c : Char) : Bool := c = '.' || isMark c

theorem tail?_point (cs : List Char) :
    tail? negative digits ('.' :: cs) = if (cs.takeWhile Char.isDigit).isEmpty then none
      else tail?.scale negative (fraction (whole 0 digits) (cs.takeWhile Char.isDigit))
        (cs.dropWhile Char.isDigit) := rfl

theorem tail?_mark {c : Char} (h : isMark c = true) (cs : List Char) :
    tail? negative digits (c :: cs) = tail?.scale negative (whole 0 digits) (c :: cs) := by
  have hpoint : c ≠ '.' := by
    rintro rfl
    exact absurd h (by decide)
  have hmark : (decide (c = 'e') || decide (c = 'E')) = true := h
  rw [tail?, if_pos hmark]
  exact hpoint

theorem tail?_of_notNext (h : NotNext goesOn cs) :
    tail? negative digits cs = tail?.integer negative digits cs := by
  cases cs with
  | nil => rw [tail?]
  | cons c cs =>
      obtain ⟨hpoint, hmark⟩ := Bool.or_eq_false_iff.1 (h c rfl)
      have hmark' : ¬ (decide (c = 'e') || decide (c = 'E')) = true := Bool.eq_false_iff.1 hmark
      rw [tail?, if_neg hmark']
      exact of_decide_eq_false hpoint

/-- The value of a number without a fraction and an exponent. -/
def plain? (negative : Bool) (digits : List Char) : Option Json :=
  if isIntegral negative (Binary64.digitsValue digits) then
    some (.int (if negative then -(Binary64.digitsValue digits) else Binary64.digitsValue digits))
  else (whole 0 digits).toFloat?.map (signed negative)

theorem isNumber_of_plain? (h : plain? negative digits = some v) : v.isNumber = true := by
  unfold plain? at h
  split at h
  · obtain rfl := Option.some.inj h
    rfl
  · obtain ⟨x, -, rfl⟩ := Option.map_eq_some_iff.1 h
    rfl

theorem integer_eq (cs : List Char) :
    tail?.integer negative digits cs = (plain? negative digits).map fun v => (v, cs) := by
  unfold tail?.integer plain?
  by_cases hintegral : isIntegral negative (Binary64.digitsValue digits) = true
  · simp only [if_pos hintegral, Option.map_some]
  · simp only [if_neg hintegral]
    cases (whole 0 digits).toFloat? <;> rfl

/-- The rest of a number behind its first digits is the same in every text that goes on in the same
way. -/
theorem tail?_front (h : tail? negative digits cs = some (v, rest)) :
    v.isNumber = true ∧ TakesFront (tail? negative digits) cs v rest := by
  by_cases hnext : NotNext goesOn cs
  · rw [tail?_of_notNext hnext, integer_eq] at h
    obtain ⟨v, hplain, hv⟩ := Option.map_eq_some_iff.1 h
    obtain ⟨rfl, rfl⟩ := Prod.mk.inj hv
    refine ⟨isNumber_of_plain? hplain, .of_rest fun more hmore => ?_⟩
    rw [tail?_of_notNext fun c hc => hnext c (hmore ▸ hc), integer_eq, hplain, Option.map_some]
  · obtain ⟨c, cs, rfl, hc⟩ := exists_of_not_notNext hnext
    by_cases hmark : isMark c = true
    · rw [tail?_mark hmark] at h
      obtain ⟨hnumber, hfront⟩ := scale_front h
      refine ⟨hnumber, hfront.map fun more left hmore hleft => ?_⟩
      obtain ⟨more, rfl⟩ := List.head?_eq_some_iff.1 hmore
      rw [tail?_mark hmark, hleft]
    · obtain rfl : c = '.' := by simpa [goesOn, hmark] using hc
      rw [tail?_point] at h
      split at h
      case isTrue => cases h
      case isFalse hdecimals =>
        obtain ⟨hnumber, hfront⟩ := scale_front h
        have hrun : TakesFront (fun cs => tail? negative digits ('.' :: cs)) cs v rest :=
          hfront.run fun more hmore => by rw [tail?_point, hmore, if_neg hdecimals]
        exact ⟨hnumber, hrun.cons fun _ => rfl⟩

/-- The digits of a number and what follows them. -/
def unsigned? (negative : Bool) (cs : List Char) : Option (Json × List Char) :=
  let digits := cs.takeWhile Char.isDigit
  match digits with
  | [] => none
  | '0' :: _ :: _ => none
  | _ => tail? negative digits (cs.dropWhile Char.isDigit)

theorem read?_minus (cs : List Char) : read? ('-' :: cs) = unsigned? true cs := by
  unfold read? unsigned?
  rfl

theorem read?_of_ne {cs : List Char} (h : cs.head? ≠ some '-') :
    read? cs = unsigned? false cs := by
  unfold read?
  split
  rename_i heq
  split at heq
  · exact absurd rfl h
  · obtain ⟨rfl, rfl⟩ := Prod.mk.inj heq
    rfl

/-- A number has a digit, and what follows its digits depends on them only. -/
theorem unsigned?_some (h : unsigned? negative cs = some (v, rest)) :
    cs.takeWhile Char.isDigit ≠ [] ∧
      ∀ more, more.takeWhile Char.isDigit = cs.takeWhile Char.isDigit → unsigned? negative more
        = tail? negative (cs.takeWhile Char.isDigit) (more.dropWhile Char.isDigit) := by
  refine ⟨fun hnil => ?_, fun more hmore => ?_⟩
  · rw [unsigned?, hnil] at h
    cases h
  · unfold unsigned? at h ⊢
    simp only [hmore] at h ⊢
    split at h
    · cases h
    · cases h
    · rfl

theorem unsigned?_front (h : unsigned? negative cs = some (v, rest)) :
    v.isNumber = true ∧ TakesFront (unsigned? negative) cs v rest := by
  obtain ⟨-, hread⟩ := unsigned?_some h
  rw [hread cs rfl] at h
  exact (tail?_front h).imp_right fun hfront => hfront.run hread

theorem length_unsigned?_lt (h : unsigned? negative cs = some (v, rest)) :
    rest.length < cs.length := by
  obtain ⟨hdigits, hread⟩ := unsigned?_some h
  rw [hread cs rfl] at h
  obtain ⟨-, front, hdrop, -⟩ := tail?_front h
  have hlength := congrArg List.length
    (List.takeWhile_append_dropWhile (p := Char.isDigit) (l := cs))
  have hpos := List.length_pos_iff.2 hdigits
  rw [hdrop, List.length_append, List.length_append] at hlength
  omega

/-- A number is read in the same way from every text that goes on in the same way. -/
theorem read?_front (h : read? cs = some (v, rest)) :
    v.isNumber = true ∧ TakesFront read? cs v rest := by
  by_cases hminus : cs.head? = some '-'
  · obtain ⟨cs, rfl⟩ := List.head?_eq_some_iff.1 hminus
    rw [read?_minus] at h
    exact (unsigned?_front h).imp_right fun hfront => hfront.cons read?_minus
  · rw [read?_of_ne hminus] at h
    refine (unsigned?_front h).imp_right fun hfront => hfront.map fun more left hmore hleft => ?_
    rw [read?_of_ne (hmore ▸ hminus), hleft]

theorem length_read?_lt (h : read? cs = some (v, rest)) : rest.length < cs.length := by
  by_cases hminus : cs.head? = some '-'
  · obtain ⟨cs, rfl⟩ := List.head?_eq_some_iff.1 hminus
    rw [read?_minus] at h
    exact Nat.lt_succ_of_lt (length_unsigned?_lt h)
  · rw [read?_of_ne hminus] at h
    exact length_unsigned?_lt h

/-- A number starts with a minus or a digit. -/
theorem head_of_read? {read : Json × List Char} (h : read? cs = some read) :
    ∃ c rest, cs = c :: rest ∧ (c = '-' ∨ c.isDigit = true) := by
  by_cases hminus : cs.head? = some '-'
  · obtain ⟨rest, rfl⟩ := List.head?_eq_some_iff.1 hminus
    exact ⟨'-', rest, rfl, .inl rfl⟩
  · by_cases hdigit : NotNext Char.isDigit cs
    · rw [read?_of_ne hminus, unsigned?, Query.Grammar.takeWhile_of_notNext hdigit] at h
      cases h
    · obtain ⟨c, rest, rfl, hc⟩ := exists_of_not_notNext hdigit
      exact ⟨c, rest, rfl, .inr hc⟩

end Number

namespace Reader

/-! ## Strings -/

section Strings

variable {cs rest body : List Char}

/-- Behind what stands for a character, a string goes on. -/
theorem push_front (front : List Char) {c : Char}
    (hpush : ∀ more, stringBody? (front ++ more) = push c (stringBody? more))
    (ih : ∀ body, stringBody? cs = some (body, rest) → ∃ inner, cs = inner ++ rest ∧
      ∀ more, stringBody? (inner ++ more) = some (body, more))
    (h : push c (stringBody? cs) = some (body, rest)) :
    ∃ inner, front ++ cs = inner ++ rest ∧
      ∀ more, stringBody? (inner ++ more) = some (body, more) := by
  obtain ⟨⟨body', rest'⟩, hbody, hcons⟩ := Option.map_eq_some_iff.1 h
  obtain ⟨rfl, rfl⟩ := Prod.mk.inj hcons
  obtain ⟨inner, rfl, hinner⟩ := ih body' hbody
  refine ⟨front ++ inner, (List.append_assoc ..).symm, fun more => ?_⟩
  rw [List.append_assoc, hpush, hinner]
  rfl

/-- A string ends with its quote, whatever follows. -/
theorem stringBody?_front (h : stringBody? cs = some (body, rest)) :
    ∃ front, cs = front ++ rest ∧ ∀ more, stringBody? (front ++ more) = some (body, more) := by
  fun_induction stringBody? cs generalizing body with
  | case1 => cases h
  | case2 rest =>
      obtain ⟨rfl, rfl⟩ := Prod.mk.inj (Option.some.inj h)
      exact ⟨['"'], rfl, fun more => rfl⟩
  -- These are refused; the others are a pair of escapes, a unit, a letter and a plain character.
  | case3 | case4 | case5 | case7 | case8 | case11 | case12 => cases h
  | case6 a b c d high hhigh hlow hsurrogate a' b' c' d' cs low hunit hpair ih =>
      refine push_front ['\\', 'u', a, b, c, d, '\\', 'u', a', b', c', d']
        (fun more => ?_) (fun _ => ih) h
      simp [stringBody?, hhigh, hlow, hsurrogate, hunit, hpair]
  | case9 a b c d cs high hhigh hlow hsurrogate ih =>
      refine push_front ['\\', 'u', a, b, c, d] (fun more => ?_) (fun _ => ih) h
      simp [stringBody?, hhigh, hlow, hsurrogate]
  | case10 c cs hshort d hescape ih =>
      refine push_front ['\\', c] (fun more => ?_) (fun _ => ih) h
      have hc : c ≠ 'u' := by
        rintro rfl
        cases hescape
      simp [stringBody?, hescape, hc]
  | case13 c cs hquote hunicode hescape hplain ih =>
      refine push_front [c] (fun more => ?_) (fun _ => ih) h
      have hbackslash : c ≠ '\\' := fun heq => hplain (by rw [heq]; rfl)
      rw [List.singleton_append, stringBody?, if_neg hplain]
      · exact hquote
      · exact fun _ _ _ _ _ heq => absurd heq hbackslash
      · exact fun _ _ heq => absurd heq hbackslash

end Strings

/-! ## Values -/

section Values

variable {depth fuel : Nat} {cs rest : List Char} {v : Json}

/-- Blanks in front of a token are skipped, whatever comes behind its first character. -/
theorem exists_blanks {c : Char} (h : skipBlanks cs = c :: rest) :
    ∃ blanks, cs = blanks ++ c :: rest ∧
      ∀ more, skipBlanks (blanks ++ c :: more) = c :: more := by
  obtain ⟨hblanks, hnext, hcs⟩ := run_iff.1 (⟨rfl, h⟩ : cs.takeWhile isBlank = _ ∧ _)
  exact ⟨_, hcs, fun more => (run_iff.2 ⟨hblanks, by simpa using hnext, rfl⟩).2⟩

/-- With as much fuel as the front part of a text has characters, `a` is taken from it, whatever
follows; a part that `joins` what follows needs a text that goes on with the same character. -/
def Has (read : Nat → List Char → Option (α × List Char)) (joins : Bool) (cs : List Char) (a : α)
    (rest : List Char) : Prop :=
  ∃ front, front ≠ [] ∧ cs = front ++ rest ∧ ∀ fuel more, front.length ≤ fuel →
    (joins = true → more.head? = rest.head?) → read fuel (front ++ more) = some (a, more)

/-- Only a number joins what follows. -/
def HasValue (depth : Nat) (cs : List Char) (v : Json) (rest : List Char) : Prop :=
  Has (value? depth) v.isNumber cs v rest

theorem Has.of_succ {read : Nat → List Char → Option (α × List Char)} {joins : Bool}
    {a : α} (front : List Char) (hne : front ≠ []) (hcs : cs = front ++ rest)
    (h : ∀ fuel more, front.length ≤ fuel + 1 → (joins = true → more.head? = rest.head?) →
      read (fuel + 1) (front ++ more) = some (a, more)) : Has read joins cs a rest := by
  refine ⟨front, hne, hcs, fun fuel more hfuel hmore => ?_⟩
  cases fuel with
  | zero => exact absurd (List.eq_nil_of_length_eq_zero (Nat.le_zero.1 hfuel)) hne
  | succ fuel => exact h fuel more hfuel hmore

/-- Items are a value and the closing bracket, or a value, a comma and more items. -/
theorem items?_succ {items : List Json} :
    items? depth (fuel + 1) cs = some (items, rest) ↔
      ∃ item left, value? depth fuel cs = some (item, left) ∧
        ((skipBlanks left = ']' :: rest ∧ items = [item]) ∨
          ∃ behind more, skipBlanks left = ',' :: behind ∧
            items? depth fuel behind = some (more, rest) ∧ items = item :: more) := by
  rw [items?]
  constructor
  · intro h
    split at h
    · cases h
    · rename_i item left hvalue
      refine ⟨item, left, hvalue, ?_⟩
      split at h
      · rename_i behind hskip
        obtain ⟨rfl, rfl⟩ := Prod.mk.inj (Option.some.inj h)
        exact .inl ⟨hskip, rfl⟩
      · rename_i behind hskip
        obtain ⟨⟨more, rest'⟩, hmore, heq⟩ := Option.map_eq_some_iff.1 h
        obtain ⟨rfl, rfl⟩ := Prod.mk.inj heq
        exact .inr ⟨behind, more, hskip, hmore, rfl⟩
      · cases h
  · rintro ⟨item, left, hvalue, ⟨hskip, rfl⟩ | ⟨behind, more, hskip, hmore, rfl⟩⟩
    · simp only [hvalue, hskip]
    · simp only [hvalue, hskip, hmore, Option.map_some]

/-- Fields are a name, a colon, a value and the closing brace, or more fields after a comma. -/
theorem fields?_succ {fields : List (String × Json)} :
    fields? depth (fuel + 1) cs = some (fields, rest) ↔
      ∃ quoted name named colon item left, skipBlanks cs = '"' :: quoted ∧
        stringBody? quoted = some (name, named) ∧ skipBlanks named = ':' :: colon ∧
        value? depth fuel colon = some (item, left) ∧
        ((skipBlanks left = '\x7d' :: rest ∧ fields = [(.ofList name, item)]) ∨
          ∃ behind more, skipBlanks left = ',' :: behind ∧
            fields? depth fuel behind = some (more, rest) ∧
            fields = (.ofList name, item) :: more) := by
  rw [fields?]
  constructor
  · intro h
    split at h
    · rename_i quoted hquote
      split at h
      · cases h
      · rename_i name named hname
        split at h
        · rename_i colon hcolon
          split at h
          · cases h
          · rename_i item left hvalue
            refine ⟨quoted, name, named, colon, item, left, hquote, hname, hcolon, hvalue, ?_⟩
            split at h
            · rename_i behind hskip
              obtain ⟨rfl, rfl⟩ := Prod.mk.inj (Option.some.inj h)
              exact .inl ⟨hskip, rfl⟩
            · rename_i behind hskip
              obtain ⟨⟨more, rest'⟩, hmore, heq⟩ := Option.map_eq_some_iff.1 h
              obtain ⟨rfl, rfl⟩ := Prod.mk.inj heq
              exact .inr ⟨behind, more, hskip, hmore, rfl⟩
            · cases h
        · cases h
    · cases h
  · rintro ⟨quoted, name, named, colon, item, left, hquote, hname, hcolon, hvalue,
      ⟨hskip, rfl⟩ | ⟨behind, more, hskip, hmore, rfl⟩⟩
    · simp only [hquote, hname, hcolon, hvalue, hskip]
    · simp only [hquote, hname, hcolon, hvalue, hskip, hmore, Option.map_some]

theorem value?_noItems {inner more : List Char} (h : skipBlanks inner = ']' :: more) :
    value? (depth + 1) (fuel + 1) ('[' :: inner) = some (.array [], more) := by
  have hskip : skipBlanks ('[' :: inner) = '[' :: inner := rfl
  simp only [value?, hskip, h]

theorem value?_noFields {inner more : List Char} (h : skipBlanks inner = '\x7d' :: more) :
    value? (depth + 1) (fuel + 1) ('\x7b' :: inner) = some (.object [], more) := by
  have hskip : skipBlanks ('\x7b' :: inner) = '\x7b' :: inner := rfl
  simp only [value?, hskip, h]

/-- An array that is not empty has its items behind the opening bracket. -/
theorem value?_items {inner more : List Char} {c : Char} (h : skipBlanks inner = c :: more)
    (hc : c ≠ ']') : value? (depth + 1) (fuel + 1) ('[' :: inner)
      = (items? depth fuel (c :: more)).map fun (read, rest) => (.array read, rest) := by
  have hskip : skipBlanks ('[' :: inner) = '[' :: inner := rfl
  simp only [value?, hskip, h]
  split
  · rename_i heq
    cases heq
  · rename_i heq
    exact absurd (List.cons.inj heq).1 hc
  · rename_i hdepth _
    obtain rfl := Nat.succ.inj hdepth
    rfl

/-- An object that is not empty has its fields behind the opening brace. -/
theorem value?_fields {inner more : List Char} {c : Char} (h : skipBlanks inner = c :: more)
    (hc : c ≠ '\x7d') : value? (depth + 1) (fuel + 1) ('\x7b' :: inner)
      = (fields? depth fuel (c :: more)).map fun (read, rest) => (.object read, rest) := by
  have hskip : skipBlanks ('\x7b' :: inner) = '\x7b' :: inner := rfl
  simp only [value?, hskip, h]
  split
  · rename_i heq
    cases heq
  · rename_i heq
    exact absurd (List.cons.inj heq).1 hc
  · rename_i hdepth _
    obtain rfl := Nat.succ.inj hdepth
    rfl

/-- Blanks in front of a value are skipped. -/
theorem value?_skipBlanks (depth fuel : Nat) (cs : List Char) :
    value? depth fuel (skipBlanks cs) = value? depth fuel cs := by
  have hskip : skipBlanks (skipBlanks cs) = skipBlanks cs :=
    Query.Grammar.dropWhile_of_notNext (Query.Grammar.notNext_dropWhile isBlank cs)
  cases fuel with
  | zero => rfl
  | succ fuel => rw [value?, value?, hskip]

/-- A value without its blanks is one with them. -/
theorem HasValue.of_skipBlanks (h : HasValue depth (skipBlanks cs) v rest) :
    HasValue depth cs v rest := by
  obtain ⟨front, hne, hskip, hfront⟩ := h
  cases front with
  | nil => exact absurd rfl hne
  | cons c front =>
      obtain ⟨blanks, rfl, hblanks⟩ := exists_blanks hskip
      refine ⟨blanks ++ c :: front, by simp, by simp, fun fuel more hfuel hmore => ?_⟩
      rw [List.append_assoc, ← value?_skipBlanks, List.cons_append, hblanks]
      refine hfront fuel more (le_trans ?_ hfuel) hmore
      rw [List.length_append]
      exact Nat.le_add_left _ _

/-- A number is a value, whatever the depth. -/
theorem value?_number {read : Json × List Char} (h : Number.read? cs = some read) :
    value? depth (fuel + 1) cs = some read := by
  obtain ⟨c, rest, rfl, hc⟩ := Number.head_of_read? h
  have hblank : isBlank c = false := by
    by_contra hblank
    simp only [isBlank, Bool.not_eq_false, Bool.or_eq_true, decide_eq_true_eq] at hblank
    obtain ((rfl | rfl) | rfl) | rfl := hblank <;> exact absurd hc (by decide)
  have hskip : skipBlanks (c :: rest) = c :: rest :=
    Query.Grammar.dropWhile_of_notNext (by simpa using hblank)
  rw [value?, hskip]
  split
  case h_7 => exact h
  all_goals
    rename_i heq
    obtain ⟨rfl, -⟩ := List.cons.inj heq
    exact absurd hc (by decide)

/-- Nothing between brackets. -/
theorem HasValue.of_closed {opening closing : Char} {inner : List Char}
    (h : skipBlanks inner = closing :: rest)
    (hread : ∀ fuel inner more, skipBlanks inner = closing :: more →
      value? depth (fuel + 1) (opening :: inner) = some (v, more)) :
    HasValue depth (opening :: inner) v rest := by
  obtain ⟨blanks, rfl, hblanks⟩ := exists_blanks h
  refine Has.of_succ (opening :: (blanks ++ [closing])) (by simp) (by simp)
    fun fuel more _ _ => ?_
  rw [List.cons_append, ← List.append_cons]
  exact hread fuel _ more (hblanks more)

/-- Something between brackets, whose end is read with it. -/
theorem HasValue.of_bracketed {opening closing : Char} {inner : List Char} {a : α}
    {read : Nat → List Char → Option (α × List Char)} {make : α → Json}
    (h : Has read false (skipBlanks inner) a rest)
    (hopen : ∀ more, skipBlanks inner ≠ closing :: more)
    (hread : ∀ fuel inner c more, skipBlanks inner = c :: more → c ≠ closing →
      value? depth (fuel + 1) (opening :: inner)
        = (read fuel (c :: more)).map fun (a, rest) => (make a, rest)) :
    HasValue depth (opening :: inner) (make a) rest := by
  obtain ⟨front, hne, hskip, hfront⟩ := h
  cases front with
  | nil => exact absurd rfl hne
  | cons c front =>
      obtain ⟨blanks, rfl, hblanks⟩ := exists_blanks hskip
      have hc : c ≠ closing := by
        rintro rfl
        exact hopen _ hskip
      refine Has.of_succ (opening :: (blanks ++ c :: front)) (by simp) (by simp)
        fun fuel more hfuel _ => ?_
      have hlength : (c :: front).length ≤ fuel := by
        rw [List.length_cons, List.length_append] at hfuel
        omega
      rw [List.cons_append, List.append_assoc, List.cons_append,
        hread fuel _ c (front ++ more) (hblanks _) hc]
      exact congrArg (Option.map _) (hfront fuel more hlength nofun)

/-- Values, items and fields that are read with this fuel are in the part that is taken. -/
structure Fronts (fuel : Nat) : Prop where
  value : ∀ {depth cs v rest}, value? depth fuel cs = some (v, rest) → HasValue depth cs v rest
  items : ∀ {depth cs items rest}, items? depth fuel cs = some (items, rest) →
    Has (items? depth) false cs items rest
  fields : ∀ {depth cs fields rest}, fields? depth fuel cs = some (fields, rest) →
    Has (fields? depth) false cs fields rest

theorem value?_front (hfronts : Fronts fuel)
    (h : value? depth (fuel + 1) cs = some (v, rest)) : HasValue depth cs v rest := by
  -- The reader decides by the first character behind the blanks.
  refine .of_skipBlanks ?_
  rw [value?] at h
  generalize skipBlanks cs = cs at h ⊢
  split at h
  · obtain ⟨rfl, rfl⟩ := Prod.mk.inj (Option.some.inj h)
    exact .of_succ ['n', 'u', 'l', 'l'] (by simp) rfl fun _ _ _ _ => rfl
  · obtain ⟨rfl, rfl⟩ := Prod.mk.inj (Option.some.inj h)
    exact .of_succ ['t', 'r', 'u', 'e'] (by simp) rfl fun _ _ _ _ => rfl
  · obtain ⟨rfl, rfl⟩ := Prod.mk.inj (Option.some.inj h)
    exact .of_succ ['f', 'a', 'l', 's', 'e'] (by simp) rfl fun _ _ _ _ => rfl
  · obtain ⟨⟨body, left⟩, hbody, heq⟩ := Option.map_eq_some_iff.1 h
    obtain ⟨rfl, rfl⟩ := Prod.mk.inj heq
    obtain ⟨front, rfl, hfront⟩ := stringBody?_front hbody
    refine .of_succ ('"' :: front) (by simp) rfl fun fuel more _ _ => ?_
    show (stringBody? (front ++ more)).map _ = _
    rw [hfront]
    rfl
  · split at h
    · cases h
    · rename_i hskip
      obtain ⟨rfl, rfl⟩ := Prod.mk.inj (Option.some.inj h)
      exact .of_closed hskip fun _ _ _ => value?_noItems
    · rename_i hother
      obtain ⟨⟨items, left⟩, hread, heq⟩ := Option.map_eq_some_iff.1 h
      obtain ⟨rfl, rfl⟩ := Prod.mk.inj heq
      exact .of_bracketed (hfronts.items hread) hother fun _ _ _ _ => value?_items
  · split at h
    · cases h
    · rename_i hskip
      obtain ⟨rfl, rfl⟩ := Prod.mk.inj (Option.some.inj h)
      exact .of_closed hskip fun _ _ _ => value?_noFields
    · rename_i hother
      obtain ⟨⟨fields, left⟩, hread, heq⟩ := Option.map_eq_some_iff.1 h
      obtain ⟨rfl, rfl⟩ := Prod.mk.inj heq
      exact .of_bracketed (hfronts.fields hread) hother fun _ _ _ _ => value?_fields
  -- A number is the only value that does not read an end of its own.
  · have hlength := Number.length_read?_lt h
    obtain ⟨hnumber, front, hcs, hfront⟩ := Number.read?_front h
    refine .of_succ front ?_ hcs fun fuel more _ hmore =>
      value?_number (hfront more (hmore hnumber))
    rintro rfl
    rw [hcs] at hlength
    exact absurd hlength (lt_irrefl _)

theorem items?_front (hfronts : Fronts fuel) {items : List Json}
    (h : items? depth (fuel + 1) cs = some (items, rest)) :
    Has (items? depth) false cs items rest := by
  obtain ⟨item, left, hitem, hnext⟩ := items?_succ.1 h
  obtain ⟨front, hne, rfl, hfront⟩ := hfronts.value hitem
  obtain ⟨hskip, rfl⟩ | ⟨behind, others, hskip, hothers, rfl⟩ := hnext
  · obtain ⟨blanks, rfl, hblanks⟩ := exists_blanks hskip
    refine .of_succ (front ++ (blanks ++ [']'])) (by simp) (by simp)
      fun fuel more hfuel _ => ?_
    have hread := hfront fuel (blanks ++ ']' :: more)
      (by simp only [List.length_append, List.length_singleton] at hfuel; omega)
      fun _ => head?_append_congr blanks rfl
    refine items?_succ.2 ⟨item, blanks ++ ']' :: more, ?_, .inl ⟨hblanks more, rfl⟩⟩
    simpa using hread
  · obtain ⟨blanks, rfl, hblanks⟩ := exists_blanks hskip
    -- The comma pays for the step of fuel that the item takes.
    obtain ⟨front', hne', rfl, hfront'⟩ := hfronts.items hothers
    refine .of_succ (front ++ (blanks ++ ',' :: front')) (by simp) (by simp)
      fun fuel more hfuel _ => ?_
    simp only [List.length_append, List.length_cons] at hfuel
    have hread := hfront fuel (blanks ++ ',' :: (front' ++ more)) (by omega)
      fun _ => head?_append_congr blanks rfl
    refine items?_succ.2 ⟨item, blanks ++ ',' :: (front' ++ more), ?_,
      .inr ⟨front' ++ more, others, hblanks _, hfront' fuel more (by omega) nofun, rfl⟩⟩
    simpa using hread

theorem fields?_front (hfronts : Fronts fuel) {fields : List (String × Json)}
    (h : fields? depth (fuel + 1) cs = some (fields, rest)) :
    Has (fields? depth) false cs fields rest := by
  obtain ⟨quoted, name, named, colon, item, left, hquote, hname, hcolon, hitem, hnext⟩ :=
    fields?_succ.1 h
  obtain ⟨first, rfl, hfirst⟩ := exists_blanks hquote
  obtain ⟨string, rfl, hstring⟩ := stringBody?_front hname
  obtain ⟨second, rfl, hsecond⟩ := exists_blanks hcolon
  obtain ⟨front, hne, rfl, hfront⟩ := hfronts.value hitem
  obtain ⟨hskip, rfl⟩ | ⟨behind, others, hskip, hothers, rfl⟩ := hnext
  · obtain ⟨blanks, rfl, hblanks⟩ := exists_blanks hskip
    refine .of_succ (first ++ '"' :: (string ++ (second ++ ':' :: (front ++ (blanks
      ++ ['\x7d']))))) (by simp) (by simp) fun fuel more hfuel _ => ?_
    simp only [List.length_append, List.length_cons] at hfuel
    refine fields?_succ.2 ⟨_, name, _, _, item, _, ?_, hstring _, hsecond _,
      hfront fuel (blanks ++ '\x7d' :: more) (by omega) fun _ => head?_append_congr blanks rfl,
      .inl ⟨hblanks more, rfl⟩⟩
    simpa using hfirst _
  · obtain ⟨blanks, rfl, hblanks⟩ := exists_blanks hskip
    obtain ⟨front', hne', rfl, hfront'⟩ := hfronts.fields hothers
    refine .of_succ (first ++ '"' :: (string ++ (second ++ ':' :: (front ++ (blanks
      ++ ',' :: front'))))) (by simp) (by simp) fun fuel more hfuel _ => ?_
    simp only [List.length_append, List.length_cons] at hfuel
    refine fields?_succ.2 ⟨_, name, _, _, item, _, ?_, hstring _, hsecond _,
      hfront fuel (blanks ++ ',' :: (front' ++ more)) (by omega) fun _ =>
        head?_append_congr blanks rfl,
      .inr ⟨_, others, hblanks _, hfront' fuel more (by omega) nofun, rfl⟩⟩
    simpa using hfirst _

theorem fronts (fuel : Nat) : Fronts fuel := by
  induction fuel with
  | zero => exact ⟨nofun, nofun, nofun⟩
  | succ fuel ih => exact ⟨value?_front ih, items?_front ih, fields?_front ih⟩

/-- A value takes the same part of every text that starts with that part; only a number needs a text
that goes on with the same character. -/
theorem readFront?_front (h : readFront? cs = some (v, rest)) :
    ∃ front, cs = front ++ rest ∧ ∀ more, (v.isNumber = true → more.head? = rest.head?) →
      readFront? (front ++ more) = some (v, more) := by
  obtain ⟨front, -, hcs, hfront⟩ := (fronts _).value h
  refine ⟨front, hcs, fun more => hfront _ more ?_⟩
  rw [List.length_append]
  omega

/-- What starts with a brace is an object. -/
theorem exists_object (h : value? depth (fuel + 1) ('\x7b' :: cs) = some (v, rest)) :
    ∃ fields, v = .object fields := by
  have hskip : skipBlanks ('\x7b' :: cs) = '\x7b' :: cs := rfl
  simp only [value?, hskip] at h
  split at h
  · cases h
  · obtain ⟨rfl, -⟩ := Prod.mk.inj (Option.some.inj h)
    exact ⟨[], rfl⟩
  · obtain ⟨⟨fields, left⟩, -, heq⟩ := Option.map_eq_some_iff.1 h
    exact ⟨fields, (Prod.mk.inj heq).1.symm⟩

/-- The object at the front of a text is a whole text of its own, whatever follows it. -/
theorem readFront?_object (h : readFront? ('\x7b' :: cs) = some (v, rest)) :
    ∃ fields object, v = .object fields ∧ '\x7b' :: cs = object ++ rest ∧
      ∀ more, readFront? (object ++ more) = some (.object fields, more) := by
  obtain ⟨fields, rfl⟩ := exists_object h
  obtain ⟨object, hcs, hobject⟩ := readFront?_front h
  exact ⟨fields, object, rfl, hcs, fun more => hobject more nofun⟩

end Values

end Reader

end SiteIndex.Json
