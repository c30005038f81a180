import Mathlib.Tactic.Ring
import SiteIndex.Binary64.Read
import SiteIndex.Proofs.Text.Natural

/-!
# Digit runs compare as numbers

The natural order cuts texts into maximal digit runs and other characters. Two runs compare by the
numbers they denote, however long they are, and runs of one number by their lengths
(`compareRuns_eq_value`). Texts that agree in front of such runs compare by the runs and then by
what follows them (`compareText_runs`). With the laws of the order this says what the order of
texts is (`compareText_orders`).
-/

namespace SiteIndex.Text.Natural

open Std Binary64

/-! ## The number that digits denote -/

/-- Digits after a number that was read multiply it by a power of ten. -/
theorem foldl_digits (n : Nat) (cs : List Char) :
    cs.foldl (fun n c => 10 * n + (c.toNat - '0'.toNat)) n =
      n * 10 ^ cs.length + digitsValue cs := by
  induction cs generalizing n with
  | nil => simp [digitsValue]
  | cons c cs ih =>
      rw [digitsValue, List.foldl_cons, List.foldl_cons, ih, ih (10 * 0 + _), List.length_cons]
      ring

/-- The first digit counts by its place. -/
theorem digitsValue_cons (c : Char) (cs : List Char) :
    digitsValue (c :: cs) = (c.toNat - '0'.toNat) * 10 ^ cs.length + digitsValue cs := by
  rw [digitsValue, List.foldl_cons, foldl_digits, Nat.mul_zero, Nat.zero_add]

/-- The code points of the digits. -/
theorem toNat_of_isDigit {c : Char} (h : c.isDigit = true) :
    '0'.toNat ≤ c.toNat ∧ c.toNat ≤ '0'.toNat + 9 := by
  have hdigit : 48 ≤ c.toNat ∧ c.toNat ≤ 57 := by
    simpa [Char.isDigit, UInt32.le_iff_toNat_le] using h
  exact hdigit

/-- Digits denote a number below the power of ten of their count. -/
theorem digitsValue_lt {cs : List Char} (h : ∀ c ∈ cs, c.isDigit = true) :
    digitsValue cs < 10 ^ cs.length := by
  induction cs with
  | nil => simp [digitsValue]
  | cons c cs ih =>
      obtain ⟨hc, hcs⟩ := List.forall_mem_cons.1 h
      obtain ⟨-, hc⟩ := toNat_of_isDigit hc
      have hrest := ih hcs
      have hfirst : (c.toNat - '0'.toNat) * 10 ^ cs.length ≤ 9 * 10 ^ cs.length :=
        Nat.mul_le_mul_right _ (by omega)
      rw [digitsValue_cons, List.length_cons, Nat.pow_succ]
      omega

/-- Leading zeros do not count. -/
theorem digitsValue_significant (run : List Char) :
    digitsValue (significant run) = digitsValue run := by
  induction run with
  | nil => rfl
  | cons c run ih =>
      by_cases hzero : c = '0'
      · have hsignificant : significant (c :: run) = significant run := by
          simp [significant, hzero]
        rw [hsignificant, ih, digitsValue_cons, hzero, Nat.sub_self, Nat.zero_mul, Nat.zero_add]
      · have hsignificant : significant (c :: run) = c :: run := by simp [significant, hzero]
        rw [hsignificant]

/-- The significant digits of a run are digits. -/
theorem isDigit_significant {run : List Char} (h : ∀ c ∈ run, c.isDigit = true) :
    ∀ c ∈ significant run, c.isDigit = true :=
  fun c hc => h c ((List.dropWhile_sublist _).subset hc)

/-- A number with `count + 1` significant digits is at least the power of ten of `count`. -/
theorem le_digitsValue {run : List Char} (h : ∀ c ∈ run, c.isDigit = true) {count : Nat}
    (hcount : count < (significant run).length) : 10 ^ count ≤ digitsValue run := by
  rw [← digitsValue_significant]
  cases hrun : significant run with
  | nil =>
      rw [hrun] at hcount
      cases hcount
  | cons c cs =>
      rw [hrun] at hcount
      have hc : c.isDigit = true := isDigit_significant h c (hrun ▸ List.mem_cons_self)
      have hnonzero : c ≠ '0' := by
        have hhead := List.head?_dropWhile_not (fun c => decide (c = '0')) run
        rw [show run.dropWhile _ = c :: cs from hrun] at hhead
        simpa using hhead
      have hfirst : 1 ≤ c.toNat - '0'.toNat := by
        have hne : c.toNat ≠ '0'.toNat := fun heq => hnonzero (Char.toNat_inj.1 heq)
        have := (toNat_of_isDigit hc).1
        omega
      have hpow : 10 ^ count ≤ 10 ^ cs.length :=
        Nat.pow_le_pow_right (by decide) (Nat.le_of_lt_succ hcount)
      rw [digitsValue_cons]
      calc 10 ^ count ≤ 1 * 10 ^ cs.length := by omega
        _ ≤ (c.toNat - '0'.toNat) * 10 ^ cs.length := Nat.mul_le_mul_right _ hfirst
        _ ≤ _ := Nat.le_add_right _ _

/-- Numbers in two places compare by the higher place and then by the lower one. -/
theorem compare_place {base u v : Nat} (hu : u < base) (hv : v < base) (x y : Nat) :
    compare (x * base + u) (y * base + v) = (compare x y).then (compare u v) := by
  rcases Nat.lt_trichotomy x y with h | rfl | h
  · have hstep : (x + 1) * base ≤ y * base := Nat.mul_le_mul_right _ h
    rw [Nat.add_mul, Nat.one_mul] at hstep
    have hless : x * base + u < y * base + v := by omega
    rw [Nat.compare_eq_lt.2 h, Nat.compare_eq_lt.2 hless]
    rfl
  · rw [Nat.compare_eq_eq.2 (rfl : x = x), Ordering.eq_then]
    rcases Nat.lt_trichotomy u v with h | rfl | h
    · rw [Nat.compare_eq_lt.2 h, Nat.compare_eq_lt.2 (Nat.add_lt_add_left h _)]
    · rw [Nat.compare_eq_eq.2 rfl, Nat.compare_eq_eq.2 rfl]
    · rw [Nat.compare_eq_gt.2 h, Nat.compare_eq_gt.2 (Nat.add_lt_add_left h _)]
  · have hstep : (y + 1) * base ≤ x * base := Nat.mul_le_mul_right _ h
    rw [Nat.add_mul, Nat.one_mul] at hstep
    have hmore : y * base + v < x * base + u := by omega
    rw [Nat.compare_eq_gt.2 h, Nat.compare_eq_gt.2 hmore]
    rfl

/-- Digits compare as the numbers they denote. -/
theorem compareChar_of_isDigit {a b : Char} (ha : a.isDigit = true) (hb : b.isDigit = true) :
    compareChar a b = compare (a.toNat - '0'.toNat) (b.toNat - '0'.toNat) := by
  obtain ⟨ha, -⟩ := toNat_of_isDigit ha
  obtain ⟨hb, -⟩ := toNat_of_isDigit hb
  rw [compareChar]
  rcases Nat.lt_trichotomy a.toNat b.toNat with h | h | h
  · rw [Nat.compare_eq_lt.2 h, Nat.compare_eq_lt.2 (by omega)]
  · rw [h, Nat.compare_eq_eq.2 rfl, Nat.compare_eq_eq.2 rfl]
  · rw [Nat.compare_eq_gt.2 h, Nat.compare_eq_gt.2 (by omega)]

/-- As many digits compare one by one as their numbers do. -/
theorem compareChars_eq_value {as bs : List Char} (hlength : as.length = bs.length)
    (ha : ∀ c ∈ as, c.isDigit = true) (hb : ∀ c ∈ bs, c.isDigit = true) :
    compareChars as bs = compare (digitsValue as) (digitsValue bs) := by
  induction as generalizing bs with
  | nil =>
      obtain rfl : bs = [] := List.length_eq_zero_iff.1 hlength.symm
      rfl
  | cons a as ih =>
      cases bs with
      | nil => cases hlength
      | cons b bs =>
          have hlength : as.length = bs.length := Nat.succ.inj hlength
          obtain ⟨ha0, ha⟩ := List.forall_mem_cons.1 ha
          obtain ⟨hb0, hb⟩ := List.forall_mem_cons.1 hb
          rw [compareChars, ih hlength ha hb, compareChar_of_isDigit ha0 hb0, digitsValue_cons,
            digitsValue_cons, hlength]
          exact (compare_place (hlength ▸ digitsValue_lt ha) (digitsValue_lt hb) _ _).symm

/-- Runs compare by their numbers and then by their lengths. -/
theorem compareRuns_eq_value {a b : List Char} (ha : ∀ c ∈ a, c.isDigit = true)
    (hb : ∀ c ∈ b, c.isDigit = true) :
    compareRuns a b =
      (compare (digitsValue a) (digitsValue b)).then (compare a.length b.length) := by
  rw [compareRuns]
  congr 1
  have hva := digitsValue_lt (isDigit_significant ha)
  have hvb := digitsValue_lt (isDigit_significant hb)
  rw [digitsValue_significant] at hva hvb
  rcases Nat.lt_trichotomy (significant a).length (significant b).length with h | h | h
  · have hless := Nat.lt_of_lt_of_le hva (le_digitsValue hb h)
    rw [Nat.compare_eq_lt.2 h, Nat.compare_eq_lt.2 hless]
    rfl
  · rw [Nat.compare_eq_eq.2 h,
      compareChars_eq_value h (isDigit_significant ha) (isDigit_significant hb),
      digitsValue_significant, digitsValue_significant]
    rfl
  · have hmore := Nat.lt_of_lt_of_le hvb (le_digitsValue ha h)
    rw [Nat.compare_eq_gt.2 h, Nat.compare_eq_gt.2 hmore]
    rfl

/-! ## Texts that are cut alike -/

/-- No digit stands at the start. -/
def NoDigitFirst (cs : List Char) : Prop := ∀ c ∈ cs.head?, c.isDigit = false

/-- No digit stands at the end. -/
def NoDigitLast (cs : List Char) : Prop := ∀ c ∈ cs.getLast?, c.isDigit = false

/-- A run takes a digit in front into itself, whatever follows it. -/
theorem pushDigit_append (c : Char) {ps : List Piece} (hne : ps ≠ []) (qs : List Piece) :
    pushDigit c (ps ++ qs) = pushDigit c ps ++ qs := by
  cases ps with
  | nil => exact absurd rfl hne
  | cons p ps => cases p <;> rfl

/-- A text has a piece if it has a character. -/
theorem pieces_ne_nil {cs : List Char} (h : cs ≠ []) : pieces cs ≠ [] := by
  intro hnil
  have hchars := chars_pieces cs
  rw [hnil] at hchars
  exact h hchars.symm

/-- A text is cut behind a character that is no digit. -/
theorem pieces_append {front : List Char} (h : NoDigitLast front) (cs : List Char) :
    pieces (front ++ cs) = pieces front ++ pieces cs := by
  induction front with
  | nil => rfl
  | cons c front ih =>
      by_cases hnil : front = []
      · subst hnil
        have hc : c.isDigit = false := h c rfl
        simp [pieces, hc]
      · have hends : NoDigitLast front := by
          intro d hd
          refine h d ?_
          rwa [List.getLast?_cons_of_ne_nil hnil]
        rw [List.cons_append, pieces, pieces, ih hends]
        split
        case isTrue => exact pushDigit_append c (pieces_ne_nil hnil) _
        case isFalse => rfl

/-- Digits in front of a character that is no digit are one run. -/
theorem pieces_run {run rest : List Char} (hne : run ≠ []) (hrun : ∀ c ∈ run, c.isDigit = true)
    (hrest : NoDigitFirst rest) : pieces (run ++ rest) = .digits run :: pieces rest := by
  induction run with
  | nil => exact absurd rfl hne
  | cons c run ih =>
      obtain ⟨hc, hrun⟩ := List.forall_mem_cons.1 hrun
      rw [List.cons_append, pieces, if_pos hc]
      by_cases hnil : run = []
      · subst hnil
        cases rest with
        | nil => rfl
        | cons d rest =>
            have hd : d.isDigit = false := hrest d rfl
            simp [pieces, hd, pushDigit]
      · rw [ih hnil hrun]
        rfl

/-- A piece is level with itself. -/
theorem Piece.compare_self (p : Piece) : p.compare p = .eq := by
  cases p with
  | digits run => exact @ReflCmp.compare_self _ compareRuns _ run
  | other c => exact @ReflCmp.compare_self _ compareChar _ c

/-- Pieces in front that are the same do not count. -/
theorem comparePieces_append (ps qs rs : List Piece) :
    comparePieces (ps ++ qs) (ps ++ rs) = comparePieces qs rs := by
  induction ps with
  | nil => rfl
  | cons p ps ih =>
      rw [List.cons_append, List.cons_append, comparePieces, Piece.compare_self, ih,
        Ordering.eq_then]

/-- Texts that agree in front of maximal runs of digits compare by the numbers of these runs,
then by the lengths of the runs and then by what follows. -/
theorem compareText_runs {front a b restA restB : List Char} (hfront : NoDigitLast front)
    (hneA : a ≠ []) (ha : ∀ c ∈ a, c.isDigit = true) (hrestA : NoDigitFirst restA)
    (hneB : b ≠ []) (hb : ∀ c ∈ b, c.isDigit = true) (hrestB : NoDigitFirst restB) :
    compareText (.ofList (front ++ (a ++ restA))) (.ofList (front ++ (b ++ restB))) =
      ((compare (digitsValue a) (digitsValue b)).then (compare a.length b.length)).then
        (compareText (.ofList restA) (.ofList restB)) := by
  rw [compareText, String.toList_ofList, String.toList_ofList, pieces_append hfront,
    pieces_append hfront, comparePieces_append, pieces_run hneA ha hrestA,
    pieces_run hneB hb hrestB, comparePieces, ← compareRuns_eq_value ha hb, compareText,
    String.toList_ofList, String.toList_ofList]
  rfl

/-- What the order of texts is. It is a total order of all texts that tells any two apart, and
where two texts agree up to two maximal runs of digits it compares the numbers that the runs
denote, of equal numbers the lengths of the runs, and after runs that are the same the rests. -/
theorem compareText_orders :
    (∀ a b : String, compareText a b = .eq ↔ a = b) ∧
    (∀ a b : String, compareText b a = (compareText a b).swap) ∧
    (∀ a b c : String, compareText a b ≠ .gt → compareText b c ≠ .gt → compareText a c ≠ .gt) ∧
    ∀ front a b restA restB : List Char, NoDigitLast front →
      a ≠ [] → (∀ c ∈ a, c.isDigit = true) → NoDigitFirst restA →
      b ≠ [] → (∀ c ∈ b, c.isDigit = true) → NoDigitFirst restB →
      compareText (.ofList (front ++ (a ++ restA))) (.ofList (front ++ (b ++ restB))) =
        ((compare (digitsValue a) (digitsValue b)).then (compare a.length b.length)).then
          (compareText (.ofList restA) (.ofList restB)) := by
  refine ⟨fun a b => LawfulEqCmp.compare_eq_iff_eq, fun a b => OrientedCmp.eq_swap,
    fun a b c hab hbc => ?_,
    fun front a b restA restB hfront hneA ha hrestA hneB hb hrestB =>
      compareText_runs hfront hneA ha hrestA hneB hb hrestB⟩
  exact Ordering.isLE_iff_ne_gt.1
    (TransCmp.isLE_trans (Ordering.isLE_iff_ne_gt.2 hab) (Ordering.isLE_iff_ne_gt.2 hbc))

/-- Of two runs of the number seven the longer one is greater, whatever follows, and a number of
twenty digits stands behind both. -/
theorem compareText_orders_leadingZeros :
    compareText (.ofList ['x', '0', '0', '7', 'a']) (.ofList ['x', '7', 'b']) = .gt ∧
      compareText "x7b" "x007a" ≠ .gt ∧ compareText "x007a" "x18446744073709551616" ≠ .gt ∧
      compareText "x7b" "x18446744073709551616" ≠ .gt := by
  have hless : compareText "x7b" "x007a" ≠ .gt := by decide +kernel
  have hlong : compareText "x007a" "x18446744073709551616" ≠ .gt := by decide +kernel
  refine ⟨?_, hless, hlong, compareText_orders.2.2.1 _ _ _ hless hlong⟩
  have hfront : NoDigitLast ['x'] := fun _ h => Option.some.inj h ▸ rfl
  have hrunA : ∀ c ∈ ['0', '0', '7'], c.isDigit = true := List.all_eq_true.1 rfl
  have hrestA : NoDigitFirst ['a'] := fun _ h => Option.some.inj h ▸ rfl
  have hrunB : ∀ c ∈ ['7'], c.isDigit = true := List.all_eq_true.1 rfl
  have hrestB : NoDigitFirst ['b'] := fun _ h => Option.some.inj h ▸ rfl
  exact (compareText_orders.2.2.2 ['x'] ['0', '0', '7'] ['7'] ['a'] ['b'] hfront
    (List.cons_ne_nil _ _) hrunA hrestA (List.cons_ne_nil _ _) hrunB hrestB).trans rfl

end SiteIndex.Text.Natural
