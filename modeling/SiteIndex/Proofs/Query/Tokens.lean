import Mathlib.Data.List.TakeWhile
import SiteIndex.Proofs.Outcome
import SiteIndex.Proofs.Query.Grammar

/-!
# Reading the tokens of a query

The readers of single tokens give what the grammar says. Blanks are taken as far as they go,
which is right since no token starts with a blank, and a keyword is the longest run of word
characters, so that at most one keyword stands at a place (`KeywordAt.unique`).
-/

namespace SiteIndex.Query.Grammar

open Reader

/-! ## Runs of characters -/

section Runs

variable {p : Char → Bool} {front rest cs : List Char}

/-- A text that ends does not go on. -/
@[simp] theorem notNext_nil : NotNext p [] := by simp [NotNext]

/-- The next character is the first one. -/
@[simp] theorem notNext_cons {c : Char} : NotNext p (c :: cs) ↔ p c = false := by
  simp [NotNext]

/-- A text that does not go on with a class has nothing to drop. -/
theorem dropWhile_of_notNext (h : NotNext p cs) : cs.dropWhile p = cs := by
  cases cs with
  | nil => rfl
  | cons c rest => rw [List.dropWhile_cons_of_neg (by simpa using h)]

/-- A text that does not go on with a class has nothing to take. -/
theorem takeWhile_of_notNext (h : NotNext p cs) : cs.takeWhile p = [] := by
  cases cs with
  | nil => rfl
  | cons c rest => rw [List.takeWhile_cons_of_neg (by simpa using h)]

/-- What is left after the longest run of a class does not go on with it. -/
theorem notNext_dropWhile (p : Char → Bool) (cs : List Char) : NotNext p (cs.dropWhile p) := by
  induction cs with
  | nil => exact notNext_nil
  | cons c rest ih =>
      by_cases hc : p c = true
      · rwa [List.dropWhile_cons_of_pos hc]
      · rw [List.dropWhile_cons_of_neg hc, notNext_cons]
        exact Bool.eq_false_iff.2 hc

/-- The longest run of a class and the text after it. -/
theorem run_iff : (cs.takeWhile p = front ∧ cs.dropWhile p = rest) ↔
    (∀ c ∈ front, p c = true) ∧ NotNext p rest ∧ cs = front ++ rest := by
  constructor
  · rintro ⟨rfl, rfl⟩
    exact ⟨fun c hc => List.mem_takeWhile_imp hc, notNext_dropWhile p cs,
      List.takeWhile_append_dropWhile.symm⟩
  · rintro ⟨hfront, hrest, rfl⟩
    constructor
    · rw [List.takeWhile_append_of_pos hfront, takeWhile_of_notNext hrest, List.append_nil]
    · rw [List.dropWhile_append_of_pos hfront, dropWhile_of_notNext hrest]

end Runs

/-! ## Blanks -/

section Blanks

variable {cs rest : List Char}

/-- No blanks are blanks. -/
theorem BlanksAt.refl (cs : List Char) : BlanksAt cs cs := ⟨[], by simp, rfl⟩

/-- The blanks in front of a text. -/
theorem blanksAt_blanks (cs : List Char) : BlanksAt cs (blanks cs) :=
  ⟨cs.takeWhile isBlank, fun _ hc => List.mem_takeWhile_imp hc,
    List.takeWhile_append_dropWhile.symm⟩

/-- After the blanks of a text come no blanks. -/
theorem notNext_blanks (cs : List Char) : NotNext isBlank (blanks cs) :=
  notNext_dropWhile isBlank cs

/-- A text that starts without blanks is what is left after them. -/
theorem blanks_of_notNext (h : NotNext isBlank cs) : blanks cs = cs := dropWhile_of_notNext h

/-- Blanks may be skipped twice. -/
@[simp] theorem blanks_blanks (cs : List Char) : blanks (blanks cs) = blanks cs :=
  blanks_of_notNext (notNext_blanks cs)

/-- Some of the blanks may be cut off first. -/
theorem BlanksAt.blanks_eq (h : BlanksAt cs rest) : blanks cs = blanks rest := by
  obtain ⟨front, hfront, rfl⟩ := h
  exact List.dropWhile_append_of_pos hfront

/-- Blanks before a text that starts without any are all of them. -/
theorem BlanksAt.eq (h : BlanksAt cs rest) (hrest : NotNext isBlank rest) : blanks cs = rest := by
  rw [h.blanks_eq, blanks_of_notNext hrest]

/-- What comes after blanks is not longer. -/
theorem BlanksAt.length_le (h : BlanksAt cs rest) : rest.length ≤ cs.length := by
  obtain ⟨front, _, rfl⟩ := h
  rw [List.length_append]
  omega

end Blanks

/-! ## Keywords -/

section Keywords

variable {word : String} {cs rest : List Char}

/-- A text starts with a word in any case if their first characters agree and what is left of the
text starts with what is left of the word. -/
theorem exists_front_cons {c w : Char} {word : List Char} :
    (∃ front : List Char, front.map Char.toUpper = w :: word ∧ c :: cs = front ++ rest) ↔
      c.toUpper = w ∧ ∃ front : List Char, front.map Char.toUpper = word ∧ cs = front ++ rest := by
  constructor
  · rintro ⟨front, hfront, hcs⟩
    cases front with
    | nil => cases hfront
    | cons d front =>
        obtain ⟨hd, hword⟩ := List.cons.inj hfront
        obtain ⟨rfl, rfl⟩ := List.cons.inj hcs
        exact ⟨hd, front, hword, rfl⟩
  · rintro ⟨rfl, front, rfl, rfl⟩
    exact ⟨c :: front, rfl, rfl⟩

/-- A word in any case is taken from the front of a text. -/
theorem afterWord?_iff {word : List Char} : afterWord? word cs = some rest ↔
    ∃ front : List Char, front.map Char.toUpper = word ∧ cs = front ++ rest := by
  -- The front has a character for each of the word, so that both are taken apart together.
  induction word generalizing cs with
  | nil =>
      constructor
      · intro h
        cases h
        exact ⟨[], rfl, rfl⟩
      · rintro ⟨front, hfront, rfl⟩
        rw [List.map_eq_nil_iff.1 hfront]
        rfl
  | cons w word ih =>
      cases cs with
      | nil =>
          constructor
          · intro h
            cases h
          · rintro ⟨front, hfront, hnil⟩
            obtain ⟨rfl, _⟩ := List.append_eq_nil_iff.1 hnil.symm
            cases hfront
      | cons c cs =>
          rw [afterWord?, exists_front_cons]
          by_cases hc : c.toUpper = w
          · rw [if_pos hc, ih, and_iff_right hc]
          · rw [if_neg hc]
            exact ⟨nofun, fun h => absurd h.1 hc⟩

/-- A keyword is taken where it stands. -/
theorem keyword?_iff : keyword? word cs = some rest ↔ KeywordAt word cs rest := by
  have hafter : KeywordAt word cs rest ↔
      afterWord? word.toList cs = some rest ∧ NotNext isWordChar rest := by
    rw [afterWord?_iff, KeywordAt]
    constructor
    · rintro ⟨front, hword, hrest, hcs⟩
      exact ⟨⟨front, hword, hcs⟩, hrest⟩
    · rintro ⟨⟨front, hword, hcs⟩, hrest⟩
      exact ⟨front, hword, hrest, hcs⟩
  rw [hafter, keyword?]
  cases hword : afterWord? word.toList cs with
  | none => simp
  | some more =>
      cases more with
      | nil =>
          constructor
          · intro h
            cases h
            exact ⟨rfl, notNext_nil⟩
          · rintro ⟨h, _⟩
            exact h
      | cons c more =>
          dsimp only
          by_cases hc : isWordChar c = true
          · rw [if_pos hc]
            constructor
            · intro h
              cases h
            · rintro ⟨h, hrest⟩
              cases h
              rw [notNext_cons, hc] at hrest
              cases hrest
          · rw [if_neg hc]
            constructor
            · intro h
              cases h
              exact ⟨rfl, notNext_cons.2 (Bool.eq_false_iff.2 hc)⟩
            · rintro ⟨h, _⟩
              exact h

/-- A character is a word character in either case. -/
theorem isWordChar_toUpper (c : Char) : isWordChar c.toUpper = isWordChar c := by
  unfold Char.toUpper
  split
  case isTrue h =>
    obtain ⟨hlow, hhigh⟩ := h
    rw [UInt32.le_iff_toNat_le] at hlow hhigh
    have hlow : 97 ≤ c.val.toNat := hlow
    have hhigh : c.val.toNat ≤ 122 := hhigh
    have hupper : (c.val + ('A'.val - 'a'.val)).toNat = c.val.toNat - 32 := by
      have hshift : ('A'.val - 'a'.val).toNat = 4294967264 := rfl
      rw [UInt32.toNat_add, hshift]
      omega
    have hword : isWordChar c = true := by
      unfold isWordChar Char.isAlphanum Char.isAlpha Char.isLower
      simp only [Bool.or_eq_true, decide_eq_true_eq, Bool.and_eq_true, UInt32.le_iff_toNat_le]
      exact .inl (.inl (.inr ⟨hlow, hhigh⟩))
    rw [hword]
    unfold isWordChar Char.isAlphanum Char.isAlpha Char.isUpper
    simp only [Bool.or_eq_true, decide_eq_true_eq, ge_iff_le, UInt32.le_iff_toNat_le, hupper]
    refine .inl (.inl (.inl ⟨?_, ?_⟩))
    · show 65 ≤ c.val.toNat - 32
      omega
    · show c.val.toNat - 32 ≤ 90
      omega
  case isFalse => rfl

/-- A blank is no word character. -/
theorem isBlank_of_isWordChar {c : Char} (h : isWordChar c = true) : isBlank c = false := by
  rw [Bool.eq_false_iff]
  intro hblank
  simp only [isBlank, Bool.or_eq_true, decide_eq_true_eq] at hblank
  rcases hblank with ((rfl | rfl) | rfl) | rfl <;> exact absurd h (by decide)

/-- A word has characters, and they are word characters. -/
def IsWord (word : String) : Prop := word.toList ≠ [] ∧ ∀ c ∈ word.toList, isWordChar c = true

instance (word : String) : Decidable (IsWord word) :=
  decidable_of_iff (word.toList ≠ [] ∧ word.toList.all isWordChar = true)
    (and_congr_right fun _ => List.all_eq_true)

/-- A keyword is the longest run of word characters. -/
theorem KeywordAt.map_takeWhile (h : KeywordAt word cs rest) (hword : IsWord word) :
    (cs.takeWhile isWordChar).map Char.toUpper = word.toList := by
  obtain ⟨front, hfront, hrest, rfl⟩ := h
  have hchars : ∀ c ∈ front, isWordChar c = true := by
    intro c hc
    rw [← isWordChar_toUpper]
    exact hword.2 _ (hfront ▸ List.mem_map_of_mem hc)
  rw [(run_iff.2 ⟨hchars, hrest, rfl⟩).1, hfront]

/-- At most one keyword stands at a place. -/
theorem KeywordAt.unique {other : String} {rest' : List Char} (h : KeywordAt word cs rest)
    (h' : KeywordAt other cs rest') (hword : IsWord word) (hother : IsWord other) :
    word = other := by
  rw [← String.toList_inj, ← h.map_takeWhile hword, h'.map_takeWhile hother]

/-- No other keyword is found where one stands. -/
theorem KeywordAt.keyword?_eq_none {other : String} (h : KeywordAt word cs rest)
    (hword : IsWord word) (hother : IsWord other) (hne : word ≠ other) :
    keyword? other cs = none := by
  refine Option.eq_none_iff_forall_ne_some.2 fun rest' hrest' => hne ?_
  exact h.unique (keyword?_iff.1 hrest') hword hother

/-- A keyword starts with a word character. -/
theorem KeywordAt.exists_cons (h : KeywordAt word cs rest) (hword : IsWord word) :
    ∃ c more, cs = c :: more ∧ isWordChar c = true := by
  obtain ⟨front, hfront, _, rfl⟩ := h
  cases front with
  | nil => exact absurd hfront.symm hword.1
  | cons c front =>
      refine ⟨c, front ++ rest, rfl, ?_⟩
      rw [← isWordChar_toUpper]
      exact hword.2 _ (hfront ▸ List.mem_cons_self ..)

/-- A keyword does not start with a blank. -/
theorem KeywordAt.notNext (h : KeywordAt word cs rest) (hword : IsWord word) :
    NotNext isBlank cs := by
  obtain ⟨c, more, rfl, hc⟩ := h.exists_cons hword
  exact notNext_cons.2 (isBlank_of_isWordChar hc)

/-- A keyword takes characters. -/
theorem KeywordAt.length_lt (h : KeywordAt word cs rest) (hword : IsWord word) :
    rest.length < cs.length := by
  obtain ⟨front, hfront, _, rfl⟩ := h
  have hlength := congrArg List.length hfront
  have hpos := List.length_pos_iff.2 hword.1
  rw [List.length_map] at hlength
  rw [List.length_append]
  omega

end Keywords

/-! ## Attributes and numbers -/

section Names

variable {cs rest : List Char}

/-- An attribute is read where it stands. -/
theorem reference_iff {key : String} :
    reference cs = .ok (key, rest) ↔ AttributeAt cs key rest := by
  constructor
  · intro h
    unfold reference at h
    split at h
    case h_1 c more =>
      by_cases hc : startsName c = true
      · rw [if_pos hc] at h
        cases h
        obtain ⟨hname, hrest, hmore⟩ := run_iff.1 ⟨rfl, rfl⟩
        refine ⟨c, more.takeWhile continuesName, hc, hname, hrest, ?_, ?_⟩
        · rw [← hmore]
        · rw [Text.camelCase, String.toList_ofList]
      · rw [if_neg hc] at h
        cases h
    case h_2 => cases h
    case h_3 => cases h
  · rintro ⟨c, name, hc, hname, hrest, rfl, rfl⟩
    obtain ⟨htake, hdrop⟩ := run_iff.2 ⟨hname, hrest, rfl⟩
    rw [reference, if_pos hc, htake, hdrop, Text.camelCase, String.toList_ofList]

/-- An attribute starts with a point. -/
theorem AttributeAt.exists_cons {key : String} (h : AttributeAt cs key rest) :
    ∃ more, cs = '.' :: more := by
  obtain ⟨c, name, _, _, _, rfl, _⟩ := h
  exact ⟨_, rfl⟩

/-- An attribute does not start with a blank. -/
theorem AttributeAt.notNext {key : String} (h : AttributeAt cs key rest) : NotNext isBlank cs := by
  obtain ⟨more, rfl⟩ := h.exists_cons
  exact notNext_cons.2 (by decide)

/-- An attribute takes characters. -/
theorem AttributeAt.length_lt {key : String} (h : AttributeAt cs key rest) :
    rest.length < cs.length := by
  obtain ⟨c, name, _, _, _, rfl, _⟩ := h
  simp only [List.length_cons, List.length_append]
  omega

/-- The digits of a number are read from the first to the last. -/
theorem foldl_digits (digits : List Char) :
    digits.foldl (fun n c => 10 * n + (c.toNat - '0'.toNat)) 0
      = Nat.ofDigits 10 (digits.reverse.map digitValue) := by
  rw [Nat.ofDigits_eq_foldr, List.foldr_map, List.foldl_eq_foldr_reverse]
  refine congrArg (fun f => digits.reverse.foldr f 0) (funext fun c => funext fun n => ?_)
  exact Nat.add_comm _ _

/-- A number is read where it stands. -/
theorem count_iff {n : UInt64} : count cs = .ok (n, rest) ↔ NumberAt cs n rest := by
  unfold count
  dsimp only
  rw [foldl_digits]
  constructor
  · intro h
    by_cases hnone : (cs.takeWhile Char.isDigit).isEmpty = true
    · rw [if_pos hnone] at h
      cases h
    · rw [if_neg hnone] at h
      split at h
      case isTrue hfits =>
        cases h
        obtain ⟨hdigits, hrest, hcs⟩ := run_iff.1 ⟨rfl, rfl⟩
        refine ⟨cs.takeWhile Char.isDigit, by simpa using hnone, hdigits, hrest, hcs, ?_⟩
        exact UInt64.toNat_ofNat_of_lt' hfits
      case isFalse => cases h
  · rintro ⟨digits, hsome, hdigits, hrest, rfl, hn⟩
    obtain ⟨htake, hdrop⟩ := run_iff.2 ⟨hdigits, hrest, rfl⟩
    rw [htake, hdrop, if_neg (by simpa using hsome), ← hn, if_pos n.toNat_lt, UInt64.ofNat_toNat]

/-- A number does not start with a blank. -/
theorem NumberAt.notNext {n : UInt64} (h : NumberAt cs n rest) : NotNext isBlank cs := by
  obtain ⟨digits, hsome, hdigits, _, rfl, _⟩ := h
  cases digits with
  | nil => exact absurd rfl hsome
  | cons d digits =>
      have hd := hdigits d (List.mem_cons_self ..)
      refine notNext_cons.2 (isBlank_of_isWordChar ?_)
      simp [isWordChar, Char.isAlphanum, hd]

end Names

/-! ## Operators and operands -/

section Operands

variable {cs rest : List Char}

/-- An operator is read where it stands. -/
theorem operator_iff {op : Operator} : operator cs = .ok (op, rest) ↔ OperatorAt cs op rest := by
  constructor
  · intro h
    unfold operator at h
    split at h <;> cases h <;> rfl
  · intro h
    cases op <;> (obtain rfl := h; rfl)

/-- An operator does not start with a blank. -/
theorem OperatorAt.notNext {op : Operator} (h : OperatorAt cs op rest) : NotNext isBlank cs := by
  cases op <;> (obtain rfl := h; exact notNext_cons.2 (by decide))

/-- What comes after an operator is not longer. -/
theorem OperatorAt.length_le {op : Operator} (h : OperatorAt cs op rest) :
    rest.length ≤ cs.length := by
  obtain rfl := h
  rw [List.length_append]
  omega

/-- The escapes are those of the grammar. -/
theorem unescape?_iff {e c : Char} : unescape? e = some c ↔ Escape e c := by
  constructor
  · intro h
    unfold unescape? at h
    split at h
    case h_1 => cases h; exact .newline
    case h_2 => cases h; exact .tab
    case h_3 => cases h; exact .carriage
    case h_4 =>
      split at h
      case isTrue he =>
        cases h
        rcases he with rfl | rfl | rfl
        · exact .backslash
        · exact .doubleQuote
        · exact .singleQuote
      case isFalse => cases h
  · rintro (_ | _) <;> rfl

/-- A string goes on with any character but a backslash. -/
theorem stringBody_cons {quote c : Char} (start : List Char) (hc : c ≠ '\\') :
    stringBody quote start (c :: cs) = if c = quote then .ok ([], cs)
      else (stringBody quote start cs).map fun (text, rest) => (c :: text, rest) :=
  stringBody.eq_4 quote start c cs (fun h => absurd h hc) fun _ _ h => absurd h hc

/-- A string is read up to its closing quote. -/
theorem stringBody_iff {quote : Char} {start text : List Char} (hquote : quote ≠ '\\') :
    stringBody quote start cs = .ok (text, rest) ↔ QuotedAt quote cs text rest := by
  constructor
  · intro h
    fun_induction stringBody quote start cs generalizing text with
    | case1 => cases h
    | case2 => cases h
    | case3 e cs d hd ih =>
        obtain ⟨⟨text, more⟩, hread, heq⟩ := map_eq_ok_iff.1 h
        cases heq
        exact .escape (unescape?_iff.1 hd) (ih hread)
    | case4 => cases h
    | case5 cs =>
        cases h
        exact .close
    | case6 c cs hend hescape hc ih =>
        obtain ⟨⟨text, more⟩, hread, heq⟩ := map_eq_ok_iff.1 h
        cases heq
        -- A backslash was taken by an earlier case, with what stands after it or at the end.
        refine .plain hc (fun hback => ?_) (ih hread)
        cases cs with
        | nil => exact hend hback rfl
        | cons d cs => exact hescape d cs hback rfl
  · intro h
    induction h with
    | close => rw [stringBody_cons start hquote, if_pos rfl]
    | plain hplain hback _ ih =>
        rw [stringBody_cons start hback, if_neg hplain, ih]
        rfl
    | escape he _ ih =>
        rw [stringBody.eq_3, unescape?_iff.2 he, ih]
        rfl

/-- What comes after a string is not longer. -/
theorem QuotedAt.length_le {quote : Char} {text : List Char} (h : QuotedAt quote cs text rest) :
    rest.length ≤ cs.length := by
  induction h with
  | close => exact Nat.le_succ _
  | plain _ _ _ ih => exact Nat.le_succ_of_le ih
  | escape _ _ ih => exact Nat.le_succ_of_le (Nat.le_succ_of_le ih)

/-- What comes after a pattern is not longer. -/
theorem PatternBodyAt.length_le {chars : List Char} (h : PatternBodyAt cs chars rest) :
    rest.length ≤ cs.length := by
  induction h with
  | close => exact Nat.le_succ _
  | slash _ ih => exact Nat.le_succ_of_le (Nat.le_succ_of_le ih)
  | escape _ _ ih => exact Nat.le_succ_of_le (Nat.le_succ_of_le ih)
  | plain _ _ _ ih => exact Nat.le_succ_of_le ih

/-- A pattern is read up to the slash that ends it. -/
theorem patternBody?_iff {chars : List Char} :
    patternBody? cs = some (chars, rest) ↔ PatternBodyAt cs chars rest := by
  constructor
  · intro h
    fun_induction patternBody? cs generalizing chars with
    | case1 => cases h
    | case2 =>
        cases h
        exact .close
    | case3 => cases h
    | case4 cs ih =>
        obtain ⟨⟨chars, more⟩, hread, heq⟩ := Option.map_eq_some_iff.1 h
        cases heq
        exact .slash (ih hread)
    | case5 c cs hc ih =>
        obtain ⟨⟨chars, more⟩, hread, heq⟩ := Option.map_eq_some_iff.1 h
        cases heq
        exact .escape hc (ih hread)
    | case6 c cs hc hend hslash hescape ih =>
        obtain ⟨⟨chars, more⟩, hread, heq⟩ := Option.map_eq_some_iff.1 h
        cases heq
        refine .plain hc (fun hback => ?_) (ih hread)
        cases cs with
        | nil => exact hend hback rfl
        | cons d cs => exact hescape d cs hback rfl
  · intro h
    induction h with
    | close => rfl
    | slash _ ih =>
        rw [patternBody?, ih]
        rfl
    | escape hc _ ih =>
        rw [patternBody?.eq_5 _ _ hc, ih]
        rfl
    | plain hc hback _ ih =>
        rw [patternBody?.eq_6 _ _ hc (fun h => absurd h hback) (fun _ h => absurd h hback)
          fun _ _ h => absurd h hback, ih]
        rfl

/-- A flag is a letter. -/
theorem isAlpha_of_isFlag {c : Char} (h : isFlag c = true) : c.isAlpha = true := by
  simp only [isFlag, Bool.or_eq_true, decide_eq_true_eq] at h
  rcases h with (((rfl | rfl) | rfl) | rfl) | rfl <;> decide

/-- What is read as a pattern is one. -/
theorem patternAt_of_patternLiteral {start body : List Char} {p : PatternLiteral}
    (h : patternLiteral start body = .ok (p, rest)) : PatternAt ('m' :: '/' :: body) p rest := by
  unfold patternLiteral at h
  cases hbody : patternBody? body with
  | none =>
      rw [hbody] at h
      cases h
  | some read =>
      obtain ⟨chars, more⟩ := read
      rw [hbody] at h
      dsimp only at h
      cases hbad : (more.takeWhile Char.isAlpha).find? (!isFlag ·) with
      | some bad =>
          rw [hbad] at h
          cases h
      | none =>
          rw [hbad] at h
          dsimp only at h
          split at h
          case isTrue hcompile =>
            cases h
            refine ⟨body, chars, more.takeWhile Char.isAlpha, rfl, ?_, fun c hc => ?_, rfl,
              hcompile⟩
            · rw [List.takeWhile_append_dropWhile]
              exact patternBody?_iff.1 hbody
            · simpa using List.find?_eq_none.1 hbad c hc
          case isFalse => cases h

/-- A pattern is read where it stands, if no letter follows it. -/
theorem PatternAt.patternLiteral {start body : List Char} {p : PatternLiteral}
    (h : PatternAt ('m' :: '/' :: body) p rest) (hrest : NotNext Char.isAlpha rest) :
    patternLiteral start body = .ok (p, rest) := by
  obtain ⟨body', chars, flags, heq, hbody, hflags, rfl, hcompile⟩ := h
  cases heq
  -- The reader takes all letters after the slash, which are the flags since no letter follows them.
  obtain ⟨htake, hdrop⟩ :=
    run_iff.2 ⟨fun c hc => isAlpha_of_isFlag (hflags c hc), hrest, rfl⟩
  have hfind : flags.find? (!isFlag ·) = none :=
    List.find?_eq_none.2 fun c hc => by simp [hflags c hc]
  unfold Reader.patternLiteral
  rw [patternBody?_iff.2 hbody]
  dsimp only
  rw [htake, hdrop, hfind]
  dsimp only
  rw [if_pos hcompile]

/-- What is read as an operand is one. -/
theorem operandAt_of_operand {x : Operand} (h : operand cs = .ok (x, rest)) :
    OperandAt cs x rest := by
  unfold operand at h
  split at h
  case h_1 =>
    obtain ⟨⟨key, more⟩, hread, heq⟩ := map_eq_ok_iff.1 h
    cases heq
    exact .reference (reference_iff.1 hread)
  case h_2 =>
    obtain ⟨⟨p, more⟩, hread, heq⟩ := map_eq_ok_iff.1 h
    cases heq
    exact .pattern (patternAt_of_patternLiteral hread)
  case h_3 c cs _ _ =>
    split at h
    case isTrue hquote =>
      obtain ⟨⟨text, more⟩, hread, heq⟩ := map_eq_ok_iff.1 h
      cases heq
      have hback : c ≠ '\\' := by rcases hquote with rfl | rfl <;> decide
      exact .literal ⟨c, cs, text, hquote, rfl, (stringBody_iff hback).1 hread, rfl⟩
    case isFalse => cases h
  case h_4 => cases h

/-- An operand is read where it stands, if no letter follows it. -/
theorem OperandAt.operand {x : Operand} (h : OperandAt cs x rest)
    (hrest : NotNext Char.isAlpha rest) : operand cs = .ok (x, rest) := by
  cases h with
  | reference hkey =>
      obtain ⟨more, rfl⟩ := hkey.exists_cons
      rw [Reader.operand, reference_iff.2 hkey]
      rfl
  | pattern hp =>
      obtain ⟨body, _, _, rfl, _⟩ := id hp
      rw [Reader.operand, hp.patternLiteral hrest]
      rfl
  | literal htext =>
      obtain ⟨quote, body, chars, hquote, rfl, hbody, rfl⟩ := htext
      have hback : quote ≠ '\\' := by rcases hquote with rfl | rfl <;> decide
      have hread : stringBody quote (quote :: body) body = .ok (chars, rest) :=
        (stringBody_iff hback).2 hbody
      have hstring : Reader.operand (quote :: body) = (stringBody quote (quote :: body) body).map
          fun (text, rest) => (.literal (.ofList text), rest) := by
        rcases hquote with rfl | rfl <;> rfl
      rw [hstring, hread]
      rfl

/-- What comes after an operand is not longer. -/
theorem OperandAt.length_le {x : Operand} (h : OperandAt cs x rest) : rest.length ≤ cs.length := by
  cases h with
  | reference hkey => exact Nat.le_of_lt hkey.length_lt
  | pattern hp =>
      obtain ⟨body, chars, flags, rfl, hbody, _⟩ := hp
      have hlength := hbody.length_le
      rw [List.length_append] at hlength
      rw [List.length_cons, List.length_cons]
      omega
  | literal htext =>
      obtain ⟨quote, body, chars, _, rfl, hbody, _⟩ := htext
      exact Nat.le_succ_of_le hbody.length_le

/-- An operand does not start with a blank. -/
theorem OperandAt.notNext {x : Operand} (h : OperandAt cs x rest) : NotNext isBlank cs := by
  cases h with
  | reference hkey => exact hkey.notNext
  | pattern hp =>
      obtain ⟨_, _, _, rfl, _⟩ := hp
      exact notNext_cons.2 (by decide)
  | literal htext =>
      obtain ⟨quote, _, _, hquote, rfl, _⟩ := htext
      rcases hquote with rfl | rfl <;> exact notNext_cons.2 (by decide)

end Operands

end SiteIndex.Query.Grammar
