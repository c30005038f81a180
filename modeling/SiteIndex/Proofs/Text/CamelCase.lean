import SiteIndex.Text.AttributeName

/-!
# Attribute names in camel case

What becomes of a name of ASCII letters, digits, hyphens and low lines: letters and digits, the
first of which is no upper case letter (`isCamelForm_camelChars`). Nothing may be left of the name,
and its first character may be a digit; otherwise it is in camel case (`IsCamelForm.isCamel_iff`),
and then it is its own camel case form (`camelChars_of_isCamel`).
-/

namespace SiteIndex.Text

variable {c : Char} {cs : List Char}

/-! ## ASCII letters and digits -/

/-- Letters and digits are among the first 128 characters. -/
theorem toNat_lt_of_isAlphanum (h : c.isAlphanum = true) : c.toNat < 128 := by
  have h : ((decide (c.val ≥ 'A'.val ∧ c.val ≤ 'Z'.val) ||
      (decide (c.val ≥ 'a'.val) && decide (c.val ≤ 'z'.val))) ||
      (decide (c.val ≥ '0'.val) && decide (c.val ≤ '9'.val))) = true := h
  simp only [Bool.or_eq_true, Bool.and_eq_true, decide_eq_true_eq, ge_iff_le,
    UInt32.le_iff_toNat_le] at h
  change ((65 ≤ c.toNat ∧ c.toNat ≤ 90) ∨ (97 ≤ c.toNat ∧ c.toNat ≤ 122)) ∨
    (48 ≤ c.toNat ∧ c.toNat ≤ 57) at h
  omega

/-- A property of the letters and digits, checked one by one. -/
theorem forall_isAlphanum {P : Char → Prop}
    (h : ∀ n < 128, (Char.ofNat n).isAlphanum = true → P (Char.ofNat n))
    (hc : c.isAlphanum = true) : P c := by
  have hofNat := Char.ofNat_toNat c
  exact hofNat ▸ h c.toNat (toNat_lt_of_isAlphanum hc) (hofNat.symm ▸ hc)

/-- The lower case of a letter or digit is one, and no upper case letter. -/
theorem lowerChar_of_isAlphanum (hc : c.isAlphanum = true) :
    lowerChar c = [c.toLower] ∧ c.toLower.isAlphanum = true ∧ c.toLower.isUpper = false :=
  forall_isAlphanum (P := fun c => lowerChar c = [c.toLower] ∧ c.toLower.isAlphanum = true ∧
    c.toLower.isUpper = false) (by decide +kernel) hc

/-- The upper case of a letter or digit is one. -/
theorem upperChar_of_isAlphanum (hc : c.isAlphanum = true) :
    upperChar c = [c.toUpper] ∧ c.toUpper.isAlphanum = true :=
  forall_isAlphanum (P := fun c => upperChar c = [c.toUpper] ∧ c.toUpper.isAlphanum = true)
    (by decide +kernel) hc

/-- A letter or digit parts no words. -/
theorem isNameSeparator_of_isAlphanum (hc : c.isAlphanum = true) : isNameSeparator c = false :=
  forall_isAlphanum (P := fun c => isNameSeparator c = false) (by decide +kernel) hc

/-- A letter or digit that is neither an upper case letter nor a digit is a lower case letter,
which is its own lower case. -/
theorem isLower_iff (hc : c.isAlphanum = true) :
    (c.isLower = true ↔ c.isUpper = false ∧ c.isDigit = false) ∧
      (c.isLower = true → c.toLower = c) :=
  forall_isAlphanum (P := fun c => (c.isLower = true ↔ c.isUpper = false ∧ c.isDigit = false) ∧
    (c.isLower = true → c.toLower = c)) (by decide +kernel) hc

/-- A lower case letter is a letter. -/
theorem isAlpha_of_isLower (h : c.isLower = true) : c.isAlpha = true := by
  show (c.isUpper || c.isLower) = true
  rw [h, Bool.or_true]

/-- A lower case letter is a letter or digit. -/
theorem isAlphanum_of_isLower (h : c.isLower = true) : c.isAlphanum = true := by
  show (c.isAlpha || c.isDigit) = true
  rw [isAlpha_of_isLower h, Bool.true_or]

/-! ## Names in camel case -/

/-- A lower case letter, and letters and digits after it. -/
def IsCamel : List Char → Prop
  | [] => False
  | c :: cs => c.isLower = true ∧ ∀ d ∈ cs, d.isAlphanum = true

instance : DecidablePred IsCamel
  | [] => inferInstanceAs (Decidable False)
  | c :: cs =>
    decidable_of_iff (c.isLower = true ∧ cs.all Char.isAlphanum = true)
      (by rw [IsCamel, List.all_eq_true])

/-- Letters and digits, the first of which is no upper case letter. -/
def IsCamelForm (cs : List Char) : Prop :=
  (∀ c ∈ cs, c.isAlphanum = true) ∧ ∀ c ∈ cs.head?, c.isUpper = false

/-- What is left of a name is in camel case unless it is nothing or starts with a digit. -/
theorem IsCamelForm.isCamel_iff (h : IsCamelForm cs) :
    IsCamel cs ↔ ∃ c ∈ cs.head?, c.isDigit = false := by
  cases cs with
  | nil => exact ⟨fun hcamel => hcamel.elim, fun ⟨_, hc, _⟩ => (by cases hc)⟩
  | cons c cs =>
      have hlower := (isLower_iff (h.1 c (List.mem_cons_self ..))).1
      have hupper := h.2 c rfl
      constructor
      · intro hcamel
        exact ⟨c, rfl, (hlower.1 hcamel.1).2⟩
      · rintro ⟨_, ⟨⟩, hdigit⟩
        exact ⟨hlower.2 ⟨hupper, hdigit⟩, fun d hd => h.1 d (List.mem_cons_of_mem _ hd)⟩

/-- The words of a name after its first character are put together from letters and digits. -/
theorem isAlphanum_of_mem_camelTail {start : Bool}
    (h : ∀ c ∈ cs, c.isAlphanum = true ∨ isNameSeparator c = true) :
    ∀ d ∈ camelTail start cs, d.isAlphanum = true := by
  induction cs generalizing start with
  | nil => simp [camelTail]
  | cons c cs ih =>
      have ih := fun start => @ih start fun d hd => h d (List.mem_cons_of_mem _ hd)
      intro d hd
      unfold camelTail at hd
      split at hd
      case isTrue => exact ih true d hd
      case isFalse hsep =>
        have hc : c.isAlphanum = true := (h c (List.mem_cons_self ..)).resolve_right hsep
        rcases List.mem_append.1 hd with hd | hd
        · cases start with
          | true =>
              rw [if_pos rfl, (upperChar_of_isAlphanum hc).1, List.mem_singleton] at hd
              exact hd ▸ (upperChar_of_isAlphanum hc).2
          | false =>
              rw [if_neg Bool.false_ne_true, List.mem_singleton] at hd
              exact hd ▸ hc
        · exact ih false d hd

/-- What is left of a name are letters and digits, the first of which is no upper case letter. -/
theorem isCamelForm_camelChars (h : ∀ c ∈ cs, c.isAlphanum = true ∨ isNameSeparator c = true) :
    IsCamelForm (camelChars cs) := by
  unfold camelChars
  split
  case h_1 => simp [IsCamelForm]
  case h_2 c rest hdrop =>
    have hmem : ∀ d ∈ c :: rest, d ∈ cs := fun d hd =>
      (List.dropWhile_sublist _).subset (hdrop ▸ hd)
    have hsep : ¬ isNameSeparator c = true := by
      have hhead := List.head?_dropWhile_not isNameSeparator cs
      rw [hdrop] at hhead
      simpa using hhead
    have hc : c.isAlphanum = true := (h c (hmem c (List.mem_cons_self ..))).resolve_right hsep
    obtain ⟨hlower, halphanum, hupper⟩ := lowerChar_of_isAlphanum hc
    rw [hlower]
    constructor
    · intro d hd
      rcases List.mem_cons.1 hd with rfl | hd
      · exact halphanum
      · exact isAlphanum_of_mem_camelTail
          (fun e he => h e (hmem e (List.mem_cons_of_mem _ he))) d hd
    · rintro _ ⟨⟩
      exact hupper

/-- Letters and digits are all in the word that they continue. -/
theorem camelTail_of_isAlphanum (h : ∀ c ∈ cs, c.isAlphanum = true) : camelTail false cs = cs := by
  induction cs with
  | nil => rfl
  | cons c cs ih =>
      have hsep := isNameSeparator_of_isAlphanum (h c (List.mem_cons_self ..))
      rw [camelTail, if_neg (by simp [hsep]), ih fun d hd => h d (List.mem_cons_of_mem _ hd)]
      rfl

/-- A name in camel case is its own camel case form. -/
theorem camelChars_of_isCamel (h : IsCamel cs) : camelChars cs = cs := by
  cases cs with
  | nil => exact h.elim
  | cons c cs =>
      have hc := isAlphanum_of_isLower h.1
      have hsep := isNameSeparator_of_isAlphanum hc
      unfold camelChars
      rw [List.dropWhile_cons_of_neg (by simp [hsep])]
      show lowerChar c ++ camelTail false cs = c :: cs
      rw [(lowerChar_of_isAlphanum hc).1, (isLower_iff hc).2 h.1, camelTail_of_isAlphanum h.2]
      rfl

end SiteIndex.Text
