import Mathlib.Data.List.Induction
import Mathlib.Data.List.Nodup
import SiteIndex.Search.Token
import SiteIndex.Store.Key

/-!
# Words that are indexed

The words of a text are different from each other and not empty, so that a zero is all that can
keep one of them from being a name of the store (`isName_queryTerm_iff`).
-/

namespace SiteIndex.Search

open Store.Key (isName)

section Distinct

variable {α : Type} [DecidableEq α] {items : List α}

/-- Leaving out repeats leaves the same items, each once. -/
theorem distinct_spec (items : List α) :
    (distinct items).Nodup ∧ ∀ a, a ∈ distinct items ↔ a ∈ items := by
  induction items using List.reverseRecOn with
  | nil => exact ⟨List.nodup_nil, fun _ => Iff.rfl⟩
  | append_singleton front a ih =>
      obtain ⟨hnodup, hmem⟩ := ih
      have hstep : distinct (front ++ [a]) =
          if (distinct front).contains a then distinct front else distinct front ++ [a] :=
        List.foldl_append
      rw [hstep]
      by_cases ha : a ∈ distinct front
      · rw [if_pos (List.contains_iff_mem.2 ha)]
        refine ⟨hnodup, fun b => ?_⟩
        rw [hmem, List.mem_append, List.mem_singleton]
        exact (or_iff_left_of_imp fun heq => heq ▸ (hmem a).1 ha).symm
      · rw [if_neg (fun h => ha (List.contains_iff_mem.1 h))]
        refine ⟨hnodup.append (List.nodup_singleton a) ?_, fun b => ?_⟩
        · exact fun b hb hb' => ha (List.mem_singleton.1 hb' ▸ hb)
        · rw [List.mem_append, List.mem_append, hmem]

end Distinct

/-- The lower case of a character is not empty. -/
theorem lowerChar_ne_nil (c : Char) : Text.lowerChar c ≠ [] := by
  unfold Text.lowerChar
  split <;> exact List.cons_ne_nil _ _

/-- The lower case of a text that is not empty is not empty either. -/
theorem lowerChars_ne_nil {cs : List Char} (h : cs ≠ []) : Text.lowerChars cs ≠ [] := by
  obtain ⟨c, rest, rfl⟩ := List.exists_cons_of_ne_nil h
  rw [Text.lowerChars, Text.lowerFrom]
  refine List.append_ne_nil_of_left_ne_nil ?_ _
  split
  · exact List.cons_ne_nil _ _
  · exact lowerChar_ne_nil c

/-- The words that are numbered are those of the list. -/
theorem mem_numberTokens {words : List (Nat × List Char)} {position : Nat} {token : Token}
    (h : token ∈ numberTokens position words) :
    ∃ word ∈ words, token.text = .ofList (Text.lowerChars word.2) := by
  induction words generalizing position with
  | nil => cases h
  | cons word rest ih =>
      rcases List.mem_cons.1 h with rfl | h
      · exact ⟨word, List.mem_cons_self .., rfl⟩
      · obtain ⟨other, hother, htext⟩ := ih h
        exact ⟨other, List.mem_cons_of_mem _ hother, htext⟩

/-- A word that is kept has a letter or a digit, so that it is not empty. -/
theorem text_ne_empty {maxLength : Nat} {text : String} {token : Token}
    (h : token ∈ tokenizeWithin maxLength text) : token.text ≠ "" := by
  obtain ⟨word, hword, htext⟩ := mem_numberTokens h
  have hkept : word ∈ Text.words text.toList := List.mem_of_mem_filter hword
  have hany : word.2.any Text.isAlphanumeric = true := (List.mem_filter.1 hkept).2
  have hne : word.2 ≠ [] := by
    intro hnil
    rw [hnil] at hany
    exact absurd hany Bool.false_ne_true
  rw [htext]
  intro hempty
  refine lowerChars_ne_nil hne ?_
  rw [← String.toList_ofList (l := Text.lowerChars word.2), hempty]
  rfl

/-- The words of a text are different from each other. -/
theorem nodup_uniqueTerms (text : String) : (uniqueTerms text).Nodup :=
  (distinct_spec ((tokenize text).map Token.text)).1

/-- Adding terms one after the other adds nothing else. -/
theorem mem_of_mem_foldl_addTerm {terms added : List QueryTerm} {term : QueryTerm}
    (h : term ∈ added.foldl addTerm terms) : term ∈ terms ∨ term ∈ added := by
  induction added generalizing terms with
  | nil => exact .inl h
  | cons first rest ih =>
      rcases ih h with hterm | hterm
      · unfold addTerm at hterm
        split at hterm
        · exact .inl hterm
        · rcases List.mem_append.1 hterm with hterm | hterm
          · exact .inl hterm
          · exact .inr (List.mem_singleton.1 hterm ▸ List.mem_cons_self ..)
      · exact .inr (List.mem_cons_of_mem _ hterm)

/-- A text is a name of the store if it is not empty and holds no zero. -/
theorem isName_iff {text : String} : isName text = true ↔ text ≠ "" ∧ '\x00' ∉ text.toList := by
  rw [isName, Bool.and_eq_true, decide_eq_true_iff, Bool.not_eq_true', ← Bool.not_eq_true,
    List.contains_iff_mem]

/-- A word of a query is a name of the store if it holds no zero. -/
theorem isName_queryTerm_iff {query : String} {term : QueryTerm} (h : term ∈ queryTerms query) :
    isName term.text = true ↔ '\x00' ∉ term.text.toList := by
  have hne : term.text ≠ "" := by
    rcases mem_of_mem_foldl_addTerm h with h | h
    · cases h
    · obtain ⟨chunk, _, hterm⟩ := List.mem_flatMap.1 h
      obtain ⟨token, htoken, rfl⟩ := List.mem_map.1 hterm
      exact text_ne_empty htoken
  rw [isName_iff]
  exact and_iff_right hne

end SiteIndex.Search
