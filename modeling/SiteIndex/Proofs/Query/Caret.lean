import Mathlib.Data.List.DropRight
import SiteIndex.Proofs.Query.Reading

/-!
# Where the caret of a syntax error stands

A syntax error is shown as the whole query, a line break, and a caret behind as many spaces as there
are characters before the reported column. The line directly above the caret is then the last line
of the query, while the spaces count from its first character. So the caret stands under the
reported character if that is on the first line and the last line reads the same, in particular if
the query is a single line, and in no other case (`caretMarks_iff`).
-/

namespace SiteIndex.Query

open Grammar (NotNext run_iff)

/-! ## Lines -/

section Lines

variable {cs line : List Char}

/-- A character that does not end a line. -/
def inLine (c : Char) : Bool := c ≠ '\n'

/-- `line` is the line of a text that starts at the place `start`. -/
def LineAt (cs : List Char) (start : Nat) (line : List Char) : Prop :=
  ∃ before after, cs = before ++ (line ++ after) ∧ before.length = start ∧
    (∀ c ∈ line, inLine c = true) ∧ NotNext inLine before.reverse ∧ NotNext inLine after

/-- The first line of a text. -/
def firstLine (cs : List Char) : List Char := cs.takeWhile inLine

/-- The last line of a text. -/
def lastLine (cs : List Char) : List Char := cs.rtakeWhile inLine

/-- The line at the start of a text is its first line. -/
theorem lineAt_zero_iff : LineAt cs 0 line ↔ firstLine cs = line := by
  constructor
  · rintro ⟨before, after, hcs, hstart, hline, -, hafter⟩
    obtain rfl := List.length_eq_zero_iff.1 hstart
    exact (run_iff.2 ⟨hline, hafter, hcs⟩).1
  · rintro rfl
    obtain ⟨hline, hafter, hcs⟩ := run_iff.1 ⟨rfl, rfl⟩
    exact ⟨[], cs.dropWhile inLine, hcs, rfl, hline, Grammar.notNext_nil, hafter⟩

/-- A line that ends a text is its last line. -/
theorem lastLine_eq_iff : lastLine cs = line ↔
    ∃ above, cs = above ++ line ∧ NotNext inLine above.reverse ∧ ∀ c ∈ line, inLine c = true := by
  constructor
  · rintro rfl
    obtain ⟨hline, habove, hcs⟩ := run_iff.1 (⟨rfl, rfl⟩ :
      cs.reverse.takeWhile inLine = _ ∧ cs.reverse.dropWhile inLine = _)
    refine ⟨(cs.reverse.dropWhile inLine).reverse, ?_, ?_, fun c hc => ?_⟩
    · rw [lastLine, List.rtakeWhile, ← List.reverse_append, ← hcs, List.reverse_reverse]
    · rwa [List.reverse_reverse]
    · exact hline c (List.mem_reverse.1 hc)
  · rintro ⟨above, rfl, habove, hline⟩
    have hrun : (above ++ line).reverse.takeWhile inLine = line.reverse :=
      (run_iff.2 ⟨fun c hc => hline c (List.mem_reverse.1 hc), habove, List.reverse_append⟩).1
    rw [lastLine, List.rtakeWhile, hrun, List.reverse_reverse]

/-- A text of one line is its first and its last line. -/
theorem lines_of_inLine (h : ∀ c ∈ cs, inLine c = true) : firstLine cs = cs ∧ lastLine cs = cs :=
  ⟨lineAt_zero_iff.1 ⟨[], [], by simp, rfl, h, Grammar.notNext_nil, Grammar.notNext_nil⟩,
    lastLine_eq_iff.2 ⟨[], rfl, Grammar.notNext_nil, h⟩⟩

/-- Of a text that ends in a line of spaces the lines before it and the spaces are known. -/
theorem append_spaces_inj {m n : Nat} {xs ys : List Char}
    (h : xs ++ '\n' :: List.replicate m ' ' = ys ++ '\n' :: List.replicate n ' ') :
    xs = ys ∧ m = n := by
  have hrun : ∀ (k : Nat) (zs : List Char),
      (zs ++ '\n' :: List.replicate k ' ').reverse.takeWhile (· = ' ') = List.replicate k ' ' ∧
        (zs ++ '\n' :: List.replicate k ' ').reverse.dropWhile (· = ' ') = '\n' :: zs.reverse :=
    fun k zs => run_iff.2 ⟨fun c hc => by simp [List.eq_of_mem_replicate hc],
      Grammar.notNext_cons.2 (by decide), by simp⟩
  obtain ⟨hspaces, hlines⟩ := hrun m xs
  rw [h] at hspaces hlines
  constructor
  · have hreverse := (hrun n ys).2.symm.trans hlines
    exact (List.reverse_injective (List.cons.inj hreverse).2).symm
  · have hlength := congrArg List.length ((hrun n ys).1.symm.trans hspaces)
    rw [List.length_replicate, List.length_replicate] at hlength
    exact hlength.symm

end Lines

/-! ## Rendered errors -/

section Caret

variable {e : SyntaxError} {text : String}

/-- The caret and the text behind it. -/
def caretText (e : SyntaxError) : List Char := '^' :: ' ' :: e.message.toList

/-- The line directly above the caret is the line of the query with the reported character, and the
caret has the offset of that character in its line. -/
def CaretMarks (e : SyntaxError) : Prop :=
  ∃ above line start offset, e.pretty.toList =
      above ++ line ++ '\n' :: (List.replicate offset ' ' ++ caretText e) ∧
    NotNext inLine above.reverse ∧ LineAt e.query.toList start line ∧
    start + offset + 1 = e.column ∧ offset ≤ line.length

/-- The characters of a rendered error. -/
theorem toList_pretty (e : SyntaxError) : e.pretty.toList =
    e.query.toList ++ '\n' :: (List.replicate (e.column - 1) ' ' ++ caretText e) := by
  simp [SyntaxError.pretty, caretText]

/-- The caret marks the reported character if that is on the first line and the last line, which
stands above the caret, is the same. -/
theorem caretMarks_iff_lines (hcolumn : 1 ≤ e.column) : CaretMarks e ↔
    e.column ≤ (firstLine e.query.toList).length + 1 ∧
      lastLine e.query.toList = firstLine e.query.toList := by
  constructor
  · rintro ⟨above, line, start, offset, hpretty, habove, hline, hplace, hoffset⟩
    rw [toList_pretty, ← List.cons_append, ← List.cons_append, ← List.append_assoc,
      ← List.append_assoc] at hpretty
    obtain ⟨hquery, hspaces⟩ := append_spaces_inj (List.append_cancel_right hpretty)
    -- There are as many spaces as characters before the column, so that the line starts the query.
    obtain rfl : start = 0 := by omega
    have hlast : lastLine e.query.toList = line := by
      obtain ⟨_, _, _, _, hchars, _⟩ := hline
      exact lastLine_eq_iff.2 ⟨above, hquery, habove, hchars⟩
    rw [hlast, lineAt_zero_iff.1 hline]
    exact ⟨by omega, rfl⟩
  · rintro ⟨hfirst, hlast⟩
    obtain ⟨above, hquery, habove, -⟩ := lastLine_eq_iff.1 hlast
    refine ⟨above, firstLine e.query.toList, 0, e.column - 1, ?_, habove, lineAt_zero_iff.2 rfl,
      by omega, by omega⟩
    rw [toList_pretty, ← hquery]

/-- A refused text is reported as it is, with a column of one of its characters or behind them. -/
theorem query_of_refused {α : Type} {read : List Char → Parsed α}
    (h : (Reader.whole read text.toList).mapError (Reader.toSyntaxError text) = .error e) :
    e.query = text ∧ 1 ≤ e.column ∧ e.column ≤ text.toList.length + 1 := by
  obtain ⟨stuck, -, rfl⟩ := Grammar.exists_stuck_of_refused h
  exact ⟨rfl, Grammar.column_toSyntaxError text stuck⟩

end Caret

/-- The caret of a rendered error of a refused text marks the reported character exactly if that is
on the first line of the text and the last line is the same as the first one. This is so for every
text that is a single line. -/
theorem caretMarks_iff (text : String) (e : SyntaxError)
    (h : readStatement text = .error e ∨ readSelection text = .error e) :
    (CaretMarks e ↔ e.column ≤ (firstLine text.toList).length + 1 ∧
      lastLine text.toList = firstLine text.toList) ∧
    ('\n' ∉ text.toList → CaretMarks e) := by
  obtain ⟨rfl, hpos, hcolumn⟩ : e.query = text ∧ 1 ≤ e.column ∧
      e.column ≤ text.toList.length + 1 := h.elim query_of_refused query_of_refused
  have hiff := caretMarks_iff_lines hpos
  refine ⟨hiff, fun hbreak => hiff.2 ?_⟩
  have hline : ∀ c ∈ e.query.toList, inLine c = true := by
    intro c hc
    exact decide_eq_true fun hsame => hbreak (hsame ▸ hc)
  obtain ⟨hfirst, hlast⟩ := lines_of_inLine hline
  rw [hfirst, hlast]
  exact ⟨hcolumn, rfl⟩

/-- In a query of two lines the caret for a character of the second one stands under none of it,
while it marks the same character in one line. -/
theorem caretMarks_iff_second :
    (∃ e, readStatement "(.a ==\nx)" = .error e ∧ e.column = 8 ∧ ¬ CaretMarks e) ∧
      ∃ e, readStatement "(.a == x)" = .error e ∧ e.column = 8 ∧ CaretMarks e := by
  have htwo : readStatement "(.a ==\nx)" = .error
      ⟨"(.a ==\nx)", 8, "expected .Name, m/regexp/ or a quoted string"⟩ := by decide +kernel
  have hone : readStatement "(.a == x)" = .error
      ⟨"(.a == x)", 8, "expected .Name, m/regexp/ or a quoted string"⟩ := by decide +kernel
  refine ⟨⟨_, htwo, rfl, fun hmarks => ?_⟩, _, hone, rfl, ?_⟩
  · have hcolumn := ((caretMarks_iff _ _ (.inl htwo)).1.1 hmarks).1
    exact absurd hcolumn (by decide)
  · exact (caretMarks_iff _ _ (.inl hone)).2 (by decide)

end SiteIndex.Query
