import Mathlib.Data.Set.Finite.Basic
import SiteIndex.Proofs.Query.Continuing

/-!
# Readers stop where a text can still be continued

Where a reader of a part of a query refuses a text, what stands before that place can be continued
to such a part (`Viable`), unless a pattern has an unknown flag. This is shown reader by reader: a
refusal comes from the first part that is refused, the parts before it move, and the parts after
it can be written. Hence the column of a syntax error is a place in the text or just behind it, and
the characters before it are the front of a text that is read (`column_viable`).
-/

namespace SiteIndex.Query.Grammar

open Reader Relation

/-- A place where reading stops for another reason than an unknown flag. -/
def FlagsKnown (stuck : Stuck) : Prop := ∀ flag, stuck.fault ≠ .unknownFlag flag

section Led

variable {A B : Piece} {cs rest : List Char}

/-- What holds of a part holds of it after blanks. -/
theorem Led.mono (h : Led A cs rest) (hAB : ∀ {cs rest}, A cs rest → B cs rest) :
    Led B cs rest :=
  h.imp fun _ ⟨hblanks, hA⟩ => ⟨hblanks, hAB hA⟩

/-- Blanks before blanks are blanks. -/
theorem Led.join (h : Led (Led A) cs rest) : Led A cs rest := by
  obtain ⟨c₁, hblanks, c₂, hmore, hA⟩ := h
  exact ⟨c₂, hblanks.trans hmore, hA⟩

end Led

/-! ## Texts of the parts -/

section Texts

variable {tail : List Char}

/-- A spaced text goes on with no word. -/
theorem Spaced.notNext_continuesName (h : Spaced tail) : NotNext continuesName tail :=
  h.notNext (by decide)

/-- A word in capitals is written before a spaced text. -/
theorem keywordAt_spaced {word : String} (hword : word.toList.map Char.toUpper = word.toList)
    (h : Spaced tail) : KeywordAt word (word.toList ++ tail) tail :=
  keywordAt_word hword (h.notNext (by decide))

/-- An attribute is written. -/
theorem attributeAt_a (h : Spaced tail) : AttributeAt (".a".toList ++ tail) "a" tail :=
  have hname : Text.IsCamel "a".toList := by decide
  attributeAt_key hname h.notNext_continuesName

/-- A keyword can be written. -/
theorem starts_keyword {word : String} (hword : word.toList.map Char.toUpper = word.toList) :
    Starts (Led (KeywordAt word)) :=
  starts_led word.toList fun _ htail => keywordAt_spaced hword htail

/-- A number can be written. -/
theorem starts_number : Starts (Led (Denotes NumberAt)) :=
  starts_led (Nat.toDigits 10 (0 : UInt64).toNat) fun _ htail =>
    ⟨0, numberAt_toDigits 0 (htail.notNext (by decide))⟩

/-- An operator can be written. -/
theorem starts_operator : Starts (Led (Denotes OperatorAt)) :=
  starts_led Operator.eq.symbol.toList fun _ _ => ⟨.eq, rfl⟩

/-- An operand can be written. -/
theorem starts_operand : Starts (Led (Denotes OperandAt)) :=
  starts_led ".a".toList fun _ htail => ⟨.reference "a", .reference (attributeAt_a htail)⟩

/-- The word between two expressions can be written. -/
theorem starts_connective : Starts (Led (Denotes ConnectiveAt)) :=
  starts_led "AND".toList fun _ htail => ⟨.and, .and (keywordAt_spaced (by decide) htail)⟩

/-- A closing parenthesis can be written. -/
theorem starts_closing : Starts (Led (CharAt ')')) := starts_led [')'] fun _ _ => rfl

/-- An expression can be written. -/
theorem starts_expression : Starts (Led (Denotes ExpressionAt)) := by
  refine starts_led (Expression.operation "a" .eq (.reference "a")).chars fun tail _ => ?_
  exact ⟨_, expressionAt_chars ⟨by decide, fun _ hp => absurd hp List.not_mem_nil⟩ tail⟩

/-- The order clause can be written after its first word. -/
theorem starts_order : Starts (Led (Denotes OrderAt)) := by
  refine starts_led ("BY".toList ++ ' ' :: ".a".toList) fun tail htail => ⟨"a", _, _, ?_,
    BlanksAt.space _, attributeAt_a htail⟩
  rw [List.append_assoc]
  exact keywordAt_word_space (by decide) _

/-- A clause can be left out. -/
theorem starts_clause {α : Type} (word : String) (BodyAt : List Char → α → List Char → Prop) :
    Starts (Denotes (ClauseAt word BodyAt)) :=
  starts_of_refl fun _ => ⟨none, .absent⟩

/-- A direction can be left out. -/
theorem starts_direction : Starts (Denotes DirectionAt) :=
  starts_of_refl fun _ => ⟨.ascending, .absent⟩

end Texts

/-! ## Tokens -/

section Tokens

variable {cs : List Char} {stuck : Stuck}

/-- An attribute is refused at its start or after its point, where any name may stand. -/
theorem reference_viable {P : String → Prop} (hname : ∃ key, Text.IsCamel key.toList ∧ P key)
    (h : reference (blanks cs) = .error stuck) :
    Viable (Led fun cs rest => ∃ key, AttributeAt cs key rest ∧ P key) cs stuck.rest := by
  obtain ⟨key, hkey, hP⟩ := hname
  have hwritten : ∀ tail, Spaced tail →
      ∃ other, AttributeAt ('.' :: (key.toList ++ tail)) other tail ∧ P other := fun tail htail =>
    ⟨key, attributeAt_key hkey htail.notNext_continuesName, hP⟩
  have hpoint : ∀ rest, blanks cs = '.' :: rest →
      Viable (Led fun cs rest => ∃ key, AttributeAt cs key rest ∧ P key) cs rest := by
    refine fun rest hcs => Viable.led ⟨['.'], key.toList, hcs, fun tail htail => ?_⟩
    rw [hcs]
    exact ⟨replaces_cons '.' _ _, hwritten tail htail⟩
  unfold reference at h
  split at h
  case h_1 c rest hcs =>
    split at h <;> cases h
    exact hpoint _ hcs
  case h_2 hcs =>
    cases h
    exact hpoint _ hcs
  case h_3 =>
    cases h
    exact (starts_led ('.' :: key.toList) hwritten).viable (blanksAt_blanks cs)

/-- Any attribute may stand where one is refused. -/
theorem attribute_viable (h : reference (blanks cs) = .error stuck) :
    Viable (Led (Denotes AttributeAt)) cs stuck.rest := by
  have hname : ∃ key : String, Text.IsCamel key.toList ∧ True := ⟨"a", by decide, trivial⟩
  exact (reference_viable hname h).mono fun h => h.mono fun ⟨key, hkey, _⟩ => ⟨key, hkey⟩

/-- A number is refused at its start. -/
theorem count_viable (h : count (blanks cs) = .error stuck) :
    Viable (Led (Denotes NumberAt)) cs stuck.rest := by
  have hstart : stuck.rest = blanks cs := by
    unfold count at h
    dsimp only at h
    split_ifs at h <;> cases h <;> rfl
  rw [hstart]
  exact starts_number.viable (blanksAt_blanks cs)

/-- An operator is refused at its start. -/
theorem operator_viable (h : operator (blanks cs) = .error stuck) :
    Viable (Led (Denotes OperatorAt)) cs stuck.rest := by
  have hstart : stuck.rest = blanks cs := by
    unfold operator at h
    split at h <;> cases h
    rfl
  rw [hstart]
  exact starts_operator.viable (blanksAt_blanks cs)

/-- A string is refused at its start, or after a backslash, where the character for a line break
and the quote may stand. -/
theorem stringBody_stuck {quote : Char} {start : List Char}
    (h : stringBody quote start cs = .error stuck) :
    stuck.rest = start ∨ ∃ front, cs = front ++ stuck.rest ∧
      ∀ tail, ∃ text, QuotedAt quote (front ++ 'n' :: quote :: tail) text tail := by
  fun_induction stringBody quote start cs with
  | case1 =>
      cases h
      exact .inl rfl
  | case2 =>
      cases h
      exact .inl rfl
  | case3 e cs d hd ih =>
      refine (ih (map_eq_error_iff.1 h)).imp_right ?_
      rintro ⟨front, hcs, hfront⟩
      refine ⟨'\\' :: e :: front, congrArg ('\\' :: e :: ·) hcs, fun tail => ?_⟩
      obtain ⟨text, htext⟩ := hfront tail
      exact ⟨d :: text, .escape (unescape?_iff.1 hd) htext⟩
  | case4 c cs =>
      cases h
      exact .inr ⟨['\\'], rfl, fun tail => ⟨['\n'], .escape .newline .close⟩⟩
  | case5 => cases h
  | case6 c cs hend hescape hc ih =>
      refine (ih (map_eq_error_iff.1 h)).imp_right ?_
      rintro ⟨front, hcs, hfront⟩
      refine ⟨c :: front, congrArg (c :: ·) hcs, fun tail => ?_⟩
      obtain ⟨text, htext⟩ := hfront tail
      -- A backslash was taken by an earlier case, with what stands after it or at the end.
      refine ⟨c :: text, .plain hc (fun hback => ?_) htext⟩
      cases cs with
      | nil => exact hend hback rfl
      | cons d cs => exact hescape d cs hback rfl

/-- A pattern is refused at its start, unless a flag is unknown. -/
theorem patternLiteral_stuck {start body : List Char} (hflags : FlagsKnown stuck)
    (h : patternLiteral start body = .error stuck) : stuck.rest = start := by
  unfold patternLiteral at h
  split at h
  case h_1 =>
    cases h
    rfl
  case h_2 pattern rest _ =>
    dsimp only at h
    split at h
    case h_1 bad _ =>
      cases h
      exact absurd rfl (hflags bad)
    case h_2 =>
      split at h <;> cases h
      rfl

/-- An operand is refused at its start or inside an attribute or a string. -/
theorem operand_viable (hflags : FlagsKnown stuck) (h : operand (blanks cs) = .error stuck) :
    Viable (Led (Denotes OperandAt)) cs stuck.rest := by
  have hstart : Viable (Led (Denotes OperandAt)) cs (blanks cs) :=
    starts_operand.viable (blanksAt_blanks cs)
  unfold operand at h
  split at h
  case h_1 rest hcs =>
    rw [map_eq_error_iff, ← hcs] at h
    exact (attribute_viable h).mono fun h => h.mono fun ⟨key, hkey⟩ => ⟨_, .reference hkey⟩
  case h_2 rest hcs =>
    rw [map_eq_error_iff, ← hcs] at h
    rwa [patternLiteral_stuck hflags h]
  case h_3 c rest _ _ hcs =>
    rw [← hcs] at h
    split at h
    case isTrue hquote =>
      rcases stringBody_stuck (map_eq_error_iff.1 h) with hrest | ⟨front, hrest, hfront⟩
      · rwa [hrest]
      · refine Viable.led ⟨c :: front, ['n', c], ?_, fun tail _ => ?_⟩
        · rw [hcs, hrest, List.cons_append]
        · obtain ⟨text, htext⟩ := hfront tail
          rw [hcs]
          exact ⟨replaces_cons c _ _, _, .literal ⟨c, _, text, hquote, rfl, htext, rfl⟩⟩
    case isFalse =>
      cases h
      exact hstart
  case h_4 hcs =>
    cases h
    rwa [hcs] at hstart

/-- The word between two expressions is refused at its start. -/
theorem connective_viable (h : connective (blanks cs) = .error stuck) :
    Viable (Led (Denotes ConnectiveAt)) cs stuck.rest := by
  have hstart : stuck.rest = blanks cs := by
    unfold connective at h
    split at h
    case h_1 => cases h
    case h_2 =>
      split at h <;> cases h
      rfl
  rw [hstart]
  exact starts_connective.viable (blanksAt_blanks cs)

/-- A closing parenthesis is refused at its start. -/
theorem closing_viable (h : closing (blanks cs) = .error stuck) :
    Viable (Led (CharAt ')')) cs stuck.rest := by
  have hstart : stuck.rest = blanks cs := by
    unfold closing at h
    split at h <;> cases h
    rfl
  rw [hstart]
  exact starts_closing.viable (blanksAt_blanks cs)

end Tokens

/-! ## Expressions -/

section Expressions

variable {c₁ cs : List Char} {stuck : Stuck} {depth : Nat}

/-- An operation is refused inside one of its parts. -/
theorem operation_viable (hflags : FlagsKnown stuck) (hfront : ∀ more, blanks c₁ ≠ '(' :: more)
    (h : expression (depth + 1) ('(' :: c₁) = .error stuck) :
    Viable OperationParts ('(' :: c₁) stuck.rest := by
  rw [expression_comparison hfront] at h
  refine .after (charAt_moves '(' c₁) ?_
  rcases bind_eq_error_iff.1 h with h | ⟨⟨e, c₇⟩, hcomparison, h⟩
  · rcases bind_eq_error_iff.1 h with h | ⟨⟨key, c₃⟩, hkey, h⟩
    · exact (attribute_viable h).before
        (starts_operator.comp (starts_operand.comp starts_closing))
    refine .after ((reference_iff.1 hkey).moves.denotes.led (blanksAt_blanks c₁)) ?_
    rcases bind_eq_error_iff.1 h with h | ⟨⟨op, c₅⟩, hop, h⟩
    · exact (operator_viable h).before (starts_operand.comp starts_closing)
    refine .after ((operator_iff.1 hop).moves.denotes.led (blanksAt_blanks c₃)) ?_
    rcases bind_eq_error_iff.1 h with h | ⟨_, _, h⟩
    · exact (operand_viable hflags h).before starts_closing
    · cases h
  · obtain ⟨key, op, operand, c₃, c₅, -, hkey, hop, hoperand⟩ := comparison_cases hcomparison
    refine .after (hkey.moves.denotes.led (blanksAt_blanks c₁)) ?_
    refine .after (hop.moves.denotes.led (blanksAt_blanks c₃)) ?_
    refine .after (hoperand.moves.denotes.led (blanksAt_blanks c₅)) ?_
    rcases bind_eq_error_iff.1 h with h | ⟨_, _, h⟩
    · exact closing_viable h
    · cases h

/-- A condition is refused inside one of its parts. -/
theorem condition_viable {more : List Char}
    (hside : ∀ cs, expression depth (blanks cs) = .error stuck →
      Viable (Led (Denotes ExpressionAt)) cs stuck.rest)
    (hfront : blanks c₁ = '(' :: more) (h : expression (depth + 1) ('(' :: c₁) = .error stuck) :
    Viable ConditionParts ('(' :: c₁) stuck.rest := by
  rw [expression_condition hfront, ← hfront] at h
  refine .after (charAt_moves '(' c₁) ?_
  rcases bind_eq_error_iff.1 h with h | ⟨⟨left, c₃⟩, hleft, h⟩
  · exact (hside c₁ h).before (starts_connective.comp (starts_expression.comp starts_closing))
  refine .after ((expressionAt_of_expression hleft).moves.led (blanksAt_blanks c₁)) ?_
  rcases bind_eq_error_iff.1 h with h | ⟨⟨kind, c₅⟩, hkind, h⟩
  · exact (connective_viable h).before (starts_expression.comp starts_closing)
  refine .after ((connective_iff.1 hkind).moves.denotes.led (blanksAt_blanks c₃)) ?_
  rcases bind_eq_error_iff.1 h with h | ⟨⟨right, c₇⟩, hright, h⟩
  · exact (hside c₅ h).before starts_closing
  refine .after ((expressionAt_of_expression hright).moves.led (blanksAt_blanks c₅)) ?_
  rcases bind_eq_error_iff.1 h with h | ⟨_, _, h⟩
  · exact closing_viable h
  · cases h

/-- An expression is refused at its start or inside one of its parts. -/
theorem expression_viable (hflags : FlagsKnown stuck)
    (h : expression depth (blanks cs) = .error stuck) :
    Viable (Led (Denotes ExpressionAt)) cs stuck.rest := by
  -- No depth is needed: where it ends, the text is refused at an opening parenthesis.
  induction depth generalizing cs with
  | zero =>
      cases h
      exact starts_expression.viable (blanksAt_blanks cs)
  | succ depth ih =>
      by_cases hopening : ∃ c₁, blanks cs = '(' :: c₁
      · obtain ⟨c₁, hcs⟩ := hopening
        refine Viable.led ?_
        rw [hcs] at h ⊢
        by_cases hfront : ∃ more, blanks c₁ = '(' :: more
        · obtain ⟨more, hmore⟩ := hfront
          exact (condition_viable (fun _ => ih) hmore h).mono ConditionParts.expression
        · have hother : ∀ more, blanks c₁ ≠ '(' :: more := fun more hmore => hfront ⟨more, hmore⟩
          exact (operation_viable hflags hother h).mono OperationParts.expression
      · have hstart : stuck.rest = blanks cs := by
          unfold expression at h
          split at h
          case h_1 c₁ _ hcs => exact absurd ⟨c₁, hcs⟩ hopening
          case h_2 =>
            cases h
            rfl
        rw [hstart]
        exact starts_expression.viable (blanksAt_blanks cs)

end Expressions

/-! ## Statements -/

section Statements

variable {cs : List Char} {stuck : Stuck}

/-- A clause is refused inside its body. -/
theorem clause_viable {α : Type} {word : String} {BodyAt : List Char → α → List Char → Prop}
    {body : List Char → Parsed α}
    (hbody : ∀ cs, body (blanks cs) = .error stuck → Viable (Led (Denotes BodyAt)) cs stuck.rest)
    (h : clause word body cs = .error stuck) :
    Viable (Denotes (ClauseAt word BodyAt)) cs stuck.rest := by
  unfold clause at h
  split at h
  case h_1 c₂ hword =>
    have hmoved := (keyword?_iff.1 hword).moves.led (blanksAt_blanks cs)
    exact (Viable.after hmoved (hbody c₂ (map_eq_error_iff.1 h))).mono clauseAt_of_comp
  case h_2 => cases h

/-- The order clause is refused after its first word or inside its attribute. -/
theorem orderBody_viable (h : orderBody (blanks cs) = .error stuck) :
    Viable (Led (Denotes OrderAt)) cs stuck.rest := by
  unfold orderBody at h
  split at h
  case h_1 c₁ hword =>
    refine ((attribute_viable h).after (keyword?_iff.1 hword).moves).led.mono fun h => ?_
    exact h.mono fun ⟨_, hword, _, hblanks, key, hkey⟩ => ⟨key, _, _, hword, hblanks, hkey⟩
  case h_2 =>
    cases h
    exact starts_order.viable (blanksAt_blanks cs)

/-- A statement is refused inside one of its parts. -/
theorem statement_viable (hflags : FlagsKnown stuck) (h : statement cs = .error stuck) :
    Viable (Denotes StatementAt) cs stuck.rest := by
  refine Viable.mono ?_ StatementParts.statement
  have horderStarts := (starts_clause "ORDER" OrderAt).comp starts_direction
  have hoffsetStarts := (starts_clause "OFFSET" NumberAt).comp horderStarts
  rcases bind_eq_error_iff.1 h with h | ⟨⟨e, c₂⟩, he, h⟩
  · exact (expression_viable hflags h).before ((starts_clause "LIMIT" NumberAt).comp hoffsetStarts)
  refine .after ((expressionAt_of_expression he).moves.led (blanksAt_blanks cs)) ?_
  rcases bind_eq_error_iff.1 h with h | ⟨⟨limit, c₃⟩, hlimit, h⟩
  · exact (clause_viable (fun _ => count_viable) h).before hoffsetStarts
  refine .after ((clauseAt_of_clause count_iff.1 hlimit).moves fun h => h.moves.denotes) ?_
  rcases bind_eq_error_iff.1 h with h | ⟨⟨offset, c₄⟩, hoffset, h⟩
  · exact (clause_viable (fun _ => count_viable) h).before horderStarts
  refine .after ((clauseAt_of_clause count_iff.1 hoffset).moves fun h => h.moves.denotes) ?_
  rcases bind_eq_error_iff.1 h with h | ⟨_, _, h⟩
  · exact (clause_viable (fun _ => orderBody_viable) h).before starts_direction
  · cases h

end Statements

/-! ## Selections -/

section Selections

variable {cs : List Char} {stuck : Stuck}

/-- A term of an attribute that is not among some. -/
def FreshTerm (seen : List String) : Piece := fun cs rest => ∃ t, TermAt cs t rest ∧ t.key ∉ seen

/-- A name of a single letter, which is repeated. -/
def repeated (n : Nat) : String := .ofList (List.replicate (n + 1) 'a')

/-- The names of a repeated letter differ in their lengths. -/
theorem repeated_injective : Function.Injective repeated := by
  intro m n h
  have hlength := congrArg List.length (String.ofList_injective h)
  simpa using hlength

/-- A repeated letter is a name in camel case. -/
theorem isCamel_repeated (n : Nat) : Text.IsCamel (repeated n).toList := by
  rw [repeated, String.toList_ofList]
  refine ⟨by decide, fun d hd => ?_⟩
  rw [List.eq_of_mem_replicate hd]
  decide

/-- Beside any attributes there are names of others. -/
theorem exists_fresh (seen : List String) :
    ∃ key : String, Text.IsCamel key.toList ∧ key ∉ seen := by
  obtain ⟨_, ⟨n, rfl⟩, hfresh⟩ :=
    (Set.infinite_range_of_injective repeated_injective).exists_notMem_finset seen.toFinset
  exact ⟨repeated n, isCamel_repeated n, fun hmem => hfresh (List.mem_toFinset.2 hmem)⟩

/-- A term of a new attribute can be written. -/
theorem starts_freshTerm (seen : List String) : Starts (Led (FreshTerm seen)) := by
  obtain ⟨key, hkey, hfresh⟩ := exists_fresh seen
  refine starts_led ('.' :: key.toList) fun tail htail => ⟨{ key }, .plain ?_, hfresh⟩
  exact attributeAt_key hkey htail.notNext_continuesName

/-- A single term makes terms. -/
theorem freshTerms_last {seen : List String} {cs rest : List Char}
    (h : Led (FreshTerm seen) cs rest) : FreshTerms seen cs rest := by
  obtain ⟨c₁, hblanks, t, hterm, hfresh⟩ := h
  exact ⟨[t], .last hblanks hterm, by simp, by simpa using hfresh⟩

/-- A term of a new attribute may stand before other terms of new ones. -/
theorem freshTerms_cons {seen : List String} {cs c₁ c₂ c₃ rest : List Char} {t : Term}
    {ts : List Term} (hfresh : t.key ∉ seen) (hblanks : BlanksAt cs c₁) (hterm : TermAt c₁ t c₂)
    (hcomma : BlanksAt c₂ (',' :: c₃)) (hts : TermsAt c₃ ts rest)
    (hnodup : (ts.map Term.key).Nodup) (hkeys : ∀ key ∈ ts.map Term.key, key ∉ t.key :: seen) :
    FreshTerms seen cs rest := by
  refine ⟨t :: ts, .more hblanks hterm hcomma hts, ?_, fun key hkey => ?_⟩
  · rw [List.map_cons, List.nodup_cons]
    exact ⟨fun hmem => hkeys t.key hmem List.mem_cons_self, hnodup⟩
  · rcases List.mem_cons.1 hkey with rfl | hkey
    · exact hfresh
    · exact fun hmem => hkeys key hkey (List.mem_cons_of_mem _ hmem)

/-- A term is refused inside its attribute, where one that is new may stand. -/
theorem termFrom_viable (seen : List String) {t : Term} {fuel : Nat}
    (h : termFrom t fuel cs = .error stuck) : Viable (Led (FreshTerm seen)) cs stuck.rest := by
  have hname : ∀ {cs}, reference (blanks cs) = .error stuck →
      Viable (Led (FreshTerm seen)) cs stuck.rest := fun h =>
    (reference_viable (exists_fresh seen) h).mono fun h =>
      h.mono fun ⟨key, hkey, hfresh⟩ => ⟨{ key }, .plain hkey, hfresh⟩
  induction fuel generalizing t cs with
  | zero => exact hname (map_eq_error_iff.1 h)
  | succ fuel ih =>
      unfold termFrom at h
      split at h
      case h_2 => exact hname (map_eq_error_iff.1 h)
      case h_1 mark c₁ hmark =>
        have hterm := ih h
        refine Viable.led ?_
        rcases modifier?_cases hmark with ⟨hword, -⟩ | ⟨hword, -⟩ | ⟨hword, -⟩
        · exact (hterm.after hword.moves).mono fun ⟨_, hword, _, hblanks, t, ht, hfresh⟩ =>
            ⟨_, .random hword hblanks ht, hfresh⟩
        · exact (hterm.after hword.moves).mono fun ⟨_, hword, _, hblanks, t, ht, hfresh⟩ =>
            ⟨_, .count hword hblanks ht, hfresh⟩
        · exact (hterm.after hword.moves).mono fun ⟨_, hword, _, hblanks, t, ht, hfresh⟩ =>
            ⟨_, .distinct hword hblanks ht, hfresh⟩

/-- Terms are refused inside one of them, or at the start of one whose attribute was there
before. -/
theorem terms_viable {seen : List String} {fuel : Nat} (h : terms seen fuel cs = .error stuck) :
    Viable (FreshTerms seen) cs stuck.rest := by
  induction fuel generalizing seen cs with
  | zero =>
      cases h
      exact ((starts_freshTerm seen).viable (BlanksAt.refl cs)).mono freshTerms_last
  | succ fuel ih =>
      rw [terms] at h
      rcases bind_eq_error_iff.1 h with h | ⟨⟨t, next⟩, hterm, h⟩
      · exact (termFrom_viable seen h).led.mono fun h => freshTerms_last h.join
      dsimp only at h
      split at h
      case isTrue =>
        cases h
        exact ((starts_freshTerm seen).viable (blanksAt_blanks cs)).mono freshTerms_last
      case isFalse hseen =>
        split at h
        case h_2 => cases h
        case h_1 more hcomma =>
          have hfresh : t.key ∉ seen := fun hmem => hseen (List.contains_iff_mem.2 hmem)
          rcases bind_eq_error_iff.1 h with h | ⟨_, _, h⟩
          · have hmoved := (term_iff.1 hterm).moves.led (blanksAt_blanks cs)
            have hpoint : BlanksAt next (',' :: more) := hcomma ▸ blanksAt_blanks next
            refine Viable.mono
              (.after hmoved (.after ((charAt_moves ',' more).led hpoint) (ih h))) ?_
            rintro cs rest ⟨c₂, ⟨c₁, h₁, ht⟩, c₄, ⟨_, h₃, rfl⟩, ts, hts, hnodup, hkeys⟩
            exact freshTerms_cons hfresh h₁ ht h₃ hts hnodup hkeys
          · cases h

/-- A selection is refused at its start, inside its terms, or inside its statement. -/
theorem selection_viable (hflags : FlagsKnown stuck) (h : selection cs = .error stuck) :
    Viable (Denotes SelectionAt) cs stuck.rest := by
  refine Viable.mono ?_ SelectionParts.selection
  have hscopeStarts := starts_clause "WITHIN" StatementAt
  unfold selection at h
  dsimp only at h
  split at h
  case h_1 =>
    cases h
    have hterms : Starts (FreshTerms []) := by
      obtain ⟨more, hmore⟩ := starts_freshTerm []
      exact ⟨more, fun tail htail => (hmore tail htail).imp_right freshTerms_last⟩
    exact ((starts_keyword (by decide)).viable (blanksAt_blanks cs)).before
      (hterms.comp hscopeStarts)
  case h_2 c₂ hword =>
    refine .after ((keyword?_iff.1 hword).moves.led (blanksAt_blanks cs)) ?_
    rcases bind_eq_error_iff.1 h with h | ⟨⟨ts, c₃⟩, hterms, h⟩
    · exact (terms_viable h).before hscopeStarts
    obtain ⟨hts, hnodup, hkeys⟩ := termsAt_of_terms hterms
    refine .after (hts.moves.mono fun h => ⟨ts, h, hnodup, hkeys⟩) ?_
    rcases bind_eq_error_iff.1 h with h | ⟨_, _, h⟩
    · exact clause_viable (fun _ h => (statement_viable hflags h).led) h
    · cases h

end Selections

/-! ## Whole texts -/

section Whole

variable {α : Type} {read : List Char → Parsed α} {At : List Char → α → List Char → Prop}
  {cs : List Char} {stuck : Stuck}

/-- A whole text is refused where a part of it is, or behind the blanks after it. -/
theorem whole_viable (hread : ∀ {a rest}, read cs = .ok (a, rest) → Moves (Denotes At) cs rest)
    (hstuck : read cs = .error stuck → Viable (Denotes At) cs stuck.rest)
    (h : whole read cs = .error stuck) :
    ∃ front more rest, cs = front ++ stuck.rest ∧ Denotes At (front ++ more) rest ∧
      BlanksAt rest [] := by
  rcases bind_eq_error_iff.1 h with h | ⟨⟨x, rest⟩, hx, h⟩
  · obtain ⟨front, more, hcs, hmore⟩ := hstuck h
    obtain ⟨-, hat⟩ := hmore [] spaced_nil
    rw [List.append_nil] at hat
    exact ⟨front, more, [], hcs, hat, BlanksAt.refl _⟩
  · obtain ⟨front, hcs, hfront⟩ := hread hx
    obtain ⟨space, hspace, hrest⟩ := blanksAt_blanks rest
    have hstart : stuck.rest = blanks rest := by
      dsimp only at h
      split at h <;> cases h
      rfl
    have hreplaces : Replaces rest space := by
      have hfront := replaces_front space (blanks rest)
      rwa [← hrest] at hfront
    refine ⟨front ++ space, [], space, ?_, ?_, space, hspace, (List.append_nil _).symm⟩
    · rw [hcs, hstart, List.append_assoc, ← hrest]
    · rw [List.append_nil]
      exact hfront space hreplaces

end Whole

/-- The column of a syntax error is one of the characters of a text or the place behind them, and
the text before it is the front of one that is accepted, unless the error is an unknown flag. -/
structure Points (e : SyntaxError) (text : String) (Accepted : String → Prop) : Prop where
  column_pos : 1 ≤ e.column
  column_le : e.column ≤ text.toList.length + 1
  viable : (∀ flag, e.message ≠ (Fault.unknownFlag flag).message) →
    ∃ more, Accepted (.ofList (text.toList.take (e.column - 1) ++ more))

/-- More texts may be accepted. -/
theorem Points.mono {e : SyntaxError} {text : String} {Accepted Accepted' : String → Prop}
    (h : Points e text Accepted) (hmore : ∀ accepted, Accepted accepted → Accepted' accepted) :
    Points e text Accepted' :=
  ⟨h.column_pos, h.column_le, fun hmessage => (h.viable hmessage).imp fun _ => hmore _⟩

/-- A syntax error stands where the reader of a whole text stops. -/
theorem points_of_whole {α : Type} {read : List Char → Parsed α}
    {At : List Char → α → List Char → Prop} {text : String} {e : SyntaxError}
    (hread : ∀ {a rest}, read text.toList = .ok (a, rest) → Moves (Denotes At) text.toList rest)
    (hstuck : ∀ {stuck}, FlagsKnown stuck → read text.toList = .error stuck →
      Viable (Denotes At) text.toList stuck.rest)
    (h : (whole read text.toList).mapError (toSyntaxError text) = .error e) :
    Points e text fun accepted => ∃ a, Derives At accepted a := by
  obtain ⟨stuck, hwhole, rfl⟩ := exists_stuck_of_refused h
  obtain ⟨hpos, hle⟩ := column_toSyntaxError text stuck
  refine ⟨hpos, hle, fun hmessage => ?_⟩
  have hflags : FlagsKnown stuck := fun flag hfault =>
    hmessage flag (congrArg Fault.message hfault)
  obtain ⟨front, more, rest, hcs, ⟨a, hat⟩, hrest⟩ := whole_viable hread (hstuck hflags) hwhole
  have hcolumn : (toSyntaxError text stuck).column - 1 = front.length := by
    have hlength := congrArg List.length hcs
    rw [List.length_append] at hlength
    show max (text.toList.length - stuck.rest.length + 1) 1 - 1 = _
    omega
  have hfront : text.toList.take front.length = front := by
    rw [hcs]
    exact List.take_left
  refine ⟨more, a, rest, ?_, hrest⟩
  rwa [hcolumn, hfront, String.toList_ofList]

/-- A text that is not read is refused at one of its characters or just behind them, and what stands
before that place is the front of a text that is read, unless a pattern has an unknown flag. -/
theorem column_viable (text : String) (e : SyntaxError) :
    (readStatement text = .error e →
      Points e text fun accepted => ∃ s, readStatement accepted = .ok s) ∧
    (readSelection text = .error e →
      Points e text fun accepted => ∃ s, readSelection accepted = .ok s) := by
  constructor
  · intro h
    have hpoints : Points e text fun accepted => ∃ s, Derives StatementAt accepted s :=
      points_of_whole (fun h => (statementAt_of_statement h).moves) statement_viable h
    exact hpoints.mono fun _ => Exists.imp fun _ =>
      (whole_iff_derives statementAt_of_statement StatementAt.statement).2
  · intro h
    have hpoints : Points e text fun accepted => ∃ s, Derives SelectionAt accepted s :=
      points_of_whole (fun h => (selectionAt_of_selection h).moves) selection_viable h
    exact hpoints.mono fun _ => Exists.imp fun _ =>
      (whole_iff_derives selectionAt_of_selection SelectionAt.selection).2

/-- The message of an unknown flag starts with its own letter. -/
theorem head?_unknownFlag (flag : Char) :
    (Fault.unknownFlag flag).message.toList.head? = some 'u' := by
  have htext : "unknown regex flag '".toList = 'u' :: "nknown regex flag '".toList := by decide
  have hmessage : (Fault.unknownFlag flag).message
      = "unknown regex flag '" ++ flag.toString ++ "'" := rfl
  rw [hmessage, String.toList_append, String.toList_append, List.append_assoc, htext,
    List.cons_append, List.head?_cons]

/-- Columns count characters, and an attribute that is selected twice is refused where its term
starts. -/
theorem column_viable_limit :
    (readStatement "(.a == \"ü\") LIMIT x" = .error
        ⟨"(.a == \"ü\") LIMIT x", 19, "expected a non-negative integer"⟩ ∧
      ∃ more s, readStatement (.ofList ("(.a == \"ü\") LIMIT ".toList ++ more)) = .ok s) ∧
    (readSelection "SELECT .a, COUNT .a" = .error
        ⟨"SELECT .a, COUNT .a", 12, "attribute .a selected twice"⟩ ∧
      ∃ more s, readSelection (.ofList ("SELECT .a, ".toList ++ more)) = .ok s) := by
  have hstatement : readStatement "(.a == \"ü\") LIMIT x" = .error
      ⟨"(.a == \"ü\") LIMIT x", 19, "expected a non-negative integer"⟩ := by decide +kernel
  have hselection : readSelection "SELECT .a, COUNT .a" = .error
      ⟨"SELECT .a, COUNT .a", 12, "attribute .a selected twice"⟩ := by decide +kernel
  have hother : ∀ {message : String}, message.toList.head? ≠ some 'u' →
      ∀ flag, message ≠ (Fault.unknownFlag flag).message := by
    rintro _ hhead flag rfl
    exact hhead (head?_unknownFlag flag)
  have hlimit := ((column_viable _ _).1 hstatement).viable (hother (by decide))
  have htwice := ((column_viable _ _).2 hselection).viable (hother (by decide))
  have htake : "(.a == \"ü\") LIMIT x".toList.take (19 - 1) = "(.a == \"ü\") LIMIT ".toList := by
    decide
  have htake' : "SELECT .a, COUNT .a".toList.take (12 - 1) = "SELECT .a, ".toList := by decide
  rw [htake] at hlimit
  rw [htake'] at htwice
  exact ⟨⟨hstatement, hlimit⟩, hselection, htwice⟩

end SiteIndex.Query.Grammar
