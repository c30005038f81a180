import SiteIndex.Proofs.Query.Reading
import SiteIndex.Proofs.Text.CamelCase
import SiteIndex.Query.Printer

/-!
# Written queries are read back

The written form of a well-formed query denotes that query in the grammar, part by part and with
any text behind it that does not go on with the part. Hence reading undoes writing (`read_text`).
A query is well-formed if its attributes are names in camel case and its patterns can stand between
slashes, with known flags and accepted as regular expressions; literals may be any texts.
-/

namespace SiteIndex.Query

/-! ## Well-formed queries -/

/-- A pattern that can stand between slashes: slashes, single characters, and backslashes with the
character after them, which is no slash. -/
inductive PatternForm : List Char → Prop where
  | nil : PatternForm []
  | slash {p} : PatternForm p → PatternForm ('/' :: p)
  | plain {c p} : c ≠ '/' → c ≠ '\\' → PatternForm p → PatternForm (c :: p)
  | escape {c p} : c ≠ '/' → PatternForm p → PatternForm ('\\' :: c :: p)

/-- A pattern between slashes with known flags, which is a regular expression. -/
structure PatternLiteral.WellFormed (p : PatternLiteral) : Prop where
  form : PatternForm p.pattern.toList
  flags : ∀ c ∈ p.flags.toList, Reader.isFlag c = true
  compiles : (Pattern.compile? p.source).isSome = true

/-- The patterns in an expression. -/
def Expression.patterns : Expression → List PatternLiteral
  | .condition _ left right => left.patterns ++ right.patterns
  | .operation _ _ (.pattern p) => [p]
  | .operation _ _ _ => []

/-- An expression of names of a kind and well-formed patterns. -/
structure Expression.WellFormed (IsName : List Char → Prop) (e : Expression) : Prop where
  keys : ∀ key ∈ e.keys, IsName key.toList
  patterns : ∀ p ∈ e.patterns, p.WellFormed

/-- A statement of a well-formed expression and an order by a name of the kind. -/
structure Statement.WellFormed (IsName : List Char → Prop) (s : Statement) : Prop where
  expression : s.expression.WellFormed IsName
  orderBy : ∀ key ∈ s.orderBy, IsName key.toList

/-- A selection of different names of a kind, at least one, of all pages or of those of a
well-formed statement. -/
structure Selection.WellFormed (IsName : List Char → Prop) (s : Selection) : Prop where
  terms_ne_nil : s.terms ≠ []
  keys : ∀ t ∈ s.terms, IsName t.key.toList
  nodup : (s.terms.map Term.key).Nodup
  scope : ∀ statement ∈ s.scope, statement.WellFormed IsName

section WellFormed

variable {IsName : List Char → Prop}

/-- A condition is well-formed if its two sides are. -/
theorem Expression.wellFormed_condition {kind : Connective} {left right : Expression} :
    (Expression.condition kind left right).WellFormed IsName ↔
      left.WellFormed IsName ∧ right.WellFormed IsName := by
  constructor
  · rintro ⟨hkeys, hpatterns⟩
    exact ⟨⟨fun key h => hkeys key (List.mem_append_left _ h),
        fun p h => hpatterns p (List.mem_append_left _ h)⟩,
      ⟨fun key h => hkeys key (List.mem_append_right _ h),
        fun p h => hpatterns p (List.mem_append_right _ h)⟩⟩
  · rintro ⟨hleft, hright⟩
    exact ⟨fun key h => (List.mem_append.1 h).elim (hleft.keys key) (hright.keys key),
      fun p h => (List.mem_append.1 h).elim (hleft.patterns p) (hright.patterns p)⟩

/-- An expression reads the attribute on the left of an operator. -/
theorem Expression.key_mem_keys (key : String) (op : Operator) (operand : Operand) :
    key ∈ (Expression.operation key op operand).keys := by
  cases operand <;> simp [Expression.keys]

end WellFormed

namespace Grammar

open Reader

/-! ## Blanks and words -/

section Words

variable {word : String} {rest : List Char}

/-- A space is a blank. -/
theorem BlanksAt.space (cs : List Char) : BlanksAt (' ' :: cs) cs := by
  refine ⟨[' '], fun c hc => ?_, rfl⟩
  rw [List.mem_singleton.1 hc]
  rfl

/-- A text that ends or goes on with a space. -/
def Spaced (cs : List Char) : Prop := ∀ c ∈ cs.head?, c = ' '

/-- A space does not go on with any other class. -/
theorem Spaced.notNext {p : Char → Bool} (h : Spaced rest) (hp : p ' ' = false) :
    NotNext p rest := by
  intro c hc
  rw [h c hc]
  exact hp

/-- The end of a text is spaced. -/
theorem spaced_nil : Spaced [] := by simp [Spaced]

/-- A space in front makes a text spaced. -/
theorem spaced_cons (cs : List Char) : Spaced (' ' :: cs) := by simp [Spaced]

/-- A word in capitals is the keyword. -/
theorem keywordAt_word (hword : word.toList.map Char.toUpper = word.toList)
    (hrest : NotNext isWordChar rest) : KeywordAt word (word.toList ++ rest) rest :=
  ⟨word.toList, hword, hrest, rfl⟩

/-- A word in capitals before a space is the keyword. -/
theorem keywordAt_word_space (hword : word.toList.map Char.toUpper = word.toList)
    (rest : List Char) : KeywordAt word (word.toList ++ ' ' :: rest) (' ' :: rest) :=
  keywordAt_word hword (notNext_cons.2 (by decide))

/-- A text of a word in capitals and a space starts with the keyword. -/
theorem keywordAt_text {text : String} (htext : text.toList = word.toList ++ [' '])
    (hword : word.toList.map Char.toUpper = word.toList) (rest : List Char) :
    KeywordAt word (text.toList ++ rest) (' ' :: rest) := by
  rw [htext, List.append_assoc]
  exact keywordAt_word_space hword rest

end Words

/-! ## Attributes and numbers -/

section Names

variable {key : String} {rest : List Char}

/-- A name in camel case is written after its point. -/
theorem attributeAt_key (hkey : Text.IsCamel key.toList) (hrest : NotNext continuesName rest) :
    AttributeAt ('.' :: (key.toList ++ rest)) key rest := by
  cases hchars : key.toList with
  | nil =>
      rw [hchars] at hkey
      exact hkey.elim
  | cons c name =>
      rw [hchars] at hkey
      have hstart : startsName c = true := by simp [startsName, Text.isAlpha_of_isLower hkey.1]
      have hname : ∀ d ∈ name, continuesName d = true := fun d hd => by
        simp [continuesName, hkey.2 d hd]
      refine ⟨c, name, hstart, hname, hrest, rfl, ?_⟩
      rw [Text.camelCase, String.toList_ofList, Text.camelChars_of_isCamel hkey, ← hchars,
        String.ofList_toList]

/-- The digits of a number are written. -/
theorem numberAt_toDigits (n : UInt64) (hrest : NotNext Char.isDigit rest) :
    NumberAt (Nat.toDigits 10 n.toNat ++ rest) n rest := by
  refine ⟨Nat.toDigits 10 n.toNat, ?_, ?_, hrest, rfl, ?_⟩
  · exact List.ne_nil_of_length_pos Nat.length_toDigits_pos
  · exact fun d hd => Nat.isDigit_of_mem_toDigits (by decide) (by decide) hd
  · rw [← foldl_digits]
    exact (Nat.ofDigitChars_toDigits (b := 10) (by decide) (by decide)).symm

end Names

/-! ## Operands -/

section Operands

variable {rest : List Char}

/-- The escaped characters of a text stand between double quotes. -/
theorem quotedAt_escape (text rest : List Char) :
    QuotedAt '"' (text.flatMap escapeLiteralChar ++ '"' :: rest) text rest := by
  induction text with
  | nil => exact .close
  | cons c text ih =>
      rw [List.flatMap_cons, List.append_assoc]
      unfold escapeLiteralChar
      -- The cases are the characters that are escaped, and all others.
      split_ifs with hquote hback hnewline htab hcarriage
      · subst hquote
        exact .escape .doubleQuote ih
      · subst hback
        exact .escape .backslash ih
      · subst hnewline
        exact .escape .newline ih
      · subst htab
        exact .escape .tab ih
      · subst hcarriage
        exact .escape .carriage ih
      · exact .plain hquote hback ih

/-- The characters of a pattern with its slashes escaped stand between slashes. -/
theorem patternBodyAt_escape {p : List Char} (h : PatternForm p) (rest : List Char) :
    PatternBodyAt (p.flatMap escapePatternChar ++ '/' :: rest) p rest := by
  have hother : ∀ {c : Char}, c ≠ '/' → escapePatternChar c = [c] := fun hc => if_neg hc
  induction h with
  | nil => exact .close
  | slash _ ih =>
      rw [List.flatMap_cons, List.append_assoc]
      exact .slash ih
  | plain hslash hback _ ih =>
      rw [List.flatMap_cons, List.append_assoc, hother hslash]
      exact .plain hslash hback ih
  | escape hslash _ ih =>
      rw [List.flatMap_cons, List.flatMap_cons, List.append_assoc, List.append_assoc,
        hother (by decide), hother hslash]
      exact .escape hslash ih

/-- A well-formed pattern is written with its flags. -/
theorem patternAt_chars {p : PatternLiteral} (h : p.WellFormed) (rest : List Char) :
    PatternAt ((Operand.pattern p).chars ++ rest) p rest := by
  refine ⟨p.pattern.toList.flatMap escapePatternChar ++ '/' :: (p.flags.toList ++ rest),
    p.pattern.toList, p.flags.toList, ?_, patternBodyAt_escape h.form _, h.flags, ?_, h.compiles⟩
  · simp [Operand.chars]
  · rw [String.ofList_toList, String.ofList_toList]

/-- The operand of a well-formed operation is written, before a text that does not go on with a
name. -/
theorem operandAt_chars {key : String} {op : Operator} {operand : Operand}
    (h : (Expression.operation key op operand).WellFormed Text.IsCamel)
    (hrest : NotNext continuesName rest) :
    OperandAt (operand.chars ++ rest) operand rest := by
  cases operand with
  | reference other =>
      exact .reference (attributeAt_key (h.keys other (by simp [Expression.keys])) hrest)
  | pattern p =>
      exact .pattern (patternAt_chars (h.patterns p (by simp [Expression.patterns])) rest)
  | literal text =>
      refine .literal ⟨'"', text.toList.flatMap escapeLiteralChar ++ '"' :: rest, text.toList,
        .inl rfl, ?_, quotedAt_escape _ _, ?_⟩
      · simp [Operand.chars]
      · rw [String.ofList_toList]

end Operands

/-! ## Expressions -/

/-- The word of a connective is written before a space. -/
theorem connectiveAt_word (kind : Connective) (rest : List Char) :
    ConnectiveAt (kind.word.toList ++ ' ' :: rest) kind (' ' :: rest) := by
  cases kind with
  | and => exact .and (keywordAt_word_space (by decide) rest)
  | or => exact .or (keywordAt_word_space (by decide) rest)

/-- A well-formed expression is written in its parentheses. -/
theorem expressionAt_chars {e : Expression} (h : e.WellFormed Text.IsCamel) (rest : List Char) :
    ExpressionAt (e.chars ++ rest) e rest := by
  induction e generalizing rest with
  | condition kind left right ihleft ihright =>
      obtain ⟨hleft, hright⟩ := Expression.wellFormed_condition.1 h
      simp only [Expression.chars, List.cons_append, List.append_assoc, List.nil_append]
      exact .condition (BlanksAt.refl _) (ihleft hleft _) (BlanksAt.space _)
        (connectiveAt_word kind _) (BlanksAt.space _) (ihright hright _) (BlanksAt.refl _)
  | operation key op operand =>
      simp only [Expression.chars, List.cons_append, List.append_assoc, List.nil_append]
      exact .operation (BlanksAt.refl _)
        (attributeAt_key (h.keys key (Expression.key_mem_keys key op operand))
          (notNext_cons.2 (by decide)))
        (BlanksAt.space _) rfl (BlanksAt.space _)
        (operandAt_chars h (notNext_cons.2 (by decide))) (BlanksAt.refl _)

/-! ## Clauses and statements -/

section Clauses

variable {rest : List Char}

/-- A clause of a word and a number is written. -/
theorem clauseAt_countClause {word : String}
    (hword : word.toList.map Char.toUpper = word.toList) (x : Option UInt64)
    (hrest : Spaced rest) : ClauseAt word NumberAt (countClause word x ++ rest) x rest := by
  cases x with
  | none => exact .absent
  | some n =>
      simp only [countClause, List.cons_append, List.append_assoc]
      exact .present (BlanksAt.space _) (keywordAt_word_space hword _) (BlanksAt.space _)
        (numberAt_toDigits n (hrest.notNext (by decide)))

/-- A clause of a word and a number is spaced. -/
theorem spaced_countClause (word : String) (x : Option UInt64) (hrest : Spaced rest) :
    Spaced (countClause word x ++ rest) := by
  cases x with
  | none => exact hrest
  | some n => exact spaced_cons _

/-- The order clause is its two words and the attribute. -/
theorem orderClause_some (key : String) (rest : List Char) :
    orderClause (some key) ++ rest
      = ' ' :: ("ORDER".toList ++ ' ' :: ("BY".toList ++ ' ' :: '.' :: (key.toList ++ rest))) := by
  have hwords : " ORDER BY .".toList
      = ' ' :: ("ORDER".toList ++ ' ' :: ("BY".toList ++ [' ', '.'])) := by decide
  show (" ORDER BY .".toList ++ key.toList) ++ rest = _
  simp only [hwords, List.cons_append, List.append_assoc, List.nil_append]

/-- The order clause is written. -/
theorem clauseAt_orderClause {x : Option String}
    (h : ∀ key ∈ x, Text.IsCamel key.toList) (hrest : Spaced rest) :
    ClauseAt "ORDER" OrderAt (orderClause x ++ rest) x rest := by
  cases x with
  | none => exact .absent
  | some key =>
      rw [orderClause_some]
      refine .present (BlanksAt.space _) (keywordAt_word_space (by decide) _) (BlanksAt.space _) ?_
      exact ⟨_, _, keywordAt_word_space (by decide) _, BlanksAt.space _,
        attributeAt_key (h key rfl) (hrest.notNext (by decide))⟩

/-- The order clause is spaced. -/
theorem spaced_orderClause (x : Option String) (hrest : Spaced rest) :
    Spaced (orderClause x ++ rest) := by
  cases x with
  | none => exact hrest
  | some key =>
      rw [orderClause_some]
      exact spaced_cons _

/-- The direction that is written is its word. -/
theorem directionClause_descending :
    directionClause .descending = ' ' :: ("DESC".toList ++ []) := by decide

/-- The direction is written at the end. -/
theorem directionAt_directionClause (d : Direction) : DirectionAt (directionClause d) d [] := by
  cases d with
  | ascending => exact .absent
  | descending =>
      rw [directionClause_descending]
      exact .desc (BlanksAt.space _) (keywordAt_word (by decide) notNext_nil)

/-- The direction is spaced. -/
theorem spaced_directionClause (d : Direction) : Spaced (directionClause d) := by
  cases d with
  | ascending => exact spaced_nil
  | descending =>
      rw [directionClause_descending]
      exact spaced_cons _

/-- A well-formed statement is written. -/
theorem statementAt_chars {s : Statement} (h : s.WellFormed Text.IsCamel) :
    StatementAt s.chars s [] := by
  obtain ⟨e, limit, offset, orderBy, d⟩ := s
  have hdirection := spaced_directionClause d
  have horder := spaced_orderClause orderBy hdirection
  have hoffset := spaced_countClause "OFFSET" offset horder
  simp only [Statement.chars, List.append_assoc]
  exact .mk (BlanksAt.refl _) (expressionAt_chars h.expression _)
    (clauseAt_countClause (by decide) limit hoffset)
    (clauseAt_countClause (by decide) offset horder)
    (clauseAt_orderClause h.orderBy hdirection) (directionAt_directionClause d)

end Clauses

/-! ## Selections -/

section Selections

variable {rest : List Char}

/-- A term is written with its words. -/
theorem termAt_chars {t : Term} (h : Text.IsCamel t.key.toList)
    (hrest : NotNext continuesName rest) : TermAt (t.chars ++ rest) t rest := by
  obtain ⟨key, count, random, distinct⟩ := t
  have hplain : TermAt ('.' :: (key.toList ++ rest)) { key } rest :=
    .plain (attributeAt_key h hrest)
  -- The words are put in front of the attribute from the last one to the first.
  have hdistinct : TermAt ((if distinct then "DISTINCT ".toList else [])
      ++ '.' :: (key.toList ++ rest)) { key, distinct } rest := by
    cases distinct with
    | false => exact hplain
    | true => exact .distinct (keywordAt_text (by decide) (by decide) _) (BlanksAt.space _) hplain
  have hcount : TermAt ((if count then "COUNT ".toList else [])
      ++ ((if distinct then "DISTINCT ".toList else []) ++ '.' :: (key.toList ++ rest)))
      { key, count, distinct } rest := by
    cases count with
    | false => exact hdistinct
    | true => exact .count (keywordAt_text (by decide) (by decide) _) (BlanksAt.space _) hdistinct
  simp only [Term.chars, Term.modifiers, List.append_assoc, List.cons_append]
  cases random with
  | false => exact hcount
  | true => exact .random (keywordAt_text (by decide) (by decide) _) (BlanksAt.space _) hcount

/-- Terms are written with commas between them. -/
theorem termsAt_chars {cs : List Char} {t : Term} {ts : List Term}
    (h : ∀ u ∈ t :: ts, Text.IsCamel u.key.toList) (hrest : NotNext continuesName rest)
    (hblanks : BlanksAt cs (termsChars (t :: ts) ++ rest)) : TermsAt cs (t :: ts) rest := by
  induction ts generalizing t cs with
  | nil => exact .last hblanks (termAt_chars (h t (List.mem_cons_self ..)) hrest)
  | cons u ts ih =>
      simp only [termsChars, List.append_assoc, List.cons_append] at hblanks
      have ht : TermAt (t.chars ++ ',' :: ' ' :: (termsChars (u :: ts) ++ rest)) t
          (',' :: ' ' :: (termsChars (u :: ts) ++ rest)) :=
        termAt_chars (h t (List.mem_cons_self ..)) (notNext_cons.2 (by decide))
      refine .more hblanks ht (BlanksAt.refl _) ?_
      exact ih (fun v hv => h v (List.mem_cons_of_mem _ hv)) (BlanksAt.space _)

/-- The text of a selection of all pages. -/
theorem chars_selection_none (ts : List Term) :
    Selection.chars ⟨ts, none⟩ = "SELECT ".toList ++ (termsChars ts ++ []) := by
  rw [← List.append_assoc]
  rfl

/-- The text of a selection of the pages of a statement. -/
theorem chars_selection_some (ts : List Term) (s : Statement) :
    Selection.chars ⟨ts, some s⟩
      = "SELECT ".toList ++ (termsChars ts ++ ' ' :: ("WITHIN".toList ++ ' ' :: s.chars)) := by
  have hword : " WITHIN ".toList = ' ' :: ("WITHIN".toList ++ [' ']) := by decide
  show ("SELECT ".toList ++ termsChars ts) ++ (" WITHIN ".toList ++ s.chars) = _
  simp only [hword, List.cons_append, List.append_assoc, List.nil_append]

/-- A well-formed selection is written. -/
theorem selectionAt_chars {s : Selection} (h : s.WellFormed Text.IsCamel) :
    SelectionAt s.chars s [] := by
  obtain ⟨terms, scope⟩ := s
  cases terms with
  | nil => exact absurd rfl h.terms_ne_nil
  | cons t ts =>
      have hselect : ∀ rest, KeywordAt "SELECT" ("SELECT ".toList ++ rest) (' ' :: rest) :=
        fun rest => keywordAt_text (by decide) (by decide) rest
      cases scope with
      | none =>
          rw [chars_selection_none]
          exact .mk (BlanksAt.refl _) (hselect _)
            (termsAt_chars h.keys notNext_nil (BlanksAt.space _)) h.nodup .absent
      | some s =>
          rw [chars_selection_some]
          exact .mk (BlanksAt.refl _) (hselect _)
            (termsAt_chars h.keys (notNext_cons.2 (by decide)) (BlanksAt.space _)) h.nodup
            (.present (BlanksAt.space _) (keywordAt_word_space (by decide) _) (BlanksAt.space _)
              (statementAt_chars (h.scope s rfl)))

end Selections

/-! ## Whole texts -/

/-- A well-formed statement is read from its text. -/
theorem readStatement_text_of_wellFormed {s : Statement} (h : s.WellFormed Text.IsCamel) :
    readStatement s.text = .ok s := by
  refine (whole_iff_derives statementAt_of_statement StatementAt.statement).2
    ⟨[], ?_, BlanksAt.refl _⟩
  rw [Statement.text, String.toList_ofList]
  exact statementAt_chars h

/-- A well-formed selection is read from its text. -/
theorem readSelection_text_of_wellFormed {s : Selection} (h : s.WellFormed Text.IsCamel) :
    readSelection s.text = .ok s := by
  refine (whole_iff_derives selectionAt_of_selection SelectionAt.selection).2
    ⟨[], ?_, BlanksAt.refl _⟩
  rw [Selection.text, String.toList_ofList]
  exact selectionAt_chars h

/-- Reading undoes writing: a well-formed query is read from its text, with all its clauses, its
literals and patterns character by character, and its terms with their words. -/
theorem read_text :
    (∀ s : Statement, s.WellFormed Text.IsCamel → readStatement s.text = .ok s) ∧
      ∀ s : Selection, s.WellFormed Text.IsCamel → readSelection s.text = .ok s :=
  ⟨fun _ h => readStatement_text_of_wellFormed h, fun _ h => readSelection_text_of_wellFormed h⟩

/-- A statement with operands of every kind and all clauses. -/
def fullStatement : Statement where
  expression := .condition .or
    (.operation "section" .matches (.pattern ⟨"^a/b\\.", "im"⟩))
    (.condition .and
      (.operation "title" .ne (.literal "say \"ü\"\\\n"))
      (.operation "updatedAt2" .eq (.reference "createdAt")))
  limit := some 0xFFFFFFFFFFFFFFFF
  offset := some 0
  orderBy := some "weight"
  direction := .descending

/-- A selection with all words, of the pages of that statement. -/
def fullSelection : Selection where
  terms := [{ key := "title", count := true, random := true, distinct := true }, { key := "by" }]
  scope := some fullStatement

/-- The slash, the backslash, the quotes and the line break of these queries are read back. -/
theorem read_text_full :
    fullStatement.WellFormed Text.IsCamel ∧ readStatement fullStatement.text = .ok fullStatement ∧
      fullSelection.WellFormed Text.IsCamel ∧
      readSelection fullSelection.text = .ok fullSelection := by
  have hform : PatternForm "^a/b\\.".toList :=
    .plain (by decide) (by decide) <| .plain (by decide) (by decide) <| .slash <|
      .plain (by decide) (by decide) <| .escape (by decide) .nil
  have hpattern : (PatternLiteral.mk "^a/b\\." "im").WellFormed :=
    ⟨hform, List.all_eq_true.1 (by decide), by decide +kernel⟩
  have hstatement : fullStatement.WellFormed Text.IsCamel := by
    refine ⟨⟨by decide +kernel, ?_⟩, by decide +kernel⟩
    intro p hp
    rw [List.mem_singleton.1 hp]
    exact hpattern
  have hselection : fullSelection.WellFormed Text.IsCamel := by
    refine ⟨by decide, by decide +kernel, by decide +kernel, ?_⟩
    rintro _ ⟨⟩
    exact hstatement
  exact ⟨hstatement, read_text.1 _ hstatement, hselection, read_text.2 _ hselection⟩

end Grammar

end SiteIndex.Query
