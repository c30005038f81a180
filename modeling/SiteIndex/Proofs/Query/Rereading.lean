import SiteIndex.Proofs.Query.Written

/-!
# Reading what was read and written again

What is read is well-formed but for its names: the camel case form of a name may be empty or start
with a digit, and such a name cannot stand after a point. Hence the text of a query that was read is
read as that query if every name in it can follow a point, and is refused if one cannot
(`reread_text`).
-/

namespace SiteIndex.Query

/-! ## Names -/

/-- The attributes that a statement names, with repeats. -/
def Statement.names (s : Statement) : List String := s.expression.keys ++ s.orderBy.toList

/-- The attributes that a selection names, with repeats. -/
def Selection.names (s : Selection) : List String :=
  s.terms.map Term.key ++ s.scope.toList.flatMap Statement.names

/-- A name that can stand after a point is not empty and starts with no digit. -/
def FollowsPoint (name : String) : Prop := ∃ c ∈ name.toList.head?, c.isDigit = false

instance (name : String) : Decidable (FollowsPoint name) :=
  decidable_of_iff (name.toList.head?.any (fun c => !c.isDigit) = true)
    (by simp [FollowsPoint, Option.any_eq_true])

section WellFormed

variable {P Q : List Char → Prop}

/-- A well-formed expression is well-formed for every kind that its names are of. -/
theorem Expression.WellFormed.imp {e : Expression} (h : e.WellFormed P)
    (himp : ∀ key ∈ e.keys, P key.toList → Q key.toList) : e.WellFormed Q :=
  ⟨fun key hkey => himp key hkey (h.keys key hkey), h.patterns⟩

/-- A well-formed statement is well-formed for every kind that its names are of. -/
theorem Statement.WellFormed.imp {s : Statement} (h : s.WellFormed P)
    (himp : ∀ key ∈ s.names, P key.toList → Q key.toList) : s.WellFormed Q := by
  refine ⟨h.expression.imp fun key hkey => himp key (List.mem_append_left _ hkey), ?_⟩
  intro key hkey
  exact himp key (List.mem_append_right _ (Option.mem_toList.2 hkey)) (h.orderBy key hkey)

/-- A well-formed selection is well-formed for every kind that its names are of. -/
theorem Selection.WellFormed.imp {s : Selection} (h : s.WellFormed P)
    (himp : ∀ key ∈ s.names, P key.toList → Q key.toList) : s.WellFormed Q := by
  refine ⟨h.terms_ne_nil, fun t ht => ?_, h.nodup, fun statement hstatement => ?_⟩
  · exact himp t.key (List.mem_append_left _ (List.mem_map_of_mem ht)) (h.keys t ht)
  · refine (h.scope statement hstatement).imp fun key hkey => himp key ?_
    refine List.mem_append_right _ (List.mem_flatMap.2 ⟨statement, ?_, hkey⟩)
    exact Option.mem_toList.2 hstatement

/-- The names of a well-formed statement are of its kind. -/
theorem Statement.WellFormed.names {s : Statement} (h : s.WellFormed P) :
    ∀ name ∈ s.names, P name.toList := by
  intro name hname
  rcases List.mem_append.1 hname with hname | hname
  · exact h.expression.keys name hname
  · exact h.orderBy name (Option.mem_toList.1 hname)

/-- The names of a well-formed selection are of its kind. -/
theorem Selection.WellFormed.names {s : Selection} (h : s.WellFormed P) :
    ∀ name ∈ s.names, P name.toList := by
  intro name hname
  rcases List.mem_append.1 hname with hname | hname
  · obtain ⟨t, ht, rfl⟩ := List.mem_map.1 hname
    exact h.keys t ht
  · obtain ⟨statement, hstatement, hname⟩ := List.mem_flatMap.1 hname
    exact (h.scope statement (Option.mem_toList.1 hstatement)).names name hname

end WellFormed

/-- A name in camel case can follow a point. -/
theorem followsPoint_of_isCamel {name : String} (h : Text.IsCamel name.toList) :
    FollowsPoint name := by
  unfold FollowsPoint
  cases hchars : name.toList with
  | nil =>
      rw [hchars] at h
      exact h.elim
  | cons c cs =>
      rw [hchars] at h
      exact ⟨c, rfl, ((Text.isLower_iff (Text.isAlphanum_of_isLower h.1)).1.1 h.1).2⟩

/-- The text of an expression starts with a parenthesis. -/
theorem Expression.exists_chars_cons (e : Expression) : ∃ more, e.chars = '(' :: more := by
  cases e with
  | condition => exact ⟨_, rfl⟩
  | operation => exact ⟨_, rfl⟩

namespace Grammar

open Reader

/-! ## What is read is well-formed but for its names -/

section Read

variable {cs rest : List Char}

/-- The name of an attribute is what camel case makes of it. -/
theorem AttributeAt.isCamelForm {key : String} (h : AttributeAt cs key rest) :
    Text.IsCamelForm key.toList := by
  obtain ⟨c, name, hc, hname, _, _, rfl⟩ := h
  rw [Text.camelCase, String.toList_ofList, String.toList_ofList]
  refine Text.isCamelForm_camelChars fun d hd => ?_
  have hd : continuesName d = true := by
    rcases List.mem_cons.1 hd with rfl | hd
    · simp only [startsName, Bool.or_eq_true] at hc
      simp only [continuesName, Char.isAlphanum, Bool.or_eq_true]
      tauto
    · exact hname d hd
  simp only [continuesName, Bool.or_eq_true, decide_eq_true_eq] at hd
  simp only [Text.isNameSeparator, Bool.or_eq_true, decide_eq_true_eq]
  tauto

/-- What is read between slashes can stand there. -/
theorem PatternBodyAt.form {p : List Char} (h : PatternBodyAt cs p rest) : PatternForm p := by
  induction h with
  | close => exact .nil
  | slash _ ih => exact .slash ih
  | escape hc _ ih => exact .escape hc ih
  | plain hslash hback _ ih => exact .plain hslash hback ih

/-- A pattern is well-formed. -/
theorem PatternAt.wellFormed {p : PatternLiteral} (h : PatternAt cs p rest) : p.WellFormed := by
  obtain ⟨body, chars, flags, _, hbody, hflags, rfl, hcompile⟩ := h
  exact ⟨by simpa using hbody.form, by simpa using hflags, hcompile⟩

/-- An expression is well-formed but for its names. -/
theorem ExpressionAt.wellFormed {e : Expression} (h : ExpressionAt cs e rest) :
    e.WellFormed Text.IsCamelForm := by
  induction h with
  | condition _ _ _ _ _ _ _ ihleft ihright =>
      exact Expression.wellFormed_condition.2 ⟨ihleft, ihright⟩
  | operation _ hkey _ _ _ hoperand _ =>
      have hform := hkey.isCamelForm
      cases hoperand with
      | reference hother =>
          refine ⟨?_, by simp [Expression.patterns]⟩
          simpa [Expression.keys] using ⟨hform, hother.isCamelForm⟩
      | pattern hp =>
          refine ⟨by simpa [Expression.keys] using hform, ?_⟩
          simpa [Expression.patterns] using hp.wellFormed
      | literal =>
          exact ⟨by simpa [Expression.keys] using hform, by simp [Expression.patterns]⟩

/-- A statement is well-formed but for its names. -/
theorem StatementAt.wellFormed {s : Statement} (h : StatementAt cs s rest) :
    s.WellFormed Text.IsCamelForm := by
  cases h with
  | mk _ he _ _ horder _ =>
      refine ⟨he.wellFormed, ?_⟩
      rintro key ⟨⟩
      cases horder with
      | present _ _ _ hkey =>
          obtain ⟨_, _, _, _, hattribute⟩ := hkey
          exact hattribute.isCamelForm

/-- The name of a term is what camel case makes of it. -/
theorem TermAt.isCamelForm {t : Term} (h : TermAt cs t rest) : Text.IsCamelForm t.key.toList := by
  induction h with
  | plain hkey => exact hkey.isCamelForm
  | random _ _ _ ih => exact ih
  | count _ _ _ ih => exact ih
  | distinct _ _ _ ih => exact ih

/-- There is at least one term, and the names of all are what camel case makes of them. -/
theorem TermsAt.isCamelForm {ts : List Term} (h : TermsAt cs ts rest) :
    ts ≠ [] ∧ ∀ t ∈ ts, Text.IsCamelForm t.key.toList := by
  induction h with
  | last _ ht => exact ⟨List.cons_ne_nil _ _, by simpa using ht.isCamelForm⟩
  | more _ ht _ _ ih => exact ⟨List.cons_ne_nil _ _, by simpa using ⟨ht.isCamelForm, ih.2⟩⟩

/-- A selection is well-formed but for its names. -/
theorem SelectionAt.wellFormed {s : Selection} (h : SelectionAt cs s rest) :
    s.WellFormed Text.IsCamelForm := by
  cases h with
  | mk _ _ hterms hnodup hscope =>
      refine ⟨hterms.isCamelForm.1, hterms.isCamelForm.2, hnodup, ?_⟩
      rintro statement ⟨⟩
      cases hscope with
      | present _ _ _ hs => exact hs.wellFormed

end Read

/-! ## Names that are read can follow a point -/

section Names

variable {rest : List Char}

/-- Only a name that can follow a point is read after one. -/
theorem isCamel_of_attributeAt {key other : String} {more : List Char}
    (hform : Text.IsCamelForm key.toList) (hrest : NotNext startsName rest)
    (h : AttributeAt ('.' :: (key.toList ++ rest)) other more) : Text.IsCamel key.toList := by
  obtain ⟨c, name, hc, _, _, hcons, _⟩ := h
  cases hchars : key.toList with
  | nil =>
      rw [hchars] at hcons
      have hrest' : rest = c :: (name ++ more) := (List.cons.inj hcons).2
      rw [hrest', notNext_cons, hc] at hrest
      cases hrest
  | cons d chars =>
      rw [hchars] at hcons hform
      obtain rfl : d = c := (List.cons.inj (List.cons.inj hcons).2).1
      refine hform.isCamel_iff.2 ⟨d, rfl, ?_⟩
      -- A digit starts no name.
      have hdigit : ∀ n < 128, (Char.ofNat n).isAlphanum = true →
          startsName (Char.ofNat n) = true → (Char.ofNat n).isDigit = false := by
        decide +kernel
      exact Text.forall_isAlphanum (P := fun d => startsName d = true → d.isDigit = false) hdigit
        (hform.1 d (List.mem_cons_self ..)) hc

/-- A space and what comes after it. -/
theorem blanks_space {cs : List Char} (h : NotNext isBlank cs) : blanks (' ' :: cs) = cs :=
  (BlanksAt.space cs).eq h

/-- No blank comes before an expression that is written. -/
theorem notNext_chars (e : Expression) (rest : List Char) :
    NotNext isBlank (e.chars ++ rest) := by
  obtain ⟨more, hmore⟩ := e.exists_chars_cons
  rw [hmore]
  exact notNext_cons.2 (by decide)

/-- The names of a comparison whose text is read can follow a point. -/
theorem isCamel_of_comparison {key : String} {op : Operator} {operand : Operand}
    {x : Expression × List Char}
    (hform : (Expression.operation key op operand).WellFormed Text.IsCamelForm)
    (hrest : NotNext startsName rest)
    (h : comparison ('.' :: (key.toList ++ ' ' :: (op.symbol.toList ++ ' ' ::
      (operand.chars ++ rest)))) = .ok x) :
    ∀ name ∈ (Expression.operation key op operand).keys, Text.IsCamel name.toList := by
  obtain ⟨⟨k, c₃⟩, hkey, h⟩ := bind_eq_ok_iff.1 h
  have hcamel : Text.IsCamel key.toList :=
    isCamel_of_attributeAt (hform.keys key (Expression.key_mem_keys key op operand))
      (notNext_cons.2 (by decide)) (reference_iff.1 hkey)
  cases operand with
  | reference other =>
      -- What was written for the first name and the operator is what was read for them.
      rw [reference_iff.2 (attributeAt_key hcamel (notNext_cons.2 (by decide)))] at hkey
      cases hkey
      obtain ⟨⟨o, c₅⟩, hop, h⟩ := bind_eq_ok_iff.1 h
      have hsign : OperatorAt (op.symbol.toList ++ ' ' :: ((Operand.reference other).chars ++ rest))
        op (' ' :: ((Operand.reference other).chars ++ rest)) := rfl
      rw [blanks_space hsign.notNext, operator_iff.2 hsign] at hop
      cases hop
      obtain ⟨⟨y, c₇⟩, hoperand, _⟩ := bind_eq_ok_iff.1 h
      have hpoint : NotNext isBlank ((Operand.reference other).chars ++ rest) :=
        notNext_cons.2 (by decide)
      rw [blanks_space hpoint] at hoperand
      obtain ⟨⟨k, c₈⟩, hother, _⟩ := map_eq_ok_iff.1 hoperand
      have hother : Text.IsCamel other.toList :=
        isCamel_of_attributeAt (hform.keys other (by simp [Expression.keys])) hrest
          (reference_iff.1 hother)
      simpa [Expression.keys] using ⟨hcamel, hother⟩
  | pattern p => simpa [Expression.keys] using hcamel
  | literal text => simpa [Expression.keys] using hcamel

/-- In the text of a condition that is read, the left side is read, and the right side too if the
left side is read as it was written. -/
theorem sides_of_condition {kind : Connective} {left right : Expression} {depth : Nat}
    {x : Expression × List Char}
    (hdepth : ((Expression.condition kind left right).chars ++ rest).length ≤ depth + 1)
    (h : expression (depth + 1) ((Expression.condition kind left right).chars ++ rest) = .ok x) :
    ∃ tail y, (left.chars ++ tail).length ≤ depth ∧
      expression depth (left.chars ++ tail) = .ok y ∧
      (left.WellFormed Text.IsCamel →
        (right.chars ++ ')' :: rest).length ≤ depth ∧
          ∃ z, expression depth (right.chars ++ ')' :: rest) = .ok z) := by
  simp only [Expression.chars, List.cons_append, List.append_assoc, List.nil_append] at h hdepth
  generalize htail : ' ' :: (kind.word.toList ++ ' ' :: (right.chars ++ ')' :: rest)) = tail
    at h hdepth
  rw [List.length_cons, Nat.succ_le_succ_iff] at hdepth
  obtain ⟨more, hmore⟩ := left.exists_chars_cons
  have hfront : blanks (left.chars ++ tail) = '(' :: (more ++ tail) := by
    rw [blanks_of_notNext (notNext_chars left tail), hmore]
    rfl
  rw [expression_condition hfront, ← List.cons_append, ← hmore] at h
  obtain ⟨y, hleft, h⟩ := bind_eq_ok_iff.1 h
  refine ⟨tail, y, hdepth, hleft, fun hcamel => ?_⟩
  rw [(expressionAt_chars hcamel tail).expression hdepth] at hleft
  cases hleft
  obtain ⟨⟨k, c₅⟩, hkind, h⟩ := bind_eq_ok_iff.1 h
  have hkindAt := connectiveAt_word kind (right.chars ++ ')' :: rest)
  dsimp only at hkind
  rw [← htail, blanks_space hkindAt.notNext, connective_iff.2 hkindAt] at hkind
  cases hkind
  obtain ⟨z, hright, _⟩ := bind_eq_ok_iff.1 h
  dsimp only at hright
  rw [blanks_space (notNext_chars right _)] at hright
  refine ⟨?_, z, hright⟩
  rw [← htail] at hdepth
  simp only [List.length_append, List.length_cons] at hdepth ⊢
  omega

/-- The names of an expression whose text is read can follow a point. -/
theorem isCamel_of_expression {e : Expression} {depth : Nat} {x : Expression × List Char}
    (hform : e.WellFormed Text.IsCamelForm) (hdepth : (e.chars ++ rest).length ≤ depth)
    (h : expression depth (e.chars ++ rest) = .ok x) : ∀ key ∈ e.keys, Text.IsCamel key.toList := by
  induction e generalizing depth rest x with
  | operation key op operand =>
      cases depth with
      | zero => cases h
      | succ depth =>
          simp only [Expression.chars, List.cons_append, List.append_assoc, List.nil_append] at h
          have hpoint : NotNext isBlank ('.' :: (key.toList ++ ' ' :: (op.symbol.toList ++ ' ' ::
              (operand.chars ++ ')' :: rest)))) := notNext_cons.2 (by decide)
          rw [expression_comparison (by rw [blanks_of_notNext hpoint]; simp)] at h
          obtain ⟨y, hcomparison, _⟩ := bind_eq_ok_iff.1 h
          rw [blanks_of_notNext hpoint] at hcomparison
          exact isCamel_of_comparison hform (notNext_cons.2 (by decide)) hcomparison
  | condition kind left right ihleft ihright =>
      obtain ⟨hleftForm, hrightForm⟩ := Expression.wellFormed_condition.1 hform
      cases depth with
      | zero => cases h
      | succ depth =>
          obtain ⟨tail, y, hlength, hleft, hothers⟩ := sides_of_condition hdepth h
          have hleftKeys := ihleft hleftForm hlength hleft
          obtain ⟨hlength, z, hright⟩ :=
            hothers (hleftForm.imp fun key hkey _ => hleftKeys key hkey)
          have hrightKeys := ihright hrightForm hlength hright
          intro key hkey
          exact (List.mem_append.1 hkey).elim (hleftKeys key) (hrightKeys key)

/-- No other keyword is found before a clause that is written, unless it is found after it. -/
theorem keyword?_countClause {word other : String} {x : Option UInt64}
    (hword : word.toList.map Char.toUpper = word.toList) (hisWord : IsWord word)
    (hother : IsWord other) (hne : word ≠ other) (hspaced : Spaced rest)
    (hrest : keyword? other (blanks rest) = none) :
    keyword? other (blanks (countClause word x ++ rest)) = none :=
  (clauseAt_countClause hword x hspaced).keyword?_eq_none hisWord hother hne hrest

/-- An order that is written is found behind its blank. -/
theorem keywordAt_orderClause (key : String) (rest : List Char) :
    KeywordAt "ORDER" (blanks (orderClause (some key) ++ rest))
      (' ' :: ("BY".toList ++ ' ' :: '.' :: (key.toList ++ rest))) := by
  have hword : KeywordAt "ORDER" ("ORDER".toList ++ ' ' :: ("BY".toList ++ ' ' :: '.' ::
      (key.toList ++ rest))) (' ' :: ("BY".toList ++ ' ' :: '.' :: (key.toList ++ rest))) :=
    keywordAt_word_space (by decide) _
  rw [orderClause_some, blanks_space (hword.notNext (by decide))]
  exact hword

/-- An order that is read is by a name that can follow a point. -/
theorem isCamel_of_order {key : String} {d : Direction} {x : Option String × List Char}
    (hform : Text.IsCamelForm key.toList)
    (h : clause "ORDER" orderBody (orderClause (some key) ++ directionClause d) = .ok x) :
    Text.IsCamel key.toList := by
  rw [clause, keyword?_iff.2 (keywordAt_orderClause key _)] at h
  obtain ⟨⟨k, r⟩, hbody, _⟩ := map_eq_ok_iff.1 h
  have hby : KeywordAt "BY" ("BY".toList ++ ' ' :: '.' :: (key.toList ++ directionClause d))
      (' ' :: '.' :: (key.toList ++ directionClause d)) := keywordAt_word_space (by decide) _
  rw [blanks_space (hby.notNext (by decide)), orderBody, keyword?_iff.2 hby] at hbody
  have hkey : AttributeAt (blanks (' ' :: '.' :: (key.toList ++ directionClause d))) k r :=
    reference_iff.1 hbody
  rw [blanks_space (notNext_cons.2 (by decide))] at hkey
  exact isCamel_of_attributeAt hform ((spaced_directionClause d).notNext (by decide)) hkey

/-- The two clauses of numbers are read as they were written, up to the order. -/
theorem order_of_clauses {limit offset : Option UInt64} {key : String} {d : Direction}
    {x₁ x₂ : Option UInt64 × List Char}
    (hlimit : clause "LIMIT" count (countClause "LIMIT" limit ++ (countClause "OFFSET" offset ++
      (orderClause (some key) ++ directionClause d))) = .ok x₁)
    (hoffset : clause "OFFSET" count x₁.2 = .ok x₂) :
    x₂.2 = orderClause (some key) ++ directionClause d := by
  have hspacedOrder := spaced_orderClause (some key) (spaced_directionClause d)
  have hspacedOffset := spaced_countClause "OFFSET" offset hspacedOrder
  have hnone : ∀ other, IsWord other → "ORDER" ≠ other →
      keyword? other (blanks (orderClause (some key) ++ directionClause d)) = none :=
    fun _ hother hne => (keywordAt_orderClause key _).keyword?_eq_none (by decide) hother hne
  have hlimitNone : keyword? "LIMIT" (blanks (countClause "OFFSET" offset ++
      (orderClause (some key) ++ directionClause d))) = none :=
    keyword?_countClause (by decide) (by decide) (by decide) (by decide) hspacedOrder
      (hnone "LIMIT" (by decide) (by decide))
  rw [(clauseAt_countClause (by decide) limit hspacedOffset).number (by decide)
    fun h => h ▸ hlimitNone] at hlimit
  cases hlimit
  rw [(clauseAt_countClause (by decide) offset hspacedOrder).number (by decide)
    fun h => h ▸ hnone "OFFSET" (by decide) (by decide)] at hoffset
  cases hoffset
  rfl

/-- The names of a statement whose text is read can follow a point. -/
theorem wellFormed_of_statement {s : Statement} {x : Statement × List Char}
    (hform : s.WellFormed Text.IsCamelForm) (h : statement s.chars = .ok x) :
    s.WellFormed Text.IsCamel := by
  obtain ⟨e, limit, offset, orderBy, d⟩ := s
  simp only [Statement.chars, List.append_assoc] at h
  generalize htail : countClause "LIMIT" limit ++ (countClause "OFFSET" offset ++
      (orderClause orderBy ++ directionClause d)) = tail at h
  obtain ⟨⟨e', c₂⟩, hexpression, h⟩ := bind_eq_ok_iff.1 h
  rw [blanks_of_notNext (notNext_chars e tail)] at hexpression
  have he : e.WellFormed Text.IsCamel := hform.expression.imp fun key hkey _ =>
    isCamel_of_expression hform.expression (Nat.le_refl _) hexpression key hkey
  rw [(expressionAt_chars he tail).expression (Nat.le_refl _)] at hexpression
  cases hexpression
  obtain ⟨x₁, hlimit, h⟩ := bind_eq_ok_iff.1 h
  obtain ⟨x₂, hoffset, h⟩ := bind_eq_ok_iff.1 h
  obtain ⟨x₃, horder, _⟩ := bind_eq_ok_iff.1 h
  refine ⟨he, ?_⟩
  rintro key ⟨⟩
  rw [← htail] at hlimit
  rw [order_of_clauses hlimit hoffset] at horder
  exact isCamel_of_order (hform.orderBy key rfl) horder

/-- A term that is read after a word of its own is read without the word. -/
theorem TermAt.after_word {word : String} {cs more : List Char} {t : Term} (h : TermAt cs t rest)
    (hword : KeywordAt word cs (' ' :: more)) (hisWord : IsWord word)
    (hmore : NotNext isBlank more) : ∃ u, TermAt more u rest := by
  have hnext : ∀ {other c₁ c₂ u}, KeywordAt other cs c₁ → IsWord other → BlanksAt c₁ c₂ →
      TermAt c₂ u rest → TermAt more u rest := by
    intro other c₁ c₂ u hother hisOther hblanks hu
    obtain rfl := hword.unique hother hisWord hisOther
    obtain rfl := Option.some.inj ((keyword?_iff.2 hword).symm.trans (keyword?_iff.2 hother))
    rwa [← hblanks.eq hu.notNext, blanks_space hmore] at hu
  cases h with
  | plain hkey =>
      obtain ⟨c, _, rfl, hc⟩ := hword.exists_cons hisWord
      obtain ⟨_, hcons⟩ := hkey.exists_cons
      cases hcons
      exact absurd hc (by decide)
  | random hother hblanks ht => exact ⟨_, hnext hother (by decide) hblanks ht⟩
  | count hother hblanks ht => exact ⟨_, hnext hother (by decide) hblanks ht⟩
  | distinct hother hblanks ht => exact ⟨_, hnext hother (by decide) hblanks ht⟩

/-- A word in front of a term, if it stands there, and then a text without blanks in front. -/
theorem notNext_modifier (b : Bool) {text : String} (word : String) {more : List Char}
    (htext : text.toList = word.toList ++ [' '])
    (hword : word.toList.map Char.toUpper = word.toList) (hisWord : IsWord word)
    (hmore : NotNext isBlank more) :
    NotNext isBlank ((if b then text.toList else []) ++ more) := by
  cases b with
  | false => exact hmore
  | true => exact (keywordAt_text htext hword more).notNext hisWord

/-- A term that is read after a word, if it stands there, is read without it. -/
theorem TermAt.after_modifier {b : Bool} {text : String} {more : List Char} {t : Term}
    (h : TermAt ((if b then text.toList else []) ++ more) t rest) (word : String)
    (htext : text.toList = word.toList ++ [' '])
    (hword : word.toList.map Char.toUpper = word.toList) (hisWord : IsWord word)
    (hmore : NotNext isBlank more) : ∃ u, TermAt more u rest := by
  cases b with
  | false => exact ⟨t, h⟩
  | true => exact h.after_word (keywordAt_text htext hword more) hisWord hmore

/-- The written form of a term starts without blanks, and if it is read then its name can follow a
point. -/
theorem isCamel_of_termAt {t : Term} (rest : List Char) :
    NotNext isBlank (t.chars ++ rest) ∧ ∀ {u more}, Text.IsCamelForm t.key.toList →
      NotNext startsName rest → TermAt (t.chars ++ rest) u more → Text.IsCamel t.key.toList := by
  obtain ⟨key, count, random, distinct⟩ := t
  simp only [Term.chars, Term.modifiers, List.append_assoc, List.cons_append]
  have hpoint : NotNext isBlank ('.' :: (key.toList ++ rest)) := notNext_cons.2 (by decide)
  have hdistinct : NotNext isBlank ((if distinct then "DISTINCT ".toList else [])
      ++ '.' :: (key.toList ++ rest)) :=
    notNext_modifier distinct "DISTINCT" (by decide) (by decide) (by decide) hpoint
  have hcount : NotNext isBlank ((if count then "COUNT ".toList else [])
      ++ ((if distinct then "DISTINCT ".toList else []) ++ '.' :: (key.toList ++ rest))) :=
    notNext_modifier count "COUNT" (by decide) (by decide) (by decide) hdistinct
  refine ⟨notNext_modifier random "RANDOM" (by decide) (by decide) (by decide) hcount, ?_⟩
  intro u more hform hrest h
  obtain ⟨_, h⟩ := h.after_modifier "RANDOM" (by decide) (by decide) (by decide) hcount
  obtain ⟨_, h⟩ := h.after_modifier "COUNT" (by decide) (by decide) (by decide) hdistinct
  obtain ⟨_, h⟩ := h.after_modifier "DISTINCT" (by decide) (by decide) (by decide) hpoint
  have hnoWord : ∀ {word cs}, KeywordAt word ('.' :: (key.toList ++ rest)) cs → IsWord word →
      False := by
    intro word cs hword hisWord
    obtain ⟨c, _, hcons, hc⟩ := hword.exists_cons hisWord
    cases hcons
    exact absurd hc (by decide)
  cases h with
  | plain hkey => exact isCamel_of_attributeAt hform hrest hkey
  | random hword => exact (hnoWord hword (by decide)).elim
  | count hword => exact (hnoWord hword (by decide)).elim
  | distinct hword => exact (hnoWord hword (by decide)).elim

/-- The names of terms whose text is read can follow a point. -/
theorem isCamel_of_terms {seen : List String} {fuel : Nat} {cs : List Char} {t : Term}
    {ts : List Term} {x : List Term × List Char}
    (hform : ∀ u ∈ t :: ts, Text.IsCamelForm u.key.toList) (hrest : Spaced rest)
    (hblanks : BlanksAt cs (termsChars (t :: ts) ++ rest)) (h : terms seen fuel cs = .ok x) :
    ∀ u ∈ t :: ts, Text.IsCamel u.key.toList := by
  induction ts generalizing seen fuel cs t x with
  | nil =>
      cases fuel with
      | zero => cases h
      | succ fuel =>
          obtain ⟨t', next, hterm, _⟩ := terms_succ_iff.1 h
          rw [hblanks.eq (isCamel_of_termAt rest).1] at hterm
          have ht := (isCamel_of_termAt rest).2 (hform t (List.mem_cons_self ..))
            (hrest.notNext (by decide)) hterm
          simpa using ht
  | cons u ts ih =>
      cases fuel with
      | zero => cases h
      | succ fuel =>
          obtain ⟨t', next, hterm, _, hnext⟩ := terms_succ_iff.1 h
          simp only [termsChars, List.append_assoc, List.cons_append] at hblanks
          generalize htail : ',' :: ' ' :: (termsChars (u :: ts) ++ rest) = tail at hblanks
          have hcomma : NotNext continuesName tail ∧ NotNext startsName tail := by
            rw [← htail]
            exact ⟨notNext_cons.2 (by decide), notNext_cons.2 (by decide)⟩
          have hfront := hblanks.eq (isCamel_of_termAt tail).1
          have ht := (isCamel_of_termAt tail).2 (hform t (List.mem_cons_self ..)) hcomma.2
            (hfront ▸ hterm)
          -- The first term was read as it was written, up to the comma.
          have hwritten : TermAt (blanks cs) t tail := hfront ▸ termAt_chars ht hcomma.1
          have hsame := (term_iff.2 hterm).symm.trans (term_iff.2 hwritten)
          cases hsame
          rw [← htail, blanks_of_notNext (notNext_cons.2 (by decide))] at hnext
          rcases hnext with ⟨more, others, hmore, hothers, _⟩ | ⟨hmore, _⟩
          · cases hmore
            have hts := ih (fun v hv => hform v (List.mem_cons_of_mem _ hv)) (BlanksAt.space _)
              hothers
            intro v hv
            rcases List.mem_cons.1 hv with rfl | hv
            · exact ht
            · exact hts v hv
          · exact absurd rfl (hmore _)

/-- The names of the terms of a selection whose text is read can follow a point, and the clause
after the terms is read where it was written. -/
theorem isCamel_of_selection {t : Term} {ts : List Term} {tail : List Char}
    {x : Selection × List Char} (hform : ∀ u ∈ t :: ts, Text.IsCamelForm u.key.toList)
    (hnodup : ((t :: ts).map Term.key).Nodup) (htail : Spaced tail)
    (hcomma : ∀ more, blanks tail ≠ ',' :: more)
    (h : selection ("SELECT ".toList ++ (termsChars (t :: ts) ++ tail)) = .ok x) :
    (∀ u ∈ t :: ts, Text.IsCamel u.key.toList) ∧ ∃ y, clause "WITHIN" statement tail = .ok y := by
  have hword : KeywordAt "SELECT" ("SELECT ".toList ++ (termsChars (t :: ts) ++ tail))
      (' ' :: (termsChars (t :: ts) ++ tail)) := keywordAt_text (by decide) (by decide) _
  unfold selection at h
  dsimp only at h
  rw [blanks_of_notNext (hword.notNext (by decide)), keyword?_iff.2 hword] at h
  obtain ⟨y, hterms, h⟩ := bind_eq_ok_iff.1 h
  have hcamel := isCamel_of_terms hform htail (BlanksAt.space _) hterms
  have hwritten : TermsAt (' ' :: (termsChars (t :: ts) ++ tail)) (t :: ts) tail :=
    termsAt_chars hcamel (htail.notNext (by decide)) (BlanksAt.space _)
  rw [hwritten.terms hcomma hnodup (fun _ _ => List.not_mem_nil) (Nat.lt_succ_self _)] at hterms
  cases hterms
  obtain ⟨z, hscope, _⟩ := bind_eq_ok_iff.1 h
  exact ⟨hcamel, z, hscope⟩

/-- The names of a selection whose text is read can follow a point. -/
theorem wellFormed_of_selection {s : Selection} {x : Selection × List Char}
    (hform : s.WellFormed Text.IsCamelForm) (h : selection s.chars = .ok x) :
    s.WellFormed Text.IsCamel := by
  obtain ⟨terms, scope⟩ := s
  cases terms with
  | nil => exact absurd rfl hform.terms_ne_nil
  | cons t ts =>
      cases scope with
      | none =>
          rw [chars_selection_none] at h
          obtain ⟨hkeys, _⟩ := isCamel_of_selection hform.keys hform.nodup spaced_nil
            (fun more hmore => by cases hmore) h
          exact ⟨List.cons_ne_nil _ _, hkeys, hform.nodup, by simp⟩
      | some s =>
          have hword : KeywordAt "WITHIN" ("WITHIN".toList ++ ' ' :: s.chars) (' ' :: s.chars) :=
            keywordAt_word_space (by decide) _
          have hfront := blanks_space (hword.notNext (by decide))
          have hcomma : ∀ more,
              blanks (' ' :: ("WITHIN".toList ++ ' ' :: s.chars)) ≠ ',' :: more := by
            intro more hmore
            obtain ⟨c, _, hcons, hc⟩ := hword.exists_cons (by decide)
            rw [hfront, hcons] at hmore
            cases hmore
            exact absurd hc (by decide)
          rw [chars_selection_some] at h
          obtain ⟨hkeys, y, hscope⟩ := isCamel_of_selection hform.keys hform.nodup (spaced_cons _)
            hcomma h
          rw [clause, hfront, keyword?_iff.2 hword] at hscope
          obtain ⟨z, hstatement, _⟩ := map_eq_ok_iff.1 hscope
          have hblank : NotNext isBlank s.chars := by
            simp only [Statement.chars, List.append_assoc]
            exact notNext_chars s.expression _
          rw [blanks_space hblank] at hstatement
          refine ⟨List.cons_ne_nil _ _, hkeys, hform.nodup, ?_⟩
          rintro _ ⟨⟩
          exact wellFormed_of_statement (hform.scope s rfl) hstatement

end Names

/-! ## Whole texts -/

/-- A reading of a whole text is a reading of its front. -/
theorem exists_read_of_whole {α : Type} {read : List Char → Parsed α} {text : String} {a : α}
    (h : (whole read text.toList).mapError (toSyntaxError text) = .ok a) :
    ∃ rest, read text.toList = .ok (a, rest) := by
  cases hwhole : whole read text.toList with
  | error stuck =>
      rw [hwhole] at h
      cases h
  | ok x =>
      rw [hwhole] at h
      cases h
      obtain ⟨rest, hread, _⟩ := whole_iff.1 hwhole
      exact ⟨rest, hread⟩

/-- A reading that gives names in camel case only is refused if one of them cannot follow a
point. -/
theorem exists_error_of_name {ε α : Type} {names : List String} {again : Except ε α}
    (hcamel : ∀ other, again = .ok other → ∀ name ∈ names, Text.IsCamel name.toList)
    (hname : ∃ name ∈ names, ¬ FollowsPoint name) : ∃ e, again = .error e := by
  obtain ⟨name, hname, hnot⟩ := hname
  cases again with
  | error e => exact ⟨e, rfl⟩
  | ok other => exact absurd (followsPoint_of_isCamel (hcamel other rfl name hname)) hnot

/-- A query that was read is read again from its text if every name in it can follow a point, and
its text is refused if one cannot. -/
theorem reread_text (text : String) :
    (∀ s, readStatement text = .ok s →
      ((∀ name ∈ s.names, FollowsPoint name) → readStatement s.text = .ok s) ∧
      ((∃ name ∈ s.names, ¬ FollowsPoint name) → ∃ e, readStatement s.text = .error e)) ∧
    (∀ s, readSelection text = .ok s →
      ((∀ name ∈ s.names, FollowsPoint name) → readSelection s.text = .ok s) ∧
      ((∃ name ∈ s.names, ¬ FollowsPoint name) → ∃ e, readSelection s.text = .error e)) := by
  refine ⟨fun s h => ?_, fun s h => ?_⟩
  · obtain ⟨_, hread⟩ := exists_read_of_whole h
    have hform := (statementAt_of_statement hread).wellFormed
    refine ⟨fun hnames => readStatement_text_of_wellFormed (hform.imp fun name hname hcamel =>
      hcamel.isCamel_iff.2 (hnames name hname)), exists_error_of_name fun other hagain => ?_⟩
    obtain ⟨_, hwritten⟩ := exists_read_of_whole hagain
    rw [Statement.text, String.toList_ofList] at hwritten
    exact (wellFormed_of_statement hform hwritten).names
  · obtain ⟨_, hread⟩ := exists_read_of_whole h
    have hform := (selectionAt_of_selection hread).wellFormed
    refine ⟨fun hnames => readSelection_text_of_wellFormed (hform.imp fun name hname hcamel =>
      hcamel.isCamel_iff.2 (hnames name hname)), exists_error_of_name fun other hagain => ?_⟩
    obtain ⟨_, hwritten⟩ := exists_read_of_whole hagain
    rw [Selection.text, String.toList_ofList] at hwritten
    exact (wellFormed_of_selection hform hwritten).names

/-- The attribute of this statement is called by the digit after its low line. -/
def digitStatement : Statement where
  expression := .operation "1" .eq (.literal "a")

/-- A selection with names in several words, a pattern with a slash and an order. -/
def wordsSelection : Selection where
  terms :=
    [{ key := "pageType", distinct := true }, { key := "tags", random := true, count := true }]
  scope := some
    { expression := .operation "pageType" .matches (.pattern ⟨"^a/b\\.", "i"⟩)
      orderBy := some "createdAt"
      direction := .descending }

/-- A text of that selection. -/
def wordsText : String :=
  "select distinct .Page-Type, count random .Tags within " ++
    "(.page_type =~ m/^a\\/b\\./i) order by .created-at dsc"

/-- A name that became a digit is refused, and names in several words are read again. -/
theorem reread_text_digit :
    (readStatement "(._1 == \"a\")" = .ok digitStatement ∧
      (∃ name ∈ digitStatement.names, ¬ FollowsPoint name) ∧
      digitStatement.text = "(.1 == \"a\")" ∧
      ∃ e, readStatement digitStatement.text = .error e) ∧
    readSelection wordsText = .ok wordsSelection ∧
    (∀ name ∈ wordsSelection.names, FollowsPoint name) ∧
    readSelection wordsSelection.text = .ok wordsSelection := by
  have hdigit : readStatement "(._1 == \"a\")" = .ok digitStatement := by decide +kernel
  have hname : ∃ name ∈ digitStatement.names, ¬ FollowsPoint name := by decide +kernel
  have hwords : readSelection wordsText = .ok wordsSelection := by decide +kernel
  have hnames : ∀ name ∈ wordsSelection.names, FollowsPoint name := by decide +kernel
  exact ⟨⟨hdigit, hname, by decide +kernel, ((reread_text _).1 _ hdigit).2 hname⟩,
    hwords, hnames, ((reread_text _).2 _ hwords).1 hnames⟩

end Grammar

end SiteIndex.Query
