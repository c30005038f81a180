import SiteIndex.Proofs.Query.Tokens

/-!
# Reading expressions

An expression is read as the grammar says, by induction on the depth of the reading in one
direction and on the derivation in the other. Every expression takes characters, so that the
length of the text is always depth enough.
-/

namespace SiteIndex.Query.Grammar

open Reader

/-! ## Expressions -/

section Expressions

variable {cs rest : List Char}

/-- The word between two expressions is read where it stands. -/
theorem connective_iff {kind : Connective} :
    connective cs = .ok (kind, rest) ↔ ConnectiveAt cs kind rest := by
  constructor
  · intro h
    unfold connective at h
    split at h
    case h_1 hand =>
      cases h
      exact .and (keyword?_iff.1 hand)
    case h_2 =>
      split at h
      case h_1 hor =>
        cases h
        exact .or (keyword?_iff.1 hor)
      case h_2 => cases h
  · intro h
    unfold connective
    cases h with
    | and hand => rw [keyword?_iff.2 hand]
    | or hor =>
        rw [hor.keyword?_eq_none (by decide) (by decide) (by decide), keyword?_iff.2 hor]

/-- The word between two expressions does not start with a blank. -/
theorem ConnectiveAt.notNext {kind : Connective} (h : ConnectiveAt cs kind rest) :
    NotNext isBlank cs := by
  cases h with
  | and h => exact h.notNext (by decide)
  | or h => exact h.notNext (by decide)

/-- The word between two expressions takes characters. -/
theorem ConnectiveAt.length_lt {kind : Connective} (h : ConnectiveAt cs kind rest) :
    rest.length < cs.length := by
  cases h with
  | and h => exact h.length_lt (by decide)
  | or h => exact h.length_lt (by decide)

/-- A closing parenthesis is read where it stands. -/
theorem closing_iff {x : Unit} : closing cs = .ok (x, rest) ↔ cs = ')' :: rest := by
  constructor
  · intro h
    unfold closing at h
    split at h <;> cases h
    rfl
  · rintro rfl
    rfl

/-- What is left before a closing parenthesis that is read are blanks. -/
theorem blanksAt_of_closing {x : Unit} (h : closing (blanks cs) = .ok (x, rest)) :
    BlanksAt cs (')' :: rest) := by
  rw [← closing_iff.1 h]
  exact blanksAt_blanks cs

/-- A closing parenthesis after blanks is read. -/
theorem closing_of_blanksAt (h : BlanksAt cs (')' :: rest)) :
    closing (blanks cs) = .ok ((), rest) := by
  rw [h.eq (notNext_cons.2 (by decide))]
  rfl

/-- What is read as a comparison is one. -/
theorem comparison_cases {e : Expression} (h : comparison cs = .ok (e, rest)) :
    ∃ key op operand c₃ c₅, e = .operation key op operand ∧ AttributeAt cs key c₃ ∧
      OperatorAt (blanks c₃) op c₅ ∧ OperandAt (blanks c₅) operand rest := by
  obtain ⟨⟨key, c₃⟩, hkey, h⟩ := bind_eq_ok_iff.1 h
  obtain ⟨⟨op, c₅⟩, hop, h⟩ := bind_eq_ok_iff.1 h
  obtain ⟨⟨operand, c₇⟩, hoperand, h⟩ := bind_eq_ok_iff.1 h
  cases h
  exact ⟨key, op, operand, c₃, c₅, rfl, reference_iff.1 hkey, operator_iff.1 hop,
    operandAt_of_operand hoperand⟩

/-- Reading two expressions with a word between them. -/
theorem expression_condition {depth : Nat} {c₁ more : List Char} (h : blanks c₁ = '(' :: more) :
    expression (depth + 1) ('(' :: c₁)
      = (expression depth ('(' :: more) >>= fun l => connective (blanks l.2) >>= fun k =>
          expression depth (blanks k.2) >>= fun r => closing (blanks r.2) >>= fun e =>
            .ok (.condition k.1 l.1 r.1, e.2)) := by
  rw [expression, h]
  rfl

/-- Reading a comparison in parentheses. -/
theorem expression_comparison {depth : Nat} {c₁ : List Char}
    (h : ∀ more, blanks c₁ ≠ '(' :: more) : expression (depth + 1) ('(' :: c₁)
      = (comparison (blanks c₁) >>= fun x => closing (blanks x.2) >>= fun e =>
          .ok (x.1, e.2)) := by
  rw [expression]
  dsimp only
  split
  case h_1 more hmore => exact absurd hmore (h more)
  case h_2 => rfl

/-- What is read as an expression is one. -/
theorem expressionAt_of_expression {depth : Nat} {e : Expression}
    (h : expression depth cs = .ok (e, rest)) : ExpressionAt cs e rest := by
  induction depth generalizing cs e rest with
  | zero => cases h
  | succ depth ih =>
      have hcons : ∃ c₁, cs = '(' :: c₁ := by
        unfold expression at h
        split at h
        case h_1 c₁ _ => exact ⟨c₁, rfl⟩
        case h_2 => cases h
      obtain ⟨c₁, rfl⟩ := hcons
      -- The reader goes by the next character, and a comparison starts with a point.
      by_cases hfront : ∃ more, blanks c₁ = '(' :: more
      · obtain ⟨more, hmore⟩ := hfront
        rw [expression_condition hmore] at h
        obtain ⟨⟨left, c₃⟩, hleft, h⟩ := bind_eq_ok_iff.1 h
        obtain ⟨⟨kind, c₅⟩, hkind, h⟩ := bind_eq_ok_iff.1 h
        obtain ⟨⟨right, c₇⟩, hright, h⟩ := bind_eq_ok_iff.1 h
        obtain ⟨⟨_, c₈⟩, hclosing, h⟩ := bind_eq_ok_iff.1 h
        cases h
        have hblanks : BlanksAt c₁ ('(' :: more) := hmore ▸ blanksAt_blanks c₁
        exact .condition hblanks (ih hleft) (blanksAt_blanks c₃) (connective_iff.1 hkind)
          (blanksAt_blanks c₅) (ih hright) (blanksAt_of_closing hclosing)
      · rw [expression_comparison fun more hmore => hfront ⟨more, hmore⟩] at h
        obtain ⟨⟨e, c₇⟩, hcomparison, h⟩ := bind_eq_ok_iff.1 h
        obtain ⟨⟨_, c₈⟩, hclosing, h⟩ := bind_eq_ok_iff.1 h
        cases h
        obtain ⟨key, op, operand, c₃, c₅, rfl, hkey, hop, hoperand⟩ :=
          comparison_cases hcomparison
        exact .operation (blanksAt_blanks c₁) hkey (blanksAt_blanks c₃) hop (blanksAt_blanks c₅)
          hoperand (blanksAt_of_closing hclosing)

/-- An expression starts with a parenthesis. -/
theorem ExpressionAt.exists_cons {e : Expression} (h : ExpressionAt cs e rest) :
    ∃ more, cs = '(' :: more := by
  cases h with
  | condition => exact ⟨_, rfl⟩
  | operation => exact ⟨_, rfl⟩

/-- An expression does not start with a blank. -/
theorem ExpressionAt.notNext {e : Expression} (h : ExpressionAt cs e rest) :
    NotNext isBlank cs := by
  obtain ⟨more, rfl⟩ := h.exists_cons
  exact notNext_cons.2 (by decide)

/-- An expression takes characters. -/
theorem ExpressionAt.length_lt {e : Expression} (h : ExpressionAt cs e rest) :
    rest.length < cs.length := by
  induction h with
  | condition h₁ _ h₃ hkind h₅ _ h₇ ihl ihr =>
      have h₁ := h₁.length_le
      have h₃ := h₃.length_le
      have hkind := hkind.length_lt
      have h₅ := h₅.length_le
      have h₇ := h₇.length_le
      rw [List.length_cons] at h₇ ⊢
      omega
  | operation h₁ hkey h₃ hop h₅ hoperand h₇ =>
      have h₁ := h₁.length_le
      have hkey := hkey.length_lt
      have h₃ := h₃.length_le
      have hop := hop.length_le
      have h₅ := h₅.length_le
      have hoperand := hoperand.length_le
      have h₇ := h₇.length_le
      rw [List.length_cons] at h₇ ⊢
      omega

/-- Before a closing parenthesis stands no letter. -/
theorem BlanksAt.notNext_isAlpha (h : BlanksAt cs (')' :: rest)) : NotNext Char.isAlpha cs := by
  obtain ⟨front, hfront, rfl⟩ := h
  cases front with
  | nil => exact notNext_cons.2 (by decide)
  | cons c front =>
      have hc := hfront c (List.mem_cons_self ..)
      simp only [isBlank, Bool.or_eq_true, decide_eq_true_eq] at hc
      refine notNext_cons.2 ?_
      rcases hc with ((rfl | rfl) | rfl) | rfl <;> decide

/-- A comparison is read where it stands. -/
theorem comparison_of_parts {c₃ c₄ c₅ c₆ : List Char} {key : String} {op : Operator}
    {operand : Operand} (hkey : AttributeAt cs key c₃) (h₃ : BlanksAt c₃ c₄)
    (hop : OperatorAt c₄ op c₅) (h₅ : BlanksAt c₅ c₆) (hoperand : OperandAt c₆ operand rest)
    (hrest : NotNext Char.isAlpha rest) :
    comparison cs = .ok (.operation key op operand, rest) := by
  have hsign : operator (blanks c₃) = .ok (op, c₅) := by
    rw [h₃.eq hop.notNext]
    exact operator_iff.2 hop
  have hright : Reader.operand (blanks c₅) = .ok (operand, rest) := by
    rw [h₅.eq hoperand.notNext]
    exact hoperand.operand hrest
  refine bind_eq_ok_iff.2 ⟨(key, c₃), reference_iff.2 hkey, ?_⟩
  refine bind_eq_ok_iff.2 ⟨(op, c₅), hsign, ?_⟩
  exact bind_eq_ok_iff.2 ⟨(operand, rest), hright, rfl⟩

/-- Two expressions in parentheses are read where they stand if each of them is. -/
theorem expression_of_parts {c₁ c₂ c₃ c₄ c₅ c₆ c₇ : List Char} {left right : Expression}
    {kind : Connective} {depth : Nat} (h₁ : BlanksAt c₁ c₂) (hleft : ExpressionAt c₂ left c₃)
    (h₃ : BlanksAt c₃ c₄) (hkind : ConnectiveAt c₄ kind c₅) (h₅ : BlanksAt c₅ c₆)
    (hright : ExpressionAt c₆ right c₇) (h₇ : BlanksAt c₇ (')' :: rest))
    (hfirst : expression depth c₂ = .ok (left, c₃))
    (hsecond : expression depth c₆ = .ok (right, c₇)) :
    expression (depth + 1) ('(' :: c₁) = .ok (.condition kind left right, rest) := by
  have hfront : blanks c₁ = c₂ := h₁.eq hleft.notNext
  obtain ⟨more, rfl⟩ := hleft.exists_cons
  have hword : connective (blanks c₃) = .ok (kind, c₅) := by
    rw [h₃.eq hkind.notNext]
    exact connective_iff.2 hkind
  rw [expression_condition hfront]
  refine bind_eq_ok_iff.2 ⟨(left, c₃), hfirst, ?_⟩
  refine bind_eq_ok_iff.2 ⟨(kind, c₅), hword, ?_⟩
  refine bind_eq_ok_iff.2 ⟨(right, c₇), (h₅.eq hright.notNext).symm ▸ hsecond, ?_⟩
  exact bind_eq_ok_iff.2 ⟨((), rest), closing_of_blanksAt h₇, rfl⟩

/-- An expression is read where it stands, if the depth of the reading is enough. -/
theorem ExpressionAt.expression {e : Expression} (h : ExpressionAt cs e rest) {depth : Nat}
    (hdepth : cs.length ≤ depth) : expression depth cs = .ok (e, rest) := by
  -- Every part stands in the text after the parenthesis, so that one depth less is enough for it.
  induction h generalizing depth with
  | @condition c₁ c₂ c₃ c₄ c₅ c₆ c₇ rest left kind right h₁ hleft h₃ hkind h₅ hright h₇ ihl ihr =>
      cases depth with
      | zero => exact absurd hdepth (by simp)
      | succ depth =>
          have hlength₂ := h₁.length_le
          have hlength₃ := hleft.length_lt
          have hlength₄ := h₃.length_le
          have hlength₅ := hkind.length_lt
          have hlength₆ := h₅.length_le
          rw [List.length_cons] at hdepth
          exact expression_of_parts h₁ hleft h₃ hkind h₅ hright h₇ (ihl (by omega))
            (ihr (by omega))
  | @operation c₁ c₂ c₃ c₄ c₅ c₆ c₇ rest key op operand h₁ hkey h₃ hop h₅ hoperand h₇ =>
      cases depth with
      | zero => exact absurd hdepth (by simp)
      | succ depth =>
          have hfront : blanks c₁ = c₂ := h₁.eq hkey.notNext
          have hpoint : ∀ more, blanks c₁ ≠ '(' :: more := by
            intro more hmore
            obtain ⟨name, hname⟩ := hkey.exists_cons
            rw [hfront, hname] at hmore
            cases hmore
          have hcomparison := comparison_of_parts hkey h₃ hop h₅ hoperand h₇.notNext_isAlpha
          rw [expression_comparison hpoint, hfront]
          refine bind_eq_ok_iff.2 ⟨(.operation key op operand, c₇), hcomparison, ?_⟩
          exact bind_eq_ok_iff.2 ⟨((), rest), closing_of_blanksAt h₇, rfl⟩

end Expressions

end SiteIndex.Query.Grammar
