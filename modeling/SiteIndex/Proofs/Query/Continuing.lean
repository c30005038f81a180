import Mathlib.Logic.Relation
import SiteIndex.Proofs.Query.Written

/-!
# Fronts that can be continued

The parts of a query as relations between a text and what is left of it after the part (`Piece`).
A part stays one if what is left is replaced by a text that does not go on with its last token
(`Moves`). The front of a text can be continued (`Viable`) if some text behind it completes the
part, whatever comes then. Since blanks may stand before every token, the completions start with a
space, so that a part in front of them does not change. Hence a sequence of parts can be continued
inside the part where it stands, if the earlier parts move and the later ones can be written.
-/

namespace SiteIndex.Query.Grammar

open Reader Relation

/-! ## Parts -/

/-- A part of a query: a text that starts with it and what is left after it. -/
abbrev Piece := List Char → List Char → Prop

/-- A part that denotes something. -/
def Denotes {α : Type} (At : List Char → α → List Char → Prop) : Piece :=
  fun cs rest => ∃ x, At cs x rest

/-- A part after blanks. -/
def Led (A : Piece) : Piece := Comp BlanksAt A

/-- A single character. -/
def CharAt (c : Char) : Piece := fun cs rest => cs = c :: rest

/-! ## Replacing what is left -/

/-- A text goes on with the same character as another one or with a space, or it ends. -/
def Replaces (rest tail : List Char) : Prop := ∀ c ∈ tail.head?, c = ' ' ∨ rest.head? = some c

section Replaces

variable {rest tail : List Char}

/-- A spaced text replaces any text. -/
theorem Spaced.replaces (h : Spaced tail) (rest : List Char) : Replaces rest tail :=
  fun c hc => .inl (h c hc)

/-- A text replaces one that starts with the same character. -/
theorem replaces_cons (c : Char) (rest tail : List Char) : Replaces (c :: rest) (c :: tail) :=
  fun _ hc => .inr hc

/-- The same text may stand before both. -/
theorem Replaces.append (h : Replaces rest tail) (front : List Char) :
    Replaces (front ++ rest) (front ++ tail) := by
  cases front with
  | nil => exact h
  | cons c front => exact replaces_cons c _ _

/-- A front of a text replaces it. -/
theorem replaces_front (front rest : List Char) : Replaces (front ++ rest) front := by
  cases front with
  | nil => exact spaced_nil.replaces _
  | cons c front => exact replaces_cons c _ _

/-- What does not go on with a class still does not. -/
theorem Replaces.notNext {p : Char → Bool} (h : Replaces rest tail) (hspace : p ' ' = false)
    (hrest : NotNext p rest) : NotNext p tail := by
  intro c hc
  rcases h c hc with rfl | hsame
  · exact hspace
  · exact hrest c hsame

end Replaces

/-! ## Moving, writing and continuing parts -/

section Pieces

variable {A B : Piece} {cs mid rest : List Char}

/-- A part stays one if what is left after it is replaced. -/
def Moves (A : Piece) (cs rest : List Char) : Prop :=
  ∃ front, cs = front ++ rest ∧ ∀ tail, Replaces rest tail → A (front ++ tail) tail

/-- A part can be written between any text and a spaced one. -/
def Starts (A : Piece) : Prop :=
  ∃ more, ∀ tail, Spaced tail → Spaced (more ++ tail) ∧ A (more ++ tail) tail

/-- What stands before `rest` can be continued to a part, whose end any spaced text may follow. -/
def Viable (A : Piece) (cs rest : List Char) : Prop :=
  ∃ front more, cs = front ++ rest ∧ ∀ tail, Spaced tail →
    Replaces cs (front ++ (more ++ tail)) ∧ A (front ++ (more ++ tail)) tail

/-- What holds of a part holds of it after it moved. -/
theorem Moves.mono (h : Moves A cs rest) (hAB : ∀ {cs rest}, A cs rest → B cs rest) :
    Moves B cs rest := by
  obtain ⟨front, hcs, hfront⟩ := h
  exact ⟨front, hcs, fun tail htail => hAB (hfront tail htail)⟩

/-- A part that denotes something moves as any such part. -/
theorem Moves.denotes {α : Type} {At : List Char → α → List Char → Prop} {x : α}
    (h : Moves (At · x ·) cs rest) : Moves (Denotes At) cs rest :=
  h.mono fun hx => ⟨x, hx⟩

/-- Two parts move together. -/
theorem Moves.comp (hA : Moves A cs mid) (hB : Moves B mid rest) : Moves (Comp A B) cs rest := by
  obtain ⟨front, rfl, hfront⟩ := hA
  obtain ⟨back, rfl, hback⟩ := hB
  refine ⟨front ++ back, (List.append_assoc ..).symm, fun tail htail => ⟨back ++ tail, ?_, ?_⟩⟩
  · rw [List.append_assoc]
    exact hfront _ (htail.append back)
  · exact hback tail htail

/-- Two parts are written one after the other. -/
theorem Starts.comp (hA : Starts A) (hB : Starts B) : Starts (Comp A B) := by
  obtain ⟨first, hfirst⟩ := hA
  obtain ⟨second, hsecond⟩ := hB
  refine ⟨first ++ second, fun tail htail => ?_⟩
  obtain ⟨hspaced, hright⟩ := hsecond tail htail
  obtain ⟨hspaced', hleft⟩ := hfirst (second ++ tail) hspaced
  rw [List.append_assoc]
  exact ⟨hspaced', second ++ tail, hleft, hright⟩

/-- A part that may be left out can be written. -/
theorem starts_of_refl (h : ∀ cs, A cs cs) : Starts A := ⟨[], fun tail htail => ⟨htail, h tail⟩⟩

/-- A part is written after a space. -/
theorem starts_led (word : List Char) (h : ∀ tail, Spaced tail → A (word ++ tail) tail) :
    Starts (Led A) :=
  ⟨' ' :: word, fun tail htail =>
    ⟨spaced_cons _, word ++ tail, BlanksAt.space _, h tail htail⟩⟩

/-- What can be continued to a part can be continued to what holds of it. -/
theorem Viable.mono (h : Viable A cs rest) (hAB : ∀ {cs rest}, A cs rest → B cs rest) :
    Viable B cs rest := by
  obtain ⟨front, more, hcs, hmore⟩ := h
  exact ⟨front, more, hcs, fun tail htail => ⟨(hmore tail htail).1, hAB (hmore tail htail).2⟩⟩

/-- A part that can be continued stands after one that moves. -/
theorem Viable.after (hA : Moves A cs mid) (hB : Viable B mid rest) :
    Viable (Comp A B) cs rest := by
  obtain ⟨front, rfl, hfront⟩ := hA
  obtain ⟨back, more, rfl, hmore⟩ := hB
  refine ⟨front ++ back, more, (List.append_assoc ..).symm, fun tail htail => ?_⟩
  obtain ⟨hreplaces, hright⟩ := hmore tail htail
  rw [List.append_assoc]
  exact ⟨hreplaces.append front, _, hfront _ hreplaces, hright⟩

/-- A part that can be continued stands before one that can be written. -/
theorem Viable.before (hA : Viable A cs rest) (hB : Starts B) : Viable (Comp A B) cs rest := by
  obtain ⟨front, more, rfl, hmore⟩ := hA
  obtain ⟨word, hword⟩ := hB
  refine ⟨front, more ++ word, rfl, fun tail htail => ?_⟩
  obtain ⟨hspaced, hright⟩ := hword tail htail
  obtain ⟨hreplaces, hleft⟩ := hmore (word ++ tail) hspaced
  rw [List.append_assoc]
  exact ⟨hreplaces, word ++ tail, hleft, hright⟩

end Pieces

/-! ## Blanks -/

section Blanks

variable {A : Piece} {cs mid rest : List Char}

/-- Blanks move. -/
theorem BlanksAt.moves (h : BlanksAt cs rest) : Moves BlanksAt cs rest := by
  obtain ⟨front, hfront, rfl⟩ := h
  exact ⟨front, rfl, fun tail _ => ⟨front, hfront, rfl⟩⟩

/-- Blanks may stand before blanks. -/
theorem BlanksAt.trans (h : BlanksAt cs mid) (h' : BlanksAt mid rest) : BlanksAt cs rest := by
  obtain ⟨front, hfront, rfl⟩ := h
  obtain ⟨back, hback, rfl⟩ := h'
  exact ⟨front ++ back, fun c hc => (List.mem_append.1 hc).elim (hfront c) (hback c),
    (List.append_assoc ..).symm⟩

/-- A part moves with the blanks before it. -/
theorem Moves.led (hblanks : BlanksAt cs mid) (h : Moves A mid rest) : Moves (Led A) cs rest :=
  hblanks.moves.comp h

/-- A part can be continued after blanks. -/
theorem Viable.led (h : Viable A (blanks cs) rest) : Viable (Led A) cs rest :=
  Viable.after (blanksAt_blanks cs).moves h

/-- Blanks can be continued to a part after them, if the part can be written. -/
theorem Starts.viable (h : Starts (Led A)) (hblanks : BlanksAt cs rest) :
    Viable (Led A) cs rest := by
  obtain ⟨front, hfront, rfl⟩ := hblanks
  obtain ⟨more, hmore⟩ := h
  refine ⟨front, more, rfl, fun tail htail => ?_⟩
  obtain ⟨hspaced, mid, hblanks, hA⟩ := hmore tail htail
  have hled : BlanksAt (front ++ (more ++ tail)) mid :=
    BlanksAt.trans ⟨front, hfront, rfl⟩ hblanks
  exact ⟨(hspaced.replaces rest).append front, mid, hled, hA⟩

end Blanks

/-! ## Tokens -/

section Tokens

variable {cs rest : List Char}

/-- A character moves. -/
theorem charAt_moves (c : Char) (rest : List Char) : Moves (CharAt c) (c :: rest) rest :=
  ⟨[c], rfl, fun _ _ => rfl⟩

/-- A keyword moves. -/
theorem KeywordAt.moves {word : String} (h : KeywordAt word cs rest) :
    Moves (KeywordAt word) cs rest := by
  obtain ⟨front, hword, hrest, rfl⟩ := h
  exact ⟨front, rfl, fun tail htail => ⟨front, hword, htail.notNext (by decide) hrest, rfl⟩⟩

/-- An attribute moves. -/
theorem AttributeAt.moves {key : String} (h : AttributeAt cs key rest) :
    Moves (AttributeAt · key ·) cs rest := by
  obtain ⟨c, name, hc, hname, hrest, rfl, hkey⟩ := h
  exact ⟨'.' :: c :: name, rfl,
    fun tail htail => ⟨c, name, hc, hname, htail.notNext (by decide) hrest, rfl, hkey⟩⟩

/-- A number moves. -/
theorem NumberAt.moves {n : UInt64} (h : NumberAt cs n rest) : Moves (NumberAt · n ·) cs rest := by
  obtain ⟨digits, hsome, hdigits, hrest, rfl, hn⟩ := h
  exact ⟨digits, rfl,
    fun tail htail => ⟨digits, hsome, hdigits, htail.notNext (by decide) hrest, rfl, hn⟩⟩

/-- An operator moves. -/
theorem OperatorAt.moves {op : Operator} (h : OperatorAt cs op rest) :
    Moves (OperatorAt · op ·) cs rest :=
  ⟨op.symbol.toList, h, fun _ _ => rfl⟩

/-- A string moves with its closing quote. -/
theorem QuotedAt.moves {quote : Char} {text : List Char} (h : QuotedAt quote cs text rest) :
    Moves (QuotedAt quote · text ·) cs rest := by
  induction h with
  | close => exact ⟨[quote], rfl, fun _ _ => .close⟩
  | @plain c cs text rest hquote hback _ ih =>
      obtain ⟨front, rfl, hfront⟩ := ih
      exact ⟨c :: front, rfl, fun tail htail => .plain hquote hback (hfront tail htail)⟩
  | @escape e c cs text rest he _ ih =>
      obtain ⟨front, rfl, hfront⟩ := ih
      exact ⟨'\\' :: e :: front, rfl, fun tail htail => .escape he (hfront tail htail)⟩

/-- A pattern keeps its closing slash whatever comes after it. -/
theorem PatternBodyAt.exists_front {chars : List Char} (h : PatternBodyAt cs chars rest) :
    ∃ front, cs = front ++ rest ∧ ∀ tail, PatternBodyAt (front ++ tail) chars tail := by
  induction h with
  | close => exact ⟨['/'], rfl, fun _ => .close⟩
  | @slash cs p rest _ ih =>
      obtain ⟨front, rfl, hfront⟩ := ih
      exact ⟨'\\' :: '/' :: front, rfl, fun tail => .slash (hfront tail)⟩
  | @escape c cs p rest hc _ ih =>
      obtain ⟨front, rfl, hfront⟩ := ih
      exact ⟨'\\' :: c :: front, rfl, fun tail => .escape hc (hfront tail)⟩
  | @plain c cs p rest hslash hback _ ih =>
      obtain ⟨front, rfl, hfront⟩ := ih
      exact ⟨c :: front, rfl, fun tail => .plain hslash hback (hfront tail)⟩

/-- An operand moves. -/
theorem OperandAt.moves {x : Operand} (h : OperandAt cs x rest) :
    Moves (OperandAt · x ·) cs rest := by
  cases h with
  | reference hkey => exact hkey.moves.mono .reference
  | pattern hp =>
      obtain ⟨_, chars, flags, rfl, hbody, hflags, hp, hcompile⟩ := hp
      obtain ⟨front, rfl, hfront⟩ := hbody.exists_front
      refine ⟨'m' :: '/' :: (front ++ flags), by simp, fun tail _ => .pattern ?_⟩
      refine ⟨front ++ (flags ++ tail), chars, flags, by simp, hfront _, hflags, hp, hcompile⟩
  | literal htext =>
      obtain ⟨quote, _, chars, hquote, rfl, hbody, htext⟩ := htext
      obtain ⟨front, rfl, hfront⟩ := hbody.moves
      exact ⟨quote :: front, rfl,
        fun tail htail => .literal ⟨quote, _, chars, hquote, rfl, hfront tail htail, htext⟩⟩

/-- The word between two expressions moves. -/
theorem ConnectiveAt.moves {kind : Connective} (h : ConnectiveAt cs kind rest) :
    Moves (ConnectiveAt · kind ·) cs rest := by
  cases h with
  | and h => exact h.moves.mono .and
  | or h => exact h.moves.mono .or

end Tokens

/-! ## Expressions and statements -/

section Expressions

variable {cs rest : List Char}

/-- The parts of a condition in their order. -/
def ConditionParts : Piece :=
  Comp (CharAt '(') <| Comp (Led (Denotes ExpressionAt)) <| Comp (Led (Denotes ConnectiveAt)) <|
    Comp (Led (Denotes ExpressionAt)) <| Led (CharAt ')')

/-- The parts of an operation in their order. -/
def OperationParts : Piece :=
  Comp (CharAt '(') <| Comp (Led (Denotes AttributeAt)) <| Comp (Led (Denotes OperatorAt)) <|
    Comp (Led (Denotes OperandAt)) <| Led (CharAt ')')

/-- The parts of a condition make an expression. -/
theorem ConditionParts.expression (h : ConditionParts cs rest) : Denotes ExpressionAt cs rest := by
  obtain ⟨c₁, rfl, c₃, ⟨c₂, h₁, left, hleft⟩, c₅, ⟨c₄, h₃, kind, hkind⟩, c₇,
    ⟨c₆, h₅, right, hright⟩, c₈, h₇, rfl⟩ := h
  exact ⟨_, .condition h₁ hleft h₃ hkind h₅ hright h₇⟩

/-- The parts of an operation make an expression. -/
theorem OperationParts.expression (h : OperationParts cs rest) : Denotes ExpressionAt cs rest := by
  obtain ⟨c₁, rfl, c₃, ⟨c₂, h₁, key, hkey⟩, c₅, ⟨c₄, h₃, op, hop⟩, c₇,
    ⟨c₆, h₅, operand, hoperand⟩, c₈, h₇, rfl⟩ := h
  exact ⟨_, .operation h₁ hkey h₃ hop h₅ hoperand h₇⟩

/-- An expression moves. -/
theorem ExpressionAt.moves {e : Expression} (h : ExpressionAt cs e rest) :
    Moves (Denotes ExpressionAt) cs rest := by
  induction h with
  | @condition c₁ c₂ c₃ c₄ c₅ c₆ c₇ rest left kind right h₁ _ h₃ hkind h₅ _ h₇ ihleft ihright =>
      have hparts : Moves ConditionParts ('(' :: c₁) rest :=
        (charAt_moves '(' c₁).comp <| (ihleft.led h₁).comp <| (hkind.moves.denotes.led h₃).comp <|
          (ihright.led h₅).comp <| (charAt_moves ')' rest).led h₇
      exact hparts.mono ConditionParts.expression
  | @operation c₁ c₂ c₃ c₄ c₅ c₆ c₇ rest key op operand h₁ hkey h₃ hop h₅ hoperand h₇ =>
      have hparts : Moves OperationParts ('(' :: c₁) rest :=
        (charAt_moves '(' c₁).comp <| (hkey.moves.denotes.led h₁).comp <|
          (hop.moves.denotes.led h₃).comp <| (hoperand.moves.denotes.led h₅).comp <|
          (charAt_moves ')' rest).led h₇
      exact hparts.mono OperationParts.expression

/-- The parts of the order clause after its first word. -/
theorem orderAt_iff_comp {key : String} :
    OrderAt cs key rest ↔ Comp (KeywordAt "BY") (Led (AttributeAt · key ·)) cs rest := by
  constructor
  · rintro ⟨c₁, c₂, hword, hblanks, hkey⟩
    exact ⟨c₁, hword, c₂, hblanks, hkey⟩
  · rintro ⟨c₁, hword, c₂, hblanks, hkey⟩
    exact ⟨c₁, c₂, hword, hblanks, hkey⟩

/-- The order clause after its first word moves. -/
theorem OrderAt.moves {key : String} (h : OrderAt cs key rest) :
    Moves (Denotes OrderAt) cs rest := by
  obtain ⟨c₁, c₂, hword, hblanks, hkey⟩ := h
  exact (hword.moves.comp (hkey.moves.led hblanks)).mono fun h => ⟨key, orderAt_iff_comp.2 h⟩

/-- The parts of a clause that is not left out. -/
theorem clauseAt_of_comp {α : Type} {word : String} {BodyAt : List Char → α → List Char → Prop}
    (h : Comp (Led (KeywordAt word)) (Led (Denotes BodyAt)) cs rest) :
    Denotes (ClauseAt word BodyAt) cs rest := by
  obtain ⟨c₂, ⟨c₁, h₁, hword⟩, c₃, h₃, x, hx⟩ := h
  exact ⟨some x, .present h₁ hword h₃ hx⟩

/-- A clause moves if its body does. -/
theorem ClauseAt.moves {α : Type} {word : String} {BodyAt : List Char → α → List Char → Prop}
    {x : Option α} (h : ClauseAt word BodyAt cs x rest)
    (hbody : ∀ {c a}, BodyAt c a rest → Moves (Denotes BodyAt) c rest) :
    Moves (Denotes (ClauseAt word BodyAt)) cs rest := by
  cases h with
  | absent => exact ⟨[], rfl, fun _ _ => ⟨none, .absent⟩⟩
  | present h₁ hword h₃ hx =>
      exact ((hword.moves.led h₁).comp ((hbody hx).led h₃)).mono clauseAt_of_comp

/-- A direction moves. -/
theorem DirectionAt.moves {d : Direction} (h : DirectionAt cs d rest) :
    Moves (Denotes DirectionAt) cs rest := by
  cases h with
  | absent => exact ⟨[], rfl, fun _ _ => ⟨.ascending, .absent⟩⟩
  | asc hblanks hword =>
      exact (hword.moves.led hblanks).mono fun ⟨_, h₁, h₂⟩ => ⟨.ascending, .asc h₁ h₂⟩
  | desc hblanks hword =>
      exact (hword.moves.led hblanks).mono fun ⟨_, h₁, h₂⟩ => ⟨.descending, .desc h₁ h₂⟩
  | dsc hblanks hword =>
      exact (hword.moves.led hblanks).mono fun ⟨_, h₁, h₂⟩ => ⟨.descending, .dsc h₁ h₂⟩

/-- The parts of a statement in their order. -/
def StatementParts : Piece :=
  Comp (Led (Denotes ExpressionAt)) <| Comp (Denotes (ClauseAt "LIMIT" NumberAt)) <|
    Comp (Denotes (ClauseAt "OFFSET" NumberAt)) <|
    Comp (Denotes (ClauseAt "ORDER" OrderAt)) (Denotes DirectionAt)

/-- The parts of a statement make one. -/
theorem StatementParts.statement (h : StatementParts cs rest) : Denotes StatementAt cs rest := by
  obtain ⟨c₂, ⟨c₁, h₁, e, he⟩, c₃, ⟨limit, hlimit⟩, c₄, ⟨offset, hoffset⟩, c₅, ⟨order, horder⟩,
    d, hdirection⟩ := h
  exact ⟨_, .mk h₁ he hlimit hoffset horder hdirection⟩

/-- A statement moves. -/
theorem StatementAt.moves {s : Statement} (h : StatementAt cs s rest) :
    Moves (Denotes StatementAt) cs rest := by
  cases h with
  | mk h₁ he hlimit hoffset horder hdirection =>
      have hparts : Moves StatementParts cs rest :=
        (he.moves.led h₁).comp <| (hlimit.moves fun h => h.moves.denotes).comp <|
          (hoffset.moves fun h => h.moves.denotes).comp <|
          (horder.moves fun h => h.moves).comp hdirection.moves
      exact hparts.mono StatementParts.statement

end Expressions

/-! ## Selections -/

section Selections

variable {cs rest : List Char}

/-- A term moves. -/
theorem TermAt.moves {t : Term} (h : TermAt cs t rest) : Moves (TermAt · t ·) cs rest := by
  induction h with
  | plain hkey => exact hkey.moves.mono .plain
  | random hword hblanks _ ih =>
      exact (hword.moves.comp (ih.led hblanks)).mono fun ⟨_, h₁, _, h₂, h₃⟩ => .random h₁ h₂ h₃
  | count hword hblanks _ ih =>
      exact (hword.moves.comp (ih.led hblanks)).mono fun ⟨_, h₁, _, h₂, h₃⟩ => .count h₁ h₂ h₃
  | distinct hword hblanks _ ih =>
      exact (hword.moves.comp (ih.led hblanks)).mono fun ⟨_, h₁, _, h₂, h₃⟩ => .distinct h₁ h₂ h₃

/-- Terms move. -/
theorem TermsAt.moves {ts : List Term} (h : TermsAt cs ts rest) :
    Moves (TermsAt · ts ·) cs rest := by
  induction h with
  | last hblanks hterm =>
      exact (hterm.moves.led hblanks).mono fun ⟨_, h₁, h₂⟩ => .last h₁ h₂
  | @more _ _ _ c₃ _ _ _ hblanks hterm hcomma _ ih =>
      have hparts := (hterm.moves.led hblanks).comp (((charAt_moves ',' c₃).led hcomma).comp ih)
      exact hparts.mono fun ⟨_, ⟨_, h₁, h₂⟩, _, ⟨_, h₃, hchar⟩, h₄⟩ => .more h₁ h₂ (hchar ▸ h₃) h₄

/-- Terms of attributes that differ from each other and from those before. -/
def FreshTerms (seen : List String) : Piece := fun cs rest =>
  ∃ ts, TermsAt cs ts rest ∧ (ts.map Term.key).Nodup ∧ ∀ key ∈ ts.map Term.key, key ∉ seen

/-- The parts of a selection in their order. -/
def SelectionParts : Piece :=
  Comp (Led (KeywordAt "SELECT")) <| Comp (FreshTerms []) <|
    Denotes (ClauseAt "WITHIN" StatementAt)

/-- The parts of a selection make one. -/
theorem SelectionParts.selection (h : SelectionParts cs rest) : Denotes SelectionAt cs rest := by
  obtain ⟨c₂, ⟨c₁, h₁, hword⟩, c₃, ⟨ts, hts, hnodup, -⟩, scope, hscope⟩ := h
  exact ⟨_, .mk h₁ hword hts hnodup hscope⟩

/-- A selection moves. -/
theorem SelectionAt.moves {s : Selection} (h : SelectionAt cs s rest) :
    Moves (Denotes SelectionAt) cs rest := by
  cases h with
  | @mk _ _ _ _ ts _ hblanks hword hts hnodup hscope =>
      have hterms : Moves (FreshTerms []) _ _ :=
        hts.moves.mono fun h => ⟨ts, h, hnodup, fun _ _ => List.not_mem_nil⟩
      have hparts : Moves SelectionParts cs rest :=
        (hword.moves.led hblanks).comp (hterms.comp (hscope.moves fun h => h.moves))
      exact hparts.mono SelectionParts.selection

end Selections

end SiteIndex.Query.Grammar
