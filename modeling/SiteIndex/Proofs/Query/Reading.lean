import SiteIndex.Proofs.Query.ContextKeys
import SiteIndex.Proofs.Query.Expressions

/-!
# Queries are read as the grammar says

A text is read as a statement or a selection if and only if it denotes it in the grammar
(`read_iff_derives`). What is read follows the grammar part by part. The other direction needs
to know what comes next: an optional clause may be left out in the grammar wherever it stands, and
the reader agrees since the text ends after the clauses and every word in it belongs to one.
-/

namespace SiteIndex.Query.Grammar

open Reader

/-! ## Clauses -/

section Clauses

variable {α : Type} {word other : String} {BodyAt : List Char → α → List Char → Prop}
  {body : List Char → Parsed α} {cs rest : List Char} {x : Option α}

/-- What is read as a clause is one. -/
theorem clauseAt_of_clause (hbody : ∀ {c a r}, body c = .ok (a, r) → BodyAt c a r)
    (h : clause word body cs = .ok (x, rest)) : ClauseAt word BodyAt cs x rest := by
  unfold clause at h
  split at h
  case h_1 c₂ hword =>
    obtain ⟨⟨a, r⟩, hread, heq⟩ := map_eq_ok_iff.1 h
    cases heq
    exact .present (blanksAt_blanks cs) (keyword?_iff.1 hword) (blanksAt_blanks c₂) (hbody hread)
  case h_2 =>
    cases h
    exact .absent

/-- A clause is read where it stands, and none where its keyword does not stand. -/
theorem ClauseAt.clause (h : ClauseAt word BodyAt cs x rest) (hword : IsWord word)
    (hbody : ∀ {c c' a}, BlanksAt c c' → BodyAt c' a rest → body (blanks c) = .ok (a, rest))
    (habsent : x = none → keyword? word (blanks cs) = none) :
    clause word body cs = .ok (x, rest) := by
  unfold Reader.clause
  cases h with
  | absent => rw [habsent rfl]
  | present h₁ h₂ h₃ hx =>
      rw [h₁.eq (h₂.notNext hword), keyword?_iff.2 h₂]
      show (body (blanks _)).map _ = _
      rw [hbody h₃ hx]
      rfl

/-- No other keyword stands before a clause, unless the clause is left out and the keyword stands
after it. -/
theorem ClauseAt.keyword?_eq_none (h : ClauseAt word BodyAt cs x rest) (hword : IsWord word)
    (hother : IsWord other) (hne : word ≠ other) (hrest : keyword? other (blanks rest) = none) :
    keyword? other (blanks cs) = none := by
  cases h with
  | absent => exact hrest
  | present h₁ h₂ _ _ =>
      rw [h₁.eq (h₂.notNext hword)]
      exact h₂.keyword?_eq_none hword hother hne

/-- Only blanks are left of a text. -/
theorem blanksAt_nil_iff : BlanksAt cs [] ↔ blanks cs = [] :=
  ⟨fun h => h.eq notNext_nil, fun h => h ▸ blanksAt_blanks cs⟩

/-- No keyword stands at the end. -/
theorem keyword?_nil (hword : IsWord word) : keyword? word [] = none := by
  refine Option.eq_none_iff_forall_ne_some.2 fun rest h => ?_
  obtain ⟨c, more, hcons, _⟩ := (keyword?_iff.1 h).exists_cons hword
  cases hcons

/-- The order clause after its first word is read where it stands. -/
theorem orderBody_iff {key : String} :
    orderBody cs = .ok (key, rest) ↔ OrderAt cs key rest := by
  constructor
  · intro h
    unfold orderBody at h
    split at h
    case h_1 c₁ hword =>
      exact ⟨c₁, blanks c₁, keyword?_iff.1 hword, blanksAt_blanks c₁, reference_iff.1 h⟩
    case h_2 => cases h
  · rintro ⟨c₁, c₂, hword, hblanks, hkey⟩
    rw [orderBody, keyword?_iff.2 hword]
    show reference (blanks c₁) = _
    rw [hblanks.eq hkey.notNext]
    exact reference_iff.2 hkey

/-- What is read as a direction is one. -/
theorem directionAt_direction (cs : List Char) :
    DirectionAt cs (direction cs).1 (direction cs).2 := by
  unfold direction
  cases hasc : keyword? "ASC" (blanks cs) with
  | some rest => exact .asc (blanksAt_blanks cs) (keyword?_iff.1 hasc)
  | none =>
      cases hdesc : keyword? "DESC" (blanks cs) with
      | some rest => exact .desc (blanksAt_blanks cs) (keyword?_iff.1 hdesc)
      | none =>
          cases hdsc : keyword? "DSC" (blanks cs) with
          | some rest => exact .dsc (blanksAt_blanks cs) (keyword?_iff.1 hdsc)
          | none => exact .absent

/-- The direction before the end of a text is read. -/
theorem DirectionAt.direction {d : Direction} (h : DirectionAt cs d rest)
    (hrest : BlanksAt rest []) : direction cs = (d, rest) := by
  unfold Reader.direction
  cases h with
  | absent =>
      rw [blanksAt_nil_iff.1 hrest, keyword?_nil (by decide), keyword?_nil (by decide),
        keyword?_nil (by decide)]
      rfl
  | asc hblanks hword =>
      rw [hblanks.eq (hword.notNext (by decide)), keyword?_iff.2 hword]
  | desc hblanks hword =>
      rw [hblanks.eq (hword.notNext (by decide)),
        hword.keyword?_eq_none (by decide) (by decide) (by decide), keyword?_iff.2 hword]
      rfl
  | dsc hblanks hword =>
      rw [hblanks.eq (hword.notNext (by decide)),
        hword.keyword?_eq_none (by decide) (by decide) (by decide),
        hword.keyword?_eq_none (by decide) (by decide) (by decide), keyword?_iff.2 hword]
      rfl

/-- No other keyword stands before the direction at the end of a text. -/
theorem DirectionAt.keyword?_eq_none {d : Direction} (h : DirectionAt cs d rest)
    (hrest : BlanksAt rest []) (hword : IsWord word)
    (hother : ∀ other ∈ ["ASC", "DESC", "DSC"], other ≠ word) :
    keyword? word (blanks cs) = none := by
  cases h with
  | absent =>
      rw [blanksAt_nil_iff.1 hrest]
      exact keyword?_nil hword
  | asc hblanks h =>
      rw [hblanks.eq (h.notNext (by decide))]
      exact h.keyword?_eq_none (by decide) hword (hother _ (by decide))
  | desc hblanks h =>
      rw [hblanks.eq (h.notNext (by decide))]
      exact h.keyword?_eq_none (by decide) hword (hother _ (by decide))
  | dsc hblanks h =>
      rw [hblanks.eq (h.notNext (by decide))]
      exact h.keyword?_eq_none (by decide) hword (hother _ (by decide))

end Clauses

/-! ## Statements -/

section Statements

variable {cs rest : List Char} {s : Statement}

/-- What is read as a statement is one. -/
theorem statementAt_of_statement (h : statement cs = .ok (s, rest)) : StatementAt cs s rest := by
  obtain ⟨⟨e, c₂⟩, hexpression, h⟩ := bind_eq_ok_iff.1 h
  obtain ⟨⟨limit, c₃⟩, hlimit, h⟩ := bind_eq_ok_iff.1 h
  obtain ⟨⟨offset, c₄⟩, hoffset, h⟩ := bind_eq_ok_iff.1 h
  obtain ⟨⟨orderBy, c₅⟩, horder, h⟩ := bind_eq_ok_iff.1 h
  cases h
  exact .mk (blanksAt_blanks cs) (expressionAt_of_expression hexpression)
    (clauseAt_of_clause count_iff.1 hlimit) (clauseAt_of_clause count_iff.1 hoffset)
    (clauseAt_of_clause orderBody_iff.1 horder) (directionAt_direction c₅)

/-- A number clause is read. -/
theorem ClauseAt.number {word : String} {x : Option UInt64}
    (h : ClauseAt word NumberAt cs x rest) (hword : IsWord word)
    (habsent : x = none → keyword? word (blanks cs) = none) :
    Reader.clause word count cs = .ok (x, rest) := by
  refine h.clause hword (fun hblanks hn => ?_) habsent
  rw [hblanks.eq hn.notNext]
  exact count_iff.2 hn

/-- The order clause is read. -/
theorem ClauseAt.order {x : Option String} (h : ClauseAt "ORDER" OrderAt cs x rest)
    (habsent : x = none → keyword? "ORDER" (blanks cs) = none) :
    Reader.clause "ORDER" orderBody cs = .ok (x, rest) := by
  refine h.clause (by decide) (fun hblanks hkey => ?_) habsent
  obtain ⟨c₁, c₂, hword, _⟩ := id hkey
  rw [hblanks.eq (hword.notNext (by decide))]
  exact orderBody_iff.2 hkey

/-- A statement at the end of a text is read. -/
theorem StatementAt.statement (h : StatementAt cs s rest) (hrest : BlanksAt rest []) :
    statement cs = .ok (s, rest) := by
  cases h with
  | @mk c₁ c₂ c₃ c₄ c₅ _ e limit offset orderBy d h₁ he hlimit hoffset horder hdirection =>
      -- Which words cannot stand before a clause is found from the end of the text.
      have hdirectionWord : ∀ {word}, IsWord word →
          (∀ other ∈ ["ASC", "DESC", "DSC"], other ≠ word) → keyword? word (blanks c₅) = none :=
        fun hword hother => hdirection.keyword?_eq_none hrest hword hother
      have horderNone : orderBy = none → keyword? "ORDER" (blanks c₄) = none := by
        rintro rfl
        cases horder
        exact hdirectionWord (by decide) (by decide)
      have hoffsetNone : offset = none → keyword? "OFFSET" (blanks c₃) = none := by
        rintro rfl
        cases hoffset
        exact horder.keyword?_eq_none (by decide) (by decide) (by decide)
          (hdirectionWord (by decide) (by decide))
      have hlimitNone : limit = none → keyword? "LIMIT" (blanks c₂) = none := by
        rintro rfl
        cases hlimit
        refine hoffset.keyword?_eq_none (by decide) (by decide) (by decide) ?_
        exact horder.keyword?_eq_none (by decide) (by decide) (by decide)
          (hdirectionWord (by decide) (by decide))
      have hexpression : expression cs.length (blanks cs) = .ok (e, c₂) := by
        rw [h₁.eq he.notNext]
        exact he.expression h₁.length_le
      refine bind_eq_ok_iff.2 ⟨(e, c₂), hexpression, ?_⟩
      refine bind_eq_ok_iff.2 ⟨(limit, c₃), hlimit.number (by decide) hlimitNone, ?_⟩
      refine bind_eq_ok_iff.2 ⟨(offset, c₄), hoffset.number (by decide) hoffsetNone, ?_⟩
      refine bind_eq_ok_iff.2 ⟨(orderBy, c₅), horder.order horderNone, ?_⟩
      dsimp only
      rw [hdirection.direction hrest]
      rfl

/-- A statement may start after its blanks. -/
theorem StatementAt.blanks (h : StatementAt cs s rest) : StatementAt (blanks cs) s rest := by
  cases h with
  | mk h₁ he hlimit hoffset horder hdirection =>
      rw [h₁.eq he.notNext]
      exact .mk (BlanksAt.refl _) he hlimit hoffset horder hdirection

end Statements

/-! ## Terms -/

section Terms

variable {cs rest : List Char}

/-- A term with the words of another one in front of it. -/
def marked (t u : Term) : Term :=
  { key := u.key
    count := t.count || u.count
    random := t.random || u.random
    distinct := t.distinct || u.distinct }

/-- The words in front of a term. -/
theorem modifier?_cases {mark : Term → Term} (h : modifier? cs = some (mark, rest)) :
    (KeywordAt "RANDOM" cs rest ∧ mark = fun t => { t with random := true }) ∨
    (KeywordAt "COUNT" cs rest ∧ mark = fun t => { t with count := true }) ∨
    (KeywordAt "DISTINCT" cs rest ∧ mark = fun t => { t with distinct := true }) := by
  unfold modifier? at h
  cases hrandom : keyword? "RANDOM" cs with
  | some r =>
      rw [hrandom] at h
      cases h
      exact .inl ⟨keyword?_iff.1 hrandom, rfl⟩
  | none =>
      rw [hrandom] at h
      cases hcount : keyword? "COUNT" cs with
      | some r =>
          rw [hcount] at h
          cases h
          exact .inr (.inl ⟨keyword?_iff.1 hcount, rfl⟩)
      | none =>
          rw [hcount] at h
          obtain ⟨r, hdistinct, heq⟩ := Option.map_eq_some_iff.1 h
          cases heq
          exact .inr (.inr ⟨keyword?_iff.1 hdistinct, rfl⟩)

/-- What is read as a term is one, with the words that were read before. -/
theorem termAt_of_termFrom {t u : Term} {fuel : Nat} (h : termFrom t fuel cs = .ok (u, rest)) :
    ∃ v, TermAt (blanks cs) v rest ∧ u = marked t v := by
  have hname : ∀ {t : Term} {cs : List Char}, ((reference (blanks cs)).map fun p =>
      ({ t with key := p.1 }, p.2)) = .ok (u, rest) →
      ∃ v, TermAt (blanks cs) v rest ∧ u = marked t v := by
    intro t cs h
    obtain ⟨⟨key, r⟩, hread, heq⟩ := map_eq_ok_iff.1 h
    cases heq
    exact ⟨{ key }, .plain (reference_iff.1 hread), by simp [marked]⟩
  induction fuel generalizing t cs with
  | zero => exact hname h
  | succ fuel ih =>
      unfold termFrom at h
      split at h
      case h_2 => exact hname h
      case h_1 mark c₁ hmark =>
        obtain ⟨v, hv, rfl⟩ := ih h
        rcases modifier?_cases hmark with ⟨hword, rfl⟩ | ⟨hword, rfl⟩ | ⟨hword, rfl⟩
        · exact ⟨_, .random hword (blanksAt_blanks c₁) hv, by simp [marked]⟩
        · exact ⟨_, .count hword (blanksAt_blanks c₁) hv, by simp [marked]⟩
        · exact ⟨_, .distinct hword (blanksAt_blanks c₁) hv, by simp [marked]⟩

/-- A word is read as the mark that it stands for. -/
theorem modifier?_random (h : KeywordAt "RANDOM" cs rest) :
    modifier? cs = some (fun t => { t with random := true }, rest) := by
  rw [modifier?, keyword?_iff.2 h]

/-- A word is read as the mark that it stands for. -/
theorem modifier?_count (h : KeywordAt "COUNT" cs rest) :
    modifier? cs = some (fun t => { t with count := true }, rest) := by
  rw [modifier?, h.keyword?_eq_none (by decide) (by decide) (by decide), keyword?_iff.2 h]

/-- A word is read as the mark that it stands for. -/
theorem modifier?_distinct (h : KeywordAt "DISTINCT" cs rest) :
    modifier? cs = some (fun t => { t with distinct := true }, rest) := by
  rw [modifier?, h.keyword?_eq_none (by decide) (by decide) (by decide),
    h.keyword?_eq_none (by decide) (by decide) (by decide), keyword?_iff.2 h]
  rfl

/-- An attribute starts with no word. -/
theorem AttributeAt.modifier?_eq_none {key : String} (h : AttributeAt cs key rest) :
    modifier? cs = none := by
  refine Option.eq_none_iff_forall_ne_some.2 fun found hfound => ?_
  obtain ⟨more, rfl⟩ := h.exists_cons
  -- The point is no character of a word.
  have hpoint : ∀ {word more rest}, KeywordAt word ('.' :: more) rest → IsWord word → False := by
    intro word more rest hword hisWord
    obtain ⟨c, _, hcons, hc⟩ := hword.exists_cons hisWord
    cases hcons
    exact absurd hc (by decide)
  have hmark : modifier? ('.' :: more) = some (found.1, found.2) := hfound
  rcases modifier?_cases hmark with ⟨hword, _⟩ | ⟨hword, _⟩ | ⟨hword, _⟩
  · exact hpoint hword (by decide)
  · exact hpoint hword (by decide)
  · exact hpoint hword (by decide)

/-- A term starts without blanks. -/
theorem TermAt.notNext {t : Term} (h : TermAt cs t rest) : NotNext isBlank cs := by
  cases h with
  | plain hkey => exact hkey.notNext
  | random hword _ _ => exact hword.notNext (by decide)
  | count hword _ _ => exact hword.notNext (by decide)
  | distinct hword _ _ => exact hword.notNext (by decide)

/-- A term takes characters. -/
theorem TermAt.length_lt {t : Term} (h : TermAt cs t rest) : rest.length < cs.length := by
  induction h with
  | plain hkey => exact hkey.length_lt
  | random hword hblanks _ ih =>
      have := hword.length_lt (by decide)
      have := hblanks.length_le
      omega
  | count hword hblanks _ ih =>
      have := hword.length_lt (by decide)
      have := hblanks.length_le
      omega
  | distinct hword hblanks _ ih =>
      have := hword.length_lt (by decide)
      have := hblanks.length_le
      omega

/-- A word in front of a term is read, and fuel is left for the text after it. -/
theorem termFrom_modifier {mark : Term → Term} {t : Term} {fuel : Nat}
    (hmark : modifier? (blanks cs) = some (mark, rest)) (hlt : rest.length < (blanks cs).length)
    (hfuel : (blanks cs).length ≤ fuel) :
    ∃ left, (blanks rest).length ≤ left ∧ termFrom t fuel cs = termFrom (mark t) left rest := by
  have hblanks := (blanksAt_blanks rest).length_le
  cases fuel with
  | zero => omega
  | succ fuel =>
      refine ⟨fuel, by omega, ?_⟩
      rw [termFrom, hmark]

/-- A term is read where it stands, with the words that were read before. -/
theorem TermAt.termFrom {t u : Term} {fuel : Nat} (h : TermAt (blanks cs) u rest)
    (hfuel : (blanks cs).length ≤ fuel) :
    termFrom t fuel cs = .ok (marked t u, rest) := by
  generalize hstart : blanks cs = start at h
  -- Every word takes characters, so that the fuel lasts up to the attribute.
  induction h generalizing t cs fuel with
  | @plain start key rest hkey =>
      have hname : ((reference (blanks cs)).map fun p => ({ t with key := p.1 }, p.2)) =
          .ok (marked t { key }, rest) := by
        rw [hstart, reference_iff.2 hkey]
        simp [marked, Except.map]
      cases fuel with
      | zero => exact hname
      | succ fuel =>
          rw [Reader.termFrom, hstart, hkey.modifier?_eq_none, ← hstart]
          exact hname
  | random hword hblanks ht ih =>
      subst hstart
      have hlt := hword.length_lt (by decide)
      obtain ⟨left, hleft, heq⟩ := termFrom_modifier (t := t) (modifier?_random hword) hlt hfuel
      have hnext := hblanks.eq ht.notNext
      rw [heq, ih hleft hnext]
      simp [marked]
  | count hword hblanks ht ih =>
      subst hstart
      have hlt := hword.length_lt (by decide)
      obtain ⟨left, hleft, heq⟩ := termFrom_modifier (t := t) (modifier?_count hword) hlt hfuel
      have hnext := hblanks.eq ht.notNext
      rw [heq, ih hleft hnext]
      simp [marked]
  | distinct hword hblanks ht ih =>
      subst hstart
      have hlt := hword.length_lt (by decide)
      obtain ⟨left, hleft, heq⟩ := termFrom_modifier (t := t) (modifier?_distinct hword) hlt hfuel
      have hnext := hblanks.eq ht.notNext
      rw [heq, ih hleft hnext]
      simp [marked]

/-- A term after its blanks is read as the grammar says. -/
theorem term_iff {t : Term} : term (blanks cs) = .ok (t, rest) ↔ TermAt (blanks cs) t rest := by
  have hnone : ∀ t, marked { key := "" } t = t := fun t => by simp [marked]
  constructor
  · intro h
    obtain ⟨v, hv, rfl⟩ := termAt_of_termFrom h
    rw [hnone]
    rwa [blanks_blanks] at hv
  · intro h
    have hread : term (blanks cs) = .ok (marked { key := "" } t, rest) :=
      TermAt.termFrom (by rwa [blanks_blanks]) (by rw [blanks_blanks])
    rwa [hnone] at hread

/-- Terms are read from the first one: either a comma and more terms come after it, or it is the
last. -/
theorem terms_succ_iff {seen : List String} {fuel : Nat} {ts : List Term} :
    terms seen (fuel + 1) cs = .ok (ts, rest) ↔
      ∃ t next, TermAt (blanks cs) t next ∧ t.key ∉ seen ∧
        ((∃ more others, blanks next = ',' :: more ∧
          terms (t.key :: seen) fuel more = .ok (others, rest) ∧ ts = t :: others) ∨
        (∀ more, blanks next ≠ ',' :: more) ∧ ts = [t] ∧ next = rest) := by
  rw [terms, bind_eq_ok_iff]
  constructor
  · rintro ⟨⟨t, next⟩, hterm, h⟩
    have hfresh : t.key ∉ seen := by
      intro hmem
      dsimp only at h
      rw [if_pos (List.contains_iff_mem.2 hmem)] at h
      cases h
    refine ⟨t, next, term_iff.1 hterm, hfresh, ?_⟩
    dsimp only at h
    rw [if_neg (fun hmem => hfresh (List.contains_iff_mem.1 hmem))] at h
    split at h
    case h_1 more hcomma =>
      obtain ⟨⟨others, r⟩, hothers, heq⟩ := bind_eq_ok_iff.1 h
      cases heq
      exact .inl ⟨more, others, hcomma, hothers, rfl⟩
    case h_2 hcomma =>
      cases h
      exact .inr ⟨hcomma, rfl, rfl⟩
  · rintro ⟨t, next, hterm, hfresh, h⟩
    refine ⟨(t, next), term_iff.2 hterm, ?_⟩
    dsimp only
    rw [if_neg (fun hmem => hfresh (List.contains_iff_mem.1 hmem))]
    rcases h with ⟨more, others, hcomma, hothers, rfl⟩ | ⟨hcomma, rfl, rfl⟩
    · rw [hcomma]
      exact bind_eq_ok_iff.2 ⟨(others, rest), hothers, rfl⟩
    · split
      case h_1 more hmore => exact absurd hmore (hcomma more)
      case h_2 => rfl

/-- What is read as terms are terms, of attributes that differ from each other and from those
before. -/
theorem termsAt_of_terms {seen : List String} {fuel : Nat} {ts : List Term}
    (h : terms seen fuel cs = .ok (ts, rest)) :
    TermsAt cs ts rest ∧ (ts.map Term.key).Nodup ∧ ∀ key ∈ ts.map Term.key, key ∉ seen := by
  induction fuel generalizing seen cs ts with
  | zero => cases h
  | succ fuel ih =>
      obtain ⟨t, next, hterm, hfresh, h⟩ := terms_succ_iff.1 h
      rcases h with ⟨more, others, hcomma, hothers, rfl⟩ | ⟨_, rfl, rfl⟩
      · obtain ⟨hmore, hnodup, hkeys⟩ := ih hothers
        refine ⟨.more (blanksAt_blanks cs) hterm (hcomma ▸ blanksAt_blanks next) hmore, ?_, ?_⟩
        · rw [List.map_cons, List.nodup_cons]
          exact ⟨fun hmem => hkeys t.key hmem List.mem_cons_self, hnodup⟩
        · intro key hkey
          rcases List.mem_cons.1 hkey with rfl | hkey
          · exact hfresh
          · exact fun hmem => hkeys key hkey (List.mem_cons_of_mem _ hmem)
      · exact ⟨.last (blanksAt_blanks cs) hterm, by simp, by simpa using hfresh⟩

/-- Terms of different attributes are read where they stand, up to a text without a comma. -/
theorem TermsAt.terms {seen : List String} {fuel : Nat} {ts : List Term} (h : TermsAt cs ts rest)
    (hrest : ∀ more, blanks rest ≠ ',' :: more) (hnodup : (ts.map Term.key).Nodup)
    (hseen : ∀ key ∈ ts.map Term.key, key ∉ seen) (hfuel : cs.length < fuel) :
    terms seen fuel cs = .ok (ts, rest) := by
  induction h generalizing seen fuel with
  | @last cs c₁ t rest hblanks hterm =>
      obtain ⟨fuel, rfl⟩ := Nat.exists_eq_add_one_of_ne_zero (Nat.ne_zero_of_lt hfuel)
      have hstart : TermAt (blanks cs) t rest := by rwa [hblanks.eq hterm.notNext]
      exact terms_succ_iff.2
        ⟨t, rest, hstart, hseen t.key List.mem_cons_self, .inr ⟨hrest, rfl, rfl⟩⟩
  | @more cs c₁ c₂ c₃ t ts rest hblanks hterm hcomma hmore ih =>
      obtain ⟨fuel, rfl⟩ := Nat.exists_eq_add_one_of_ne_zero (Nat.ne_zero_of_lt hfuel)
      have hstart : TermAt (blanks cs) t c₂ := by rwa [hblanks.eq hterm.notNext]
      have hnext : blanks c₂ = ',' :: c₃ := hcomma.eq (notNext_cons.2 (by decide))
      rw [List.map_cons, List.nodup_cons] at hnodup
      have hlt : c₃.length < fuel := by
        have := hblanks.length_le
        have := hterm.length_lt
        have := hcomma.length_le
        rw [List.length_cons] at this
        omega
      have hothers : Reader.terms (t.key :: seen) fuel c₃ = .ok (ts, rest) := by
        refine ih hrest hnodup.2 (fun key hkey hmem => ?_) hlt
        rcases List.mem_cons.1 hmem with rfl | hmem
        · exact hnodup.1 hkey
        · exact hseen key (List.mem_cons_of_mem _ hkey) hmem
      exact terms_succ_iff.2 ⟨t, c₂, hstart, hseen t.key List.mem_cons_self,
        .inl ⟨c₃, ts, hnext, hothers, rfl⟩⟩

end Terms

/-! ## Selections -/

section Selections

variable {cs rest : List Char} {s : Selection}

/-- What is read as a selection is one. -/
theorem selectionAt_of_selection (h : selection cs = .ok (s, rest)) : SelectionAt cs s rest := by
  unfold selection at h
  dsimp only at h
  split at h
  case h_1 => cases h
  case h_2 c₂ hword =>
    obtain ⟨⟨ts, c₃⟩, hterms, h⟩ := bind_eq_ok_iff.1 h
    obtain ⟨⟨scope, r⟩, hscope, h⟩ := bind_eq_ok_iff.1 h
    cases h
    obtain ⟨hts, hnodup, _⟩ := termsAt_of_terms hterms
    exact .mk (blanksAt_blanks cs) (keyword?_iff.1 hword) hts hnodup
      (clauseAt_of_clause statementAt_of_statement hscope)

/-- A selection at the end of a text is read. -/
theorem SelectionAt.selection (h : SelectionAt cs s rest) (hrest : BlanksAt rest []) :
    selection cs = .ok (s, rest) := by
  cases h with
  | @mk c₁ c₂ c₃ _ ts scope hblanks hword hts hnodup hscope =>
      -- After the last term the text ends or goes on with a keyword, so that the list ends there.
      have hcomma : ∀ more, blanks c₃ ≠ ',' :: more := by
        intro more hmore
        cases hscope with
        | absent =>
            rw [blanksAt_nil_iff.1 hrest] at hmore
            cases hmore
        | present h₁ h₂ _ _ =>
            rw [h₁.eq (h₂.notNext (by decide))] at hmore
            obtain ⟨c, _, hcons, hc⟩ := h₂.exists_cons (by decide)
            rw [hmore] at hcons
            cases hcons
            exact absurd hc (by decide)
      have hwithin : clause "WITHIN" statement c₃ = .ok (scope, rest) := by
        refine hscope.clause (by decide) (fun hspace hs => ?_) ?_
        · rw [hspace.blanks_eq]
          exact hs.blanks.statement hrest
        · rintro rfl
          cases hscope
          rw [blanksAt_nil_iff.1 hrest]
          exact keyword?_nil (by decide)
      have hterms : terms [] (c₂.length + 1) c₂ = .ok (ts, c₃) :=
        hts.terms hcomma hnodup (fun _ _ => List.not_mem_nil) (Nat.lt_succ_self _)
      unfold Reader.selection
      dsimp only
      rw [hblanks.eq (hword.notNext (by decide)), keyword?_iff.2 hword]
      refine bind_eq_ok_iff.2 ⟨(ts, c₃), hterms, ?_⟩
      exact bind_eq_ok_iff.2 ⟨(scope, rest), hwithin, rfl⟩

end Selections

/-! ## Whole texts -/

section Whole

variable {α : Type} {read : List Char → Parsed α} {At : List Char → α → List Char → Prop}
  {cs : List Char} {a : α}

/-- A whole text is read if only blanks are left of it. -/
theorem whole_iff : whole read cs = .ok a ↔ ∃ rest, read cs = .ok (a, rest) ∧ BlanksAt rest [] := by
  rw [whole, bind_eq_ok_iff]
  constructor
  · rintro ⟨⟨x, rest⟩, hread, h⟩
    dsimp only at h
    split at h
    case h_1 hblanks =>
      cases h
      exact ⟨rest, hread, blanksAt_nil_iff.2 hblanks⟩
    case h_2 => cases h
  · rintro ⟨rest, hread, hrest⟩
    refine ⟨(a, rest), hread, ?_⟩
    dsimp only
    rw [blanksAt_nil_iff.1 hrest]
    rfl

/-- A text is read as what it denotes if the reader gives what the grammar says, and gives it
wherever the text ends after it. -/
theorem whole_iff_derives {text : String}
    (sound : ∀ {rest}, read text.toList = .ok (a, rest) → At text.toList a rest)
    (complete : ∀ {rest}, At text.toList a rest → BlanksAt rest [] →
      read text.toList = .ok (a, rest)) :
    (whole read text.toList).mapError (toSyntaxError text) = .ok a ↔ Derives At text a := by
  have hmap : (whole read text.toList).mapError (toSyntaxError text) = .ok a ↔
      whole read text.toList = .ok a := by
    cases whole read text.toList with
    | error stuck => simp [Except.mapError]
    | ok x => simp [Except.mapError]
  rw [hmap, whole_iff]
  constructor
  · rintro ⟨rest, hread, hrest⟩
    exact ⟨rest, sound hread, hrest⟩
  · rintro ⟨rest, hat, hrest⟩
    exact ⟨rest, complete hat hrest, hrest⟩

/-- A text is refused where its reader stops. -/
theorem exists_stuck_of_refused {text : String} {e : SyntaxError}
    (h : (whole read text.toList).mapError (toSyntaxError text) = .error e) :
    ∃ stuck, whole read text.toList = .error stuck ∧ e = toSyntaxError text stuck := by
  cases hwhole : whole read text.toList with
  | ok x =>
      rw [hwhole] at h
      cases h
  | error stuck =>
      rw [hwhole] at h
      exact ⟨stuck, rfl, (Except.error.inj h).symm⟩

/-- The column of an error is that of a character of the text or of the place behind them. -/
theorem column_toSyntaxError (text : String) (stuck : Stuck) :
    1 ≤ (toSyntaxError text stuck).column ∧
      (toSyntaxError text stuck).column ≤ text.toList.length + 1 := by
  show 1 ≤ max (text.toList.length - stuck.rest.length + 1) 1 ∧ max _ 1 ≤ _
  omega

end Whole

/-- A text is read as a statement or a selection if and only if it denotes it in the grammar. The
attributes kept with a statement are those that it mentions and its order key, in ascending order
and each once. -/
theorem read_iff_derives (text : String) :
    (∀ s, readStatement text = .ok s ↔ Derives StatementAt text s) ∧
      (∀ s, readSelection text = .ok s ↔ Derives SelectionAt text s) ∧
      ∀ s : Statement, s.contextKeys.Pairwise (· < ·) ∧
        ∀ key, key ∈ s.contextKeys ↔ Mentions s.expression key ∨ key = s.orderKey := by
  refine ⟨fun s => ?_, fun s => ?_, Statement.contextKeys_spec⟩
  · exact whole_iff_derives statementAt_of_statement StatementAt.statement
  · exact whole_iff_derives selectionAt_of_selection SelectionAt.selection

end SiteIndex.Query.Grammar
