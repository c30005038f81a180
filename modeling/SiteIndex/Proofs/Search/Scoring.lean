import Mathlib.Data.List.Induction
import Mathlib.Data.List.Perm.Subperm
import SiteIndex.Proofs.Posting.Tables
import SiteIndex.Proofs.Search.Token
import SiteIndex.Search.Scoring

/-!
# What scoring finds

Scoring goes through the terms and keeps a tally for every stub that it meets. For a single stub the
same comes out document by document: whether it qualifies (`Qualifies`) depends on the words that it
is posted under, and its score is the sum of their weights (`relevance`). A pass over tallies is a
pass over the tally of each stub (`tallyOf_foldl`), and what a pass over the terms does to the tally
of one stub is found by induction on the terms (`countsMust`).
-/

namespace SiteIndex.Search

open Posting (PostingList StubSet Tables.addToken Tables.tokenPostings)
open Store.Key (isName)
open SiteIndex.Action (Takes)

/-! ## Scores of single stubs -/

section Reference

variable (postings : String → StubSet) (terms : List QueryTerm) (index : UInt32)

/-- The words of one kind in a query. -/
def wordsOf (occurrence : Occurrence) : List String :=
  (terms.filter (·.occurrence = occurrence)).map (·.text)

/-- The stub has no excluded word and, if words are required, all of these, and else some desired
word. -/
def Qualifies : Prop :=
  (∀ word ∈ wordsOf terms .mustNot, index ∉ postings word) ∧
    if wordsOf terms .must = [] then ∃ word ∈ wordsOf terms .should, index ∈ postings word
    else ∀ word ∈ wordsOf terms .must, index ∈ postings word

instance : Decidable (Qualifies postings terms index) :=
  inferInstanceAs (Decidable (_ ∧ ite _ _ _))

/-- What the required words of a stub add, by their positions; a word counts where it is required
first. -/
def mustWeights (n : Nat) : List Binary64 :=
  (terms.zipIdx.filter fun p => p.1.occurrence = .must ∧ terms.idxOf p.1 = p.2 ∧
    index ∈ postings p.1.text).map fun p => mustWeight n p.2

/-- What the desired words of a stub add, by their positions. -/
def shouldWeights (n : Nat) : List Binary64 :=
  (terms.zipIdx.filter fun p => p.1.occurrence = .should ∧ index ∈ postings p.1.text).map
    fun p => shouldWeight n p.2

/-- The sum of what the words of a stub add, from zero, the required words first. -/
def relevance : Binary64 :=
  (mustWeights postings terms index terms.length ++
    shouldWeights postings terms index terms.length).foldl (· + ·) .zero

end Reference

/-! ## Tallies -/

/-- Tallies ascend by their stubs. -/
abbrev Ascending (tallies : List Tally) : Prop := tallies.Pairwise (·.index < ·.index)

/-- The tally of a stub. -/
def tallyOf (tallies : List Tally) (index : UInt32) : Option Tally :=
  tallies.find? (·.index = index)

section Tallies

variable {tallies : List Tally} {index other : UInt32} {change : Tally → Tally}

/-- The first tally is that of its stub. -/
theorem tallyOf_cons (t : Tally) (rest : List Tally) (index : UInt32) :
    tallyOf (t :: rest) index = if t.index = index then some t else tallyOf rest index := by
  rw [tallyOf, List.find?_cons]
  by_cases h : t.index = index <;> simp [h, tallyOf]

/-- A stub has a tally if there is one of it. -/
theorem tallyOf_eq_some_iff (h : Ascending tallies) {t : Tally} :
    tallyOf tallies index = some t ↔ t ∈ tallies ∧ t.index = index := by
  induction tallies with
  | nil => simp [tallyOf]
  | cons u rest ih =>
      obtain ⟨hfirst, hrest⟩ := List.pairwise_cons.1 h
      rw [tallyOf_cons, List.mem_cons]
      by_cases hu : u.index = index
      · rw [if_pos hu, Option.some.injEq]
        constructor
        · rintro rfl
          exact ⟨.inl rfl, hu⟩
        · rintro ⟨rfl | ht, hindex⟩
          · rfl
          · exact absurd (hfirst t ht) (hindex ▸ hu ▸ UInt32.lt_irrefl _)
      · rw [if_neg hu, ih hrest]
        constructor
        · exact fun ht => ⟨.inr ht.1, ht.2⟩
        · rintro ⟨rfl | ht, hindex⟩
          · exact absurd hindex hu
          · exact ⟨ht, hindex⟩

/-- Stubs in front of all tallies have none. -/
theorem tallyOf_eq_none_of_lt (h : ∀ t ∈ tallies, index < t.index) :
    tallyOf tallies index = none := by
  refine List.find?_eq_none.2 fun t ht heq => ?_
  have hindex : t.index = index := of_decide_eq_true heq
  exact UInt32.lt_irrefl index (hindex ▸ h t ht)

/-- A change of one tally comes to the tally of its stub, which starts at zero, and leaves the
others alone. -/
theorem tallyOf_updateTally (h : Ascending tallies) (hchange : ∀ t, (change t).index = t.index) :
    tallyOf (updateTally index change tallies) other =
      if other = index then some (change ((tallyOf tallies index).getD { index }))
      else tallyOf tallies other := by
  induction tallies with
  | nil =>
      rw [updateTally, tallyOf_cons, hchange]
      exact if_congr eq_comm rfl rfl
  | cons t rest ih =>
      obtain ⟨hfirst, hrest⟩ := List.pairwise_cons.1 h
      rw [updateTally]
      by_cases hlt : index < t.index
      · have hnone : tallyOf (t :: rest) index = none := by
          refine tallyOf_eq_none_of_lt fun u hu => ?_
          rcases List.mem_cons.1 hu with rfl | hu
          · exact hlt
          · exact UInt32.lt_trans hlt (hfirst u hu)
        rw [if_pos hlt, tallyOf_cons, hchange, hnone]
        exact if_congr eq_comm rfl rfl
      · rw [if_neg hlt]
        by_cases heq : index = t.index
        · rw [if_pos heq, tallyOf_cons, hchange, tallyOf_cons, tallyOf_cons, if_pos heq.symm, ← heq]
          by_cases hother : other = index
          · rw [if_pos hother, if_pos hother.symm]
            rfl
          · rw [if_neg hother, if_neg (Ne.symm hother), if_neg (Ne.symm hother)]
        · rw [if_neg heq, tallyOf_cons, ih hrest, tallyOf_cons, tallyOf_cons, if_neg (Ne.symm heq)]
          by_cases hother : t.index = other
          · rw [if_pos hother, if_neg (hother ▸ Ne.symm heq), if_pos hother]
          · rw [if_neg hother, if_neg hother]

/-- The stubs of the tallies after a change of one. -/
theorem index_of_mem_updateTally (hchange : ∀ t, (change t).index = t.index) {t : Tally}
    (ht : t ∈ updateTally index change tallies) :
    t.index = index ∨ ∃ u ∈ tallies, u.index = t.index := by
  induction tallies with
  | nil =>
      rw [updateTally, List.mem_singleton] at ht
      rw [ht, hchange]
      exact .inl rfl
  | cons u rest ih =>
      rw [updateTally] at ht
      split at ht
      · rcases List.mem_cons.1 ht with rfl | ht
        · exact .inl (hchange _)
        · exact .inr ⟨t, ht, rfl⟩
      · split at ht
        · rcases List.mem_cons.1 ht with rfl | ht
          · exact .inr ⟨u, List.mem_cons_self .., (hchange u).symm⟩
          · exact .inr ⟨t, List.mem_cons_of_mem _ ht, rfl⟩
        · rcases List.mem_cons.1 ht with rfl | ht
          · exact .inr ⟨t, List.mem_cons_self .., rfl⟩
          · refine (ih ht).imp_right ?_
            rintro ⟨v, hv, hindex⟩
            exact ⟨v, List.mem_cons_of_mem _ hv, hindex⟩

/-- A change of one tally leaves tallies ascending. -/
theorem ascending_updateTally (index : UInt32) (h : Ascending tallies)
    (hchange : ∀ t, (change t).index = t.index) :
    Ascending (updateTally index change tallies) := by
  induction tallies with
  | nil => exact List.pairwise_singleton _ _
  | cons t rest ih =>
      obtain ⟨hfirst, hrest⟩ := List.pairwise_cons.1 h
      rw [updateTally]
      split
      next hlt =>
        refine List.pairwise_cons.2 ⟨fun u hu => ?_, h⟩
        rw [hchange]
        rcases List.mem_cons.1 hu with rfl | hu
        · exact hlt
        · exact UInt32.lt_trans hlt (hfirst u hu)
      next hlt =>
        split
        next heq =>
          refine List.pairwise_cons.2 ⟨fun u hu => ?_, hrest⟩
          rw [hchange]
          exact hfirst u hu
        next hne =>
          refine List.pairwise_cons.2 ⟨fun u hu => ?_, ih hrest⟩
          rcases index_of_mem_updateTally hchange hu with hindex | ⟨v, hv, hindex⟩
          · rw [hindex]
            exact UInt32.lt_of_le_of_ne (UInt32.not_lt.1 hlt) (Ne.symm hne)
          · exact hindex ▸ hfirst v hv

/-- A pass over different stubs changes the tally of each of them once. -/
theorem tallyOf_foldl (index : UInt32) (h : Ascending tallies)
    (hchange : ∀ t, (change t).index = t.index) {stubs : List UInt32} (hnodup : stubs.Nodup) :
    Ascending (stubs.foldl (fun ts i => updateTally i change ts) tallies) ∧
      tallyOf (stubs.foldl (fun ts i => updateTally i change ts) tallies) index =
        if index ∈ stubs then some (change ((tallyOf tallies index).getD { index }))
        else tallyOf tallies index := by
  induction stubs generalizing tallies with
  | nil => exact ⟨h, rfl⟩
  | cons stub rest ih =>
      obtain ⟨hstub, hrest⟩ := List.nodup_cons.1 hnodup
      obtain ⟨hascending, htally⟩ := ih (ascending_updateTally stub h hchange) hrest
      refine ⟨hascending, ?_⟩
      rw [List.foldl_cons, htally, tallyOf_updateTally h hchange]
      by_cases heq : index = stub
      · rw [if_neg (heq ▸ hstub), if_pos heq, if_pos (heq ▸ List.mem_cons_self ..), heq]
      · rw [if_neg heq]
        exact if_congr (by rw [List.mem_cons, or_iff_right heq]) rfl rfl

/-- What some terms do to the tally of a stub: each that it is posted under changes it. -/
def passThrough (change : PostedTerm → Tally → Tally) (index : UInt32) (ps : List PostedTerm)
    (start : Option Tally) : Option Tally :=
  ps.foldl (fun held p =>
    if index ∈ p.postings.stubs then some (change p (held.getD { index })) else held) start

/-- Passes over the stubs of several terms are, for a single stub that is kept, what these terms do
to its tally. -/
theorem tallyOf_foldl_terms (index : UInt32) (pass : List Tally → PostedTerm → List Tally)
    (change : PostedTerm → Tally → Tally) (keep : UInt32 → Bool)
    (hpass : ∀ ts p, pass ts p =
      (p.postings.stubs.filter keep).foldl (fun ts i => updateTally i (change p) ts) ts)
    (hchange : ∀ p t, (change p t).index = t.index) (ps : List PostedTerm)
    (hnodup : ∀ p ∈ ps, p.postings.stubs.Nodup) (h : Ascending tallies) :
    Ascending (ps.foldl pass tallies) ∧
      tallyOf (ps.foldl pass tallies) index =
        if keep index then passThrough change index ps (tallyOf tallies index)
        else tallyOf tallies index := by
  induction ps generalizing tallies with
  | nil => exact ⟨h, (ite_self _).symm⟩
  | cons p rest ih =>
      obtain ⟨hascending, htally⟩ := tallyOf_foldl index h (hchange p)
        ((hnodup p (List.mem_cons_self ..)).filter keep)
      rw [← hpass] at hascending htally
      obtain ⟨hlast, hrest⟩ := ih (fun q hq => hnodup q (List.mem_cons_of_mem _ hq)) hascending
      refine ⟨hlast, ?_⟩
      rw [List.foldl_cons, hrest, htally]
      by_cases hkeep : keep index = true
      · rw [if_pos hkeep, if_pos hkeep]
        refine congrArg (passThrough change index rest) (if_congr ?_ rfl rfl)
        rw [List.mem_filter, and_iff_left hkeep]
      · rw [if_neg hkeep, if_neg hkeep, if_neg (fun hmem => hkeep (List.mem_filter.1 hmem).2)]

end Tallies

/-! ## One stub through the terms -/

section Document

variable {postings : String → StubSet} {front : List QueryTerm} {index : UInt32} {n : Nat}
  {term : QueryTerm}

/-- The terms of one kind with their positions and postings. -/
def postedOf (postings : String → StubSet) (terms : List QueryTerm) (occurrence : Occurrence) :
    List PostedTerm :=
  (terms.zipIdx.filter (·.1.occurrence = occurrence)).map fun (term, position) =>
    { position, term, postings := ⟨(postings term.text).toList⟩ }

/-- What a test leaves of one item. -/
theorem map_filter_singleton {α β : Type} (f : α → β) (keep : α → Prop) [DecidablePred keep]
    (a : α) : ([a].filter fun x => keep x).map f = if keep a then [f a] else [] := by
  by_cases h : keep a <;> simp [h]

/-- A term behind others is the last of its kind. -/
theorem postedOf_snoc (occurrence : Occurrence) : postedOf postings (front ++ [term]) occurrence =
    postedOf postings front occurrence ++ if term.occurrence = occurrence then
      [⟨front.length, term, ⟨(postings term.text).toList⟩⟩] else [] := by
  rw [postedOf, List.zipIdx_append, List.filter_append, List.map_append, Nat.zero_add]
  exact congrArg (postedOf postings front occurrence ++ ·) (map_filter_singleton _ _ _)

/-- A term behind others changes the tally of a stub if it is of the kind and the stub is posted
under it. -/
theorem passThrough_snoc (change : PostedTerm → Tally → Tally) (occurrence : Occurrence)
    (start : Option Tally) :
    passThrough change index (postedOf postings (front ++ [term]) occurrence) start =
      if term.occurrence = occurrence ∧ index ∈ postings term.text then
        some (change ⟨front.length, term, ⟨(postings term.text).toList⟩⟩
          ((passThrough change index (postedOf postings front occurrence) start).getD { index }))
      else passThrough change index (postedOf postings front occurrence) start := by
  rw [passThrough, postedOf_snoc, List.foldl_append]
  by_cases h : term.occurrence = occurrence
  · rw [if_pos h]
    exact if_congr (and_iff_right h).symm rfl rfl
  · rw [if_neg h, if_neg (fun hboth => h hboth.1)]
    rfl

/-- A word of a term behind others is one of its kind. -/
theorem mem_wordsOf_snoc {occurrence : Occurrence} {word : String} :
    word ∈ wordsOf (front ++ [term]) occurrence ↔
      word ∈ wordsOf front occurrence ∨ (term.occurrence = occurrence ∧ word = term.text) := by
  rw [wordsOf, List.filter_append, List.map_append, List.mem_append]
  refine or_congr Iff.rfl ?_
  by_cases h : term.occurrence = occurrence <;> simp [h]

/-- A word is one of a kind if there is a term of it. -/
theorem mem_wordsOf {terms : List QueryTerm} {occurrence : Occurrence} {word : String} :
    word ∈ wordsOf terms occurrence ↔ (⟨word, occurrence⟩ : QueryTerm) ∈ terms := by
  simp only [wordsOf, List.mem_map, List.mem_filter, decide_eq_true_eq]
  constructor
  · rintro ⟨⟨_, _⟩, ⟨hterm, rfl⟩, rfl⟩
    exact hterm
  · exact fun hterm => ⟨_, ⟨hterm, rfl⟩, rfl⟩

/-- A required word behind others adds to a stub that has it, unless it was required before. -/
theorem mustWeights_snoc : mustWeights postings (front ++ [term]) index n =
    mustWeights postings front index n ++
      if term.occurrence = .must ∧ term ∉ front ∧ index ∈ postings term.text then
        [mustWeight n front.length] else [] := by
  rw [mustWeights, List.zipIdx_append, List.filter_append, List.map_append, Nat.zero_add]
  refine congrArg₂ (· ++ ·) ?_ ?_
  · refine congrArg (List.map _) (List.filter_congr fun p hp => ?_)
    rw [List.idxOf_append_of_mem (List.fst_mem_of_mem_zipIdx hp)]
  · have hfirst : (front ++ [term]).idxOf term = front.length ↔ term ∉ front := by
      constructor
      · intro h hmem
        rw [List.idxOf_append_of_mem hmem] at h
        exact absurd (List.idxOf_lt_length_of_mem hmem) (by omega)
      · intro h
        rw [List.idxOf_append_of_notMem h, List.idxOf_cons_self, Nat.add_zero]
    refine (map_filter_singleton _ _ _).trans (if_congr ?_ rfl rfl)
    exact and_congr_right fun _ => and_congr_left fun _ => hfirst

/-- A desired word behind others adds to a stub that has it. -/
theorem shouldWeights_snoc : shouldWeights postings (front ++ [term]) index n =
    shouldWeights postings front index n ++
      if term.occurrence = .should ∧ index ∈ postings term.text then
        [shouldWeight n front.length] else [] := by
  rw [shouldWeights, List.zipIdx_append, List.filter_append, List.map_append, Nat.zero_add]
  exact congrArg (shouldWeights postings front index n ++ ·) (map_filter_singleton _ _ _)

/-- What is known of a stub that is not excluded after some terms: its score is the sum of what its
required words add, and each of these is remembered once. -/
structure CountsMust (postings : String → StubSet) (terms : List QueryTerm) (index : UInt32)
    (n : Nat) (held : Option Tally) : Prop where
  score : (held.getD { index }).score =
    (mustWeights postings terms index n).foldl (· + ·) .zero
  nodup : (held.getD { index }).words.Nodup
  mem_words : ∀ word, word ∈ (held.getD { index }).words ↔
    word ∈ wordsOf terms .must ∧ index ∈ postings word
  none_iff : held = none ↔ (held.getD { index }).words = []

/-- The change of a tally by a required word. -/
def requireWord (n : Nat) (p : PostedTerm) (t : Tally) : Tally :=
  if t.words.contains p.term.text then t
  else
    { t with
      score := t.score + mustWeight n p.position
      words := p.term.text :: t.words }

/-- The change of a tally by a desired word. -/
def desireWord (n : Nat) (p : PostedTerm) (t : Tally) : Tally :=
  { t with score := t.score + shouldWeight n p.position }

/-- Behind others there is one more required word that the stub may have. -/
theorem mem_must_snoc {word : String} :
    word ∈ wordsOf (front ++ [term]) .must ∧ index ∈ postings word ↔
      (word ∈ wordsOf front .must ∧ index ∈ postings word) ∨
        (word = term.text ∧ term.occurrence = .must ∧ index ∈ postings term.text) := by
  rw [mem_wordsOf_snoc, or_and_right]
  refine or_congr Iff.rfl ?_
  constructor
  · rintro ⟨⟨hmust, rfl⟩, hindex⟩
    exact ⟨rfl, hmust, hindex⟩
  · rintro ⟨rfl, hmust, hindex⟩
    exact ⟨⟨hmust, rfl⟩, hindex⟩

section Snoc

variable {held : Option Tally}

/-- A required word that the stub has is remembered if and only if it was required before. -/
theorem CountsMust.contains_iff (h : CountsMust postings front index n held)
    (hmust : term.occurrence = .must) (hindex : index ∈ postings term.text) :
    (held.getD { index }).words.contains term.text = true ↔ term ∈ front := by
  have hterm : term = ⟨term.text, .must⟩ := by rw [← hmust]
  rw [List.contains_iff_mem, h.mem_words, mem_wordsOf, ← hterm]
  exact and_iff_left hindex

/-- A word that is not required, or that the stub does not have, counts for nothing. -/
theorem CountsMust.snoc_idle (h : CountsMust postings front index n held)
    (hidle : ¬ (term.occurrence = .must ∧ index ∈ postings term.text)) :
    CountsMust postings (front ++ [term]) index n held where
  score := by
    rw [mustWeights_snoc, if_neg (fun hnew => hidle ⟨hnew.1, hnew.2.2⟩), List.append_nil]
    exact h.score
  nodup := h.nodup
  mem_words word := by
    rw [mem_must_snoc, h.mem_words]
    exact (or_iff_left fun hnew => hidle hnew.2).symm
  none_iff := h.none_iff

/-- A required word that was required before does not count again. -/
theorem CountsMust.snoc_again (h : CountsMust postings front index n held)
    (hmem : term.text ∈ (held.getD { index }).words) (hfront : term ∈ front) :
    CountsMust postings (front ++ [term]) index n (some (held.getD { index })) where
  score := by
    rw [mustWeights_snoc, if_neg (fun hnew => hnew.2.1 hfront), List.append_nil]
    exact h.score
  nodup := h.nodup
  mem_words word := by
    rw [mem_must_snoc]
    refine (h.mem_words word).trans (or_iff_left_of_imp ?_).symm
    rintro ⟨rfl, _, _⟩
    exact (h.mem_words _).1 hmem
  none_iff := ⟨nofun, fun hnil => absurd hmem (List.eq_nil_iff_forall_not_mem.1 hnil _)⟩

/-- A word that is required for the first time counts and is remembered. -/
theorem CountsMust.snoc_first (h : CountsMust postings front index n held)
    (hmust : term.occurrence = .must) (hindex : index ∈ postings term.text)
    (hmem : term.text ∉ (held.getD { index }).words) (hfront : term ∉ front) :
    CountsMust postings (front ++ [term]) index n
      (some { held.getD { index } with
        score := (held.getD { index }).score + mustWeight n front.length
        words := term.text :: (held.getD { index }).words }) where
  score := by
    rw [mustWeights_snoc, if_pos ⟨hmust, hfront, hindex⟩, List.foldl_append, ← h.score]
    rfl
  nodup := List.nodup_cons.2 ⟨hmem, h.nodup⟩
  mem_words word := by
    show word ∈ term.text :: (held.getD { index }).words ↔ _
    rw [List.mem_cons, h.mem_words, mem_must_snoc, or_comm]
    exact or_congr Iff.rfl ⟨fun heq => ⟨heq, hmust, hindex⟩, And.left⟩
  none_iff := ⟨nofun, nofun⟩

/-- A required word behind others counts if the stub has it and it was not required before. -/
theorem CountsMust.snoc (h : CountsMust postings front index n held) :
    CountsMust postings (front ++ [term]) index n
      (if term.occurrence = .must ∧ index ∈ postings term.text then
        some (requireWord n ⟨front.length, term, ⟨(postings term.text).toList⟩⟩
          (held.getD { index })) else held) := by
  by_cases hcounts : term.occurrence = .must ∧ index ∈ postings term.text
  · obtain ⟨hmust, hindex⟩ := hcounts
    have hseen := h.contains_iff hmust hindex
    rw [if_pos ⟨hmust, hindex⟩]
    by_cases hfront : term ∈ front
    · have hsame : requireWord n ⟨front.length, term, ⟨(postings term.text).toList⟩⟩
          (held.getD { index }) = held.getD { index } := if_pos (hseen.2 hfront)
      rw [hsame]
      exact h.snoc_again (List.contains_iff_mem.1 (hseen.2 hfront)) hfront
    · have hnot : ¬ (held.getD { index }).words.contains term.text = true := mt hseen.1 hfront
      have hnew : requireWord n ⟨front.length, term, ⟨(postings term.text).toList⟩⟩
          (held.getD { index }) =
            { held.getD { index } with
              score := (held.getD { index }).score + mustWeight n front.length
              words := term.text :: (held.getD { index }).words } := if_neg hnot
      rw [hnew]
      exact h.snoc_first hmust hindex (mt List.contains_iff_mem.2 hnot) hfront
  · rw [if_neg hcounts]
    exact h.snoc_idle hcounts

end Snoc

/-- The required words of a stub that is not excluded are counted. -/
theorem countsMust (postings : String → StubSet) (terms : List QueryTerm) (index : UInt32)
    (n : Nat) : CountsMust postings terms index n
      (passThrough (requireWord n) index (postedOf postings terms .must) none) := by
  induction terms using List.reverseRecOn with
  | nil => exact ⟨rfl, List.nodup_nil, fun _ => ⟨nofun, nofun⟩, ⟨fun _ => rfl, fun _ => rfl⟩⟩
  | append_singleton front term ih =>
      rw [passThrough_snoc]
      exact ih.snoc

/-- The desired words of a stub are added to what it has. -/
theorem passThrough_should (postings : String → StubSet) (terms : List QueryTerm) (index : UInt32)
    (n : Nat) (start : Option Tally) :
    ((passThrough (desireWord n) index (postedOf postings terms .should) start).getD
        { index }).score =
        (shouldWeights postings terms index n).foldl (· + ·) (start.getD { index }).score ∧
      (passThrough (desireWord n) index (postedOf postings terms .should) start = none ↔
        start = none ∧ ∀ word ∈ wordsOf terms .should, index ∉ postings word) := by
  induction terms using List.reverseRecOn with
  | nil => exact ⟨rfl, fun h => ⟨h, nofun⟩, And.left⟩
  | append_singleton front term ih =>
      obtain ⟨hscore, hnone⟩ := ih
      have hwords : (∀ word ∈ wordsOf (front ++ [term]) .should, index ∉ postings word) ↔
          (∀ word ∈ wordsOf front .should, index ∉ postings word) ∧
            ¬ (term.occurrence = .should ∧ index ∈ postings term.text) := by
        simp only [mem_wordsOf_snoc, or_imp, forall_and, not_and]
        refine and_congr Iff.rfl ⟨fun h hshould => h _ ⟨hshould, rfl⟩, ?_⟩
        rintro h _ ⟨hshould, rfl⟩
        exact h hshould
      rw [passThrough_snoc, shouldWeights_snoc, List.foldl_append, hwords, ← hscore, ← and_assoc,
        ← hnone]
      by_cases hshould : term.occurrence = .should ∧ index ∈ postings term.text
      · rw [if_pos hshould, if_pos hshould]
        exact ⟨rfl, nofun, fun h => absurd hshould h.2⟩
      · rw [if_neg hshould, if_neg hshould]
        exact ⟨rfl, (and_iff_left hshould).symm⟩

end Document

/-! ## All stubs -/

/-- Different items among others are as many as these only if they are all of them. -/
theorem length_eq_iff_subset {α : Type} {some all : List α} (hsome : some.Nodup) (hall : all.Nodup)
    (hsubset : some ⊆ all) : some.length = all.length ↔ all ⊆ some := by
  constructor
  · intro hlength
    exact ((List.subperm_of_subset hsome hsubset).perm_of_length_le hlength.ge).symm.subset
  · intro h
    have hperm := (List.subperm_of_subset hsome hsubset).antisymm (List.subperm_of_subset hall h)
    exact hperm.length_eq

/-- A stub has a tally with a score in one case and none otherwise. -/
structure Settled (tallies : List Tally) (index : UInt32) (admitted : Prop) (score : Binary64) :
    Prop where
  some : admitted → ∃ t, tallyOf tallies index = some t ∧ t.score = score
  none : ¬ admitted → tallyOf tallies index = none

section Posted

variable {postings : String → StubSet} {terms : List QueryTerm} {index : UInt32}

/-- The words of posted terms are those of the terms. -/
theorem words_postedOf (postings : String → StubSet) (occurrence : Occurrence) :
    (postedOf postings terms occurrence).map (·.term.text) = wordsOf terms occurrence := by
  induction terms using List.reverseRecOn with
  | nil => rfl
  | append_singleton front term ih =>
      rw [postedOf_snoc, List.map_append, ih, wordsOf, wordsOf, List.filter_append, List.map_append]
      by_cases h : term.occurrence = occurrence <;> simp [h]

/-- A posted term lists the stubs that are posted under its word. -/
theorem stubs_of_mem_postedOf {occurrence : Occurrence} {p : PostedTerm}
    (h : p ∈ postedOf postings terms occurrence) :
    p.postings.stubs = (postings p.term.text).toList := by
  obtain ⟨⟨term, position⟩, _, rfl⟩ := List.mem_map.1 h
  rfl

/-- The stubs of posted terms are those posted under their words. -/
theorem exists_mem_postedOf {occurrence : Occurrence} :
    (∃ p ∈ postedOf postings terms occurrence, index ∈ p.postings.stubs) ↔
      ∃ word ∈ wordsOf terms occurrence, index ∈ postings word := by
  rw [← words_postedOf postings]
  simp only [List.mem_map, exists_exists_and_eq_and]
  refine exists_congr fun p => and_congr_right fun hp => ?_
  rw [stubs_of_mem_postedOf hp]
  exact Iff.rfl

/-- The stubs with an excluded word. -/
theorem mem_excluded : index ∈ ((postedOf postings terms .mustNot).map
    (·.postings.toSet)).foldl StubSet.union ∅ ↔
      ∃ word ∈ wordsOf terms .mustNot, index ∈ postings word := by
  rw [StubSet.mem_foldl_union, ← exists_mem_postedOf]
  simp [PostingList.toSet]

/-- Changes by words leave the stub of a tally alone. -/
theorem index_requireWord (n : Nat) (p : PostedTerm) (t : Tally) :
    (requireWord n p t).index = t.index := by
  unfold requireWord
  split <;> rfl

/-- A posted term lists no stub twice. -/
theorem nodup_postedOf {occurrence : Occurrence} :
    ∀ p ∈ postedOf postings terms occurrence, p.postings.stubs.Nodup := by
  intro p hp
  rw [stubs_of_mem_postedOf hp]
  exact StubSet.nodup _

/-- As many words are remembered as are required if and only if the stub has all of them. -/
theorem CountsMust.complete_iff {n : Nat} {held : Option Tally}
    (h : CountsMust postings terms index n held) :
    (held.getD { index }).words.length = (distinct (wordsOf terms .must)).length ↔
      ∀ word ∈ wordsOf terms .must, index ∈ postings word := by
  obtain ⟨hnodup, hmem⟩ := distinct_spec (wordsOf terms .must)
  have hsubset : (held.getD { index }).words ⊆ distinct (wordsOf terms .must) :=
    fun word hword => (hmem word).2 ((h.mem_words word).1 hword).1
  rw [length_eq_iff_subset h.nodup hnodup hsubset]
  constructor
  · exact fun hall word hword => ((h.mem_words word).1 (hall ((hmem word).2 hword))).2
  · exact fun hall word hword =>
      (h.mem_words word).2 ⟨(hmem word).1 hword, hall word ((hmem word).1 hword)⟩

/-- A stub stays among the required ones, with the sum of what its required words add, if it has all
of them and no excluded one. -/
theorem tallyOf_complete (postings : String → StubSet) (index : UInt32) (n : Nat)
    (excluded : StubSet) (hmust : wordsOf terms .must ≠ []) :
    let complete := ((postedOf postings terms .must).foldl (addMustTerm n excluded) []).filter
      (·.words.length = (distinct ((postedOf postings terms .must).map (·.term.text))).length)
    Ascending complete ∧ Settled complete index
      (index ∉ excluded ∧ ∀ word ∈ wordsOf terms .must, index ∈ postings word)
      ((mustWeights postings terms index n).foldl (· + ·) .zero) := by
  intro complete
  obtain ⟨hascending, htally⟩ := tallyOf_foldl_terms index (addMustTerm n excluded)
    (requireWord n) (fun i => !excluded.contains i) (fun _ _ => rfl) (index_requireWord n)
    (postedOf postings terms .must) nodup_postedOf List.Pairwise.nil
  have hcomplete : ∀ t, tallyOf complete index = some t ↔
      tallyOf ((postedOf postings terms .must).foldl (addMustTerm n excluded) []) index = some t ∧
        t.words.length = (distinct (wordsOf terms .must)).length := by
    intro t
    rw [tallyOf_eq_some_iff (hascending.filter _), tallyOf_eq_some_iff hascending, List.mem_filter,
      decide_eq_true_eq, words_postedOf]
    exact and_right_comm
  have hkeep : (!excluded.contains index) = true ↔ index ∉ excluded := by
    rw [Bool.not_eq_true', Bool.eq_false_iff, Ne, StubSet.contains_iff]
  have hcounts := countsMust postings terms index n
  refine ⟨hascending.filter _, ?_, ?_⟩
  · rintro ⟨hexcluded, hall⟩
    rw [if_pos (hkeep.2 hexcluded)] at htally
    obtain ⟨word, hword⟩ := List.exists_mem_of_ne_nil _ hmust
    have hmem := (hcounts.mem_words word).2 ⟨hword, hall word hword⟩
    cases hsome : passThrough (requireWord n) index (postedOf postings terms .must) none with
    | none =>
        rw [hcounts.none_iff.1 hsome] at hmem
        cases hmem
    | some t =>
        have hlength := hcounts.complete_iff.2 hall
        have hscore := hcounts.score
        rw [hsome] at hlength hscore
        exact ⟨t, (hcomplete t).2 ⟨htally.trans hsome, hlength⟩, hscore⟩
  · intro hnot
    refine Option.eq_none_iff_forall_ne_some.2 fun t ht => ?_
    obtain ⟨hheld, hlength⟩ := (hcomplete t).1 ht
    rw [htally] at hheld
    by_cases hexcluded : index ∈ excluded
    · rw [if_neg (fun h => hkeep.1 h hexcluded)] at hheld
      cases hheld
    · rw [if_pos (hkeep.2 hexcluded)] at hheld
      have hsome : passThrough (requireWord n) index (postedOf postings terms .must) none
          = some t := hheld
      refine hnot ⟨hexcluded, hcounts.complete_iff.1 ?_⟩
      rw [hsome]
      exact hlength

/-- A stub has no excluded word if and only if it is not among the excluded ones. -/
theorem not_mem_excluded : index ∉ ((postedOf postings terms .mustNot).map
    (·.postings.toSet)).foldl StubSet.union ∅ ↔
      ∀ word ∈ wordsOf terms .mustNot, index ∉ postings word := by
  rw [mem_excluded]
  simp only [not_exists, not_and]

/-- Without required words nothing is added for them. -/
theorem mustWeights_eq_nil (n : Nat) (hmust : wordsOf terms .must = []) :
    mustWeights postings terms index n = [] := by
  refine List.map_eq_nil_iff.2 (List.filter_eq_nil_iff.2 fun p hp hkeep => ?_)
  have hterm : p.1.text ∈ wordsOf terms .must :=
    List.mem_map_of_mem (List.mem_filter.2
      ⟨List.fst_mem_of_mem_zipIdx hp, decide_eq_true (of_decide_eq_true hkeep).1⟩)
  rw [hmust] at hterm
  cases hterm

/-- The tallies after the desired words. -/
theorem tallyOf_desired (postings : String → StubSet) (terms : List QueryTerm) (index : UInt32)
    (n : Nat) (admitted : UInt32 → Bool) {tallies : List Tally} (h : Ascending tallies) :
    Ascending ((postedOf postings terms .should).foldl (addShouldTerm n admitted) tallies) ∧
      tallyOf ((postedOf postings terms .should).foldl (addShouldTerm n admitted) tallies) index =
        if admitted index then
          passThrough (desireWord n) index (postedOf postings terms .should) (tallyOf tallies index)
        else tallyOf tallies index :=
  tallyOf_foldl_terms index (addShouldTerm n admitted) (desireWord n) admitted (fun _ _ => rfl)
    (fun _ _ => rfl) (postedOf postings terms .should) nodup_postedOf h

/-- Without required words the stubs that qualify have the tallies. -/
theorem tallyOf_optional (hmust : wordsOf terms .must = []) (admitted : UInt32 → Bool)
    (hadmitted : admitted index = true ↔ ∀ word ∈ wordsOf terms .mustNot, index ∉ postings word) :
    Settled ((postedOf postings terms .should).foldl (addShouldTerm terms.length admitted) []) index
      (Qualifies postings terms index) (relevance postings terms index) := by
  obtain ⟨-, htally⟩ := tallyOf_desired postings terms index terms.length admitted List.Pairwise.nil
  have hnil : tallyOf [] index = none := rfl
  rw [hnil] at htally
  obtain ⟨hscore, hnone⟩ := passThrough_should postings terms index terms.length none
  rw [Qualifies, if_pos hmust, ← hadmitted]
  constructor
  · rintro ⟨hin, word, hword, hposted⟩
    rw [if_pos hin] at htally
    cases hsome : passThrough (desireWord terms.length) index (postedOf postings terms .should)
        none with
    | none => exact absurd hposted ((hnone.1 hsome).2 word hword)
    | some t =>
        rw [hsome] at htally hscore
        refine ⟨t, htally, ?_⟩
        rw [relevance, mustWeights_eq_nil _ hmust]
        exact hscore
  · intro hnot
    by_cases hin : admitted index = true
    · rw [if_pos hin] at htally
      exact htally.trans (hnone.2 ⟨rfl, fun word hword hposted => hnot ⟨hin, word, hword, hposted⟩⟩)
    · rwa [if_neg hin] at htally

/-- With required words the stubs that qualify have the tallies. -/
theorem tallyOf_required (hmust : wordsOf terms .must ≠ []) {complete : List Tally}
    (hcomplete : Ascending complete) (hstart : Settled complete index
      ((∀ word ∈ wordsOf terms .mustNot, index ∉ postings word) ∧
        ∀ word ∈ wordsOf terms .must, index ∈ postings word)
      ((mustWeights postings terms index terms.length).foldl (· + ·) .zero)) :
    Settled ((postedOf postings terms .should).foldl
        (addShouldTerm terms.length fun i => complete.any (·.index = i)) complete) index
      (Qualifies postings terms index) (relevance postings terms index) := by
  obtain ⟨-, htally⟩ := tallyOf_desired postings terms index terms.length
    (fun i => complete.any (·.index = i)) hcomplete
  rw [Qualifies, if_neg hmust]
  constructor
  · intro hqualifies
    obtain ⟨t, ht, hmustScore⟩ := hstart.some hqualifies
    have hin : complete.any (fun u => decide (u.index = index)) = true :=
      List.any_eq_true.2 ⟨t, ((tallyOf_eq_some_iff hcomplete).1 ht).1,
        decide_eq_true ((tallyOf_eq_some_iff hcomplete).1 ht).2⟩
    rw [if_pos hin, ht] at htally
    obtain ⟨hscore, hnone⟩ := passThrough_should postings terms index terms.length (some t)
    cases hsome : passThrough (desireWord terms.length) index (postedOf postings terms .should)
        (some t) with
    | none => exact absurd (hnone.1 hsome).1 nofun
    | some u =>
        rw [hsome] at htally hscore
        refine ⟨u, htally, hscore.trans ?_⟩
        rw [relevance, List.foldl_append, ← hmustScore]
        rfl
  · intro hnot
    have hnone := hstart.none hnot
    rw [hnone] at htally
    have hout : ¬ complete.any (fun u => decide (u.index = index)) = true := by
      intro hany
      obtain ⟨t, ht, hindex⟩ := List.any_eq_true.1 hany
      have hsome := (tallyOf_eq_some_iff hcomplete).2 ⟨ht, of_decide_eq_true hindex⟩
      rw [hnone] at hsome
      cases hsome
    rwa [if_neg hout] at htally

/-- With or without required words, the last tallies are those of the stubs that qualify. -/
theorem exists_final (postings : String → StubSet) (terms : List QueryTerm) :
    ∃ final : List Tally, scorePosted terms.length (postedOf postings terms .mustNot)
        (postedOf postings terms .must) (postedOf postings terms .should)
        = final.map (fun t => ⟨t.index, t.score⟩) ∧
      Ascending final ∧ ∀ index,
        Settled final index (Qualifies postings terms index) (relevance postings terms index) := by
  by_cases hmust : wordsOf terms .must = []
  · have hrequired : postedOf postings terms .must = [] := by
      rw [← List.map_eq_nil_iff, words_postedOf, hmust]
    have hadmitted : ∀ index, (!(((postedOf postings terms .mustNot).map
        (·.postings.toSet)).foldl StubSet.union ∅).contains index) = true ↔
          ∀ word ∈ wordsOf terms .mustNot, index ∉ postings word := by
      intro index
      rw [← not_mem_excluded, Bool.not_eq_true', Bool.eq_false_iff, Ne, StubSet.contains_iff]
    refine ⟨_, ?_, (tallyOf_desired postings terms 0 _ _ List.Pairwise.nil).1, fun index =>
      tallyOf_optional hmust _ (hadmitted index)⟩
    rw [hrequired]
    rfl
  · have hempty : (postedOf postings terms .must).isEmpty = false := by
      rw [List.isEmpty_eq_false_iff]
      intro hnil
      rw [← words_postedOf postings, hnil] at hmust
      exact hmust rfl
    have hcomplete := fun index =>
      tallyOf_complete postings index terms.length
        (((postedOf postings terms .mustNot).map (·.postings.toSet)).foldl StubSet.union ∅) hmust
    refine ⟨_, ?_, (tallyOf_desired postings terms 0 _ _ (hcomplete 0).1).1, fun index =>
      tallyOf_required hmust (hcomplete index).1 ?_⟩
    · rw [scorePosted, hempty]
      rfl
    · have hstart := (hcomplete index).2
      rw [not_mem_excluded] at hstart
      exact hstart

/-- The stubs that qualify are scored, each once and with its relevance. -/
theorem scorePosted_spec (postings : String → StubSet) (terms : List QueryTerm) :
    let found := scorePosted terms.length (postedOf postings terms .mustNot)
      (postedOf postings terms .must) (postedOf postings terms .should)
    (found.map (·.index)).Nodup ∧
      ∀ x, x ∈ found ↔
        Qualifies postings terms x.index ∧ x.score = relevance postings terms x.index := by
  intro found
  obtain ⟨final, hfound, hascending, htally⟩ := exists_final postings terms
  have hfound : found = final.map (fun t => ⟨t.index, t.score⟩) := hfound
  rw [hfound]
  constructor
  · rw [List.map_map]
    exact List.pairwise_map.2 (hascending.imp UInt32.ne_of_lt)
  · intro x
    rw [List.mem_map]
    constructor
    · rintro ⟨t, ht, rfl⟩
      have hsome := (tallyOf_eq_some_iff hascending).2 ⟨ht, rfl⟩
      by_cases hqualifies : Qualifies postings terms t.index
      · obtain ⟨u, hu, hscore⟩ := (htally t.index).some hqualifies
        rw [hsome, Option.some.injEq] at hu
        exact ⟨hqualifies, hu ▸ hscore⟩
      · rw [(htally t.index).none hqualifies] at hsome
        cases hsome
    · rintro ⟨hqualifies, hscore⟩
      obtain ⟨t, hsome, htscore⟩ := (htally x.index).some hqualifies
      obtain ⟨ht, hindex⟩ := (tallyOf_eq_some_iff hascending).1 hsome
      refine ⟨t, ht, ?_⟩
      rw [hindex, htscore, ← hscore]

end Posted

/-! ## Scoring over tables -/

section Tables

variable {σ ν : Type} {ns : Store.Namespace} {postings : String → StubSet} {terms : List QueryTerm}

/-- The postings of a store under the words that can have some. -/
def Reads (ns : Store.Namespace) (s : Store) (postings : String → StubSet) : Prop :=
  ∀ word, isName word = true →
    ((Tables.tokenPostings ns word).run s).1 = .ok ⟨(postings word).toList⟩

/-- Reading postings leaves the store alone. -/
theorem tokenPostings_leaves (ns : Store.Namespace) (s : Store) (word : String) :
    Takes Eq (Tables.tokenPostings ns word) s ((Tables.tokenPostings ns word).run s).1 s := by
  have hread : ∃ out, Takes Eq (Tables.tokenPostings ns word) s out s := by
    cases hkey : Store.Key.token ns word with
    | error fault => exact ⟨_, Takes.lift_bind_error hkey⟩
    | ok key =>
        have hget : Takes Eq (Store.get? key) s (.ok (s.content.get? key)) s := by
          rintro u rfl
          rw [Store.run_get?]
          exact ⟨rfl, rfl⟩
        cases hblob : s.content.get? key with
        | none => exact ⟨_, Takes.lift_bind hkey (Takes.bind (hblob ▸ hget) (Takes.pure _))⟩
        | some blob =>
            exact ⟨_, Takes.lift_bind hkey
              (Takes.bind (hblob ▸ hget) (Takes.lift (Posting.PostingList.decode blob)))⟩
  obtain ⟨out, hout⟩ := hread
  rwa [(hout s rfl).1]

/-- The postings that fields hold under words. -/
def postingsOf (f : Posting.Fields) (word : String) : StubSet :=
  if h : isName word = true then f.stubs (.token ⟨word, h⟩) else ∅

/-- The postings that fields hold are read. -/
theorem takes_postingsOf {t : Store.Namespace → Posting.Fields} {f : Posting.Fields} (word : String)
    (hword : isName word = true) : Takes (Posting.Shows t ns) (Tables.tokenPostings ns word) f
      (.ok ⟨(postingsOf f word).toList⟩) f := by
  rw [postingsOf, dif_pos hword]
  exact Posting.takes_tokenPostings ⟨word, hword⟩

/-- A store whose tables stand for fields is read. -/
theorem reads_of_shows {t : Store.Namespace → Posting.Fields} {s : Store} {f : Posting.Fields}
    (h : Posting.Shows t ns s f) : Reads ns s (postingsOf f) :=
  fun word hword => (takes_postingsOf word hword s h).1

variable {R : Store → ν → Prop} {v : ν}

/-- The terms of one kind are read with their postings. -/
theorem takes_postedTerms {occurrence : Occurrence}
    (hread : ∀ word, isName word = true →
      Takes R (Tables.tokenPostings ns word) v (.ok ⟨(postings word).toList⟩) v)
    (hnames : ∀ term ∈ terms, term.occurrence = occurrence → isName term.text = true) :
    Takes R (postedTerms ns occurrence terms) v (.ok (postedOf postings terms occurrence)) v := by
  refine Takes.mapM fun p hp => Takes.bind (hread p.1.text ?_) (Takes.pure _)
  obtain ⟨hp, hoccurrence⟩ := List.mem_filter.1 hp
  exact hnames _ (List.fst_mem_of_mem_zipIdx hp) (of_decide_eq_true hoccurrence)

/-- A term of a kind whose word cannot have postings fails. -/
theorem takes_postedTerms_invalid {occurrence : Occurrence}
    (hread : ∀ word, isName word = true →
      Takes R (Tables.tokenPostings ns word) v (.ok ⟨(postings word).toList⟩) v)
    (h : ∃ term ∈ terms, term.occurrence = occurrence ∧ ¬ isName term.text = true) :
    ∃ term ∈ terms, ¬ isName term.text = true ∧
      Takes R (postedTerms ns occurrence terms) v (.error (.invalidName term.text)) v := by
  obtain ⟨term, hterm, hoccurrence, hname⟩ := h
  obtain ⟨position, hposition⟩ := List.getElem?_of_mem hterm
  have hmem : (term, position) ∈ terms.zipIdx.filter (·.1.occurrence = occurrence) :=
    List.mem_filter.2 ⟨List.mem_zipIdx_iff_getElem?.2 hposition, decide_eq_true hoccurrence⟩
  have hfault : ∃ p ∈ terms.zipIdx.filter (·.1.occurrence = occurrence),
      ¬ isName p.1.text = true ∧
        Takes R (postedTerms ns occurrence terms) v (.error (.invalidName p.1.text)) v :=
    Takes.mapM_error (fun p _ hgood => Takes.bind (hread p.1.text hgood) (Takes.pure _))
      (fun p _ hbad => Takes.bind_error (Posting.takes_tokenPostings_invalid hbad))
      ⟨_, hmem, hname⟩
  obtain ⟨p, hp, hbad, htakes⟩ := hfault
  exact ⟨p.1, List.fst_mem_of_mem_zipIdx (List.mem_filter.1 hp).1, hbad, htakes⟩

/-- Terms whose words can have postings are scored. -/
theorem takes_score
    (hread : ∀ word, isName word = true →
      Takes R (Tables.tokenPostings ns word) v (.ok ⟨(postings word).toList⟩) v)
    (hnames : ∀ term ∈ terms, isName term.text = true) :
    Takes R (score ns terms) v (.ok (scorePosted terms.length (postedOf postings terms .mustNot)
      (postedOf postings terms .must) (postedOf postings terms .should))) v := by
  have hposted : ∀ occurrence, Takes R (postedTerms ns occurrence terms) v
      (.ok (postedOf postings terms occurrence)) v :=
    fun occurrence => takes_postedTerms hread fun term hterm _ => hnames term hterm
  exact Takes.bind (hposted .mustNot) (Takes.bind (hposted .must)
    (Takes.bind (hposted .should) (Takes.pure _)))

/-- Terms one of whose words cannot have postings are refused for such a word. -/
theorem takes_score_invalid
    (hread : ∀ word, isName word = true →
      Takes R (Tables.tokenPostings ns word) v (.ok ⟨(postings word).toList⟩) v)
    (h : ∃ term ∈ terms, ¬ isName term.text = true) :
    ∃ term ∈ terms, ¬ isName term.text = true ∧
      Takes R (score ns terms) v (.error (.invalidName term.text)) v := by
  -- The kinds are read one after the other, so that the first one with such a word fails.
  have hkind : ∀ occurrence, (∀ term ∈ terms, term.occurrence = occurrence →
        isName term.text = true) ∨
      ∃ term ∈ terms, term.occurrence = occurrence ∧ ¬ isName term.text = true := by
    intro occurrence
    by_cases hall : ∀ term ∈ terms, term.occurrence = occurrence → isName term.text = true
    · exact .inl hall
    · refine .inr ?_
      push Not at hall
      simpa using hall
  rcases hkind .mustNot with hexcluding | hexcluding
  · have hfirst := takes_postedTerms hread hexcluding
    rcases hkind .must with hrequired | hrequired
    · have hsecond := takes_postedTerms hread hrequired
      rcases hkind .should with hdesired | hdesired
      · obtain ⟨term, hterm, hname⟩ := h
        cases hoccurrence : term.occurrence with
        | mustNot => exact absurd (hexcluding term hterm hoccurrence) hname
        | must => exact absurd (hrequired term hterm hoccurrence) hname
        | should => exact absurd (hdesired term hterm hoccurrence) hname
      · obtain ⟨term, hterm, hname, hthird⟩ := takes_postedTerms_invalid hread hdesired
        exact ⟨term, hterm, hname, Takes.bind hfirst (Takes.bind hsecond (Takes.bind_error hthird))⟩
    · obtain ⟨term, hterm, hname, hsecond⟩ := takes_postedTerms_invalid hread hrequired
      exact ⟨term, hterm, hname, Takes.bind hfirst (Takes.bind_error hsecond)⟩
  · obtain ⟨term, hterm, hname, hfirst⟩ := takes_postedTerms_invalid hread hexcluding
    exact ⟨term, hterm, hname, Takes.bind_error hfirst⟩

end Tables

/-! ## The document-at-a-time reference -/

section Congruence

variable {postings postings' : String → StubSet} {terms : List QueryTerm} {index : UInt32}

/-- Whether a stub qualifies depends on its own postings only. -/
theorem qualifies_congr
    (h : ∀ term ∈ terms, index ∈ postings term.text ↔ index ∈ postings' term.text) :
    Qualifies postings terms index ↔ Qualifies postings' terms index := by
  have hword : ∀ occurrence, ∀ word ∈ wordsOf terms occurrence,
      (index ∈ postings word ↔ index ∈ postings' word) :=
    fun occurrence word hword => h _ (mem_wordsOf.1 hword)
  unfold Qualifies
  refine and_congr (forall₂_congr fun word hw => not_congr (hword .mustNot word hw)) ?_
  split
  · exact exists_congr fun word => and_congr_right fun hw => hword .should word hw
  · exact forall₂_congr fun word hw => hword .must word hw

/-- A stub that qualifies is posted under a word. -/
theorem exists_posted_of_qualifies (h : Qualifies postings terms index) :
    ∃ word, index ∈ postings word := by
  obtain ⟨_, hwords⟩ := h
  split at hwords
  · obtain ⟨word, _, hindex⟩ := hwords
    exact ⟨word, hindex⟩
  · rename_i hmust
    obtain ⟨word, hword⟩ := List.exists_mem_of_ne_nil _ hmust
    exact ⟨word, hwords word hword⟩

/-- The relevance of a stub depends on its own postings only. -/
theorem relevance_congr
    (h : ∀ term ∈ terms, index ∈ postings term.text ↔ index ∈ postings' term.text) :
    relevance postings terms index = relevance postings' terms index := by
  have hterm : ∀ p ∈ terms.zipIdx,
      (index ∈ postings p.1.text ↔ index ∈ postings' p.1.text) :=
    fun p hp => h p.1 (List.fst_mem_of_mem_zipIdx hp)
  have hmust : ∀ n, mustWeights postings terms index n = mustWeights postings' terms index n := by
    intro n
    refine congrArg (List.map _) (List.filter_congr fun p hp => decide_eq_decide.2 ?_)
    exact and_congr_right fun _ => and_congr_right fun _ => hterm p hp
  have hshould : ∀ n,
      shouldWeights postings terms index n = shouldWeights postings' terms index n := by
    intro n
    refine congrArg (List.map _) (List.filter_congr fun p hp => decide_eq_decide.2 ?_)
    exact and_congr_right fun _ => hterm p hp
  rw [relevance, relevance, hmust, hshould]

end Congruence

/-- Over a store whose words list ascending stubs, terms that can have postings find exactly the
stubs that qualify, each once and with its relevance, which other stubs have no part in. Any other
term is refused. -/
theorem score_reads {ns : Store.Namespace} {s : Store} {postings : String → StubSet}
    (hreads : Reads ns s postings) (terms : List QueryTerm) :
    ((∀ term ∈ terms, isName term.text = true) →
      ∃ found, (score ns terms).run s = (.ok found, s) ∧ (found.map (·.index)).Nodup ∧
        (∀ x, x ∈ found ↔
          Qualifies postings terms x.index ∧ x.score = relevance postings terms x.index) ∧
        ∀ (s' : Store) (postings' : String → StubSet) (index : UInt32) (found' : List Scored),
          Reads ns s' postings' → ((score ns terms).run s').1 = .ok found' →
          (∀ term ∈ terms, index ∈ postings' term.text ↔ index ∈ postings term.text) →
          ∀ x, ⟨index, x⟩ ∈ found' ↔ ⟨index, x⟩ ∈ found) ∧
    ((∃ term ∈ terms, ¬ isName term.text = true) →
      ∃ term ∈ terms, ¬ isName term.text = true ∧
        (score ns terms).run s = (.error (.invalidName term.text), s)) := by
  have hread : ∀ {s : Store} {postings : String → StubSet}, Reads ns s postings →
      ∀ word, isName word = true →
        Takes Eq (Tables.tokenPostings ns word) s (.ok ⟨(postings word).toList⟩) s := by
    intro s postings hreads word hword
    rw [← hreads word hword]
    exact tokenPostings_leaves ns s word
  have hrun : ∀ {s : Store} {out : Outcome (List Scored)}, Takes Eq (score ns terms) s out s →
      (score ns terms).run s = (out, s) :=
    fun {s _} h => Prod.ext (h s rfl).1 (h s rfl).2
  constructor
  · intro hnames
    obtain ⟨hnodup, hmem⟩ := scorePosted_spec postings terms
    refine ⟨_, hrun (takes_score (hread hreads) hnames), hnodup, hmem, ?_⟩
    intro s' postings' index found' hreads' hfound' hsame x
    have hscore := hrun (takes_score (hread hreads') hnames)
    rw [hscore] at hfound'
    obtain ⟨-, hmem'⟩ := scorePosted_spec postings' terms
    rw [← Except.ok.inj hfound', hmem, hmem']
    exact and_congr (qualifies_congr hsame) (by rw [relevance_congr hsame])
  · intro hbad
    obtain ⟨term, hterm, hname, htakes⟩ := takes_score_invalid (hread hreads) hbad
    exact ⟨term, hterm, hname, hrun htakes⟩

/-- What is posted in a store in which one stub was posted under one word. -/
theorem reads_addToken (name : Posting.Name) (stub : UInt32) :
    Reads .keyword ((Tables.addToken .keyword name.1 stub).run
        (.buffered (.make (.ofBackend .sqlite false) 2 3))).2
      (postingsOf (Posting.Fields.post (fun _ => none) (.token name) stub).2) := by
  have hstart : Posting.Shows (fun _ _ => none) .keyword
      (.buffered (.make (.ofBackend .sqlite false) 2 3)) fun _ => none := by
    refine ⟨∅, Store.holds_buffered .sqlite 2 3, ?_⟩
    rw [Function.update_eq_self]
    exact Posting.Stored.empty
  exact reads_of_shows (Posting.takes_addToken name stub _ hstart).2

/-- A word that is required twice counts once, where it is required first. -/
theorem score_reads_repeated :
    let s : Store := ((Tables.addToken .keyword "foo" 0).run
      (.buffered (.make (.ofBackend .sqlite false) 2 3))).2
    let terms : List QueryTerm := [⟨"foo", .must⟩, ⟨"foo", .must⟩, ⟨"bar", .should⟩]
    ∃ found, (score .keyword terms).run s = (.ok found, s) ∧
      ⟨0, .zero + mustWeight 3 0⟩ ∈ found := by
  intro s terms
  obtain ⟨found, hfound, _, hmem, _⟩ :=
    (score_reads (reads_addToken ⟨"foo", by decide⟩ 0) terms).1 (by decide)
  refine ⟨found, hfound, (hmem _).2 ⟨?_, ?_⟩⟩
  · decide
  · rfl

/-- A word that is empty cannot have postings, so that a stub that qualifies by another word is not
found either; and the weight of a desired word is the product with a quotient, which is not always
the quotient itself. -/
theorem score_unnamed :
    let terms : List QueryTerm := [⟨"foo", .should⟩, ⟨"", .should⟩]
    (∃ (s : Store) (postings : String → StubSet), Reads .keyword s postings ∧
        Qualifies postings terms 0 ∧ ((score .keyword terms).run s).1 = .error (.invalidName "")) ∧
      shouldWeight 5 2 ≠ multiplier 5 2 / .ofNat 5 := by
  intro terms
  refine ⟨⟨_, _, reads_addToken ⟨"foo", by decide⟩ 0, by decide, by decide +kernel⟩, ?_⟩
  decide +kernel

end SiteIndex.Search
