import SiteIndex.Proofs.Index.Lexicon
import SiteIndex.Proofs.Search.Scoring
import SiteIndex.Proofs.Window
import SiteIndex.Search.Results

/-!
# The ranking of a search

What a search finds is one list: the scored pages of the language in question, the higher score
first and the natural order of the shasums where scores are level. Shasums differ, so that the order
is strict and the list does not depend on the order in which the pages are scored
(`rank_eq_of_perm`). The pages that a request names are cut out of this list.

For this the tables of a store only have to be `Sound`: a posted number has a shasum, no two numbers
have the same one, and summaries can be read. Every change of the index of keywords keeps that, also
when the counter of stubs has run over.
-/

namespace SiteIndex.Search

open Std
open Index (Summary)
open Index.Lexicon (Change serve)
open Markup (Formats)
open Posting
open Store (Namespace OrderedMap)
open Store.Key (isName)
open SiteIndex.Action (Takes)
open Text.Natural (compareText isLE_or_isLE transCmp_on)

/-! ## The order of the ranking -/

/-- The language is the one that is wanted, in any case of its ASCII letters. If none is wanted, or
the empty one, every language is. -/
def InLocale (locale : Option String) (language : String) : Prop :=
  ∀ wanted ∈ locale, wanted ≠ "" → Text.lowerAscii language = Text.lowerAscii wanted

/-- The test of the language. -/
theorem matchesLocale_iff {locale : Option String} {language : String} :
    matchesLocale locale language = true ↔ InLocale locale language := by
  unfold matchesLocale InLocale
  split
  case h_1 => simp
  case h_2 => simp
  case h_3 wanted hne =>
    have hne : wanted ≠ "" := hne
    simp [hne]

instance (locale : Option String) (language : String) : Decidable (InLocale locale language) :=
  decidable_of_iff _ matchesLocale_iff

/-- How two pages compare in the ranking. -/
def compareRanked (a b : Ranked) : Ordering :=
  (b.score.compareTotal a.score).then (compareText a.shasum b.shasum)

instance : TransCmp compareRanked :=
  haveI : TransCmp fun a b : Ranked => b.score.compareTotal a.score :=
    transCmp_on (fun x y : Int => compare y x) fun a : Ranked => a.score.totalKey
  haveI : TransCmp fun a b : Ranked => compareText a.shasum b.shasum :=
    transCmp_on compareText Ranked.shasum
  inferInstanceAs (TransCmp (compareLex (fun a b : Ranked => b.score.compareTotal a.score)
    fun a b => compareText a.shasum b.shasum))

/-- One page stands before another in the ranking. -/
def Outranks (a b : Ranked) : Prop :=
  b.score.compareTotal a.score = .lt ∨
    b.score.compareTotal a.score = .eq ∧ compareText a.shasum b.shasum = .lt

/-- Pages with different shasums are not level. -/
theorem outranks_of_isLE {a b : Ranked} (hle : (compareRanked a b).isLE = true)
    (hne : a.shasum ≠ b.shasum) : Outranks a b := by
  have hshasum : compareText a.shasum b.shasum ≠ .eq :=
    fun heq => hne (LawfulEqCmp.eq_of_compare heq)
  unfold compareRanked at hle
  unfold Outranks
  cases hscore : b.score.compareTotal a.score with
  | lt => exact .inl rfl
  | gt =>
      rw [hscore] at hle
      cases hle
  | eq =>
      rw [hscore, Ordering.eq_then] at hle
      cases horder : compareText a.shasum b.shasum with
      | lt => exact .inr ⟨rfl, rfl⟩
      | eq => exact absurd horder hshasum
      | gt =>
          rw [horder] at hle
          cases hle

section Rank

variable {found found' : List Ranked}

/-- The ranking holds what was found. -/
theorem rank_perm (found : List Ranked) : (rank found).Perm found := List.mergeSort_perm _ _

/-- The ranking is in order. -/
theorem pairwise_rank (hnodup : (found.map (·.shasum)).Nodup) :
    (rank found).Pairwise Outranks := by
  have hordered : (rank found).Pairwise fun a b => (compareRanked a b).isLE = true :=
    List.pairwise_mergeSort (fun _ _ _ => TransCmp.isLE_trans) (isLE_or_isLE compareRanked) found
  have hdifferent : (rank found).Pairwise fun a b => a.shasum ≠ b.shasum :=
    List.pairwise_map.1 (((rank_perm found).map _).nodup_iff.2 hnodup)
  exact hordered.imp₂ (fun _ _ => outranks_of_isLE) hdifferent

/-- No page stands before one that stands before it. -/
theorem Outranks.asymm {a b : Ranked} (h : Outranks a b) : ¬ Outranks b a := by
  have hless : ∀ {a b : Ranked}, Outranks a b → compareRanked a b = .lt := by
    rintro a b (hscore | ⟨hscore, hshasum⟩)
    · rw [compareRanked, hscore]
      rfl
    · rw [compareRanked, hscore, hshasum]
      rfl
  intro hback
  have hswap : compareRanked b a = (compareRanked a b).swap := OrientedCmp.eq_swap
  rw [hless h, hless hback] at hswap
  cases hswap

/-- The ranking does not depend on the order in which pages are found. -/
theorem rank_eq_of_perm (hnodup : (found.map (·.shasum)).Nodup) (hperm : found'.Perm found) :
    rank found' = rank found := by
  have hranks : (rank found').Perm (rank found) :=
    (rank_perm found').trans (hperm.trans (rank_perm found).symm)
  refine hranks.eq_of_pairwise (fun a b _ _ hab hba => absurd hba hab.asymm) ?_
    (pairwise_rank hnodup)
  exact pairwise_rank ((hperm.map _).nodup_iff.2 hnodup)

end Rank

/-! ## Sound tables -/

/-- The stubs of the tables have shasums of their own, and summaries can be read. -/
structure Sound (f : Fields) : Prop where
  index_of_shasum : ∀ index shasum, f (.stubShasum index) = some shasum →
    f (.stubIndex shasum) = some index
  shasum_of_posted : ∀ text index, index ∈ f.stubs (.token text) → f (.stubShasum index) ≠ none
  summary : ∀ shasum bytes, f (.summary shasum) = some bytes → ∃ s : Summary, bytes = s.encode

namespace Sound

variable {f g : Fields} {shasum : String} {index : UInt32} {t : Namespace → Fields}

/-- Empty tables are sound. -/
theorem empty : Sound fun _ => none where
  index_of_shasum := nofun
  shasum_of_posted _ _ h := absurd h StubSet.not_mem_empty
  summary := nofun

/-- A new shasum takes the place of any other that had its number. -/
theorem ensureStub (h : Sound f) (hindex : f (.stubIndex shasum) = none) :
    Sound (f.ensureStub shasum).2 := by
  have hensure : f.ensureStub shasum = (f.nextStub, ((f.put (.stubIndex shasum)
      (some f.nextStub)).put (.stubShasum f.nextStub) (some shasum)).put .nextStub
        (some (f.nextStub + 1))) := by
    rw [Fields.ensureStub, hindex]
  rw [hensure]
  refine ⟨fun k other hk => ?_, fun text k hk => ?_, fun other bytes hbytes => ?_⟩
  · by_cases hnew : k = f.nextStub
    · simp [hnew] at hk
      simp [hnew, ← hk]
    · simp [hnew] at hk
      have hother := h.index_of_shasum k other hk
      have hne : other ≠ shasum := by
        rintro rfl
        rw [hindex] at hother
        cases hother
      simpa [hne] using hother
  · have hposted := h.shasum_of_posted text k (by simpa [Fields.stubs] using hk)
    by_cases hnew : k = f.nextStub
    · simp [hnew]
    · simpa [hnew] using hposted
  · exact h.summary other bytes (by simpa using hbytes)

/-- A number that has a shasum may be posted. -/
theorem post (h : Sound f) (text : Name) (hindex : f (.stubShasum index) ≠ none) :
    Sound (f.post (.token text) index).2 := by
  refine ⟨fun k other hk => ?_, fun other k hk => ?_, fun other bytes hbytes => ?_⟩
  · rw [Fields.stubShasum_post] at hk
    rw [Fields.stubIndex_post]
    exact h.index_of_shasum k other hk
  · rw [Fields.stubShasum_post]
    rcases Fields.mem_stubs_post.1 hk with ⟨_, rfl⟩ | hk
    · exact hindex
    · exact h.shasum_of_posted other k hk
  · rw [Fields.summary_post] at hbytes
    exact h.summary other bytes hbytes

/-- A summary may be stored. -/
theorem putSummary (h : Sound f) (shasum : String) (s : Summary) :
    Sound (f.put (.summary shasum) (some s.encode)) := by
  refine ⟨fun k other hk => ?_, fun text k hk => ?_, fun other bytes hbytes => ?_⟩
  · simp at hk ⊢
    exact h.index_of_shasum k other hk
  · have hposted := h.shasum_of_posted text k (by simpa [Fields.stubs] using hk)
    simpa using hposted
  · rw [Fields.put_summary] at hbytes
    split at hbytes
    · exact ⟨s, (Option.some.inj hbytes).symm⟩
    · exact h.summary other bytes hbytes

/-- A page may go from the tables with its number. -/
theorem gone (h : Sound f) (hindex : f (.stubIndex shasum) = some index)
    (hgone : Index.Records.Gone f shasum index g) : Sound g := by
  refine ⟨fun k other hk => ?_, fun text k hk => ?_, fun other bytes hbytes => ?_⟩
  · rw [hgone.stubShasum] at hk
    split at hk
    · cases hk
    · rename_i hne
      have hother := h.index_of_shasum k other hk
      have hshasum : other ≠ shasum := by
        rintro rfl
        rw [hindex, Option.some.injEq] at hother
        exact hne hother.symm
      rw [hgone.stubIndex, if_neg hshasum, hother]
  · obtain ⟨hk, hne⟩ := (hgone.stubs text k).1 hk
    rw [hgone.stubShasum, if_neg hne]
    exact h.shasum_of_posted text k hk
  · rw [hgone.summary] at hbytes
    split at hbytes
    · cases hbytes
    · exact h.summary other bytes hbytes

/-- Every step of a change keeps the tables sound. -/
theorem lasting : Index.Lexicon.Lasting Sound where
  empty := empty
  ensureStub h hindex := h.ensureStub hindex
  post text h hindex := h.post text hindex
  putSummary shasum s h := h.putSummary shasum s
  gone h hindex hgone _ := h.gone hindex hgone

/-- Whatever changes are made, the tables of the index stay sound. -/
theorem serve {s : Store} (hs : Shows t .keyword s f) (h : Sound f) (formats : Formats)
    (ops : List Change) : ∃ g, Shows t .keyword (serve formats s ops) g ∧ Sound g := by
  induction ops generalizing s f with
  | nil => exact ⟨f, hs, h⟩
  | cons op rest ih =>
      obtain ⟨m, hholds, hm⟩ := hs
      obtain ⟨out, g, hchange, hsound⟩ := lasting.exists_takes_change h hm formats op
      exact ih (hchange s ⟨m, hholds, hm⟩).2 hsound

end Sound

/-! ## Describing what was scored -/

/-- What is read for a stub that was scored: the shasum of its number, and the summary of the shasum
if there is one. -/
structure Describes (store : Store) (x : Scored) (r : Ranked) : Prop where
  shasum : ((Tables.shasum .keyword x.index).run store).1 = .ok r.shasum
  score : r.score = x.score
  summary : ∃ summary, ((Index.Keywords.summary? r.shasum).run store).1 = .ok summary ∧
    r.summary = summary.getD .blank

section Describe

variable {f : Fields} {t : Namespace → Fields}

/-- The summary of a shasum in the tables. -/
def summaryIn (f : Fields) (shasum : String) : Option Summary :=
  (f (.summary shasum)).bind fun bytes => (Summary.decode bytes).toOption

/-- A stub that was scored, with what the tables have about it. -/
def rankedIn (f : Fields) (x : Scored) : Ranked :=
  let shasum := (f (.stubShasum x.index)).getD ""
  { shasum, score := x.score, summary := (summaryIn f shasum).getD .blank }

/-- The summary of a shasum is read. -/
theorem takes_summary? (h : Sound f) (shasum : String) :
    Takes (Shows t .keyword) (Index.Keywords.summary? shasum) f (.ok (summaryIn f shasum)) f := by
  refine Index.takes_summary? ?_
  rw [summaryIn]
  cases hbytes : f (.summary shasum) with
  | none => rfl
  | some bytes =>
      obtain ⟨summary, rfl⟩ := h.summary shasum bytes hbytes
      rw [Option.bind_some, Summary.decode_encode]
      rfl

/-- Stubs that have shasums are described one after the other. -/
theorem takes_describe (h : Sound f) {found : List Scored}
    (hfound : ∀ x ∈ found, f (.stubShasum x.index) ≠ none) :
    Takes (Shows t .keyword) (describe found) f (.ok (found.map (rankedIn f))) f := by
  induction found with
  | nil => exact Takes.pure []
  | cons x rest ih =>
      obtain ⟨shasum, hshasum⟩ := Option.ne_none_iff_exists'.1 (hfound x (List.mem_cons_self ..))
      have hrest := ih fun y hy => hfound y (List.mem_cons_of_mem _ hy)
      have hx : rankedIn f x = ⟨shasum, x.score, (summaryIn f shasum).getD .blank⟩ := by
        rw [rankedIn, hshasum]
        rfl
      rw [List.map_cons, hx]
      exact Takes.bind (takes_shasum hshasum) (Takes.bind (takes_summary? h shasum)
        (Takes.bind hrest (Takes.pure _)))

/-- Different numbers have different shasums. -/
theorem nodup_rankedIn (h : Sound f) {found : List Scored} (hnodup : (found.map (·.index)).Nodup)
    (hfound : ∀ x ∈ found, f (.stubShasum x.index) ≠ none) :
    ((found.map (rankedIn f)).map (·.shasum)).Nodup := by
  rw [List.map_map]
  refine List.pairwise_map.2 ((List.pairwise_map.1 hnodup).imp_of_mem fun {x y} hx hy hne heq => ?_)
  obtain ⟨a, ha⟩ := Option.ne_none_iff_exists'.1 (hfound x hx)
  obtain ⟨b, hb⟩ := Option.ne_none_iff_exists'.1 (hfound y hy)
  have heq : a = b := by simpa [rankedIn, ha, hb] using heq
  have hindex := h.index_of_shasum _ _ ha
  rw [heq, h.index_of_shasum _ _ hb, Option.some.injEq] at hindex
  exact hne hindex.symm

/-- A stub is described by what the tables have about it. -/
theorem describes_rankedIn (h : Sound f) {store : Store} (hs : Shows t .keyword store f)
    {x : Scored} (hx : f (.stubShasum x.index) ≠ none) : Describes store x (rankedIn f x) := by
  obtain ⟨shasum, hshasum⟩ := Option.ne_none_iff_exists'.1 hx
  have hin : (rankedIn f x).shasum = shasum := by
    rw [rankedIn, hshasum]
    rfl
  refine ⟨?_, rfl, _, (takes_summary? h _ store hs).1, rfl⟩
  rw [hin]
  exact (takes_shasum hshasum store hs).1

end Describe

/-! ## Pages of the ranking -/

/-- The hit for a page of the ranking and its position in it. -/
def hitOf (words : List String) (p : Ranked × Nat) : Hit :=
  { shasum := p.1.shasum, score := p.1.score, number := p.2 + 1, summary := p.1.summary,
    fragments := fragments words p.1.summary.description }

/-- The hits of a request; there are none if it is refused. -/
def hitsAt (store : Store) (defaultSize : Nat) (r : Request) : List Hit :=
  match ((search defaultSize r).run store).1 with
  | .ok results => results.hits
  | .error _ => []

section Pages

variable {ranked : List Ranked}

/-- A page of the ranking has the hits of its part of the list, with their positions in the whole
list. -/
theorem hits_ofRanking (hsmall : ranked.length ≤ largest) (defaultSize : Nat) (r : Request)
    (words : List String) :
    (Results.ofRanking defaultSize r words ranked).hits =
      window (ranked.zipIdx.map (hitOf words)) (r.page * pageSize defaultSize r)
        (some (pageSize defaultSize r)) := by
  rw [Results.ofRanking, window, window]
  dsimp only
  by_cases hoffset : r.page * pageSize defaultSize r ≤ largest
  · rw [Nat.min_eq_left hoffset]
    refine List.ext_getElem? fun i => ?_
    simp only [List.getElem?_map, List.getElem?_zipIdx, List.getElem?_take, List.getElem?_drop]
    split
    · cases ranked[r.page * pageSize defaultSize r + i]? with
      | none => rfl
      | some x => simp [hitOf]
    · rfl
  · -- Nothing is left behind an offset beyond the highest number, nor behind that number.
    have hbeyond : (ranked.zipIdx.map (hitOf words)).length ≤ r.page * pageSize defaultSize r := by
      rw [List.length_map, List.length_zipIdx]
      omega
    rw [Nat.min_eq_right (Nat.le_of_not_le hoffset), List.drop_of_length_le hsmall,
      List.drop_of_length_le hbeyond, List.take_nil, List.take_nil]
    rfl

/-- The pages of the ranking side by side have all of its hits. -/
theorem flatMap_hits_ofRanking (hsmall : ranked.length ≤ largest) (defaultSize : Nat) (r : Request)
    (words : List String) :
    ((List.range (ranked.length / pageSize defaultSize r + 1)).flatMap fun page =>
      (Results.ofRanking defaultSize { r with page } words ranked).hits)
      = ranked.zipIdx.map (hitOf words) := by
  have hpositive : 0 < pageSize defaultSize r := by
    unfold pageSize
    split <;> omega
  have hhits : ∀ page, (Results.ofRanking defaultSize { r with page } words ranked).hits
      = window (ranked.zipIdx.map (hitOf words)) (page * pageSize defaultSize r)
        (some (pageSize defaultSize r)) :=
    fun page => hits_ofRanking hsmall defaultSize { r with page } words
  rw [List.flatMap_congr fun page _ => hhits page]
  refine flatMap_window _ _ ?_
  rw [List.length_map, List.length_zipIdx, Nat.mul_comm]
  exact (Nat.lt_mul_div_succ _ hpositive).le

end Pages

/-! ## Pages with one word -/

section Words

open Text Text.WordBreak

/-- Characters are looked up in a table as its text is read. -/
theorem map_contains {cs chars : List Char} {answers : List Bool}
    (h : chars.map (fun c => CodeRanges.mem c.toNat (CodeRanges.readRanges none 0 cs)) = answers) :
    chars.map (CodeRanges.ofText (.ofList cs)).contains = answers := by
  rw [CodeRanges.ofText, String.toList_ofList]
  exact h

set_option maxRecDepth 100000 in
/-- Which characters of two words are letters or numbers. -/
theorem isAlphanumeric_words :
    ['f', '\u0345', '\n'].map isAlphanumeric = [true, true, false] := by
  have halphabetic : ['f', '\u0345', '\n'].map alphabetic.contains = [true, true, false] :=
    map_contains (by decide +kernel)
  have hnumber : ['\n'].map number.contains = [false] := map_contains (by decide +kernel)
  simp only [List.map_cons, List.map_nil, List.cons.injEq] at halphabetic hnumber
  simp [isAlphanumeric, halphabetic, hnumber]

set_option maxRecDepth 100000 in
/-- How the characters of two words are joined. -/
theorem classOf_words :
    ['f', 'o', '\x00', '\u0345'].map classOf = [.letter, .letter, .other, .extend] := by
  have hletter : ['f', 'o', '\x00', '\u0345'].map letter.contains
      = [true, true, false, false] := map_contains (by decide +kernel)
  have hnumeric : ['\x00', '\u0345'].map numeric.contains = [false, false] :=
    map_contains (by decide +kernel)
  have hextend : ['\x00', '\u0345'].map extend.contains = [false, true] :=
    map_contains (by decide +kernel)
  have hothers : ∀ table ∈ [katakana, hebrewLetter, WordBreak.connector, midLetter, midNumber,
      midBoth, newline, format, space, pictographic], ['\x00'].map table.contains = [false] := by
    simp only [List.forall_mem_cons]
    refine ⟨?_, ?_, ?_, ?_, ?_, ?_, ?_, ?_, ?_, ?_, nofun⟩
    all_goals exact map_contains (by decide +kernel)
  simp only [List.map_cons, List.map_nil, List.cons.injEq, List.forall_mem_cons]
    at hletter hnumeric hextend hothers
  simp [classOf, classOfTables, hletter, hnumeric, hextend, hothers]

/-- A word before line ends, the word alone, and a zero with a letter that is combined with it. -/
theorem words_fixed :
    words ['f', 'o', 'o', '\n', '\n'] = [(0, ['f', 'o', 'o'])] ∧
      words ['f', 'o', 'o'] = [(0, ['f', 'o', 'o'])] ∧
      words ['\x00', '\u0345'] = [(0, ['\x00', '\u0345'])] := by
  have hclasses := classOf_words
  have halphanumeric := isAlphanumeric_words
  simp only [List.map_cons, List.map_nil, List.cons.injEq] at hclasses halphanumeric
  have hend : classOf '\n' = .lineFeed := by decide
  have hsegments : ∀ cs classes segment more, cs.map classOf = classes →
      cut {} (cs.zip classes) = (segment, more) → segment ≠ [] →
        segments cs = segment :: more := by
    intro cs classes segment more hclasses hcut hsegment
    have hzip : cs.map (fun c => (c, classOf c)) = cs.zip classes := by
      rw [← hclasses, ← List.zip_map', List.map_id']
    rw [segments, hzip, hcut]
    cases segment with
    | nil => exact absurd rfl hsegment
    | cons c rest => rfl
  have hlines := hsegments ['f', 'o', 'o', '\n', '\n'] [.letter, .letter, .letter, .lineFeed,
    .lineFeed] ['f', 'o', 'o'] [['\n'], ['\n']] (by simp [hclasses, hend]) (by decide) (by decide)
  have hword := hsegments ['f', 'o', 'o'] [.letter, .letter, .letter] ['f', 'o', 'o'] []
    (by simp [hclasses]) (by decide) (by decide)
  have hzero := hsegments ['\x00', '\u0345'] [.other, .extend] ['\x00', '\u0345'] []
    (by simp [hclasses]) (by decide) (by decide)
  refine ⟨?_, ?_, ?_⟩
  · rw [words, hlines]
    simp [withOffsets, halphanumeric]
  · rw [words, hword]
    simp [withOffsets, halphanumeric]
  · rw [words, hzero]
    simp [withOffsets, halphanumeric]

/-- The words of a page and of two queries. -/
theorem terms_fixed :
    uniqueTerms "foo\n\n" = ["foo"] ∧ queryTerms "foo" = [⟨"foo", .should⟩] ∧
      queryTerms "foo \x00\u0345" = [⟨"foo", .should⟩, ⟨"\x00\u0345", .should⟩] := by
  obtain ⟨hlines, hword, hzero⟩ := words_fixed
  have hchunk : ∀ cs, splitSign cs = (.should, cs) → words cs = [(0, cs)] →
      byteLength cs ≤ maxTokenLength →
        chunkTerms maxTokenLength cs = [⟨.ofList (lowerChars cs), .should⟩] := by
    intro cs hsign hwords hlength
    rw [chunkTerms, hsign]
    simp [tokenizeWithin, hwords, hlength, numberTokens]
  have hfoo := hchunk ['f', 'o', 'o'] rfl hword (by decide)
  have hnul := hchunk ['\x00', '\u0345'] rfl hzero (by decide)
  have hlower : lowerChars ['f', 'o', 'o'] = ['f', 'o', 'o'] ∧
      lowerChars ['\x00', '\u0345'] = ['\x00', '\u0345'] := by decide +kernel
  rw [hlower.1] at hfoo
  rw [hlower.2] at hnul
  refine ⟨?_, ?_, ?_⟩
  · rw [uniqueTerms, uniqueTermsWithin, tokenizeWithin,
      show "foo\n\n".toList = ['f', 'o', 'o', '\n', '\n'] from rfl, hlines]
    decide +kernel
  · have hchunks : chunks "foo".toList = [['f', 'o', 'o']] := by decide +kernel
    rw [queryTerms, queryTermsWithin, hchunks, List.flatMap_singleton, hfoo]
    rfl
  · have hchunks : chunks "foo \x00\u0345".toList = [['f', 'o', 'o'], ['\x00', '\u0345']] := by
      decide +kernel
    rw [queryTerms, queryTermsWithin, hchunks, List.flatMap_cons, List.flatMap_singleton, hfoo,
      hnul]
    decide +kernel

end Words

/-- A page with its shasum that has a word as its title. -/
def titled (shasum : String) : Change :=
  .add { shasum, source := "a.md", mount := "/", language := "en", fallback := "en" }
    { shasum := "", source := "a.md", url := "/a", title := "foo", description := "",
      language := "en", format := "md", sectionName := "", permalink := none, redirects := [],
      translates := none, created := .epoch, updated := .epoch, content := "",
      frontmatter := ∅, context := ∅ }

/-- Of a page without content the title is visible. -/
theorem visibleText_titled {page : Page} (htitle : page.title = "foo")
    (hdescription : page.description = "") (hcontent : page.content = "")
    (hformat : page.format = "md") :
    Index.Keywords.visibleText .standard page = "foo\n\n" := by
  rw [Index.Keywords.visibleText, htitle, hdescription, hcontent, hformat]
  decide +kernel

/-- Adding the page under its title. -/
def addTitled (shasum : String) : Action Store Nat := do
  match ← Tables.stubIndex? .keyword shasum with
  | some _ => return 0
  | none =>
    let index ← Tables.ensureStub .keyword shasum
    Index.Keywords.addAll index ["foo"]
    Tables.setSummary .keyword shasum (Summary.encode ⟨"/a", "foo", "", "en"⟩)
    return 1

/-- The title is the only word of the page. -/
theorem serve_titled (s : Store) (shasums : List String) :
    serve .standard s (shasums.map titled)
      = shasums.foldl (fun s shasum => ((addTitled shasum).run s).2) s := by
  have haction : ∀ shasum, (titled shasum).action .standard = addTitled shasum := by
    intro shasum
    rw [titled, Change.action, Index.Keywords.add]
    rw [visibleText_titled rfl rfl rfl rfl, terms_fixed.1]
    rfl
  rw [serve, List.foldl_map]
  simp only [haction]

/-! ## Answers of a search -/

section Answers

variable {f : Fields} {t : Namespace → Fields} {query : String}

/-- The ranking of the stubs that were scored: each of them once that is in the language, in
order. -/
structure Ranks (store : Store) (locale : Option String) (found : List Scored)
    (ranked : List Ranked) : Prop where
  described : ∃ described, List.Forall₂ (Describes store) found described ∧
    ranked.Perm (described.filter fun r => InLocale locale r.summary.language)
  nodup : (ranked.map (·.shasum)).Nodup
  ordered : ranked.Pairwise Outranks

/-- What is scored for a query has stubs of its own, each of them posted under a word. -/
theorem exists_takes_score (h : Sound f)
    (hwords : ∀ term ∈ queryTerms query, '\x00' ∉ term.text.toList) :
    ∃ found, Takes (Shows t .keyword) (score .keyword (queryTerms query)) f (.ok found) f ∧
      (found.map (·.index)).Nodup ∧ ∀ x ∈ found, f (.stubShasum x.index) ≠ none := by
  have hnames : ∀ term ∈ queryTerms query, isName term.text = true :=
    fun term hterm => (isName_queryTerm_iff hterm).2 (hwords term hterm)
  obtain ⟨hnodup, hmem⟩ := scorePosted_spec (postingsOf f) (queryTerms query)
  refine ⟨_, takes_score takes_postingsOf hnames, hnodup, fun x hx => ?_⟩
  obtain ⟨word, hposted⟩ := exists_posted_of_qualifies ((hmem x).1 hx).1
  unfold postingsOf at hposted
  split at hposted
  case isTrue hword => exact h.shasum_of_posted ⟨word, hword⟩ x.index hposted
  case isFalse => exact absurd hposted StubSet.not_mem_empty

/-- What was scored and is in the language. -/
def foundIn (f : Fields) (locale : Option String) (found : List Scored) : List Ranked :=
  (found.map (rankedIn f)).filter fun r => matchesLocale locale r.summary.language

/-- No shasum was found twice. -/
theorem nodup_foundIn (h : Sound f) {locale : Option String} {found : List Scored}
    (hnodup : (found.map (·.index)).Nodup) (hfound : ∀ x ∈ found, f (.stubShasum x.index) ≠ none) :
    ((foundIn f locale found).map (·.shasum)).Nodup :=
  (nodup_rankedIn h hnodup hfound).sublist ((List.filter_sublist ..).map _)

/-- What was found is ranked. -/
theorem ranks_foundIn (h : Sound f) {store : Store} (hs : Shows t .keyword store f)
    {locale : Option String} {found : List Scored} (hnodup : (found.map (·.index)).Nodup)
    (hfound : ∀ x ∈ found, f (.stubShasum x.index) ≠ none) :
    Ranks store locale found (rank (foundIn f locale found)) := by
  have hshasums : ((foundIn f locale found).map (·.shasum)).Nodup := nodup_foundIn h hnodup hfound
  have hlocale : (found.map (rankedIn f)).filter (fun r => InLocale locale r.summary.language)
      = foundIn f locale found :=
    List.filter_congr fun r _ => by rw [Bool.eq_iff_iff, decide_eq_true_eq, matchesLocale_iff]
  constructor
  case described =>
    refine ⟨found.map (rankedIn f), ?_, ?_⟩
    · rw [List.forall₂_map_right_iff, List.forall₂_same]
      exact fun x hx => describes_rankedIn h hs (hfound x hx)
    · rw [hlocale]
      exact rank_perm _
  case nodup => exact ((rank_perm _).map _).nodup_iff.2 hshasums
  case ordered => exact pairwise_rank hshasums

/-- Searching describes what was scored and ranks what is in the language. -/
theorem takes_search (h : Sound f) (r : Request) {found : List Scored}
    (hscore : Takes (Shows t .keyword) (score .keyword (queryTerms r.query)) f (.ok found) f)
    (hfound : ∀ x ∈ found, f (.stubShasum x.index) ≠ none) (defaultSize : Nat) :
    Takes (Shows t .keyword) (search defaultSize r) f
      (.ok (.ofRanking defaultSize r (positiveWords (queryTerms r.query))
        (rank (foundIn f r.locale found)))) f :=
  Takes.bind (Takes.bind hscore (Takes.bind (takes_describe h hfound) (Takes.pure _)))
    (Takes.pure _)

/-- A query one of whose words holds a zero is refused for such a word. -/
theorem takes_search_invalid (r : Request)
    (hwords : ∃ term ∈ queryTerms r.query, '\x00' ∈ term.text.toList) (defaultSize : Nat) :
    ∃ term ∈ queryTerms r.query, '\x00' ∈ term.text.toList ∧
      Takes (Shows t .keyword) (search defaultSize r) f (.error (.invalidName term.text)) f := by
  obtain ⟨term, hterm, hzero⟩ := hwords
  have hname : ¬ isName term.text = true := by
    rw [isName_queryTerm_iff hterm, not_not]
    exact hzero
  obtain ⟨refused, hrefused, hname, hscore⟩ :=
    takes_score_invalid (takes_postingsOf (t := t) (f := f)) ⟨term, hterm, hname⟩
  rw [isName_queryTerm_iff hrefused, not_not] at hname
  exact ⟨refused, hrefused, hname, Takes.bind_error (Takes.bind_error hscore)⟩

end Answers

/-- What is scored has fewer stubs than an offset can count. -/
theorem length_le_largest {found : List Scored} (h : (found.map (·.index)).Nodup) :
    found.length ≤ largest := by
  have hle := length_le_size h
  rw [List.length_map] at hle
  exact Nat.le_trans hle (by decide)

/-- Whatever changes led to the index, a search whose words can be posted has one ranking: each stub
that is scored once, if it is in the language, the higher score first and then in the natural order
of the shasums, in whatever order the stubs are scored. Every page of every size is cut out of this
ranking and numbered by it, so that the pages side by side make it up. A query with another word is
refused. -/
theorem search_ranks {s : Store} (hs : s.Holds ∅) (formats : Formats) (ops : List Change)
    (query : String) (locale : Option String) :
    let store := serve formats s ops
    ((∀ term ∈ queryTerms query, '\x00' ∉ term.text.toList) →
      ∃ found ranked, ((score .keyword (queryTerms query)).run store).1 = .ok found ∧
        (found.map (·.index)).Nodup ∧ Ranks store locale found ranked ∧
        (∀ found', found'.Perm found → ∃ described,
          ((describe found').run store).1 = .ok described ∧
            rank (described.filter fun r => matchesLocale locale r.summary.language) = ranked) ∧
        ∀ defaultSize size,
          let hits := ranked.zipIdx.map (hitOf (positiveWords (queryTerms query)))
          let length := if size = 0 then max defaultSize 1 else size
          (∀ page, ∃ results,
            ((search defaultSize { locale, query, size, page }).run store).1 = .ok results ∧
              results.hits = (hits.drop (page * length)).take length ∧
              results.total = ranked.length ∧
              results.maxScore = (ranked.head?.map (·.score)).getD .zero) ∧
          ((List.range (ranked.length / length + 1)).flatMap fun page =>
            hitsAt store defaultSize { locale, query, size, page }) = hits) ∧
    ((∃ term ∈ queryTerms query, '\x00' ∈ term.text.toList) →
      ∀ defaultSize size page, ∃ term ∈ queryTerms query, '\x00' ∈ term.text.toList ∧
        ((search defaultSize { locale, query, size, page }).run store).1
          = .error (.invalidName term.text)) := by
  intro store
  have hstart : Shows (fun _ _ => none) .keyword s fun _ => none := by
    refine ⟨∅, hs, ?_⟩
    rw [Function.update_eq_self]
    exact Stored.empty
  obtain ⟨f, hshows, hsound⟩ := Sound.empty.serve hstart formats ops
  constructor
  · intro hwords
    obtain ⟨found, hscore, hnodup, hfound⟩ :=
      exists_takes_score (t := fun _ _ => none) hsound hwords
    set ranked := rank (foundIn f locale found) with hranked
    have hsearch : ∀ defaultSize size page,
        ((search defaultSize { locale, query, size, page }).run store).1
          = .ok (.ofRanking defaultSize { locale, query, size, page }
            (positiveWords (queryTerms query)) ranked) :=
      fun defaultSize size page => (takes_search hsound { locale, query, size, page } hscore hfound
        defaultSize store hshows).1
    have hsmall : ranked.length ≤ largest := by
      rw [hranked, (rank_perm _).length_eq]
      refine Nat.le_trans (List.length_filter_le ..) ?_
      rw [List.length_map]
      exact length_le_largest hnodup
    refine ⟨found, ranked, (hscore store hshows).1, hnodup,
      ranks_foundIn hsound hshows hnodup hfound, fun found' hperm => ?_, fun defaultSize size => ?_⟩
    · refine ⟨_, (takes_describe hsound (fun x hx => hfound x (hperm.mem_iff.1 hx)) store hshows).1,
        ?_⟩
      exact rank_eq_of_perm (nodup_foundIn hsound hnodup hfound) ((hperm.map _).filter _)
    · intro hits length
      refine ⟨fun page => ⟨_, hsearch defaultSize size page, ?_, rfl, rfl⟩, ?_⟩
      · exact hits_ofRanking hsmall defaultSize { locale, query, size, page } _
      · have hhits : ∀ page, hitsAt store defaultSize { locale, query, size, page }
            = (Results.ofRanking defaultSize { locale, query, size, page }
              (positiveWords (queryTerms query)) ranked).hits := by
          intro page
          rw [hitsAt, hsearch]
        rw [List.flatMap_congr fun page _ => hhits page]
        exact flatMap_hits_ofRanking hsmall defaultSize { locale, query, size } _
  · intro hzero defaultSize size page
    obtain ⟨term, hterm, hin, hrefused⟩ := takes_search_invalid (t := fun _ _ => none) (f := f)
      { locale, query, size, page } hzero defaultSize
    exact ⟨term, hterm, hin, (hrefused store hshows).1⟩

/-- Two pages whose scores are level, one to a page of the ranking. -/
theorem search_ranks_level :
    let store := serve .standard (.buffered (.make (.ofBackend .sqlite false) 2 3))
      (["p10", "p2"].map titled)
    ∃ ranked : List Ranked, ranked.length = 2 ∧ ranked.Pairwise Outranks ∧
      hitsAt store 10 { query := "foo", size := 1, page := 0 }
          ++ hitsAt store 10 { query := "foo", size := 1, page := 1 }
        = ranked.zipIdx.map (hitOf ["foo"]) := by
  intro store
  have hterms : queryTerms "foo" = [⟨"foo", .should⟩] := terms_fixed.2.1
  have hwords : ∀ term ∈ queryTerms "foo", '\x00' ∉ term.text.toList := by
    rw [hterms]
    decide
  have hscored : (((score .keyword (queryTerms "foo")).run store).1.map (·.map (·.index)))
      = .ok [0, 1] := by
    rw [hterms, show store = _ from serve_titled _ _]
    decide +kernel
  obtain ⟨found, ranked, hfound, _, hranks, _, hpages⟩ :=
    (search_ranks (Store.holds_buffered .sqlite 2 3) .standard (["p10", "p2"].map titled)
      "foo" none).1 hwords
  obtain ⟨described, hdescribed, hperm⟩ := hranks.described
  have hall : described.filter (fun r => InLocale none r.summary.language) = described :=
    List.filter_eq_self.2 fun r _ => by simp [InLocale]
  have hlength : ranked.length = 2 := by
    rw [hfound] at hscored
    have hcount := congrArg List.length (Except.ok.inj hscored)
    rw [hperm.length_eq, hall, ← hdescribed.length_eq, ← List.length_map (f := (·.index)), hcount]
    rfl
  refine ⟨ranked, hlength, hranks.ordered, ?_⟩
  obtain ⟨hpage, _⟩ := hpages 10 1
  obtain ⟨first, hfirst, hfirstHits, _⟩ := hpage 0
  obtain ⟨second, hsecond, hsecondHits, _⟩ := hpage 1
  rw [hitsAt, hitsAt, hfirst, hsecond]
  show first.hits ++ second.hits = _
  rw [hfirstHits, hsecondHits, hterms]
  show (ranked.zipIdx.map (hitOf ["foo"])).take 1
    ++ ((ranked.zipIdx.map (hitOf ["foo"])).drop 1).take 1 = _
  rw [← List.take_add]
  exact List.take_of_length_le (by rw [List.length_map, List.length_zipIdx, hlength])

/-- A word with a zero cannot have postings, so that the pages with another word of the query are
not found either. -/
theorem search_unnamed :
    let store := serve .standard (.buffered (.make (.ofBackend .sqlite false) 2 3))
      (["a"].map titled)
    (((score .keyword (queryTerms "foo")).run store).1.map (·.map (·.index))) = .ok [0] ∧
      ((search 10 { query := "foo \x00\u0345", size := 1 }).run store).1
        = .error (.invalidName "\x00\u0345") := by
  intro store
  have hstore : store = ["a"].foldl (fun s shasum => ((addTitled shasum).run s).2)
      (.buffered (.make (.ofBackend .sqlite false) 2 3)) := serve_titled _ _
  have hscore : ((score .keyword (queryTerms "foo \x00\u0345")).run store).1
      = .error (.invalidName "\x00\u0345") := by
    rw [terms_fixed.2.2, hstore]
    decide +kernel
  have hranking : ((ranking none (queryTerms "foo \x00\u0345")).run store).1
      = .error (.invalidName "\x00\u0345") := by
    rw [ranking, Action.run_bind_of_error hscore]
  constructor
  · rw [terms_fixed.2.1, hstore]
    decide +kernel
  · rw [search, Action.run_bind_of_error hranking]

end SiteIndex.Search
