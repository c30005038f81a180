import Mathlib.Data.List.Induction
import SiteIndex.Engine
import SiteIndex.Proofs.Index.Lexicon
import SiteIndex.Proofs.Index.Runs

/-!
# The indexes of an engine

An engine keeps its two indexes in one store, each in a namespace of its own. `Keeps` says that a
store stands for a reference and a lexicon at the same time, so that what is known of one index
holds whatever is done to the other (`takes_context`, `takes_keyword`).

The engine adds a page to both indexes and takes it out of both. `Mirrors` says that the indexes
have the same pages, each under the attributes and the words of one page that was made for it.
Requests that succeed keep this; a page that the engine has already stays as it was first added.
-/

namespace SiteIndex.Engine

open Index
open Markup (Formats)
open Page (Stub)
open Posting
open Store (Namespace OrderedMap)
open Store.Key (isName)
open SiteIndex.Action (Takes)

/-! ## Both indexes in one store -/

/-- A store stands for a reference and a lexicon. -/
def Keeps (used : Value → Prop) (s : Store) (v : Reference × Lexicon) : Prop :=
  ∃ m t, s.Holds m ∧ Stored m t ∧ Follows used (t .context) v.1 ∧ Records (t .keyword) v.2

section Keeps

variable {used : Value → Prop} {α : Type} {x : Action Store α} {r r' : Reference} {l l' : Lexicon}
  {out : Outcome α}

/-- An empty store stands for empty indexes. -/
theorem keeps_empty {s : Store} (hs : s.Holds ∅) : Keeps used s ({}, {}) :=
  ⟨∅, fun _ _ => none, hs, Stored.empty, Follows.empty, Records.empty⟩

/-- What is done to the index of attributes leaves that of keywords alone. -/
theorem takes_context (h : ∀ t, Takes (Stands used t) x r out r') :
    Takes (Keeps used) x (r, l) out (r', l) := by
  rintro s ⟨m, t, hs, hm, hr, hl⟩
  have hstands : Stands used t s r := ⟨t .context, ⟨m, hs, by rwa [Function.update_eq_self]⟩, hr⟩
  obtain ⟨hout, f, ⟨m', hs', hm'⟩, hr'⟩ := h t s hstands
  have hne : Namespace.keyword ≠ .context := nofun
  refine ⟨hout, m', Function.update t .context f, hs', hm', ?_, ?_⟩
  · rwa [Function.update_self]
  · rwa [Function.update_of_ne hne]

/-- What is done to the index of keywords leaves that of attributes alone. -/
theorem takes_keyword (h : ∀ t, Takes (Recorded t) x l out l') :
    Takes (Keeps used) x (r, l) out (r, l') := by
  rintro s ⟨m, t, hs, hm, hr, hl⟩
  have hrecorded : Recorded t s l := ⟨t .keyword, ⟨m, hs, by rwa [Function.update_eq_self]⟩, hl⟩
  obtain ⟨hout, f, ⟨m', hs', hm'⟩, hl'⟩ := h t s hrecorded
  have hne : Namespace.context ≠ .keyword := nofun
  refine ⟨hout, m', Function.update t .keyword f, hs', hm', ?_, ?_⟩
  · rwa [Function.update_of_ne hne]
  · rwa [Function.update_self]

end Keeps

/-! ## Requests to an engine -/

/-- The attributes of a page with their values. -/
def pairsOf (page : Page) : List (String × Value) := Attributes.postings page.context

/-- The words of a page. -/
def wordsOf (formats : Formats) (page : Page) : List String :=
  Search.uniqueTerms (Keywords.visibleText formats page)

/-- The attributes and the words of a page are names, so that each can have a list in the store. -/
structure Named (formats : Formats) (page : Page) : Prop where
  attributes : ∀ p ∈ pairsOf page, isName p.1 = true
  words : ∀ word ∈ wordsOf formats page, isName word = true

/-- The engine has the configuration and the formats, and its store stands for the indexes. -/
def Serves (used : Value → Prop) (config : Config) (formats : Formats) (e : Engine)
    (v : Reference × Lexicon) : Prop :=
  e.config = config ∧ e.formats = formats ∧ Keeps used e.store v

section Requests

variable {used : Value → Prop} {config : Config} {formats : Formats} {r : Reference} {l : Lexicon}
  {stub : Stub} {page : Page}

/-- An action on the store of an engine. -/
theorem takes_onStore {α : Type} {x : Action Store α} {v w : Reference × Lexicon} {out : Outcome α}
    (h : Takes (Keeps used) x v out w) :
    Takes (Serves used config formats) (onStore x) v out w := by
  rintro e ⟨hconfig, hformats, hkeeps⟩
  obtain ⟨hout, hkeeps'⟩ := h e.store hkeeps
  exact ⟨hout, hconfig, hformats, hkeeps'⟩

/-- A setting of the engine is read. -/
theorem takes_config {α : Type} (f : Config → α) (v : Reference × Lexicon) :
    Takes (Serves used config formats) (Action.inspect fun e => f e.config) v
      (.ok (f config)) v := by
  rintro e ⟨rfl, hrest⟩
  exact ⟨rfl, rfl, hrest⟩

/-- The formats of the engine are read. -/
theorem takes_formats (v : Reference × Lexicon) :
    Takes (Serves used config formats) (Action.inspect (·.formats)) v (.ok formats) v := by
  rintro e ⟨hconfig, rfl, hkeeps⟩
  exact ⟨rfl, hconfig, rfl, hkeeps⟩

/-- Posting a page under its attributes does what the reference says. -/
theorem takes_addAttributes (hdistinct : Distinct used) (hused : ∀ p ∈ pairsOf page, used p.2)
    (hfits : (r.add stub.shasum (pairsOf page)).2.Fits) :
    Takes (Serves used config formats) (addAttributes stub page) (r, l)
      (r.add stub.shasum (pairsOf page)).1 ((r.add stub.shasum (pairsOf page)).2, l) :=
  takes_onStore (takes_context fun _ => takes_add hdistinct stub page hused hfits)

/-- Posting a page under its words does what the lexicon says. -/
theorem takes_addKeywords (hnumbered : (l.add stub.shasum (wordsOf formats page)
      (Keywords.summaryOf page)).2.numbered < UInt32.size) :
    Takes (Serves used config formats) (addKeywords stub page) (r, l)
      (l.add stub.shasum (wordsOf formats page) (Keywords.summaryOf page)).1
      (r, (l.add stub.shasum (wordsOf formats page) (Keywords.summaryOf page)).2) :=
  Takes.bind (takes_formats _)
    (takes_onStore (takes_keyword fun _ => takes_addWords formats stub page hnumbered))

/-- An engine that is written goes past the check whether it is only read. -/
theorem takes_writable {v : Reference × Lexicon} (hwritable : config.readOnly = false) :
    Takes (Serves used config formats) (Action.inspect (·.config.readOnly)) v (.ok false) v :=
  hwritable ▸ takes_config (·.readOnly) v

section Adding

variable (hwritable : config.readOnly = false) (hdistinct : Distinct used)
  (hused : ∀ p ∈ pairsOf page, used p.2) (hfits : (r.add stub.shasum (pairsOf page)).2.Fits)

include hwritable hdistinct hused hfits

/-- A page that the attributes reject does not come to the words. -/
theorem takes_addPage_of_attributes_error {fault : Failure}
    (hr : (r.add stub.shasum (pairsOf page)).1 = .error fault) :
    Takes (Serves used config formats) (add stub page) (r, l) (.error fault)
      ((r.add stub.shasum (pairsOf page)).2, l) :=
  Takes.bind (takes_writable hwritable)
    (Takes.bind_error (hr ▸ takes_addAttributes hdistinct hused hfits))

/-- A page that is rejected by its words stays under its attributes. -/
theorem takes_addPage_of_words_error {count : Nat} {fault : Failure}
    (hnumbered : (l.add stub.shasum (wordsOf formats page)
      (Keywords.summaryOf page)).2.numbered < UInt32.size)
    (hr : (r.add stub.shasum (pairsOf page)).1 = .ok count)
    (hl : (l.add stub.shasum (wordsOf formats page) (Keywords.summaryOf page)).1 = .error fault) :
    Takes (Serves used config formats) (add stub page) (r, l) (.error fault)
      ((r.add stub.shasum (pairsOf page)).2,
        (l.add stub.shasum (wordsOf formats page) (Keywords.summaryOf page)).2) :=
  Takes.bind (takes_writable hwritable)
    (Takes.bind (hr ▸ takes_addAttributes hdistinct hused hfits)
      (Takes.bind_error (hl ▸ takes_addKeywords hnumbered)))

/-- A page is accepted if both indexes accept it. -/
theorem takes_addPage_of_ok {count words : Nat}
    (hnumbered : (l.add stub.shasum (wordsOf formats page)
      (Keywords.summaryOf page)).2.numbered < UInt32.size)
    (hr : (r.add stub.shasum (pairsOf page)).1 = .ok count)
    (hl : (l.add stub.shasum (wordsOf formats page) (Keywords.summaryOf page)).1 = .ok words) :
    Takes (Serves used config formats) (add stub page) (r, l) (.ok ())
      ((r.add stub.shasum (pairsOf page)).2,
        (l.add stub.shasum (wordsOf formats page) (Keywords.summaryOf page)).2) :=
  Takes.bind (takes_writable hwritable)
    (Takes.bind (hr ▸ takes_addAttributes hdistinct hused hfits)
      (Takes.bind (hl ▸ takes_addKeywords hnumbered) (Takes.pure ())))

/-- If an engine that is written accepts a page, both indexes have accepted it. -/
theorem accepts_of_add {e : Engine} (h : Serves used config formats e (r, l))
    (hnumbered : (l.add stub.shasum (wordsOf formats page)
      (Keywords.summaryOf page)).2.numbered < UInt32.size)
    (hok : ((add stub page).run e).1 = .ok ()) :
    (∃ count, (r.add stub.shasum (pairsOf page)).1 = .ok count) ∧
      (∃ words,
        (l.add stub.shasum (wordsOf formats page) (Keywords.summaryOf page)).1 = .ok words) ∧
      Serves used config formats ((add stub page).run e).2
        ((r.add stub.shasum (pairsOf page)).2,
          (l.add stub.shasum (wordsOf formats page) (Keywords.summaryOf page)).2) := by
  cases hr : (r.add stub.shasum (pairsOf page)).1 with
  | error fault =>
      have hrefused :=
        (takes_addPage_of_attributes_error hwritable hdistinct hused hfits hr e h).1
      cases hrefused.symm.trans hok
  | ok count =>
      cases hl : (l.add stub.shasum (wordsOf formats page) (Keywords.summaryOf page)).1 with
      | error fault =>
          have hrefused :=
            (takes_addPage_of_words_error hwritable hdistinct hused hfits hnumbered hr hl e h).1
          cases hrefused.symm.trans hok
      | ok words =>
          exact ⟨⟨count, rfl⟩, ⟨words, rfl⟩,
            (takes_addPage_of_ok hwritable hdistinct hused hfits hnumbered hr hl e h).2⟩

/-- An engine that is written accepts a page whose attributes and words are names. -/
theorem takes_addPage (hnumbered : (l.add stub.shasum (wordsOf formats page)
      (Keywords.summaryOf page)).2.numbered < UInt32.size) (hnamed : Named formats page) :
    Takes (Serves used config formats) (add stub page) (r, l) (.ok ())
      ((r.add stub.shasum (pairsOf page)).2,
        (l.add stub.shasum (wordsOf formats page) (Keywords.summaryOf page)).2) := by
  obtain ⟨count, hr⟩ := Reference.add_ok_of_names r stub.shasum hnamed.attributes
  obtain ⟨words, hl⟩ := Lexicon.add_ok_of_names l stub.shasum (Keywords.summaryOf page) hnamed.words
  exact takes_addPage_of_ok hwritable hdistinct hused hfits hnumbered hr hl

end Adding

/-- An engine that is written takes a page out of both indexes. -/
theorem takes_removePage (hwritable : config.readOnly = false) (hdistinct : Distinct used)
    (stub : Stub) : Takes (Serves used config formats) (remove stub) (r, l) (.ok ())
      ((r.remove stub.shasum).2, (l.remove stub.shasum).2) := by
  have hattributes : Takes (Serves used config formats) (removeAttributes stub) (r, l)
      (.ok (r.remove stub.shasum).1) ((r.remove stub.shasum).2, l) :=
    takes_onStore (takes_context fun _ => takes_remove hdistinct stub)
  have hkeywords : Takes (Serves used config formats) (removeKeywords stub)
      ((r.remove stub.shasum).2, l) (.ok (l.remove stub.shasum).1)
      ((r.remove stub.shasum).2, (l.remove stub.shasum).2) :=
    takes_onStore (takes_keyword fun _ => takes_removeWords stub)
  exact Takes.bind (takes_writable hwritable)
    (Takes.bind hattributes (Takes.bind hkeywords (Takes.pure ())))

end Requests

/-! ## The pages that an engine has -/

/-- The pages that are kept with one more: of a shasum that is there the page stays. -/
def keep (seen : String → Option Page) (shasum : String) (page : Page) : String → Option Page :=
  Function.update seen shasum (some ((seen shasum).getD page))

/-- The pages that are kept without one. -/
def drop (seen : String → Option Page) (shasum : String) : String → Option Page :=
  Function.update seen shasum none

section Kept

variable {seen : String → Option Page} {shasum other : String} {page : Page} {Q : Page → Prop}

/-- Nothing changes if the shasum has a page. -/
theorem keep_of_some {old : Page} (h : seen shasum = some old) : keep seen shasum page = seen := by
  rw [keep, h]
  exact h ▸ Function.update_eq_self shasum seen

/-- A shasum without a page is given one. -/
theorem keep_of_none (h : seen shasum = none) (other : String) :
    keep seen shasum page other = if other = shasum then some page else seen other := by
  rw [keep, h]
  exact Function.update_apply ..

/-- The shasums with a page are one more, or as before. -/
theorem keep_ne_none : keep seen shasum page other ≠ none ↔ other = shasum ∨ seen other ≠ none := by
  rw [keep, Function.update_apply]
  by_cases hother : other = shasum <;> simp [hother]

/-- The page is the new one, or one of those before. -/
theorem exists_keep (h : seen shasum = none) :
    (∃ kept, keep seen shasum page other = some kept ∧ Q kept) ↔
      (Q page ∧ other = shasum) ∨ ∃ kept, seen other = some kept ∧ Q kept := by
  rw [keep_of_none h]
  by_cases hother : other = shasum <;> simp [hother, h]

/-- The other shasums have their pages as before. -/
theorem drop_apply (other : String) :
    drop seen shasum other = if other = shasum then none else seen other :=
  Function.update_apply ..

/-- The shasums with a page are one less, or as before. -/
theorem drop_ne_none : drop seen shasum other ≠ none ↔ seen other ≠ none ∧ other ≠ shasum := by
  rw [drop_apply]
  by_cases hother : other = shasum <;> simp [hother]

/-- The page is one of those before, under another shasum. -/
theorem exists_drop :
    (∃ kept, drop seen shasum other = some kept ∧ Q kept) ↔
      (∃ kept, seen other = some kept ∧ Q kept) ∧ other ≠ shasum := by
  rw [drop_apply]
  by_cases hother : other = shasum <;> simp [hother]

end Kept

/-- The indexes have the pages of `seen`, each under its attributes and its words. -/
structure Mirrors (formats : Formats) (seen : String → Option Page) (r : Reference) (l : Lexicon) :
    Prop where
  live : ∀ shasum, shasum ∈ r.live ↔ seen shasum ≠ none
  posted : ∀ p shasum, r.Posted p shasum ↔ ∃ page, seen shasum = some page ∧ p ∈ pairsOf page
  shasums : ∀ shasum, shasum ∈ l.shasums ↔ seen shasum ≠ none
  documents : ∀ d ∈ l.documents, ∃ page, seen d.shasum = some page ∧
    d.words = wordsOf formats page ∧ d.summary = some (Keywords.summaryOf page)
  numbered : l.numbered = r.numbered

namespace Mirrors

variable {formats : Formats} {seen : String → Option Page} {r : Reference} {l : Lexicon}
  {shasum : String} {page : Page}

/-- Empty indexes have no pages. -/
theorem empty : Mirrors formats (fun _ => none) {} {} where
  live _ := ⟨nofun, fun h => absurd rfl h⟩
  posted _ _ := ⟨nofun, nofun⟩
  shasums _ := ⟨nofun, fun h => absurd rfl h⟩
  documents := nofun
  numbered := rfl

/-- Both indexes number the same pages. -/
theorem numbered_add (h : Mirrors formats seen r l) (shasum : String)
    (pairs : List (String × Value)) (words : List String) (summary : Summary) :
    (l.add shasum words summary).2.numbered = (r.add shasum pairs).2.numbered := by
  by_cases hlive : shasum ∈ r.live
  · have hmem : shasum ∈ l.shasums := (h.shasums shasum).2 ((h.live shasum).1 hlive)
    rw [Reference.add, if_pos hlive, Lexicon.add, if_pos hmem]
    exact h.numbered
  · have hmem : shasum ∉ l.shasums := fun hmem =>
      hlive ((h.live shasum).2 ((h.shasums shasum).1 hmem))
    rw [Lexicon.numbered_add hmem, Reference.add, if_neg hlive, Reference.numbered_foldl_post,
      h.numbered]
    rfl

/-- A page that both indexes accept is kept. -/
theorem add (h : Mirrors formats seen r l) {count words : Nat}
    (hr : (r.add shasum (pairsOf page)).1 = .ok count)
    (hl : (l.add shasum (wordsOf formats page) (Keywords.summaryOf page)).1 = .ok words) :
    Mirrors formats (keep seen shasum page) (r.add shasum (pairsOf page)).2
      (l.add shasum (wordsOf formats page) (Keywords.summaryOf page)).2 := by
  cases hseen : seen shasum with
  | some old =>
      have hlive : shasum ∈ r.live := (h.live shasum).2 (by rw [hseen]; nofun)
      have hmem : shasum ∈ l.shasums := (h.shasums shasum).2 (by rw [hseen]; nofun)
      rw [Reference.add, if_pos hlive, Lexicon.add, if_pos hmem, keep_of_some hseen]
      exact h
  | none =>
      have hlive : shasum ∉ r.live := fun hlive => (h.live shasum).1 hlive hseen
      have hmem : shasum ∉ l.shasums := fun hmem => (h.shasums shasum).1 hmem hseen
      have hnumbered := h.numbered_add shasum (pairsOf page) (wordsOf formats page)
        (Keywords.summaryOf page)
      rw [Reference.add_of_ok hlive hr, Lexicon.add_of_ok hmem hl] at hnumbered ⊢
      constructor
      case live =>
        intro other
        rw [Reference.live_foldl_post, keep_ne_none, or_comm, ← h.live, ← List.mem_singleton]
        exact List.mem_append
      case posted =>
        intro p other
        rw [Reference.posted_foldl_post, exists_keep hseen, ← h.posted]
        rfl
      case shasums =>
        intro other
        rw [Records.shasums_push, keep_ne_none, or_comm, ← h.shasums, ← List.mem_singleton]
        exact List.mem_append
      case documents =>
        intro d hd
        rw [exists_keep hseen]
        rcases Records.mem_documents_push.1 hd with hd | rfl
        · exact .inr (h.documents d hd)
        · exact .inl ⟨⟨by dsimp only, rfl⟩, by dsimp only⟩
      case numbered => exact hnumbered

/-- A page that is taken out of both indexes is not kept. -/
theorem remove (h : Mirrors formats seen r l) (shasum : String) :
    Mirrors formats (drop seen shasum) (r.remove shasum).2 (l.remove shasum).2 := by
  constructor
  case live =>
    intro other
    rw [drop_ne_none, Reference.mem_live_remove, h.live]
  case posted =>
    intro p other
    rw [exists_drop, ← h.posted]
    exact Reference.posted_remove (Reference.live_of_posted (h.live _) (h.posted _ _))
  case shasums =>
    intro other
    rw [Records.shasums_remove, List.mem_filter, h.shasums, drop_ne_none, decide_eq_true_eq]
  case documents =>
    intro d hd
    obtain ⟨hd, hne⟩ := List.mem_filter.1 hd
    exact exists_drop.2 ⟨h.documents d hd, of_decide_eq_true hne⟩
  case numbered => exact h.numbered.trans (r.counters_remove shasum).1.symm

/-- A page that is kept has its words and its summary in the lexicon. -/
theorem exists_document (h : Mirrors formats seen r l) (hseen : seen shasum = some page) :
    ∃ d ∈ l.documents, d.shasum = shasum ∧ d.words = wordsOf formats page := by
  have hmem : shasum ∈ l.shasums := (h.shasums shasum).2 (by rw [hseen]; nofun)
  obtain ⟨d, hd, rfl⟩ := List.mem_map.1 hmem
  obtain ⟨other, hother, hwords, _⟩ := h.documents d hd
  obtain rfl : other = page := Option.some.inj (hother.symm.trans hseen)
  exact ⟨d, hd, rfl, hwords⟩

/-- A value of an attribute lists the pages that carry it. -/
theorem listed_iff (h : Mirrors formats seen r l) (name : String) (value : Value)
    (shasum : String) :
    (∃ stubs, (value, stubs) ∈ r.values name ∧ shasum ∈ stubs) ↔
      ∃ page, seen shasum = some page ∧ (name, value) ∈ pairsOf page := by
  rw [← h.posted]
  constructor
  · rintro ⟨stubs, hvalue, hshasum⟩
    exact ⟨_, Reference.mem_values_iff.1 hvalue, rfl, hshasum⟩
  · rintro ⟨⟨_, _, stubs⟩, hrow, ⟨⟩, hshasum⟩
    exact ⟨stubs, Reference.mem_values_iff.2 hrow, hshasum⟩

/-- A word lists the pages that have it. -/
theorem mem_holding_iff (h : Mirrors formats seen r l) (word shasum : String) :
    shasum ∈ l.holding word ↔
      ∃ page, seen shasum = some page ∧ word ∈ wordsOf formats page := by
  rw [Lexicon.holding, List.mem_map]
  constructor
  · rintro ⟨d, hd, rfl⟩
    obtain ⟨hd, hword⟩ := List.mem_filter.1 hd
    obtain ⟨page, hpage, hwords, _⟩ := h.documents d hd
    exact ⟨page, hpage, hwords ▸ of_decide_eq_true hword⟩
  · rintro ⟨page, hpage, hword⟩
    obtain ⟨d, hd, rfl, hwords⟩ := h.exists_document hpage
    exact ⟨d, List.mem_filter.2 ⟨hd, decide_eq_true (hwords ▸ hword)⟩, rfl⟩

/-- The summaries are those of the pages that are kept. -/
theorem summaryOf?_eq (h : Mirrors formats seen r l) (shasum : String) :
    l.summaryOf? shasum = (seen shasum).map Keywords.summaryOf := by
  rw [Lexicon.summaryOf?]
  cases hfind : l.documents.find? (·.shasum = shasum) with
  | none =>
      have hmem : shasum ∉ l.shasums := by
        intro hmem
        obtain ⟨d, hd, hshasum⟩ := List.mem_map.1 hmem
        exact List.find?_eq_none.1 hfind d hd (decide_eq_true hshasum)
      rw [h.shasums, not_not] at hmem
      rw [hmem]
      rfl
  | some d =>
      obtain rfl : d.shasum = shasum := by simpa using List.find?_some hfind
      obtain ⟨page, hpage, _, hsummary⟩ := h.documents d (List.mem_of_find?_eq_some hfind)
      rw [hpage]
      exact hsummary

end Mirrors

/-- After the changes of the index of attributes that are `done`, the engine has the pages of
`seen` in both indexes. -/
def Tracks (used : Value → Prop) (config : Config) (formats : Formats) (done : List Change)
    (seen : String → Option Page) (e : Engine) : Prop :=
  ∃ l, Serves used config formats e ((refer {} done).2, l) ∧
    Mirrors formats seen (refer {} done).2 l

namespace Tracks

variable {used : Value → Prop} {config : Config} {formats : Formats} {done : List Change}
  {seen : String → Option Page} {e : Engine}

/-- An engine over an empty store has no pages. -/
theorem empty (hs : e.store.Holds ∅) : Tracks used e.config e.formats [] (fun _ => none) e :=
  ⟨{}, ⟨rfl, rfl, keeps_empty hs⟩, Mirrors.empty⟩

/-- A page that the engine accepts is kept. -/
theorem add (h : Tracks used config formats done seen e) (hwritable : config.readOnly = false)
    (hdistinct : Distinct used) {stub : Stub} {page : Page} (hused : ∀ p ∈ pairsOf page, used p.2)
    (hfits : (refer {} (done ++ [.add stub page])).2.Fits)
    (hok : ((indexer.add stub page).run e).1 = .ok ()) :
    Tracks used config formats (done ++ [.add stub page]) (keep seen stub.shasum page)
      ((indexer.add stub page).run e).2 := by
  obtain ⟨l, hserves, hmirrors⟩ := h
  have hrefer : (refer {} (done ++ [.add stub page])).2
      = ((refer {} done).2.add stub.shasum (pairsOf page)).2 := refer_concat {} done _
  rw [hrefer] at hfits
  have hnumbered := hmirrors.numbered_add stub.shasum (pairsOf page) (wordsOf formats page)
    (Keywords.summaryOf page)
  obtain ⟨⟨count, hr⟩, ⟨words, hl⟩, hserves'⟩ :=
    accepts_of_add hwritable hdistinct hused hfits hserves (hnumbered ▸ hfits.1) hok
  exact ⟨_, hrefer ▸ hserves', hrefer ▸ hmirrors.add hr hl⟩

/-- A page whose attributes and words are names is accepted. -/
theorem accepts (h : Tracks used config formats done seen e) (hwritable : config.readOnly = false)
    (hdistinct : Distinct used) {stub : Stub} {page : Page} (hused : ∀ p ∈ pairsOf page, used p.2)
    (hfits : (refer {} (done ++ [.add stub page])).2.Fits) (hnamed : Named formats page) :
    ((indexer.add stub page).run e).1 = .ok () := by
  obtain ⟨l, hserves, hmirrors⟩ := h
  rw [refer_concat] at hfits
  have hnumbered := hmirrors.numbered_add stub.shasum (pairsOf page) (wordsOf formats page)
    (Keywords.summaryOf page)
  exact (takes_addPage hwritable hdistinct hused hfits (hnumbered ▸ hfits.1) hnamed e hserves).1

/-- A page that is taken out is not kept. -/
theorem remove (h : Tracks used config formats done seen e) (hwritable : config.readOnly = false)
    (hdistinct : Distinct used) (stub : Stub) :
    Tracks used config formats (done ++ [.remove stub]) (drop seen stub.shasum)
      ((indexer.remove stub).run e).2 := by
  obtain ⟨l, hserves, hmirrors⟩ := h
  have hrefer : (refer {} (done ++ [.remove stub])).2
      = ((refer {} done).2.remove stub.shasum).2 := refer_concat {} done _
  refine ⟨_, ?_, hrefer ▸ hmirrors.remove stub.shasum⟩
  rw [hrefer]
  exact (takes_removePage hwritable hdistinct stub e hserves).2

/-- Pages that the engine accepts one after the other are kept. -/
theorem addAll (h : Tracks used config formats done seen e) (hwritable : config.readOnly = false)
    (hdistinct : Distinct used) {pages : List (Stub × Page)}
    (hused : ∀ entry ∈ pages, ∀ p ∈ pairsOf entry.2, used p.2)
    (hfits : ∀ front, front <+: pages.map (fun entry => Change.add entry.1 entry.2) →
      (refer {} (done ++ front)).2.Fits)
    (hok : ((pages.forM fun entry => indexer.add entry.1 entry.2).run e).1 = .ok ()) :
    Tracks used config formats (done ++ pages.map fun entry => .add entry.1 entry.2)
      (pages.foldl (fun seen entry => keep seen entry.1.shasum entry.2) seen)
      ((pages.forM fun entry => indexer.add entry.1 entry.2).run e).2 := by
  refine Action.forM_induction (motive := fun front e => Tracks used config formats
    (done ++ front.map fun entry => .add entry.1 entry.2)
    (front.foldl (fun seen entry => keep seen entry.1.shasum entry.2) seen) e) ?_ ?_ hok
  · intro front entry e hfront ih hentry
    rw [List.map_append, ← List.append_assoc, List.foldl_append]
    refine ih.add hwritable hdistinct (hused entry ?_) ?_ hentry
    · exact hfront.subset (List.mem_append_right _ (List.mem_singleton_self _))
    · have hmore := hfits _ (hfront.map fun entry => Change.add entry.1 entry.2)
      rw [List.map_append, ← List.append_assoc] at hmore
      exact hmore
  · rwa [List.map_nil, List.append_nil]

/-- Pages that are taken out one after the other are not kept. -/
theorem removeAll (h : Tracks used config formats done seen e)
    (hwritable : config.readOnly = false) (hdistinct : Distinct used) (stubs : List Stub)
    (hok : ((stubs.forM indexer.remove).run e).1 = .ok ()) :
    Tracks used config formats (done ++ stubs.map .remove)
      (stubs.foldl (fun seen stub => drop seen stub.shasum) seen)
      ((stubs.forM indexer.remove).run e).2 := by
  refine Action.forM_induction (motive := fun front e => Tracks used config formats
    (done ++ front.map .remove)
    (front.foldl (fun seen stub => drop seen stub.shasum) seen) e) ?_ ?_ hok
  · intro front stub e _ ih _
    rw [List.map_append, ← List.append_assoc, List.foldl_append]
    exact ih.remove hwritable hdistinct stub
  · rwa [List.map_nil, List.append_nil]

/-- Pages whose attributes and words are names are accepted one after the other. -/
theorem acceptsAll (h : Tracks used config formats done seen e)
    (hwritable : config.readOnly = false) (hdistinct : Distinct used) {pages : List (Stub × Page)}
    (hused : ∀ entry ∈ pages, ∀ p ∈ pairsOf entry.2, used p.2)
    (hfits : ∀ front, front <+: pages.map (fun entry => Change.add entry.1 entry.2) →
      (refer {} (done ++ front)).2.Fits)
    (hnamed : ∀ entry ∈ pages, Named formats entry.2) :
    ((pages.forM fun entry => indexer.add entry.1 entry.2).run e).1 = .ok () := by
  induction pages using List.reverseRecOn with
  | nil => rfl
  | append_singleton front entry ih =>
      have hfront : ∀ first, first <+: front.map (fun entry => Change.add entry.1 entry.2) →
          (refer {} (done ++ first)).2.Fits := by
        intro first hfirst
        refine hfits first (hfirst.trans ?_)
        rw [List.map_append]
        exact List.prefix_append ..
      have hlast : entry ∈ front ++ [entry] :=
        List.mem_append_right _ (List.mem_singleton_self _)
      have hused' : ∀ entry ∈ front, ∀ p ∈ pairsOf entry.2, used p.2 := fun entry hentry =>
        hused entry (List.mem_append_left _ hentry)
      have hok := ih hused' hfront fun entry hentry => hnamed entry (List.mem_append_left _ hentry)
      rw [Action.forM_append_ok_iff, Action.run_forM_singleton]
      refine ⟨hok, (h.addAll hwritable hdistinct hused' hfront hok).accepts hwritable hdistinct
        (hused entry hlast) ?_ (hnamed entry hlast)⟩
      have hall := hfits _ (List.prefix_refl _)
      rwa [List.map_append, ← List.append_assoc] at hall

/-- Pages are taken out one after the other without a fault. -/
theorem removesAll (h : Tracks used config formats done seen e)
    (hwritable : config.readOnly = false) (hdistinct : Distinct used) (stubs : List Stub) :
    ((stubs.forM indexer.remove).run e).1 = .ok () := by
  induction stubs using List.reverseRecOn with
  | nil => rfl
  | append_singleton front stub ih =>
      rw [Action.forM_append_ok_iff, Action.run_forM_singleton]
      obtain ⟨l, hserves, _⟩ := h.removeAll hwritable hdistinct front ih
      exact ⟨ih, (takes_removePage hwritable hdistinct stub _ hserves).1⟩

end Tracks

end SiteIndex.Engine
