import SiteIndex.Proofs.Engine.Indexes
import SiteIndex.Proofs.Query.Finding
import SiteIndex.Proofs.Search.Ranking
import SiteIndex.Proofs.Site.Report

/-!
# No number without a shasum

The indexes list pages by their numbers, and an answer looks the shasum of every number up. A call
that fails half way leaves an index half changed, but never with a number that is listed without a
shasum: whatever is called, also after failures, every number that is listed resolves, and so no
answer misses an entry (`resolves_run`).

One invariant of the store carries this. Under `Anchors` the index of attributes is `Anchored` and
that of keywords `Rooted`. Every call keeps both, whatever comes of it (`Anchors.perform`).
-/

namespace SiteIndex.Engine

open Index (Anchored Counted Lexicon.Lasting)
open Markup (Formats)
open Page (Stub)
open Posting
open Search (Sound)
open SiteIndex.Action (Takes Found Finds)
open Store (Namespace OrderedMap Table)
open Store.Key (isName tablePrefix)

/-! ## Calls -/

/-- What an engine is called for that changes its indexes. -/
inductive Call where
  /-- A page goes to both indexes. -/
  | add (stub : Stub) (page : Page)
  /-- A page is taken out of both. -/
  | remove (stub : Stub)
  | addAttributes (stub : Stub) (page : Page)
  | removeAttributes (stub : Stub)
  | addKeywords (stub : Stub) (page : Page)
  | removeKeywords (stub : Stub)
  | clear
  /-- A site is rebuilt from its last catalog. -/
  | rebuild (site : Site) (previous : Site.Catalog)

/-- The engine after a call, whatever came of it. -/
def perform (e : Engine) : Call → Engine
  | .add stub page => ((add stub page).run e).2
  | .remove stub => ((remove stub).run e).2
  | .addAttributes stub page => ((addAttributes stub page).run e).2
  | .removeAttributes stub => ((removeAttributes stub).run e).2
  | .addKeywords stub page => ((addKeywords stub page).run e).2
  | .removeKeywords stub => ((removeKeywords stub).run e).2
  | .clear => (clear.run e).2
  | .rebuild site previous => ((site.rebuild [indexer] previous).run e).run.2

/-- The pages that may have drawn numbers since the index of attributes was empty, if `posted` may
have drawn them before the call. -/
def Call.drawing (posted : List Page) : Call → List Page
  | .add _ page | .addAttributes _ page => posted ++ [page]
  | .clear => []
  | .rebuild site previous => posted ++ (site.made previous.stubs).map (·.2)
  | _ => posted

/-- The pages that may have drawn numbers since the last call emptied the indexes. -/
def drawing (calls : List Call) : List Page := calls.foldl Call.drawing []

/-- The pages do not draw more numbers than there are, and their values can be stored. -/
structure Room (pages : List Page) : Prop where
  numbers : pages.length < UInt32.size
  values : ∀ name, (pages.flatMap pairsOf).countP (·.1 = name) < UInt32.size
  storable : ∀ page ∈ pages, ∀ p ∈ pairsOf page, p.2.Storable

/-- If there is room for pages there is room for the first of them. -/
theorem Room.of_append {front back : List Page} (h : Room (front ++ back)) : Room front where
  numbers := by
    have hnumbers := h.numbers
    rw [List.length_append] at hnumbers
    omega
  values name := by
    have hvalues := h.values name
    rw [List.flatMap_append, List.countP_append] at hvalues
    omega
  storable page hpage := h.storable page (List.mem_append_left _ hpage)

/-! ## What every call keeps -/

/-- Whatever is posted under words has a shasum, and nothing is posted under attributes. -/
structure Rooted (f : Fields) : Prop where
  sound : Sound f
  attributes : ∀ c : Cell, c.attribute ≠ none → f c = none

/-- Every step of a change keeps the index of keywords rooted. -/
theorem lasting_rooted : Lexicon.Lasting Rooted where
  empty := ⟨Sound.empty, fun _ _ => rfl⟩
  ensureStub {f shasum} h hindex := by
    refine ⟨h.sound.ensureStub hindex, fun c hc => ?_⟩
    have hsame : (f.ensureStub shasum).2 c = f c := by
      cases c <;> simp_all [Fields.ensureStub, Cell.attribute]
    rw [hsame]
    exact h.attributes c hc
  post {f index} text h hindex := by
    refine ⟨h.sound.post text hindex, fun c hc => ?_⟩
    rw [Fields.post_of_ne]
    · exact h.attributes c hc
    · rintro rfl
      exact hc rfl
  putSummary shasum s h := by
    refine ⟨h.sound.putSummary shasum s, fun c hc => ?_⟩
    rw [Fields.put_of_ne]
    · exact h.attributes c hc
    · rintro rfl
      exact hc rfl
  gone h hindex hgone hsame := by
    refine ⟨h.sound.gone hindex hgone, fun c hc => ?_⟩
    rw [hsame c hc]
    exact h.attributes c hc

/-- The store has both indexes, and the pages at most have drawn the numbers of attributes. -/
def Anchors (posted : List Page) (s : Store) : Prop :=
  ∃ m t, s.Holds m ∧ Stored m t ∧ Rooted (t .keyword) ∧ Anchored (t .context) ∧
    Counted (t .context) posted.length fun name => (posted.flatMap pairsOf).countP (·.1 = name)

namespace Anchors

variable {α : Type} {x : Action Store α} {posted next : List Page} {s : Store}

/-- An empty store lists nothing. -/
theorem empty (hs : s.Holds ∅) : Anchors [] s :=
  ⟨∅, fun _ _ => none, hs, Stored.empty, lasting_rooted.empty, Anchored.empty, Counted.empty⟩

/-- What is done to the index of attributes leaves that of keywords alone. -/
theorem context (h : Anchors posted s)
    (hx : ∀ {m t f}, Stored m (Function.update t .context f) → Anchored f →
      Counted f posted.length (fun name => (posted.flatMap pairsOf).countP (·.1 = name)) →
      ∃ out g, Takes (Shows t .context) x f out g ∧ Anchored g ∧
        Counted g next.length fun name => (next.flatMap pairsOf).countP (·.1 = name)) :
    Anchors next (x.run s).2 := by
  obtain ⟨m, t, hs, hm, hrooted, hanchored, hcounted⟩ := h
  have hupdate : Stored m (Function.update t .context (t .context)) := by
    rwa [Function.update_eq_self]
  obtain ⟨out, g, htakes, hanchored', hcounted'⟩ := hx hupdate hanchored hcounted
  obtain ⟨_, m', hs', hm'⟩ := htakes s ⟨m, hs, hupdate⟩
  have hne : Namespace.keyword ≠ .context := nofun
  refine ⟨m', Function.update t .context g, hs', hm', ?_, ?_⟩
  · rwa [Function.update_of_ne hne]
  · rw [Function.update_self]
    exact ⟨hanchored', hcounted'⟩

/-- What is done to the index of keywords leaves that of attributes alone. -/
theorem keyword (h : Anchors posted s)
    (hx : ∀ {m t f}, Stored m (Function.update t .keyword f) → Rooted f →
      ∃ out g, Takes (Shows t .keyword) x f out g ∧ Rooted g) :
    Anchors posted (x.run s).2 := by
  obtain ⟨m, t, hs, hm, hrooted, hattributes⟩ := h
  have hupdate : Stored m (Function.update t .keyword (t .keyword)) := by
    rwa [Function.update_eq_self]
  obtain ⟨out, g, htakes, hrooted'⟩ := hx hupdate hrooted
  obtain ⟨_, m', hs', hm'⟩ := htakes s ⟨m, hs, hupdate⟩
  have hne : Namespace.context ≠ .keyword := nofun
  refine ⟨m', Function.update t .keyword g, hs', hm', ?_, ?_⟩
  · rwa [Function.update_self]
  · rwa [Function.update_of_ne hne]

/-- A page may go to the index of attributes. -/
theorem addAttributes (h : Anchors posted s) (stub : Stub) (page : Page)
    (hroom : Room (posted ++ [page])) :
    Anchors (posted ++ [page]) ((Index.Attributes.add stub page).run s).2 := by
  refine h.context fun hm hanchored hcounted => ?_
  have hnumbers := hroom.numbers
  have hvalues := hroom.values
  simp only [List.length_append, List.length_singleton, List.flatMap_append,
    List.flatMap_singleton, List.countP_append] at hnumbers hvalues ⊢
  exact hanchored.exists_takes_add hcounted stub page
    (hroom.storable page (List.mem_append_right _ (List.mem_singleton_self _))) hnumbers hvalues

/-- A page may be taken out of the index of attributes. -/
theorem removeAttributes (h : Anchors posted s) (stub : Stub) :
    Anchors posted ((Index.Attributes.remove stub).run s).2 :=
  h.context fun hm hanchored hcounted => hanchored.exists_takes_remove hm hcounted stub

/-- A page may go to the index of keywords. -/
theorem addKeywords (h : Anchors posted s) (formats : Formats) (stub : Stub) (page : Page) :
    Anchors posted ((Index.Keywords.add formats stub page).run s).2 :=
  h.keyword fun _ hrooted => lasting_rooted.exists_takes_add hrooted formats stub page

/-- A page may be taken out of the index of keywords. -/
theorem removeKeywords (h : Anchors posted s) (stub : Stub) :
    Anchors posted ((Index.Keywords.remove stub).run s).2 :=
  h.keyword fun hm hrooted => lasting_rooted.exists_takes_remove hrooted hm stub

/-- More pages may have drawn numbers. -/
theorem mono (h : Anchors posted s) (more : List Page) : Anchors (posted ++ more) s := by
  obtain ⟨m, t, hs, hm, hrooted, hanchored, hcounted⟩ := h
  refine ⟨m, t, hs, hm, hrooted, hanchored, hcounted.mono ?_ fun name => ?_⟩
  · rw [List.length_append]
    exact Nat.le_add_right ..
  · rw [List.flatMap_append, List.countP_append]
    exact Nat.le_add_right ..

end Anchors

section Both

variable {P : Engine → Prop} {x y : Action Engine Nat} {e : Engine}

/-- What is kept by two actions is kept by one after the other, also if the first fails. -/
theorem kept_both (hx : P (x.run e).2) (hy : ∀ e, P e → P (y.run e).2) :
    P ((do let _ ← x; let _ ← y : Action Engine Unit).run e).2 :=
  Action.run_bind_induction hx fun _ e he =>
    Action.run_bind_induction (hy e he) fun _ _ h => h

/-- Nothing is done to an engine that is only read. -/
theorem kept_unlessReadOnly (h : P e) (hx : P (x.run e).2) (hy : ∀ e, P e → P (y.run e).2) :
    P ((do
      if ← Action.inspect (·.config.readOnly) then return ()
      let _ ← x
      let _ ← y : Action Engine Unit).run e).2 := by
  cases hreadOnly : e.config.readOnly with
  | true =>
      rw [Action.run_bind_of_ok (a := true) (congrArg _ hreadOnly)]
      exact h
  | false =>
      rw [Action.run_bind_of_ok (a := false) (congrArg _ hreadOnly)]
      exact kept_both hx hy

end Both

namespace Anchors

variable {posted : List Page} {e : Engine}

/-- A page may go to both indexes. -/
theorem add (h : Anchors posted e.store) (stub : Stub) (page : Page)
    (hroom : Room (posted ++ [page])) :
    Anchors (posted ++ [page]) ((Engine.add stub page).run e).2.store :=
  kept_unlessReadOnly (P := fun e => Anchors (posted ++ [page]) e.store) (h.mono [page])
    (h.addAttributes stub page hroom) fun e he => he.addKeywords e.formats stub page

/-- A page may be taken out of both indexes. -/
theorem remove (h : Anchors posted e.store) (stub : Stub) :
    Anchors posted ((Engine.remove stub).run e).2.store :=
  kept_unlessReadOnly (P := fun e => Anchors posted e.store) h (h.removeAttributes stub)
    fun _ he => he.removeKeywords stub

/-- The indexes may be emptied. -/
theorem clear (h : Anchors posted e.store) : Anchors [] (Engine.clear.run e).2.store := by
  have hcontext : Anchors [] (Index.Attributes.clear.run e.store).2 := by
    refine h.context fun _ _ _ => ?_
    obtain ⟨count, hclear⟩ := takes_clear
    exact ⟨_, _, hclear, Anchored.empty, Counted.empty⟩
  have hkeyword : ∀ s, Anchors [] s → Anchors [] (Index.Keywords.clear.run s).2 := by
    refine fun s hs => hs.keyword fun _ _ => ?_
    obtain ⟨count, hclear⟩ := takes_clear
    exact ⟨_, _, hclear, lasting_rooted.empty⟩
  exact kept_both (P := fun e => Anchors [] e.store) hcontext fun e he => hkeyword e.store he

/-- Pages may go to both indexes one after the other, whatever comes of it. -/
theorem addEach (h : Anchors posted e.store) {made : List (Stub × Page)}
    (hroom : Room (posted ++ made.map (·.2))) :
    Anchors (posted ++ made.map (·.2))
      ((Site.askEach (fun entry => indexer.add entry.1 entry.2) made).run e).2.store := by
  induction made using List.reverseRecOn with
  | nil => rwa [List.map_nil, List.append_nil]
  | append_singleton front entry ih =>
      rw [List.map_append, ← List.append_assoc] at hroom ⊢
      rw [Site.run_askEach_concat]
      exact (ih hroom.of_append).add entry.1 entry.2 hroom

/-- Pages may be taken out of both indexes one after the other, whatever comes of it. -/
theorem removeEach (h : Anchors posted e.store) (stubs : List Stub) :
    Anchors posted ((Site.askEach indexer.remove stubs).run e).2.store := by
  induction stubs using List.reverseRecOn with
  | nil => exact h
  | append_singleton front stub ih =>
      rw [Site.run_askEach_concat]
      exact ih.remove stub

/-- Every call keeps what the indexes have, whatever comes of it. -/
theorem perform (h : Anchors posted e.store) (call : Call) (hroom : Room (call.drawing posted)) :
    Anchors (call.drawing posted) (perform e call).store := by
  cases call with
  | add stub page => exact h.add stub page hroom
  | remove stub => exact h.remove stub
  | addAttributes stub page => exact h.addAttributes stub page hroom
  | removeAttributes stub => exact h.removeAttributes stub
  | addKeywords stub page => exact h.addKeywords e.formats stub page
  | removeKeywords stub => exact h.removeKeywords stub
  | clear => exact h.clear
  | rebuild site previous =>
      have hstate : ((site.rebuild [indexer] previous).run e).run.2 = _ :=
        (Site.tally_rebuild site indexer previous e).2
      show Anchors _ ((site.rebuild [indexer] previous).run e).run.2.store
      rw [hstate]
      exact (h.addEach hroom).removeEach _

/-- Calls keep what the indexes have, whatever comes of them. -/
theorem run (hs : e.store.Holds ∅) {calls : List Call}
    (hroom : ∀ front, front <+: calls → Room (drawing front)) :
    Anchors (drawing calls) (calls.foldl Engine.perform e).store := by
  induction calls using List.reverseRecOn with
  | nil => exact empty hs
  | append_singleton front call ih =>
      have hlast := hroom _ (List.prefix_refl _)
      have hfront := ih fun first hfirst => hroom first (hfirst.trans (List.prefix_append ..))
      rw [drawing, List.foldl_append] at hlast ⊢
      rw [List.foldl_append]
      exact hfront.perform call hlast

end Anchors

/-! ## What is listed -/

section Listed

variable {s : Store}

/-- The shasum of every number that is listed under a word or an attribute is found, and it is the
number of this shasum. -/
def Resolves (s : Store) (ns : Namespace) : Prop :=
  ∀ table ∈ [Table.token, Table.slotPostings], ∀ entry ∈ s.entriesFrom (tablePrefix ns table),
    ∃ postings, PostingList.decode entry.2 = .ok postings ∧ ∀ index ∈ postings.stubs,
      ∃ shasum, ((Tables.shasum ns index).run s).1 = .ok shasum ∧
        ((Tables.stubIndex? ns shasum).run s).1 = .ok (some index)

/-- Lists are kept under headings. -/
theorem exists_heading {c : Cell} (h : c.table ∈ [Table.token, Table.slotPostings]) :
    ∃ heading, c = .postings heading := by
  cases c with
  | postings heading => exact ⟨heading, rfl⟩
  | _ => exact absurd h (by simp [Cell.table])

/-- Numbers that are posted in the fields of a store are those that are listed. -/
theorem resolves_of_fields {m : OrderedMap Bytes} {t : Namespace → Fields} {ns : Namespace}
    (hs : s.Holds m) (hm : Stored m t)
    (h : ∀ heading, ∀ index ∈ (t ns).stubs heading, ∃ shasum,
      t ns (.stubShasum index) = some shasum ∧ t ns (.stubIndex shasum) = some index) :
    Resolves s ns := by
  intro table htable entry hentry
  obtain ⟨-, rfl⟩ := id hs
  rw [Store.entriesFrom_eq, ← OrderedMap.get?_eq_some_iff, OrderedMap.under,
    OrderedMap.get?_filterKeys] at hentry
  split at hentry
  case isFalse => cases hentry
  case isTrue hprefix =>
    obtain ⟨ns', c, hkey⟩ := hm.only entry.1 entry.2 hentry
    rw [hkey, Cell.tablePrefix_isPrefixOf] at hprefix
    obtain ⟨rfl, rfl⟩ := hprefix
    obtain ⟨heading, rfl⟩ := exists_heading htable
    rw [hkey, hm.get?_key, Option.map_eq_some_iff] at hentry
    obtain ⟨stubs, hstubs, hblob⟩ := hentry
    have hshows : Shows t ns s (t ns) := ⟨s.content, hs, by rwa [Function.update_eq_self]⟩
    refine ⟨⟨stubs.toList⟩, ?_, fun index hindex => ?_⟩
    · rw [← hblob]
      exact PostingList.decode_blob stubs
    · have hposted : index ∈ (t ns).stubs heading := by rwa [Fields.stubs, hstubs]
      obtain ⟨shasum, hshasum, hback⟩ := h heading index hposted
      refine ⟨shasum, (takes_shasum hshasum s hshows).1, ?_⟩
      rw [← hback]
      exact (takes_stubIndex? shasum s hshows).1

/-- Every number that is listed in either index resolves. -/
theorem Anchors.resolves {posted : List Page} (h : Anchors posted s) (ns : Namespace) :
    Resolves s ns := by
  obtain ⟨m, t, hs, hm, hrooted, hanchored, -⟩ := h
  refine resolves_of_fields hs hm fun heading index hindex => ?_
  cases ns with
  | context =>
      cases heading with
      | token text =>
          rw [Fields.stubs, hanchored.tokens] at hindex
          exact absurd hindex StubSet.not_mem_empty
      | slot name slot =>
          obtain ⟨shasum, hshasum⟩ :=
            Option.ne_none_iff_exists'.1 (hanchored.shasum_of_posted name slot index hindex)
          exact ⟨shasum, hshasum, (hanchored.coherent.stub_inverse shasum index).2 hshasum⟩
  | keyword =>
      cases heading with
      | token text =>
          obtain ⟨shasum, hshasum⟩ :=
            Option.ne_none_iff_exists'.1 (hrooted.sound.shasum_of_posted text index hindex)
          exact ⟨shasum, hshasum, hrooted.sound.index_of_shasum index shasum hshasum⟩
      | slot name slot =>
          have hnone : t .keyword (.postings (.slot name slot)) = none :=
            hrooted.attributes _ (by simp [Cell.attribute])
          rw [Fields.stubs, hnone] at hindex
          exact absurd hindex StubSet.not_mem_empty

end Listed

/-! ## Answers -/

section Answers

variable {t : Namespace → Fields} {f : Fields} {α : Type} {ns : Namespace}

/-- A page with a word has a shasum. -/
theorem finds_stubsOf (h : Sound f) (word : String) :
    Finds (fun s => Shows t .keyword s f) (Index.Keywords.stubsOf word) fun _ => True := by
  unfold Index.Keywords.stubsOf
  dsimp only
  split
  · exact Finds.pure trivial
  · by_cases hname : isName (Text.lower (Text.trim word)) = true
    · refine Finds.bind (Finds.of_takes (takes_tokenPostings ⟨_, hname⟩) (Found.ok rfl))
        fun postings hpostings => Query.finds_shasums fun index hindex => ?_
      subst hpostings
      exact h.shasum_of_posted ⟨_, hname⟩ index hindex
    · exact Finds.bind (Finds.of_takes (takes_tokenPostings_invalid hname) (Found.error rfl))
        fun _ (hfalse : False) => hfalse.elim

/-- What a search comes upon has shasums. -/
theorem finds_search (h : Sound f) (defaultSize : Nat) (r : Search.Request) :
    Finds (fun s => Shows t .keyword s f) (Search.search defaultSize r) fun _ => True := by
  by_cases hzero : ∃ term ∈ Search.queryTerms r.query, '\x00' ∈ term.text.toList
  · obtain ⟨term, -, -, hrefused⟩ := Search.takes_search_invalid r hzero defaultSize
    exact Finds.of_takes hrefused (Found.error rfl)
  · obtain ⟨found, hscore, -, hfound⟩ :=
      Search.exists_takes_score h fun term hterm hmem => hzero ⟨term, hterm, hmem⟩
    exact Finds.of_takes (Search.takes_search h r hscore hfound defaultSize) (Found.ok trivial)

/-- The pages that carry the values of an attribute have shasums. -/
theorem finds_values (h : Anchored f) (name : String) :
    Finds (fun s => Shows t .context s f) (Index.Attributes.values name) fun _ => True := by
  refine Finds.bind (Query.finds_values h name) fun entries hentries => ?_
  refine Finds.mapM_any fun entry hentry => ?_
  exact Finds.bind (Query.finds_shasums (hentries entry hentry)) fun _ _ => Finds.pure trivial

/-- An answer of the store is an answer of the engine. -/
theorem finds_onStore {x : Action Store α} {Q : α → Prop}
    (h : Finds (fun s => Shows t ns s f) x Q) :
    Finds (fun e : Engine => Shows t ns e.store f) (onStore x) Q := fun e he => h e.store he

/-- A query is answered, or refused for another reason than a missing entry. -/
theorem finds_query (h : Anchored f) (text : String) :
    Finds (fun e : Engine => Shows t .context e.store f) (query text) fun _ => True := by
  have hstatement : Finds (fun e : Engine => Shows t .context e.store f) (statement text)
      fun _ => True := by
    refine fun e he => ⟨he, ?_⟩
    show Found _ ((e.queries.statement text).1.mapError .syntaxError)
    cases (e.queries.statement text).1 with
    | ok s => exact Found.ok trivial
    | error fault => exact Found.error rfl
  exact Finds.bind hstatement fun s _ => finds_onStore (Query.finds_run h s)

/-- A selection is answered, or refused for another reason than a missing entry. -/
theorem finds_select (h : Anchored f) (text : String) :
    Finds (fun e : Engine => Shows t .context e.store f) (select text) fun _ => True := by
  have hselection : Finds (fun e : Engine => Shows t .context e.store f) (selection text)
      fun _ => True := by
    refine fun e he => ⟨he, ?_⟩
    show Found _ ((e.queries.selection text).1.mapError .syntaxError)
    cases (e.queries.selection text).1 with
    | ok s => exact Found.ok trivial
    | error fault => exact Found.error rfl
  refine Finds.bind hselection fun s _ e he => ?_
  obtain ⟨hafter, hresult, hfault⟩ := Query.finds_select h s e.generator e.store he
  unfold Action.ofFunction Action.run at *
  dsimp only
  cases hrun : Query.select .context s e.generator e.store with
  | mk out store =>
      rw [hrun] at hafter hresult hfault
      cases out with
      | ok result => exact ⟨hafter, hresult result rfl⟩
      | error failure => exact ⟨hafter, Found.error (hfault failure rfl)⟩

/-- A search is answered, or refused for another reason than a missing entry. -/
theorem finds_answer (h : Sound f) (request : Search.Request) :
    Finds (fun e : Engine => Shows t .keyword e.store f) (search request) fun _ => True := by
  have hsize : Finds (fun e : Engine => Shows t .keyword e.store f)
      (Action.inspect (·.config.searchPageSize)) fun _ => True := fun _ he => ⟨he, Found.ok trivial⟩
  exact Finds.bind hsize fun size _ => finds_onStore (finds_search h size request)

end Answers

/-- The engine answers, or refuses for another reason than a missing entry. -/
def Answers {α : Type} (e : Engine) (x : Action Engine α) : Prop :=
  ∀ failure, (x.run e).1 = .error failure → failure.isNotFound = false

/-- What finds its entries in the tables of an index is an answer. -/
theorem answers_of_finds {α : Type} {x : Action Engine α} {Q : α → Prop} {e : Engine}
    {m : OrderedMap Bytes} {t : Namespace → Fields} {ns : Namespace} (hs : e.store.Holds m)
    (hm : Stored m t) (h : Finds (fun e : Engine => Shows t ns e.store (t ns)) x Q) :
    Answers e x :=
  (h e ⟨m, hs, by rwa [Function.update_eq_self]⟩).2.2

/-- Whatever is called, starting from an empty store, and whatever came of it: as long as the
counters of the index of attributes have not run over since it was last emptied, every number that
is listed has a shasum. So no query, selection, search or look-up misses an entry. -/
theorem resolves_run {e : Engine} (hs : e.store.Holds ∅) (calls : List Call)
    (hroom : ∀ front, front <+: calls → Room (drawing front)) :
    let reached := calls.foldl perform e
    (∀ ns, Resolves reached.store ns) ∧
      (∀ text, Answers reached (query text)) ∧ (∀ text, Answers reached (select text)) ∧
      (∀ request, Answers reached (search request)) ∧
      (∀ word, Answers reached (keywordStubs word)) ∧ ∀ name, Answers reached (values name) := by
  intro reached
  have hanchors : Anchors (drawing calls) reached.store := Anchors.run hs hroom
  obtain ⟨m, t, hholds, hm, ⟨hsound, -⟩, hanchored, -⟩ := id hanchors
  exact ⟨hanchors.resolves,
    fun text => answers_of_finds hholds hm (finds_query hanchored text),
    fun text => answers_of_finds hholds hm (finds_select hanchored text),
    fun request => answers_of_finds hholds hm (finds_answer hsound request),
    fun word => answers_of_finds hholds hm (finds_onStore (finds_stubsOf hsound word)),
    fun name => answers_of_finds hholds hm (finds_onStore (finds_values hanchored name))⟩

/-- A page whose second attribute is no name. -/
def halfNamed : Page :=
  { shasum := "s", source := "a.md", url := "/a", title := "foo", description := "",
    language := "en", format := "md", sectionName := "", permalink := none, redirects := [],
    translates := none, created := .epoch, updated := .epoch, content := "",
    frontmatter := ∅, context := (∅ : Context).insert "a" (.int 1) |>.insert "b\x00" (.int 2) }

/-- Its stub. -/
def halfStub : Stub :=
  { shasum := "s", source := "a.md", mount := "/", language := "en", fallback := "en" }

/-- Calls that leave the page half indexed, take it out and leave it so again. -/
def halfCalls : List Call :=
  [.add halfStub halfNamed, .remove halfStub, .addAttributes halfStub halfNamed]

/-- A page with two values leaves room for all numbers. -/
theorem room_halfCalls : ∀ front, front <+: halfCalls → Room (drawing front) := by
  have hpairs : pairsOf halfNamed = [("a", .int 1), ("b\x00", .int 2)] := by decide
  have htwo : Room ([halfNamed] ++ [halfNamed]) := by
    constructor
    case numbers => exact show 2 < UInt32.size by decide
    case values =>
      intro name
      refine Nat.lt_of_le_of_lt List.countP_le_length ?_
      rw [List.flatMap_append, List.flatMap_singleton, hpairs]
      exact show 4 < UInt32.size by decide
    case storable =>
      intro page hpage p hp
      obtain rfl : page = halfNamed := by simpa using hpage
      rw [hpairs, List.mem_cons, List.mem_singleton] at hp
      rcases hp with rfl | rfl <;> exact trivial
  intro front hfront
  simp only [halfCalls, List.prefix_cons_iff, List.prefix_nil] at hfront
  obtain rfl | ⟨_, rfl, rfl | ⟨_, rfl, rfl | ⟨_, rfl, rfl⟩⟩⟩ := hfront
  · have hone : Room ([] ++ [halfNamed]) := htwo.of_append
    exact hone.of_append
  · exact htwo.of_append
  · exact htwo.of_append
  · exact htwo

/-- The page is posted under its first attribute each time that it is rejected, and is found. -/
theorem resolves_run_halfNamed :
    let reached := halfCalls.foldl perform (.ofStore {} (.plain (.ofBackend .memory false)))
    ((values "a").run reached).1.toOption = some [(.int 1, ["s"])] ∧
      (∀ ns, Resolves reached.store ns) ∧ ∀ text, Answers reached (query text) := by
  intro reached
  have hempty : (ofStore {} (.plain (.ofBackend .memory false))).store.Holds ∅ :=
    Store.holds_plain .memory
  obtain ⟨hresolves, hquery, -⟩ := resolves_run hempty halfCalls room_halfCalls
  exact ⟨by decide +kernel, hresolves, hquery⟩

end SiteIndex.Engine
