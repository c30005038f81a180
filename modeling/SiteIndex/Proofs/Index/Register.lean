import Mathlib.Data.Finset.Card
import Mathlib.Data.Finset.Union
import SiteIndex.Proofs.Search.Ranking

/-!
# The index of keywords as a register of pages

A `Register` is the index of keywords in the simplest terms: the live pages, each with the set of
its words and its summary. It has no numbers and no postings. The index has them, and no list of the
words of a page: taking a page out goes through the postings of all words. A `Lexicon` lies between
the two. Every change of the index does to the store what it does to the register
(`Lexicon.Change.takes_register`), so that along every run the results, the words that are known,
the pages under a word and the summaries are those of the register (`serve_registers`).
-/

namespace SiteIndex.Index

open Markup (Formats)
open Posting
open Store (Namespace)
open Store.Key (isName)
open SiteIndex.Action (Takes)

/-! ## Registers -/

/-- A live page. -/
structure Record where
  shasum : String
  words : Finset String
  summary : Summary
  deriving DecidableEq

/-- The live pages. -/
structure Register where
  /-- The pages in the order in which they were last added. -/
  records : List Record := []
  /-- How many pages were added since the register was empty. -/
  allocated : Nat := 0

namespace Register

/-- The shasums of the live pages. -/
def shasums (r : Register) : List String := r.records.map (·.shasum)

/-- The words of all live pages. -/
def words (r : Register) : Finset String := r.records.toFinset.biUnion (·.words)

/-- The shasums of the live pages with a word, the one that was added last at the end. -/
def under (word : String) (r : Register) : List String :=
  (r.records.filter (word ∈ ·.words)).map (·.shasum)

/-- A live page. -/
def find? (shasum : String) (r : Register) : Option Record :=
  r.records.find? (·.shasum = shasum)

/-- The words of a page: those of its title, its description and the text of its content, each on
lines of their own. -/
def wordsOf (formats : Formats) (page : Page) : Finset String :=
  let body := ((formats.find? page.format).map (·.text page.content)).getD page.content
  ((Search.tokenize (page.title ++ "\n" ++ page.description ++ "\n" ++ body)).map (·.text)).toFinset

/-- The words of a page are the distinct ones of its text. -/
theorem wordsOf_eq (formats : Formats) (page : Page) : wordsOf formats page
    = (Search.uniqueTerms (Keywords.visibleText formats page)).toFinset := by
  ext word
  rw [wordsOf, List.mem_toFinset, List.mem_toFinset]
  exact ((Search.distinct_spec _).2 word).symm

/-- What a change comes to, and the register after it. A page that is live is not added again. -/
def perform (formats : Formats) (r : Register) : Lexicon.Change → Nat × Register
  | .add stub page =>
    if stub.shasum ∈ r.shasums then (0, r)
    else
      ((wordsOf formats page).card,
        ⟨r.records ++ [⟨stub.shasum, wordsOf formats page, Keywords.summaryOf page⟩],
          r.allocated + 1⟩)
  | .remove stub =>
    (((r.find? stub.shasum).map (·.words.card)).getD 0,
      { r with records := r.records.filter (·.shasum ≠ stub.shasum) })
  | .clear => (0, {})

/-- The register after changes of an empty one. -/
def after (formats : Formats) (ops : List Lexicon.Change) : Register :=
  ops.foldl (fun r op => (r.perform formats op).2) {}

/-- The last of several changes is made to what the others have left. -/
theorem after_concat (formats : Formats) (ops : List Lexicon.Change) (op : Lexicon.Change) :
    after formats (ops ++ [op]) = ((after formats ops).perform formats op).2 := List.foldl_concat ..

/-- A change adds at most one page. -/
theorem allocated_perform_le (formats : Formats) (r : Register) (op : Lexicon.Change) :
    (r.perform formats op).2.allocated ≤ r.allocated + 1 := by
  cases op with
  | add stub page =>
      unfold perform
      dsimp only
      split
      · exact Nat.le_succ _
      · exact Nat.le_refl _
  | remove stub => exact Nat.le_succ _
  | clear => exact Nat.zero_le _

/-- Few changes do not make the counter run over. -/
theorem allocated_after_le (formats : Formats) (ops : List Lexicon.Change) :
    (after formats ops).allocated ≤ ops.length := by
  induction ops using List.reverseRecOn with
  | nil => exact Nat.zero_le _
  | append_singleton front op ih =>
      rw [after_concat, List.length_append, List.length_singleton]
      exact Nat.le_trans (allocated_perform_le ..) (Nat.succ_le_succ ih)

end Register

/-- The words that a change may post a page under. -/
def Lexicon.Change.words (formats : Formats) : Lexicon.Change → Finset String
  | .add _ page => Register.wordsOf formats page
  | .remove _ | .clear => ∅

/-! ## Registers and lexicons -/

/-- A record is a page of a lexicon whose words are all posted. -/
structure Document.Stands (d : Document) (e : Record) : Prop where
  shasum : d.shasum = e.shasum
  nodup : d.words.Nodup
  words : d.words.toFinset = e.words
  summary : d.summary = some e.summary

section Stands

variable {ds : List Document} {es : List Record}

/-- The same pages are selected by a test that agrees on them. -/
theorem Document.Stands.filter (h : List.Forall₂ Document.Stands ds es) {p : Document → Bool}
    {q : Record → Bool} (hpq : ∀ d e, d.Stands e → p d = q e) :
    List.Forall₂ Document.Stands (ds.filter p) (es.filter q) := by
  refine List.rel_filter (fun d e hstands => ?_) h
  show p d = true ↔ q e = true
  rw [hpq d e hstands]

/-- The pages have the same shasums. -/
theorem Document.Stands.shasums (h : List.Forall₂ Document.Stands ds es) :
    ds.map (·.shasum) = es.map (·.shasum) := by
  induction h with
  | nil => rfl
  | cons hstands _ ih => rw [List.map_cons, List.map_cons, hstands.shasum, ih]

/-- The same page is found by a shasum. -/
theorem Document.Stands.find? (h : List.Forall₂ Document.Stands ds es) (shasum : String) :
    Option.Rel Document.Stands (ds.find? (·.shasum = shasum)) (es.find? (·.shasum = shasum)) := by
  induction h with
  | nil => exact .none
  | @cons d e _ _ hstands _ ih =>
      rw [List.find?_cons, List.find?_cons, hstands.shasum]
      cases decide (e.shasum = shasum) with
      | true => exact .some hstands
      | false => exact ih

/-- The words of the pages are those of the records. -/
theorem Document.Stands.exists_mem_words (h : List.Forall₂ Document.Stands ds es) (word : String) :
    (∃ d ∈ ds, word ∈ d.words) ↔ ∃ e ∈ es, word ∈ e.words := by
  induction h with
  | nil => simp
  | cons hstands _ ih =>
      rw [List.exists_mem_cons_iff, List.exists_mem_cons_iff, ih, ← hstands.words,
        List.mem_toFinset]

end Stands

/-- A lexicon has the pages of a register. -/
structure Lexicon.Matches (l : Lexicon) (r : Register) : Prop where
  allocated : l.numbered = r.allocated
  records : List.Forall₂ Document.Stands l.documents r.records

namespace Lexicon.Matches

variable {l : Lexicon} {r : Register} {formats : Formats}

/-- The empty lexicon has no pages. -/
theorem empty : Matches {} {} := ⟨rfl, List.Forall₂.nil⟩

/-- The same pages have a word. -/
theorem holding_eq (h : l.Matches r) (word : String) : l.holding word = r.under word := by
  refine Document.Stands.shasums (Document.Stands.filter h.records fun d e hstands => ?_)
  rw [← hstands.words, decide_eq_decide, List.mem_toFinset]

/-- The words of the pages are those of the register. -/
theorem mem_words_iff (h : l.Matches r) (word : String) :
    word ∈ r.words ↔ ∃ d ∈ l.documents, word ∈ d.words := by
  rw [Document.Stands.exists_mem_words h.records, Register.words, Finset.mem_biUnion]
  simp only [List.mem_toFinset]

/-- The pages have the same summaries. -/
theorem summaryOf?_eq (h : l.Matches r) (shasum : String) :
    l.summaryOf? shasum = (r.find? shasum).map (·.summary) := by
  have hfind := Document.Stands.find? h.records shasum
  rw [Lexicon.summaryOf?, Register.find?]
  generalize l.documents.find? (·.shasum = shasum) = found at hfind ⊢
  generalize r.records.find? (·.shasum = shasum) = found' at hfind ⊢
  cases hfind with
  | none => rfl
  | some hstands => exact hstands.summary

/-- A page whose words are all names is added to both alike. -/
theorem add (h : l.Matches r) (stub : Page.Stub) (page : Page)
    (hnames : ∀ word ∈ Register.wordsOf formats page, isName word = true) :
    (l.add stub.shasum (Search.uniqueTerms (Keywords.visibleText formats page))
        (Keywords.summaryOf page)).1 = .ok (r.perform formats (.add stub page)).1 ∧
      (l.add stub.shasum (Search.uniqueTerms (Keywords.visibleText formats page))
        (Keywords.summaryOf page)).2.Matches (r.perform formats (.add stub page)).2 := by
  have hnodup := Search.nodup_uniqueTerms (Keywords.visibleText formats page)
  rw [Register.wordsOf_eq] at hnames
  rw [Register.perform, Register.wordsOf_eq]
  generalize Search.uniqueTerms (Keywords.visibleText formats page) = words at hnames hnodup ⊢
  have hfind : words.find? (fun word => !isName word) = none := by
    refine List.find?_eq_none.2 fun word hword => ?_
    have hname := hnames word (List.mem_toFinset.2 hword)
    simp [hname]
  have hshasums : l.shasums = r.shasums := Document.Stands.shasums h.records
  rw [Lexicon.add, hshasums]
  by_cases hlive : stub.shasum ∈ r.shasums
  · rw [if_pos hlive, if_pos hlive]
    exact ⟨rfl, h⟩
  · rw [if_neg hlive, if_neg hlive, hfind]
    refine ⟨congrArg Except.ok (List.toFinset_card_of_nodup hnodup).symm,
      congrArg (· + 1) h.allocated, ?_⟩
    exact List.rel_append h.records (.cons ⟨rfl, hnodup, rfl, rfl⟩ .nil)

/-- A page is taken out of both alike. -/
theorem remove (h : l.Matches r) (formats : Markup.Formats) (stub : Page.Stub) :
    (l.remove stub.shasum).1 = (r.perform formats (.remove stub)).1 ∧
      (l.remove stub.shasum).2.Matches (r.perform formats (.remove stub)).2 := by
  refine ⟨?_, h.allocated, Document.Stands.filter h.records fun d e hstands => by
    rw [hstands.shasum]⟩
  have hfind := Document.Stands.find? h.records stub.shasum
  show ((l.documents.find? (·.shasum = stub.shasum)).map (·.words.length)).getD 0
    = ((r.records.find? (·.shasum = stub.shasum)).map (·.words.card)).getD 0
  generalize l.documents.find? (·.shasum = stub.shasum) = found at hfind ⊢
  generalize r.records.find? (·.shasum = stub.shasum) = found' at hfind ⊢
  cases hfind with
  | none => rfl
  | some hstands =>
      show _ = Finset.card _
      rw [← hstands.words, List.toFinset_card_of_nodup hstands.nodup]
      rfl

end Lexicon.Matches

/-! ## Stores and registers -/

/-- The index of keywords in a store stands for a register; `t` says what is in the other
namespace. -/
def Registered (t : Namespace → Fields) (s : Store) (r : Register) : Prop :=
  ∃ l, Recorded t s l ∧ l.Matches r

section Changes

variable {t : Namespace → Fields} {formats : Formats} {r : Register}

/-- An empty store stands for the empty register. -/
theorem registered_empty {s : Store} (hs : s.Holds ∅) : Registered (fun _ _ => none) s {} := by
  refine ⟨{}, ⟨fun _ => none, ⟨∅, hs, ?_⟩, Records.empty⟩, Lexicon.Matches.empty⟩
  rw [Function.update_eq_self]
  exact Stored.empty

/-- Clearing leaves an index without pages. -/
theorem takes_clearWords {l : Lexicon} {α : Type} (a : α) :
    Takes (Recorded t) (do let _ ← Keywords.clear; return a) l (.ok a) {} := by
  refine Takes.refine fun f _ => ⟨fun _ => none, ?_, Records.empty⟩
  have htables : ∃ count, Takes (Shows t .keyword) Keywords.clear f (.ok count) fun _ => none :=
    Posting.takes_clear
  obtain ⟨count, hclear⟩ := htables
  exact Takes.bind hclear (Takes.pure a)

/-- A change of a store does what it does to the register. -/
theorem Lexicon.Change.takes_register (op : Lexicon.Change)
    (hnames : ∀ word ∈ op.words formats, isName word = true)
    (hroom : (r.perform formats op).2.allocated < UInt32.size) :
    Takes (Registered t) (op.action formats) r (.ok (r.perform formats op).1)
      (r.perform formats op).2 := by
  refine Takes.refine fun l hmatches => ?_
  cases op with
  | add stub page =>
      obtain ⟨hout, hmatches'⟩ := hmatches.add stub page hnames
      refine ⟨_, ?_, hmatches'⟩
      rw [← hout]
      exact takes_addWords formats stub page (hmatches'.allocated ▸ hroom)
  | remove stub =>
      obtain ⟨hout, hmatches'⟩ := hmatches.remove formats stub
      refine ⟨_, ?_, hmatches'⟩
      rw [← hout]
      exact takes_removeWords stub
  | clear => exact ⟨{}, takes_clearWords 0, Lexicon.Matches.empty⟩

end Changes

/-- What a store tells about its index of keywords is what the register says. -/
structure Reports (s : Store) (r : Register) : Prop where
  /-- The words that are known, each once and in the order of their bytes. -/
  known : ∃ words, (Keywords.known.run s).1 = .ok words ∧
    words.Pairwise (fun a b => Bytes.Before (Text.Utf8.encode a) (Text.Utf8.encode b)) ∧
    ∀ word, word ∈ words ↔ word ∈ r.words
  /-- The pages under a word, which may stand in any case and with blanks around it. -/
  stubsOf : ∀ word, '\x00' ∉ (Text.lower (Text.trim word)).toList →
    ((Keywords.stubsOf word).run s).1 = .ok (r.under (Text.lower (Text.trim word)))
  /-- A word with a zero is refused. -/
  stubsOf_invalid : ∀ word, '\x00' ∈ (Text.lower (Text.trim word)).toList →
    ((Keywords.stubsOf word).run s).1 = .error (.invalidName (Text.lower (Text.trim word)))
  summary : ∀ shasum, ((Keywords.summary? shasum).run s).1 = .ok ((r.find? shasum).map (·.summary))

section Reading

variable {t : Namespace → Fields} {s : Store} {l : Lexicon} {r : Register}

/-- The words that are known are those of the pages, in the order of their bytes. -/
theorem Recorded.exists_known (h : Recorded t s l) :
    ∃ words, (Keywords.known.run s).1 = .ok words ∧
      words.Pairwise (fun a b => Bytes.Before (Text.Utf8.encode a) (Text.Utf8.encode b)) ∧
      ∀ word, word ∈ words ↔ ∃ d ∈ l.documents, word ∈ d.words := by
  obtain ⟨f, hs, hrecords⟩ := h
  obtain ⟨m, _, hm⟩ := id hs
  obtain ⟨names, hordered, hmem, htakes⟩ := exists_takes_tokens hm
  have hknown : (Keywords.known.run s).1 = .ok (names.map (·.1)) := (htakes s hs).1
  refine ⟨names.map (·.1), hknown, List.pairwise_map.2 hordered, fun word => ?_⟩
  -- A word is listed if it has postings, and these are never empty.
  have hlisted : ∀ text : Name, text ∈ names ↔ ∃ d ∈ l.documents, text.1 ∈ d.words := by
    intro text
    rw [hmem, Fields.postings_ne_none_iff hrecords.coherent]
    constructor
    · rintro ⟨index, hindex⟩
      obtain ⟨d, hd, _, hword⟩ := (hrecords.posted text index).1 hindex
      exact ⟨d, hd, hword⟩
    · rintro ⟨d, hd, hword⟩
      have hlive := (hrecords.numbers.live d.shasum).1 (List.mem_map_of_mem hd)
      obtain ⟨index, hindex⟩ := Option.ne_none_iff_exists'.1 hlive
      exact ⟨index, (hrecords.posted text index).2 ⟨d, hd, hindex, hword⟩⟩
  rw [List.mem_map]
  constructor
  · rintro ⟨text, htext, rfl⟩
    exact (hlisted text).1 htext
  · rintro ⟨d, hd, hword⟩
    have hname := (hrecords.kept d hd).names word hword
    exact ⟨⟨word, hname⟩, (hlisted _).2 ⟨d, hd, hword⟩, rfl⟩

/-- No page has the empty word. -/
theorem Recorded.holding_empty (h : Recorded t s l) : l.holding "" = [] := by
  obtain ⟨f, _, hrecords⟩ := h
  rw [Lexicon.holding, List.map_eq_nil_iff, List.filter_eq_nil_iff]
  intro d hd hword
  have hname := (hrecords.kept d hd).names "" (of_decide_eq_true hword)
  cases hname

/-- The pages under a word with a zero are refused by every store. -/
theorem run_stubsOf_invalid (s : Store) {word : String}
    (hzero : '\x00' ∈ (Text.lower (Text.trim word)).toList) :
    ((Keywords.stubsOf word).run s).1 = .error (.invalidName (Text.lower (Text.trim word))) := by
  have hempty : Text.lower (Text.trim word) ≠ "" := by
    intro hempty
    rw [hempty] at hzero
    cases hzero
  have hname : ¬ isName (Text.lower (Text.trim word)) = true :=
    fun hname => (Search.isName_iff.1 hname).2 hzero
  have hread : Takes (fun _ _ => True) (Tables.tokenPostings .keyword _) () _ () :=
    takes_tokenPostings_invalid hname
  rw [Keywords.stubsOf, if_neg hempty]
  exact (Takes.bind_error hread s trivial).1

/-- What stands for a register tells what the register says. -/
theorem Registered.reports (h : Registered t s r) : Reports s r := by
  obtain ⟨l, hrecorded, hmatches⟩ := h
  constructor
  case known =>
    obtain ⟨words, hknown, hordered, hmem⟩ := hrecorded.exists_known
    refine ⟨words, hknown, hordered, fun word => ?_⟩
    rw [hmem, hmatches.mem_words_iff]
  case stubsOf =>
    intro word hzero
    rw [← hmatches.holding_eq, Keywords.stubsOf]
    by_cases hempty : Text.lower (Text.trim word) = ""
    · rw [hempty, hrecorded.holding_empty]
      rfl
    · rw [if_neg hempty]
      exact (takes_shasumsUnder ⟨_, Search.isName_iff.2 ⟨hempty, hzero⟩⟩ s hrecorded).1
  case stubsOf_invalid =>
    intro word hzero
    exact run_stubsOf_invalid s hzero
  case summary =>
    intro shasum
    rw [← hmatches.summaryOf?_eq]
    exact (takes_summaryOf? shasum s hrecorded).1

end Reading

/-! ## Runs -/

/-- Changes of a store leave what stands for the register after them. -/
theorem Registered.serve {s : Store} (hs : s.Holds ∅) (formats : Formats)
    (ops : List Lexicon.Change)
    (hnames : ∀ op ∈ ops, ∀ word ∈ op.words formats, isName word = true)
    (hroom : ∀ front, front <+: ops → (Register.after formats front).allocated < UInt32.size) :
    Registered (fun _ _ => none) (Lexicon.serve formats s ops) (Register.after formats ops) := by
  induction ops using List.reverseRecOn with
  | nil => exact registered_empty hs
  | append_singleton front op ih =>
      have hfront := ih (fun other hother => hnames other (List.mem_append_left _ hother))
        fun first hfirst => hroom first (hfirst.trans (List.prefix_append ..))
      have hserve : Lexicon.serve formats s (front ++ [op])
          = ((op.action formats).run (Lexicon.serve formats s front)).2 := List.foldl_concat ..
      have hallocated := hroom (front ++ [op]) (List.prefix_refl _)
      rw [Register.after_concat] at hallocated ⊢
      rw [hserve]
      have hop := hnames op (List.mem_append_right _ (List.mem_singleton_self _))
      exact (op.takes_register hop hallocated _ hfront).2

/-- Words are not empty, so that those without a zero are names. -/
theorem Lexicon.Change.isName_of_mem_words {formats : Formats} {op : Lexicon.Change} {word : String}
    (hword : word ∈ op.words formats) (hzero : '\x00' ∉ word.toList) : isName word = true := by
  refine Search.isName_iff.2 ⟨?_, hzero⟩
  cases op with
  | add stub page =>
      obtain ⟨token, htoken, rfl⟩ := List.mem_map.1 (List.mem_toFinset.1 hword)
      exact Search.text_ne_empty htoken
  | remove stub => cases hword
  | clear => cases hword

/-- Whatever changes are made to a store that was empty, with words that hold no zero and fewer
pages than there are numbers, each comes to what it comes to in the register, and after each of them
the words, the pages under a word and the summaries are those of the register. -/
theorem serve_registers {s : Store} (hs : s.Holds ∅) (formats : Formats)
    (ops : List Lexicon.Change)
    (hnames : ∀ op ∈ ops, ∀ word ∈ op.words formats, '\x00' ∉ word.toList)
    (hroom : ∀ front, front <+: ops → (Register.after formats front).allocated < UInt32.size) :
    (∀ front op, front ++ [op] <+: ops →
      ((op.action formats).run (Lexicon.serve formats s front)).1
        = .ok ((Register.after formats front).perform formats op).1) ∧
    ∀ front, front <+: ops →
      Reports (Lexicon.serve formats s front) (Register.after formats front) := by
  have hnames : ∀ op ∈ ops, ∀ word ∈ op.words formats, isName word = true :=
    fun op hop word hword => Lexicon.Change.isName_of_mem_words hword (hnames op hop word hword)
  have hfront : ∀ front, front <+: ops →
      Registered (fun _ _ => none) (Lexicon.serve formats s front) (Register.after formats front) :=
    fun front hfront => Registered.serve hs formats front
      (fun op hop => hnames op (hfront.subset hop))
      fun first hfirst => hroom first (hfirst.trans hfront)
  constructor
  · intro front op hprefix
    have hroom := hroom _ hprefix
    rw [Register.after_concat] at hroom
    have hop : op ∈ ops := hprefix.subset (List.mem_append_right _ (List.mem_singleton_self _))
    exact (op.takes_register (hnames op hop) hroom _
      (hfront front ((List.prefix_append ..).trans hprefix))).1
  · exact fun front hprefix => (hfront front hprefix).reports

/-- The title is the only word of the page. -/
theorem words_titled (shasum : String) : (Search.titled shasum).words .standard = {"foo"} := by
  rw [Search.titled, Lexicon.Change.words, Register.wordsOf_eq,
    Search.visibleText_titled rfl rfl rfl rfl, Search.terms_fixed.1]
  rfl

/-- The page is added with its title unless it is live. -/
theorem perform_titled (r : Register) (shasum : String) :
    r.perform .standard (Search.titled shasum)
      = if shasum ∈ r.shasums then (0, r)
        else (1, ⟨r.records ++ [⟨shasum, {"foo"}, ⟨"/a", "foo", "", "en"⟩⟩], r.allocated + 1⟩) := by
  have hwords := words_titled shasum
  rw [Search.titled, Lexicon.Change.words] at hwords
  rw [Search.titled, Register.perform, hwords]
  rfl

/-- A page that comes back behind another one, in a store with a write buffer. -/
theorem serve_registers_readded :
    let stub : Page.Stub :=
      { shasum := "p10", source := "a.md", mount := "/", language := "en", fallback := "en" }
    let ops : List Lexicon.Change := [Search.titled "p10", Search.titled "p2", .remove stub,
      Search.titled "p10"]
    let s : Store := .buffered (.make (.ofBackend .sqlite false) 2 3)
    ((Keywords.stubsOf " FOO").run (Lexicon.serve .standard s ops)).1 = .ok ["p2", "p10"] := by
  intro stub ops s
  have hnames : ∀ op ∈ ops, ∀ word ∈ op.words .standard, '\x00' ∉ word.toList := by
    have hremove : (Lexicon.Change.remove stub).words .standard = ∅ := rfl
    have hwords : ∀ op ∈ ops, op.words .standard ⊆ {"foo"} := by
      simp [ops, words_titled, hremove]
    intro op hop word hword
    rw [Finset.mem_singleton.1 (hwords op hop hword)]
    decide
  have hroom : ∀ front, front <+: ops →
      (Register.after .standard front).allocated < UInt32.size := by
    intro front hprefix
    have hlength : front.length ≤ 4 := hprefix.length_le
    have hle := Register.allocated_after_le .standard front
    have hsize : UInt32.size = 4294967296 := rfl
    omega
  obtain ⟨_, hreports⟩ :=
    serve_registers (Store.holds_buffered .sqlite 2 3) .standard ops hnames hroom
  have hlower : Text.lower (Text.trim " FOO") = "foo" := by decide +kernel
  have hremove : ∀ r : Register, (r.perform .standard (.remove stub)).2
      = { r with records := r.records.filter (·.shasum ≠ "p10") } := fun _ => rfl
  have hunder : (Register.after .standard ops).under "foo" = ["p2", "p10"] := by
    simp [ops, Register.after, perform_titled, hremove, Register.shasums, Register.under]
  rw [(hreports ops (List.prefix_refl ops)).stubsOf " FOO" (by rw [hlower]; decide), hlower, hunder]

/-- A word with a zero is no name, so that asking for its pages is refused, although no page can
have it. -/
theorem stubsOf_unnamed :
    let ops : List Lexicon.Change := [Search.titled "a"]
    let s : Store := .plain (.ofBackend .memory false)
    ((Keywords.stubsOf "a\x00").run (Lexicon.serve .standard s ops)).1
        = .error (.invalidName "a\x00") ∧
      (Register.after .standard ops).under (Text.lower (Text.trim "a\x00")) = [] := by
  intro ops s
  have hlower : Text.lower (Text.trim "a\x00") = "a\x00" := by decide +kernel
  constructor
  · rw [run_stubsOf_invalid _ (by rw [hlower]; decide), hlower]
  · rw [hlower]
    simp [ops, Register.after, perform_titled, Register.shasums, Register.under]

end SiteIndex.Index
