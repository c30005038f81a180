import Mathlib.Data.List.TakeWhile
import SiteIndex.Index.Keywords
import SiteIndex.Proofs.Index.Summary
import SiteIndex.Proofs.Posting.Tokens
import SiteIndex.Proofs.Search.Token

/-!
# What the index of keywords stands for

A `Lexicon` has the pages that are indexed, in the order in which they were added, each with the
words that it was posted under and its summary. `Records` says that the tables of a store are those
of a lexicon: numbers ascend in the order of the pages, and a token lists the numbers of the pages
that have the word. Adding a page and taking one out keep the relation, and what comes of it is what
the lexicon says (`takes_addWords`, `takes_removeWords`).
-/

namespace SiteIndex.Index

open Markup (Formats)
open Posting
open Store (Namespace OrderedMap)
open Store.Key (isName)
open SiteIndex.Action (Takes)

/-- The shasums of the pages that are posted under a word. -/
def Keywords.shasumsUnder (word : String) : Action Store (List String) := do
  Tables.shasums .keyword (← Tables.tokenPostings .keyword word).stubs

/-- A page of the index of keywords. -/
structure Document where
  shasum : String
  /-- The words that the page is posted under. -/
  words : List String
  /-- The summary; a page some word of which could not be posted has none. -/
  summary : Option Summary
  deriving DecidableEq

/-- The pages of an index of keywords. -/
structure Lexicon where
  /-- The pages that are indexed, the one that was added last at the end. -/
  documents : List Document := []
  /-- How many pages were added since the index was empty. -/
  numbered : Nat := 0
  deriving DecidableEq

namespace Lexicon

/-- The shasums of the pages. -/
def shasums (l : Lexicon) : List String := l.documents.map (·.shasum)

/-- The lexicon with a new page behind the others. -/
def push (l : Lexicon) (d : Document) : Lexicon := ⟨l.documents ++ [d], l.numbered + 1⟩

/-- Adds a page with its words, and says how many there are. A page that is there already is left as
it is. Nothing is posted from the first word on that is no name. -/
def add (shasum : String) (words : List String) (summary : Summary) (l : Lexicon) :
    Outcome Nat × Lexicon :=
  if shasum ∈ l.shasums then (.ok 0, l)
  else
    match words.find? fun word => !isName word with
    | some word =>
      (.error (.invalidName word), l.push ⟨shasum, words.takeWhile fun word => isName word, none⟩)
    | none => (.ok words.length, l.push ⟨shasum, words, some summary⟩)

/-- Takes a page out, and says how many words it had. -/
def remove (shasum : String) (l : Lexicon) : Nat × Lexicon :=
  (((l.documents.find? (·.shasum = shasum)).map (·.words.length)).getD 0,
    { l with documents := l.documents.filter (·.shasum ≠ shasum) })

/-- The shasums of the pages with a word, the one that was added last at the end. -/
def holding (word : String) (l : Lexicon) : List String :=
  (l.documents.filter (word ∈ ·.words)).map (·.shasum)

/-- The summary of a page. -/
def summaryOf? (shasum : String) (l : Lexicon) : Option Summary :=
  (l.documents.find? (·.shasum = shasum)).bind (·.summary)

/-- A page that is not there yet is numbered. -/
theorem numbered_add {l : Lexicon} {shasum : String} {words : List String} {summary : Summary}
    (h : shasum ∉ l.shasums) : (l.add shasum words summary).2.numbered = l.numbered + 1 := by
  rw [add, if_neg h]
  split <;> rfl

/-- A new page that is added without a fault comes behind the others with all its words. -/
theorem add_of_ok {l : Lexicon} {shasum : String} {words : List String} {summary : Summary}
    {count : Nat} (hnew : shasum ∉ l.shasums) (hok : (l.add shasum words summary).1 = .ok count) :
    (l.add shasum words summary).2 = l.push ⟨shasum, words, some summary⟩ := by
  rw [add, if_neg hnew] at hok ⊢
  split at hok
  case h_1 => cases hok
  case h_2 => rfl

/-- A page is added without a fault if its words are names. -/
theorem add_ok_of_names (l : Lexicon) (shasum : String) {words : List String} (summary : Summary)
    (h : ∀ word ∈ words, isName word = true) :
    ∃ count, (l.add shasum words summary).1 = .ok count := by
  have hfind : words.find? (fun word => !isName word) = none :=
    List.find?_eq_none.2 fun word hword => by simpa using h word hword
  rw [add, hfind]
  split <;> exact ⟨_, rfl⟩

end Lexicon

/-- A stored summary is read. -/
theorem takes_summary? {f : Fields} {t : Namespace → Fields} {shasum : String}
    {summary : Option Summary} (h : f (.summary shasum) = summary.map Summary.encode) :
    Takes (Shows t .keyword) (Keywords.summary? shasum) f (.ok summary) f := by
  have hread : Takes (Shows t .keyword) (Tables.summary? .keyword shasum) f
      (.ok ((f (.summary shasum)).map id)) f := takes_get? (.summary shasum)
  rw [Option.map_id_apply, h] at hread
  cases summary with
  | none => exact Takes.bind hread (Takes.pure none)
  | some s => exact Takes.bind hread (Takes.lift_bind s.decode_encode (Takes.pure _))

/-! ## What requests do to the tables -/

namespace Keywords

variable {t : Namespace → Fields} {f g : Fields} {formats : Formats} {stub : Page.Stub}
  {page : Page} {words : List String} {index : UInt32}

/-- A page that has a number is not posted again. -/
theorem takes_add_known (hindex : f (.stubIndex stub.shasum) = some index) :
    Takes (Shows t .keyword) (Keywords.add formats stub page) f (.ok 0) f := by
  have hstub : Takes (Shows t .keyword) (Tables.stubIndex? .keyword stub.shasum) f
      (.ok (some index)) f := hindex ▸ takes_stubIndex? stub.shasum
  exact Takes.bind hstub (Takes.pure 0)

/-- A page with a word that is refused is left with its number, but without a summary. -/
theorem takes_add_refused (hindex : f (.stubIndex stub.shasum) = none)
    (hwords : Search.uniqueTerms (visibleText formats page) = words) {fault : Failure}
    (hadd : Takes (Shows t .keyword) (addAll (f.ensureStub stub.shasum).1 words)
      (f.ensureStub stub.shasum).2 (.error fault) g) :
    Takes (Shows t .keyword) (Keywords.add formats stub page) f (.error fault) g := by
  subst hwords
  have hstub : Takes (Shows t .keyword) (Tables.stubIndex? .keyword stub.shasum) f (.ok none) f :=
    hindex ▸ takes_stubIndex? stub.shasum
  exact Takes.bind hstub (Takes.bind (takes_ensureStub stub.shasum) (Takes.bind_error hadd))

/-- A page without a number is given one, posted under its words and summarized. -/
theorem takes_add_new (hindex : f (.stubIndex stub.shasum) = none)
    (hwords : Search.uniqueTerms (visibleText formats page) = words)
    (hadd : Takes (Shows t .keyword) (addAll (f.ensureStub stub.shasum).1 words)
      (f.ensureStub stub.shasum).2 (.ok ()) g) :
    Takes (Shows t .keyword) (Keywords.add formats stub page) f (.ok words.length)
      (g.put (.summary stub.shasum) (some (summaryOf page).encode)) := by
  subst hwords
  have hstub : Takes (Shows t .keyword) (Tables.stubIndex? .keyword stub.shasum) f (.ok none) f :=
    hindex ▸ takes_stubIndex? stub.shasum
  have hset : Takes (Shows t .keyword) (Tables.setSummary .keyword stub.shasum
      (summaryOf page).encode) g (.ok ())
      (g.put (.summary stub.shasum) (some (summaryOf page).encode)) :=
    takes_set (.summary stub.shasum) _
  exact Takes.bind hstub (Takes.bind (takes_ensureStub stub.shasum)
    (Takes.bind hadd (Takes.bind hset (Takes.pure _))))

/-- Taking out a page that has no number does nothing. -/
theorem takes_remove_unknown (hindex : f (.stubIndex stub.shasum) = none) :
    Takes (Shows t .keyword) (Keywords.remove stub) f (.ok 0) f := by
  have hstub : Takes (Shows t .keyword) (Tables.stubIndex? .keyword stub.shasum) f (.ok none) f :=
    hindex ▸ takes_stubIndex? stub.shasum
  exact Takes.bind hstub (Takes.pure 0)

/-- A page that has a number is taken from all its words before its summary goes and it is
forgotten. -/
theorem takes_remove_known (hindex : f (.stubIndex stub.shasum) = some index)
    {tokens : List String}
    (htokens : Takes (Shows t .keyword) (Tables.tokensOf .keyword index) f (.ok tokens) f)
    (hremove : Takes (Shows t .keyword) (removeAll index tokens) f (.ok ()) g) :
    Takes (Shows t .keyword) (Keywords.remove stub) f (.ok tokens.length)
      ((g.put (.summary stub.shasum) none).forgetStub stub.shasum).2 := by
  have hstub : Takes (Shows t .keyword) (Tables.stubIndex? .keyword stub.shasum) f
      (.ok (some index)) f := hindex ▸ takes_stubIndex? stub.shasum
  have hsummary : Takes (Shows t .keyword) (Tables.removeSummary .keyword stub.shasum) g (.ok ())
      (g.put (.summary stub.shasum) none) := takes_delete (.summary stub.shasum)
  exact Takes.bind hstub (Takes.bind htokens (Takes.bind hremove (Takes.bind hsummary
    (Takes.bind (takes_forgetStub stub.shasum) (Takes.pure _)))))

end Keywords

/-! ## The tables of a lexicon -/

/-- The shasums have numbers in the order of the list, of all that were handed out. -/
structure Numbered (f : Fields) (shasums : List String) (numbered : Nat) : Prop where
  next : f.nextStub.toNat = numbered
  order : shasums.Pairwise fun a b => ∀ i j,
    f (.stubIndex a) = some i → f (.stubIndex b) = some j → i < j
  live : ∀ shasum, shasum ∈ shasums ↔ f (.stubIndex shasum) ≠ none

/-- A page is kept with its summary, and its words are names that differ from each other. -/
structure Kept (f : Fields) (d : Document) : Prop where
  summary : f (.summary d.shasum) = d.summary.map Summary.encode
  names : ∀ word ∈ d.words, isName word = true
  nodup : d.words.Nodup

/-- The tables stand for the lexicon. -/
structure Records (f : Fields) (l : Lexicon) : Prop where
  coherent : Coherent f
  numbers : Numbered f l.shasums l.numbered
  posted : ∀ (text : Name) index, index ∈ f.stubs (.token text) ↔
    ∃ d ∈ l.documents, f (.stubIndex d.shasum) = some index ∧ text.1 ∈ d.words
  kept : ∀ d ∈ l.documents, Kept f d
  summary_none : ∀ shasum, shasum ∉ l.shasums → f (.summary shasum) = none

namespace Numbered

variable {f g : Fields} {shasums : List String} {n : Nat} {shasum : String} {index : UInt32}

/-- Numbers are those of the cells of shasums. -/
theorem congr (h : Numbered f shasums n) (hnext : g .nextStub = f .nextStub)
    (hstub : ∀ shasum, g (.stubIndex shasum) = f (.stubIndex shasum)) : Numbered g shasums n where
  next := by
    rw [Fields.nextStub, hnext]
    exact h.next
  order := by simpa only [hstub] using h.order
  live := by simpa only [hstub] using h.live

/-- No shasum is there twice. -/
theorem nodup (h : Numbered f shasums n) : shasums.Nodup := by
  refine h.order.imp_of_mem fun {a b} ha _ hab heq => ?_
  obtain ⟨i, hi⟩ := Option.ne_none_iff_exists'.1 ((h.live a).1 ha)
  exact UInt32.lt_irrefl i (hab i i hi (heq ▸ hi))

/-- A shasum without a number is not there. -/
theorem not_mem (h : Numbered f shasums n) (hindex : f (.stubIndex shasum) = none) :
    shasum ∉ shasums := by
  rw [h.live, hindex]
  exact fun hne => hne rfl

/-- A new shasum gets the highest number. -/
theorem ensureStub (h : Numbered f shasums n) (hcoherent : Coherent f)
    (hindex : f (.stubIndex shasum) = none) (hroom : n + 1 < UInt32.size) :
    Numbered (f.ensureStub shasum).2 (shasums ++ [shasum]) (n + 1) := by
  have hstub : ∀ other, (f.ensureStub shasum).2 (.stubIndex other)
      = if other = shasum then some f.nextStub else f (.stubIndex other) := by
    intro other
    simp [Fields.ensureStub, hindex]
  have hold : ∀ other ∈ shasums,
      (f.ensureStub shasum).2 (.stubIndex other) = f (.stubIndex other) := by
    intro other hother
    rw [hstub, if_neg]
    rintro rfl
    exact h.not_mem hindex hother
  constructor
  case next =>
    rw [Fields.ensureStub, hindex]
    rw [Fields.nextStub_put, toNat_succ (h.next ▸ hroom), h.next]
  case order =>
    refine List.pairwise_append.2 ⟨h.order.imp_of_mem fun {a b} ha hb hab => ?_,
      List.pairwise_singleton _ _, fun a ha b hb => ?_⟩
    · rwa [hold a ha, hold b hb]
    · obtain rfl := List.mem_singleton.1 hb
      rw [hold a ha, hstub, if_pos rfl]
      intro i j hi hj
      exact Option.some.inj hj ▸ hcoherent.stub_lt _ _ hi
  case live =>
    intro other
    rw [List.mem_append, List.mem_singleton, h.live, hstub]
    by_cases hother : other = shasum <;> simp [hother]

/-- The other shasums keep their numbers when one loses its own. -/
theorem without (h : Numbered f shasums n) (hnext : g .nextStub = f .nextStub)
    (hstub : ∀ other, g (.stubIndex other)
      = if other = shasum then none else f (.stubIndex other)) :
    Numbered g (shasums.filter (· ≠ shasum)) n := by
  constructor
  case next =>
    rw [Fields.nextStub, hnext]
    exact h.next
  case order =>
    refine (h.order.filter _).imp_of_mem fun {a b} ha hb hab => ?_
    have ha := of_decide_eq_true (List.mem_filter.1 ha).2
    have hb := of_decide_eq_true (List.mem_filter.1 hb).2
    rwa [hstub, hstub, if_neg ha, if_neg hb]
  case live =>
    intro other
    rw [List.mem_filter, h.live, hstub]
    by_cases hother : other = shasum <;> simp [hother]

end Numbered

namespace Records

variable {f : Fields} {l : Lexicon} {shasum : String} {index : UInt32} {d e : Document}

/-- Empty tables stand for the empty lexicon. -/
theorem empty : Records (fun _ => none) {} where
  coherent := Coherent.empty
  numbers := ⟨rfl, List.Pairwise.nil, fun _ => ⟨nofun, fun h => absurd rfl h⟩⟩
  posted _ _ := ⟨fun h => absurd h StubSet.not_mem_empty, nofun⟩
  kept := nofun
  summary_none _ _ := rfl

/-- A page is the only one with its shasum. -/
theorem document_eq (h : Records f l) (hd : d ∈ l.documents) (he : e ∈ l.documents)
    (heq : d.shasum = e.shasum) : d = e :=
  List.inj_on_of_nodup_map h.numbers.nodup hd he heq

/-- A page is found by its shasum. -/
theorem find?_eq (h : Records f l) (hd : d ∈ l.documents) :
    l.documents.find? (·.shasum = d.shasum) = some d := by
  cases hfind : l.documents.find? (·.shasum = d.shasum) with
  | none =>
      have hnot := List.find?_eq_none.1 hfind d hd
      simp at hnot
  | some e =>
      have he := List.mem_of_find?_eq_some hfind
      have heq : e.shasum = d.shasum := by simpa using List.find?_some hfind
      rw [h.document_eq he hd heq]

/-! ## Adding pages -/

/-- A page behind the others. -/
theorem mem_documents_push : e ∈ (l.push d).documents ↔ e ∈ l.documents ∨ e = d := by
  simp [Lexicon.push]

/-- The shasum of a page behind the others. -/
theorem shasums_push : (l.push d).shasums = l.shasums ++ [d.shasum] := by
  simp [Lexicon.shasums, Lexicon.push]

/-- A new page gets the highest number. -/
theorem number (h : Records f l) (hindex : f (.stubIndex shasum) = none)
    (hroom : l.numbered + 1 < UInt32.size) :
    Records (f.ensureStub shasum).2 (l.push ⟨shasum, [], none⟩) := by
  have hstub : ∀ d ∈ l.documents,
      (f.ensureStub shasum).2 (.stubIndex d.shasum) = f (.stubIndex d.shasum) := by
    intro d hd
    have hne : d.shasum ≠ shasum := fun heq =>
      h.numbers.not_mem hindex (heq ▸ List.mem_map_of_mem hd)
    simp [Fields.ensureStub, hindex, hne]
  have hsummary : ∀ other, (f.ensureStub shasum).2 (.summary other) = f (.summary other) := by
    intro other
    simp [Fields.ensureStub, hindex]
  constructor
  case coherent =>
    exact h.coherent.ensureStub shasum fun _ => by rwa [h.numbers.next]
  case numbers =>
    rw [shasums_push]
    exact h.numbers.ensureStub h.coherent hindex hroom
  case posted =>
    intro text index
    have hstubs : (f.ensureStub shasum).2.stubs (.token text) = f.stubs (.token text) := by
      simp [Fields.stubs, Fields.ensureStub, hindex]
    simp only [hstubs, h.posted, mem_documents_push, or_and_right, exists_or, exists_eq_left]
    rw [or_iff_left fun hnone => absurd hnone.2 List.not_mem_nil]
    exact exists_congr fun d => and_congr_right fun hd => by rw [hstub d hd]
  case kept =>
    intro d hd
    rcases mem_documents_push.1 hd with hd | rfl
    · exact ⟨(hsummary _).trans (h.kept d hd).summary, (h.kept d hd).names, (h.kept d hd).nodup⟩
    · exact ⟨(hsummary _).trans (h.summary_none _ (h.numbers.not_mem hindex)),
        List.forall_mem_nil _, List.nodup_nil⟩
  case summary_none =>
    intro other hother
    rw [shasums_push] at hother
    exact (hsummary other).trans (h.summary_none other fun hmem =>
      hother (List.mem_append_left _ hmem))

/-- The page that was added last is posted under one more word. -/
theorem post {front : List String} {word : Name} (h : Records f (l.push ⟨shasum, front, none⟩))
    (hindex : f (.stubIndex shasum) = some index) (hword : word.1 ∉ front) :
    Records (f.post (.token word) index).2 (l.push ⟨shasum, front ++ [word.1], none⟩) := by
  have hlast : Kept f ⟨shasum, front, none⟩ := h.kept _ (mem_documents_push.2 (.inr rfl))
  have hnumbers := h.numbers.congr (g := (f.post (.token word) index).2) (by simp) (by simp)
  have hnone := h.summary_none
  rw [shasums_push] at hnumbers hnone
  constructor
  case coherent => exact h.coherent.postToken word index
  case numbers =>
    rw [shasums_push]
    exact hnumbers
  case posted =>
    intro text k
    have htoken : Heading.token text = .token word ↔ text.1 = word.1 := by
      rw [Heading.token.injEq, Subtype.ext_iff]
    rw [Fields.mem_stubs_post, h.posted, htoken]
    simp only [Fields.stubIndex_post, mem_documents_push, or_and_right, exists_or, exists_eq_left,
      List.mem_append, List.mem_singleton, hindex, Option.some.injEq]
    rw [or_left_comm, and_comm, eq_comm (a := k), ← and_or_left, or_comm (a := text.1 = word.1)]
  case kept =>
    intro d hd
    rcases mem_documents_push.1 hd with hd | rfl
    · have hkept := h.kept d (mem_documents_push.2 (.inl hd))
      exact ⟨(Fields.summary_post _).trans hkept.summary, hkept.names, hkept.nodup⟩
    · refine ⟨(Fields.summary_post _).trans hlast.summary, fun other hother => ?_,
        hlast.nodup.append (List.nodup_singleton _) fun other hother hmem => ?_⟩
      · rcases List.mem_append.1 hother with hother | hother
        · exact hlast.names other hother
        · exact List.mem_singleton.1 hother ▸ word.2
      · exact hword (List.mem_singleton.1 hmem ▸ hother)
  case summary_none =>
    intro other hother
    rw [shasums_push] at hother
    exact (Fields.summary_post other).trans (hnone other hother)

/-- The page that was added last gets a summary. -/
theorem summarize {words : List String} (h : Records f (l.push ⟨shasum, words, none⟩))
    (s : Summary) : Records (f.put (.summary shasum) (some s.encode))
      (l.push ⟨shasum, words, some s⟩) := by
  have hlast : Kept f ⟨shasum, words, none⟩ := h.kept _ (mem_documents_push.2 (.inr rfl))
  have hnumbers : Numbered (f.put (.summary shasum) (some s.encode)) _ _ :=
    h.numbers.congr (by simp) (by simp)
  have hnone := h.summary_none
  rw [shasums_push] at hnumbers hnone
  constructor
  case coherent => exact Fields.coherent_put_summary h.coherent _ _
  case numbers =>
    rw [shasums_push]
    exact hnumbers
  case posted =>
    intro text index
    have hposted := h.posted text index
    simp only [Fields.stubs, mem_documents_push, or_and_right, exists_or, exists_eq_left]
      at hposted ⊢
    simpa using hposted
  case kept =>
    intro d hd
    rcases mem_documents_push.1 hd with hd | rfl
    · have hkept := h.kept d (mem_documents_push.2 (.inl hd))
      have hne : d.shasum ≠ shasum := (List.nodup_append.1 hnumbers.nodup).2.2 _
        (List.mem_map_of_mem hd) _ (List.mem_singleton_self _)
      exact ⟨by rw [Fields.put_summary, if_neg hne]; exact hkept.summary, hkept.names, hkept.nodup⟩
    · exact ⟨by rw [Fields.put_summary, if_pos rfl]; rfl, hlast.names, hlast.nodup⟩
  case summary_none =>
    intro other hother
    rw [shasums_push] at hother
    have hne : other ≠ shasum := fun heq =>
      hother (List.mem_append_right _ (List.mem_singleton.2 heq))
    rw [Fields.put_summary, if_neg hne]
    exact hnone other hother

variable {t : Namespace → Fields}

/-- The page that was added last is posted under its words, up to the first that is no name. -/
theorem takes_addAll {front words : List String} (h : Records f (l.push ⟨shasum, front, none⟩))
    (hindex : f (.stubIndex shasum) = some index) (hnodup : (front ++ words).Nodup) :
    ∃ g, Takes (Shows t .keyword) (Keywords.addAll index words) f
        (match words.find? fun word => !isName word with
          | some word => .error (.invalidName word)
          | none => .ok ()) g ∧
      Records g (l.push ⟨shasum, front ++ words.takeWhile fun word => isName word, none⟩) := by
  induction words generalizing f front with
  | nil =>
      refine ⟨f, Takes.pure (), ?_⟩
      rwa [List.takeWhile_nil, List.append_nil]
  | cons word rest ih =>
      by_cases hname : isName word = true
      · rw [List.find?_cons_of_neg (by simp [hname]), List.takeWhile_cons_of_pos hname]
        have hword : word ∉ front := fun hmem =>
          (List.nodup_append.1 hnodup).2.2 word hmem word (List.mem_cons_self ..) rfl
        have hindex' : (f.post (.token ⟨word, hname⟩) index).2 (.stubIndex shasum) = some index :=
          (Fields.stubIndex_post shasum).trans hindex
        have hmore : (front ++ [word] ++ rest).Nodup := by simpa using hnodup
        have hposted : Records (f.post (.token ⟨word, hname⟩) index).2
            (l.push ⟨shasum, front ++ [word], none⟩) := h.post hindex hword
        obtain ⟨g, hrest, hrecords⟩ := ih hposted hindex' hmore
        refine ⟨g, Takes.bind (takes_addToken ⟨word, hname⟩ index) hrest, ?_⟩
        simpa using hrecords
      · rw [List.find?_cons_of_pos (by simpa using hname), List.takeWhile_cons_of_neg hname,
          List.append_nil]
        exact ⟨f, Takes.bind_error (takes_addToken_invalid hname index), h⟩

/-- Words that are all names are all posted. -/
theorem takeWhile_of_find?_eq_none {words : List String}
    (h : words.find? (fun word => !isName word) = none) :
    words.takeWhile (fun word => isName word) = words := by
  refine List.takeWhile_eq_self_iff.2 fun word hword => ?_
  simpa using List.find?_eq_none.1 h word hword

/-- Adding a page does what the lexicon says. -/
theorem takes_add (h : Records f l) (formats : Formats) (stub : Page.Stub) (page : Page)
    (hnumbered : (l.add stub.shasum (Search.uniqueTerms (Keywords.visibleText formats page))
      (Keywords.summaryOf page)).2.numbered < UInt32.size) :
    ∃ g, Takes (Shows t .keyword) (Keywords.add formats stub page) f
        (l.add stub.shasum (Search.uniqueTerms (Keywords.visibleText formats page))
          (Keywords.summaryOf page)).1 g ∧
      Records g (l.add stub.shasum (Search.uniqueTerms (Keywords.visibleText formats page))
        (Keywords.summaryOf page)).2 := by
  cases hindex : f (.stubIndex stub.shasum) with
  | some index =>
      have hmem : stub.shasum ∈ l.shasums := (h.numbers.live _).2 (by rw [hindex]; nofun)
      rw [Lexicon.add, if_pos hmem]
      exact ⟨f, Keywords.takes_add_known hindex, h⟩
  | none =>
      rw [Lexicon.numbered_add (h.numbers.not_mem hindex)] at hnumbered
      have hensure : (f.ensureStub stub.shasum).2 (.stubIndex stub.shasum)
          = some (f.ensureStub stub.shasum).1 := by
        simp [Fields.ensureStub, hindex]
      have hnodup := Search.nodup_uniqueTerms (Keywords.visibleText formats page)
      generalize hwords : Search.uniqueTerms (Keywords.visibleText formats page) = words
        at hnodup ⊢
      obtain ⟨g, hadd, hrecords⟩ :=
        (h.number hindex hnumbered).takes_addAll (t := t) hensure hnodup
      rw [Lexicon.add, if_neg (h.numbers.not_mem hindex)]
      cases hinvalid : words.find? fun word => !isName word with
      | some word =>
          rw [hinvalid] at hadd
          exact ⟨g, Keywords.takes_add_refused hindex hwords hadd, hrecords⟩
      | none =>
          rw [hinvalid] at hadd
          rw [takeWhile_of_find?_eq_none hinvalid, List.nil_append] at hrecords
          exact ⟨_, Keywords.takes_add_new hindex hwords hadd, hrecords.summarize _⟩

/-! ## Taking pages out -/

/-- A stub is taken away from words one after the other. -/
theorem takes_removeAll (names : List Name) (index : UInt32) :
    ∃ g, Takes (Shows t .keyword) (Keywords.removeAll index (names.map (·.1))) f (.ok ()) g ∧
      (Coherent f → Coherent g) ∧ (∀ c, (∀ text, c ≠ .postings (.token text)) → g c = f c) ∧
      ∀ text k, k ∈ g.stubs (.token text) ↔
        k ∈ f.stubs (.token text) ∧ ¬ (text ∈ names ∧ k = index) := by
  induction names generalizing f with
  | nil => exact ⟨f, Takes.pure (), id, fun _ _ => rfl, by simp⟩
  | cons name rest ih =>
      obtain ⟨g, hrest, hcoherent, hsame, hstubs⟩ := @ih (f.unpost (.token name) index).2
      refine ⟨g, Takes.bind (takes_removeToken name index) hrest,
        fun h => hcoherent (h.unpostToken name index), fun c hc => ?_, fun text k => ?_⟩
      · rw [hsame c hc, f.unpost_of_ne (hc name)]
      · rw [hstubs, Fields.mem_stubs_unpost, Heading.token.injEq, and_assoc, List.mem_cons,
          or_and_right, not_or]

/-- The number is posted under no word any more, and nothing else is changed. -/
structure Unposted (f : Fields) (index : UInt32) (g : Fields) : Prop where
  coherent : Coherent f → Coherent g
  same : ∀ c, (∀ text, c ≠ .postings (.token text)) → g c = f c
  stubs : ∀ text k, k ∈ g.stubs (.token text) ↔ k ∈ f.stubs (.token text) ∧ k ≠ index

/-- A page and its number are gone from the tables. -/
structure Gone (f : Fields) (shasum : String) (index : UInt32) (g : Fields) : Prop where
  coherent : Coherent f → Coherent g
  nextStub : g .nextStub = f .nextStub
  stubIndex : ∀ other, g (.stubIndex other) = if other = shasum then none else f (.stubIndex other)
  stubShasum : ∀ k, g (.stubShasum k) = if k = index then none else f (.stubShasum k)
  summary : ∀ other, g (.summary other) = if other = shasum then none else f (.summary other)
  stubs : ∀ text k, k ∈ g.stubs (.token text) ↔ k ∈ f.stubs (.token text) ∧ k ≠ index

namespace Unposted

variable {g : Fields}

/-- The numbers of pages stay. -/
theorem stubIndex (h : Unposted f index g) (other : String) :
    g (.stubIndex other) = f (.stubIndex other) := h.same _ (by simp)

/-- What is left of a page are its summary and its number. -/
theorem forgetStub_eq (h : Unposted f index g) (hindex : f (.stubIndex shasum) = some index) :
    ((g.put (.summary shasum) none).forgetStub shasum).2
      = ((g.put (.summary shasum) none).put (.stubIndex shasum) none).put
        (.stubShasum index) none := by
  have hindex' : g (.stubIndex shasum) = some index := (h.stubIndex shasum).trans hindex
  simp [Fields.forgetStub, hindex']

/-- Without them the page is gone. -/
theorem gone (h : Unposted f index g) (hindex : f (.stubIndex shasum) = some index) :
    Gone f shasum index ((g.put (.summary shasum) none).forgetStub shasum).2 := by
  constructor
  case coherent =>
    exact fun hf => (Fields.coherent_put_summary (h.coherent hf) _ _).forgetStub shasum
  all_goals rw [h.forgetStub_eq hindex]
  case nextStub =>
    have hnext : g .nextStub = f .nextStub := h.same _ (by simp)
    simp [hnext]
  case stubIndex =>
    intro other
    simp [h.stubIndex other]
  case stubShasum =>
    intro k
    have hk : g (.stubShasum k) = f (.stubShasum k) := h.same _ (by simp)
    simp [hk]
  case summary =>
    intro other
    have hother : g (.summary other) = f (.summary other) := h.same _ (by simp)
    simp [hother]
  case stubs =>
    intro text k
    rw [← h.stubs]
    simp [Fields.stubs]

/-- What belongs to attributes stays. -/
theorem forgetStub_of_attribute (h : Unposted f index g)
    (hindex : f (.stubIndex shasum) = some index) {c : Cell} (hc : c.attribute ≠ none) :
    ((g.put (.summary shasum) none).forgetStub shasum).2 c = f c := by
  have hne : ∀ {d : Cell}, d.attribute = none → c ≠ d := fun hd heq => hc (heq ▸ hd)
  rw [h.forgetStub_eq hindex, Fields.put_of_ne _ (hne rfl), Fields.put_of_ne _ (hne rfl),
    Fields.put_of_ne _ (hne rfl)]
  exact h.same c fun text => hne rfl

end Unposted

/-- A page that has a number is taken out, and the words under which it was posted are counted. -/
theorem exists_takes_remove {m : OrderedMap Bytes} (hm : Stored m (Function.update t .keyword f))
    {stub : Page.Stub} (hindex : f (.stubIndex stub.shasum) = some index) :
    ∃ names : List Name, names.Nodup ∧ (∀ text, text ∈ names ↔ index ∈ f.stubs (.token text)) ∧
      ∃ g, Takes (Shows t .keyword) (Keywords.remove stub) f (.ok names.length) g ∧
        Gone f stub.shasum index g ∧ ∀ c, c.attribute ≠ none → g c = f c := by
  obtain ⟨names, hnodup, hnames, htokens⟩ := exists_takes_tokensOf hm index
  obtain ⟨g, hremove, hcoherent, hsame, hstubs⟩ := takes_removeAll (t := t) names index
  have hunposted : Unposted f index g := by
    refine ⟨hcoherent, hsame, fun text k => ?_⟩
    rw [hstubs]
    refine and_congr_right fun hk => not_congr (and_iff_right_of_imp ?_)
    rintro rfl
    exact (hnames text).2 hk
  have hremoved := Keywords.takes_remove_known hindex htokens hremove
  rw [List.length_map] at hremoved
  exact ⟨names, hnodup, hnames, _, hremoved, hunposted.gone hindex,
    fun c hc => hunposted.forgetStub_of_attribute hindex hc⟩

/-- The words of a page are those under which its number is posted. -/
theorem mem_words_iff (h : Records f l) (hd : d ∈ l.documents)
    (hindex : f (.stubIndex d.shasum) = some index) (text : Name) :
    text.1 ∈ d.words ↔ index ∈ f.stubs (.token text) := by
  rw [h.posted]
  constructor
  · exact fun hword => ⟨d, hd, hindex, hword⟩
  · rintro ⟨e, he, heindex, hword⟩
    have hshasum := (h.coherent.stub_inverse _ _).1 heindex
    rw [(h.coherent.stub_inverse _ _).1 hindex, Option.some.injEq] at hshasum
    rwa [h.document_eq hd he hshasum]

/-- The other shasums stay when a page is taken out. -/
theorem shasums_remove : (l.remove shasum).2.shasums = l.shasums.filter (· ≠ shasum) := by
  rw [Lexicon.shasums, Lexicon.shasums, List.filter_map]
  rfl

/-- A page that is gone from the tables is gone from the lexicon. -/
theorem gone {g : Fields} (h : Records f l) (hindex : f (.stubIndex shasum) = some index)
    (hgone : Gone f shasum index g) : Records g (l.remove shasum).2 := by
  constructor
  case coherent => exact hgone.coherent h.coherent
  case numbers =>
    rw [shasums_remove]
    exact h.numbers.without hgone.nextStub hgone.stubIndex
  case posted =>
    intro text k
    rw [hgone.stubs, h.posted]
    constructor
    · rintro ⟨⟨d, hd, hk, hword⟩, hne⟩
      have hshasum : d.shasum ≠ shasum := by
        intro heq
        rw [heq, hindex, Option.some.injEq] at hk
        exact hne hk.symm
      refine ⟨d, List.mem_filter.2 ⟨hd, decide_eq_true hshasum⟩, ?_, hword⟩
      rw [hgone.stubIndex, if_neg hshasum, hk]
    · rintro ⟨d, hd, hk, hword⟩
      obtain ⟨hd, hshasum⟩ := List.mem_filter.1 hd
      have hshasum := of_decide_eq_true hshasum
      rw [hgone.stubIndex, if_neg hshasum] at hk
      refine ⟨⟨d, hd, hk, hword⟩, fun heq => hshasum ?_⟩
      have hinverse := (h.coherent.stub_inverse _ _).1 hk
      rw [heq, (h.coherent.stub_inverse _ _).1 hindex, Option.some.injEq] at hinverse
      exact hinverse.symm
  case kept =>
    intro d hd
    obtain ⟨hd, hshasum⟩ := List.mem_filter.1 hd
    refine ⟨?_, (h.kept d hd).names, (h.kept d hd).nodup⟩
    rw [hgone.summary, if_neg (of_decide_eq_true hshasum)]
    exact (h.kept d hd).summary
  case summary_none =>
    intro other hother
    rw [hgone.summary]
    split
    case isTrue => rfl
    case isFalse hne =>
      refine h.summary_none other fun hmem => hother ?_
      rw [shasums_remove]
      exact List.mem_filter.2 ⟨hmem, decide_eq_true hne⟩

/-- Taking a page out does what the lexicon says. -/
theorem takes_remove {m : OrderedMap Bytes} (hm : Stored m (Function.update t .keyword f))
    (h : Records f l) (stub : Page.Stub) :
    ∃ g, Takes (Shows t .keyword) (Keywords.remove stub) f (.ok (l.remove stub.shasum).1) g ∧
      Records g (l.remove stub.shasum).2 := by
  cases hindex : f (.stubIndex stub.shasum) with
  | none =>
      have hnone : l.documents.find? (·.shasum = stub.shasum) = none := by
        refine List.find?_eq_none.2 fun d hd heq => h.numbers.not_mem hindex ?_
        exact List.mem_map.2 ⟨d, hd, of_decide_eq_true heq⟩
      have hall : l.documents.filter (·.shasum ≠ stub.shasum) = l.documents := by
        refine List.filter_eq_self.2 fun d hd => ?_
        simpa using List.find?_eq_none.1 hnone d hd
      rw [Lexicon.remove, hnone, hall]
      exact ⟨f, Keywords.takes_remove_unknown hindex, h⟩
  | some index =>
      have hlive : stub.shasum ∈ l.shasums := (h.numbers.live _).2 (by rw [hindex]; nofun)
      obtain ⟨d, hd, hshasum⟩ := List.mem_map.1 hlive
      obtain ⟨names, hnodup, hnames, g, hremove, hgone, _⟩ := exists_takes_remove hm hindex
      refine ⟨g, ?_, h.gone hindex hgone⟩
      have hwords : (names.map (·.1)).Perm d.words := by
        rw [← hshasum] at hindex
        refine (List.perm_ext_iff_of_nodup (hnodup.map Subtype.val_injective)
          (h.kept d hd).nodup).2 fun word => ?_
        rw [List.mem_map]
        constructor
        · rintro ⟨text, htext, rfl⟩
          exact (h.mem_words_iff hd hindex text).2 ((hnames text).1 htext)
        · intro hword
          have hname := (h.kept d hd).names word hword
          exact ⟨⟨word, hname⟩, (hnames _).2 ((h.mem_words_iff hd hindex _).1 hword), rfl⟩
      have hcount : (l.remove stub.shasum).1 = names.length := by
        rw [← List.length_map, hwords.length_eq, Lexicon.remove, ← hshasum, h.find?_eq hd]
        rfl
      rw [hcount]
      exact hremove

/-! ## Reading -/

/-- The numbers under a word are those of the pages that have it, in their order. -/
theorem toList_stubs (h : Records f l) (text : Name) : (f.stubs (.token text)).toList
    = (l.documents.filter (text.1 ∈ ·.words)).map
      fun d => (f (.stubIndex d.shasum)).getD 0 := by
  have hnumber : ∀ d ∈ l.documents, ∃ index, f (.stubIndex d.shasum) = some index := fun d hd =>
    Option.ne_none_iff_exists'.1 ((h.numbers.live d.shasum).1 (List.mem_map_of_mem hd))
  have hascending : ((l.documents.filter (text.1 ∈ ·.words)).map
      fun d => (f (.stubIndex d.shasum)).getD 0).Pairwise (· < ·) := by
    refine List.pairwise_map.2 (((List.pairwise_map.1 h.numbers.order).filter _).imp_of_mem ?_)
    intro d e hd he hde
    obtain ⟨i, hi⟩ := hnumber d (List.mem_of_mem_filter hd)
    obtain ⟨j, hj⟩ := hnumber e (List.mem_of_mem_filter he)
    rw [hi, hj]
    exact hde i j hi hj
  suffices hset : f.stubs (.token text) = ⟨_, hascending⟩ by rw [hset]
  refine StubSet.ext_mem fun index => ?_
  rw [StubSet.mem_toList, h.posted, List.mem_map]
  constructor
  · rintro ⟨d, hd, hindex, hword⟩
    exact ⟨d, List.mem_filter.2 ⟨hd, decide_eq_true hword⟩, by rw [hindex]; rfl⟩
  · rintro ⟨d, hd, rfl⟩
    obtain ⟨hd, hword⟩ := List.mem_filter.1 hd
    obtain ⟨index, hindex⟩ := hnumber d hd
    exact ⟨d, hd, by rw [hindex]; rfl, of_decide_eq_true hword⟩

/-- The pages under a word are those that have it, in their order. -/
theorem takes_shasumsUnder (h : Records f l) (text : Name) :
    Takes (Shows t .keyword) (Keywords.shasumsUnder text.1) f (.ok (l.holding text.1)) f := by
  have hshasum : ∀ d ∈ l.documents,
      f (.stubShasum ((f (.stubIndex d.shasum)).getD 0)) = some d.shasum := by
    intro d hd
    obtain ⟨index, hindex⟩ :=
      Option.ne_none_iff_exists'.1 ((h.numbers.live d.shasum).1 (List.mem_map_of_mem hd))
    rw [hindex]
    exact (h.coherent.stub_inverse _ _).1 hindex
  have hread : Takes (Shows t .keyword)
      (Tables.shasums .keyword (f.stubs (.token text)).toList) f
      (.ok ((f.stubs (.token text)).toList.map fun index => (f (.stubShasum index)).getD ""))
      f := by
    refine takes_shasums fun index hindex => ?_
    rw [h.toList_stubs] at hindex
    obtain ⟨d, hd, rfl⟩ := List.mem_map.1 hindex
    rw [hshasum d (List.mem_of_mem_filter hd)]
    rfl
  have hholding : (f.stubs (.token text)).toList.map (fun index => (f (.stubShasum index)).getD "")
      = l.holding text.1 := by
    rw [h.toList_stubs, List.map_map]
    refine List.map_congr_left fun d hd => ?_
    show (f (.stubShasum ((f (.stubIndex d.shasum)).getD 0))).getD "" = d.shasum
    rw [hshasum d (List.mem_of_mem_filter hd)]
    rfl
  rw [hholding] at hread
  exact Takes.bind (takes_tokenPostings text) hread

/-- The summary of a page is that of the lexicon. -/
theorem summary_eq (h : Records f l) (shasum : String) :
    f (.summary shasum) = (l.summaryOf? shasum).map Summary.encode := by
  rw [Lexicon.summaryOf?]
  cases hfind : l.documents.find? (·.shasum = shasum) with
  | none =>
      refine h.summary_none shasum fun hmem => ?_
      obtain ⟨d, hd, hshasum⟩ := List.mem_map.1 hmem
      exact List.find?_eq_none.1 hfind d hd (decide_eq_true hshasum)
  | some d =>
      obtain rfl : d.shasum = shasum := by simpa using List.find?_some hfind
      exact (h.kept d (List.mem_of_find?_eq_some hfind)).summary

end Records

/-! ## Runs -/

/-- The index of keywords in a store stands for a lexicon; `t` says what is in the other
namespace. -/
def Recorded (t : Namespace → Fields) (s : Store) (l : Lexicon) : Prop :=
  ∃ f, Shows t .keyword s f ∧ Records f l

section Operations

variable {t : Namespace → Fields} {l : Lexicon}

/-- The pages under a word are those of the lexicon. -/
theorem takes_shasumsUnder (text : Name) :
    Takes (Recorded t) (Keywords.shasumsUnder text.1) l (.ok (l.holding text.1)) l :=
  Takes.refine fun f h => ⟨f, h.takes_shasumsUnder text, h⟩

/-- The summary of a page is that of the lexicon. -/
theorem takes_summaryOf? (shasum : String) :
    Takes (Recorded t) (Keywords.summary? shasum) l (.ok (l.summaryOf? shasum)) l :=
  Takes.refine fun f h => ⟨f, takes_summary? (h.summary_eq shasum), h⟩

/-- Adding a page does what the lexicon says. -/
theorem takes_addWords (formats : Formats) (stub : Page.Stub) (page : Page)
    (hnumbered : (l.add stub.shasum (Search.uniqueTerms (Keywords.visibleText formats page))
      (Keywords.summaryOf page)).2.numbered < UInt32.size) :
    Takes (Recorded t) (Keywords.add formats stub page) l
      (l.add stub.shasum (Search.uniqueTerms (Keywords.visibleText formats page))
        (Keywords.summaryOf page)).1
      (l.add stub.shasum (Search.uniqueTerms (Keywords.visibleText formats page))
        (Keywords.summaryOf page)).2 :=
  Takes.refine fun _ h => h.takes_add formats stub page hnumbered

/-- Taking a page out does what the lexicon says. -/
theorem takes_removeWords (stub : Page.Stub) :
    Takes (Recorded t) (Keywords.remove stub) l (.ok (l.remove stub.shasum).1)
      (l.remove stub.shasum).2 := by
  rintro s ⟨f, ⟨m, hs, hm⟩, h⟩
  obtain ⟨g, hremove, hg⟩ := h.takes_remove hm stub
  obtain ⟨hout, hs'⟩ := hremove s ⟨m, hs, hm⟩
  exact ⟨hout, g, hs', hg⟩

end Operations

namespace Lexicon

/-- A change of the index of keywords. -/
inductive Change where
  | add (stub : Page.Stub) (page : Page)
  | remove (stub : Page.Stub)
  | clear

/-- The change of a store. How many entries clearing drops is left out. -/
def Change.action (formats : Formats) : Change → Action Store Nat
  | add stub page => Keywords.add formats stub page
  | remove stub => Keywords.remove stub
  | clear => do
    let _ ← Keywords.clear
    return 0

/-- Changes of a store one after the other. What a change has done stays also if it fails. -/
def serve (formats : Formats) (s : Store) (ops : List Change) : Store :=
  ops.foldl (fun s op => ((op.action formats).run s).2) s

/-- A property of the tables that every step of a change of the index keeps: numbering a page,
posting it under a word, giving it a summary and taking it out. -/
structure Lasting (P : Fields → Prop) : Prop where
  empty : P fun _ => none
  ensureStub : ∀ {f shasum}, P f → f (.stubIndex shasum) = none → P (f.ensureStub shasum).2
  post : ∀ {f index} (text : Name), P f → f (.stubShasum index) ≠ none →
    P (f.post (.token text) index).2
  putSummary : ∀ {f} (shasum : String) (s : Summary), P f →
    P (f.put (.summary shasum) (some s.encode))
  gone : ∀ {f g shasum index}, P f → f (.stubIndex shasum) = some index →
    Records.Gone f shasum index g → (∀ c, c.attribute ≠ none → g c = f c) → P g

namespace Lasting

variable {P : Fields → Prop} {f : Fields} {t : Namespace → Fields} {index : UInt32}

/-- A number that has a shasum may be posted under words, up to the first that is no name. -/
theorem exists_takes_addAll (hP : Lasting P) (h : P f) (hindex : f (.stubShasum index) ≠ none)
    (words : List String) :
    ∃ out g, Takes (Shows t .keyword) (Keywords.addAll index words) f out g ∧ P g := by
  induction words generalizing f with
  | nil => exact ⟨_, f, Takes.pure (), h⟩
  | cons word rest ih =>
      by_cases hname : isName word = true
      · have hindex' : (f.post (.token ⟨word, hname⟩) index).2 (.stubShasum index) ≠ none := by
          rwa [Fields.stubShasum_post]
        obtain ⟨out, g, hrest, hg⟩ := ih (hP.post ⟨word, hname⟩ h hindex) hindex'
        exact ⟨out, g, Takes.bind (takes_addToken ⟨word, hname⟩ index) hrest, hg⟩
      · exact ⟨_, f, Takes.bind_error (takes_addToken_invalid hname index), h⟩

/-- Adding a page keeps what lasts. -/
theorem exists_takes_add (hP : Lasting P) (h : P f) (formats : Formats) (stub : Page.Stub)
    (page : Page) :
    ∃ out g, Takes (Shows t .keyword) (Keywords.add formats stub page) f out g ∧ P g := by
  cases hindex : f (.stubIndex stub.shasum) with
  | some index => exact ⟨_, f, Keywords.takes_add_known hindex, h⟩
  | none =>
      have hshasum : (f.ensureStub stub.shasum).2 (.stubShasum (f.ensureStub stub.shasum).1)
          ≠ none := by
        simp [Fields.ensureStub, hindex]
      obtain ⟨out, g, hadd, hg⟩ := hP.exists_takes_addAll (t := t) (hP.ensureStub h hindex) hshasum
        (Search.uniqueTerms (Keywords.visibleText formats page))
      cases out with
      | error fault => exact ⟨_, g, Keywords.takes_add_refused hindex rfl hadd, hg⟩
      | ok done => exact ⟨_, _, Keywords.takes_add_new hindex rfl hadd, hP.putSummary _ _ hg⟩

/-- Taking a page out keeps what lasts. -/
theorem exists_takes_remove {m : OrderedMap Bytes} (hP : Lasting P) (h : P f)
    (hm : Stored m (Function.update t .keyword f)) (stub : Page.Stub) :
    ∃ out g, Takes (Shows t .keyword) (Keywords.remove stub) f out g ∧ P g := by
  cases hindex : f (.stubIndex stub.shasum) with
  | none => exact ⟨_, f, Keywords.takes_remove_unknown hindex, h⟩
  | some index =>
      obtain ⟨_, _, _, g, hremove, hgone, hsame⟩ := Records.exists_takes_remove hm hindex
      exact ⟨_, g, hremove, hP.gone h hindex hgone hsame⟩

/-- Every change keeps what lasts. -/
theorem exists_takes_change {m : OrderedMap Bytes} (hP : Lasting P) (h : P f)
    (hm : Stored m (Function.update t .keyword f)) (formats : Formats) (op : Change) :
    ∃ out g, Takes (Shows t .keyword) (op.action formats) f out g ∧ P g := by
  cases op with
  | add stub page => exact hP.exists_takes_add h formats stub page
  | remove stub => exact hP.exists_takes_remove h hm stub
  | clear =>
      have htables : ∃ count, Takes (Shows t .keyword) Keywords.clear f (.ok count)
          fun _ => none := takes_clear
      obtain ⟨count, hclear⟩ := htables
      exact ⟨_, _, Takes.bind hclear (Takes.pure 0), hP.empty⟩

end Lasting

end Lexicon

end SiteIndex.Index
