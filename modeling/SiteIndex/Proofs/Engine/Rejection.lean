import SiteIndex.Proofs.Engine.Indexes
import SiteIndex.Proofs.Index.Rejection

/-!
# Pages that an engine rejects

An engine that is asked to add a page goes to the index of attributes first. If the page is rejected
there it does not come to the index of keywords, so that the two indexes have no longer the same
pages; but the attributes are always ahead (`Leads`). `Enrolls` says what the index of attributes
has when any request may have failed: every page that was handed to the engine, under the attributes
before the first that is no name.
-/

namespace SiteIndex.Engine

open Index
open Markup (Formats)
open Page (Stub)
open Posting
open Store (Namespace)
open Store.Key (isName)
open SiteIndex.Action (Takes)

/-! ## The attributes are ahead of the keywords -/

/-- The pages of the lexicon are live, and enough pages have been numbered for those that only the
reference has to come to the lexicon as well. -/
structure Leads (r : Reference) (l : Lexicon) : Prop where
  live : ∀ shasum ∈ l.shasums, shasum ∈ r.live
  numbered : l.numbered + (r.live.filter (· ∉ l.shasums)).length ≤ r.numbered

namespace Leads

variable {r : Reference} {l : Lexicon} {shasum : String}

/-- Empty indexes have no pages. -/
theorem empty : Leads {} {} := ⟨nofun, Nat.le_refl _⟩

/-- The lexicon never numbers more pages than the reference. -/
theorem numbered_le (h : Leads r l) : l.numbered ≤ r.numbered :=
  Nat.le_trans (Nat.le_add_right _ _) h.numbered

/-- A page that comes to the attributes alone leaves them ahead. -/
theorem addAttributes (h : Leads r l) (shasum : String) (pairs : List (String × Value)) :
    Leads (r.add shasum pairs).2 l := by
  refine ⟨fun other hother => Reference.mem_live_add.2 (.inr (h.live other hother)), ?_⟩
  have hnumbered := h.numbered
  unfold Reference.add
  split
  case isTrue => exact hnumbered
  case isFalse =>
    rw [Reference.live_foldl_post, Reference.numbered_foldl_post]
    show l.numbered + ((r.live ++ [shasum]).filter (· ∉ l.shasums)).length ≤ r.numbered + 1
    have hlast : ([shasum].filter (· ∉ l.shasums)).length ≤ 1 := List.length_filter_le ..
    rw [List.filter_append, List.length_append]
    omega

/-- A live page that comes to the keywords leaves the attributes ahead. -/
theorem addWords (h : Leads r l) (hlive : shasum ∈ r.live) (words : List String)
    (summary : Summary) : Leads r (l.add shasum words summary).2 := by
  by_cases hmem : shasum ∈ l.shasums
  · rw [Lexicon.add, if_pos hmem]
    exact h
  · have hshasums : (l.add shasum words summary).2.shasums = l.shasums ++ [shasum] := by
      rw [Lexicon.add, if_neg hmem]
      split <;> exact Records.shasums_push
    constructor
    case live =>
      intro other hother
      rw [hshasums, List.mem_append, List.mem_singleton] at hother
      rcases hother with hother | rfl
      · exact h.live other hother
      · exact hlive
    case numbered =>
      -- The page is one less of those that only the reference has.
      have hrest : r.live.filter (· ∉ l.shasums ++ [shasum])
          = (r.live.filter (· ∉ l.shasums)).filter (· ≠ shasum) := by
        rw [List.filter_filter]
        refine List.filter_congr fun other _ => ?_
        by_cases hother : other = shasum <;> simp [hother]
      have hfewer : ((r.live.filter (· ∉ l.shasums)).filter (· ≠ shasum)).length
          < (r.live.filter (· ∉ l.shasums)).length :=
        List.length_filter_lt_length_iff_exists.2
          ⟨shasum, List.mem_filter.2 ⟨hlive, decide_eq_true hmem⟩, by simp⟩
      have hnumbered := h.numbered
      rw [Lexicon.numbered_add hmem, hshasums, hrest]
      omega

/-- A page that is taken out of both leaves the attributes ahead. -/
theorem remove (h : Leads r l) (shasum : String) :
    Leads (r.remove shasum).2 (l.remove shasum).2 := by
  constructor
  case live =>
    intro other hother
    rw [Records.shasums_remove, List.mem_filter] at hother
    rw [Reference.live_remove]
    exact List.mem_filter.2 ⟨h.live other hother.1, hother.2⟩
  case numbered =>
    have hsame : (r.live.filter (· ≠ shasum)).filter (· ∉ (l.remove shasum).2.shasums)
        = (r.live.filter (· ∉ l.shasums)).filter (· ≠ shasum) := by
      rw [Records.shasums_remove, List.filter_filter, List.filter_filter]
      refine List.filter_congr fun other _ => ?_
      by_cases hother : other = shasum <;> simp [hother]
    rw [Reference.live_remove, hsame, (r.counters_remove shasum).1]
    exact Nat.le_trans (Nat.add_le_add_left (List.length_filter_le ..) _) h.numbered

end Leads

/-! ## Adding pages -/

/-- What comes of adding a page, and the indexes after it. A page that the attributes reject does
not come to the keywords. -/
def receive (formats : Formats) (stub : Stub) (page : Page) (v : Reference × Lexicon) :
    Outcome Unit × (Reference × Lexicon) :=
  match v.1.add stub.shasum (pairsOf page) with
  | (.error failure, r) => (.error failure, (r, v.2))
  | (.ok _, r) =>
    match v.2.add stub.shasum (wordsOf formats page) (Keywords.summaryOf page) with
    | (.error failure, l) => (.error failure, (r, l))
    | (.ok _, l) => (.ok (), (r, l))

section Receive

variable {used : Value → Prop} {config : Config} {formats : Formats} {r : Reference} {l : Lexicon}
  {stub : Stub} {page : Page}

/-- The attributes take up the page, whether or not it comes to the keywords. -/
theorem reference_receive (v : Reference × Lexicon) :
    (receive formats stub page v).2.1 = (v.1.add stub.shasum (pairsOf page)).2 := by
  unfold receive
  split
  case h_1 failure r hr => rw [hr]
  case h_2 count r hr => split <;> rw [hr]

/-- The attributes stay ahead, whatever comes of adding a page. -/
theorem Leads.receive (h : Leads r l) (formats : Formats) (stub : Stub) (page : Page) :
    Leads (r.add stub.shasum (pairsOf page)).2 (receive formats stub page (r, l)).2.2 := by
  have hattributes := h.addAttributes stub.shasum (pairsOf page)
  have hwords := hattributes.addWords (Reference.mem_live_add.2 (.inl rfl)) (wordsOf formats page)
    (Keywords.summaryOf page)
  unfold Engine.receive
  split
  case h_1 => exact hattributes
  case h_2 =>
    split
    case h_1 failure l' hl => exact (congrArg Prod.snd hl) ▸ hwords
    case h_2 count l' hl => exact (congrArg Prod.snd hl) ▸ hwords

/-- The attributes of a new page that is added without a fault are names. -/
theorem isName_of_receive_ok (hnew : stub.shasum ∉ r.live)
    (hok : (receive formats stub page (r, l)).1 = .ok ()) :
    ∀ p ∈ pairsOf page, isName p.1 = true := by
  unfold receive at hok
  split at hok
  case h_1 => cases hok
  case h_2 count r' hr => exact Reference.isName_of_add_ok hnew (congrArg Prod.fst hr)

/-- A live page is accepted if its words are names, be its attributes what they may. -/
theorem receive_of_live (hlive : stub.shasum ∈ r.live)
    (hwords : ∀ word ∈ wordsOf formats page, isName word = true) :
    (receive formats stub page (r, l)).1 = .ok () := by
  obtain ⟨count, hl⟩ := l.add_ok_of_names stub.shasum (Keywords.summaryOf page) hwords
  unfold receive
  rw [Reference.add, if_pos hlive]
  dsimp only
  split
  case h_1 failure l' hfails =>
    rw [hfails] at hl
    cases hl
  case h_2 => rfl

/-- An engine that is written adds pages in this way. -/
theorem takes_receive (hleads : Leads r l) (hwritable : config.readOnly = false)
    (hdistinct : Distinct used) (hused : ∀ p ∈ pairsOf page, used p.2)
    (hfits : (r.add stub.shasum (pairsOf page)).2.Fits) :
    Takes (Serves used config formats) (add stub page) (r, l) (receive formats stub page (r, l)).1
      (receive formats stub page (r, l)).2 := by
  have hahead := (hleads.addAttributes stub.shasum (pairsOf page)).addWords
    (Reference.mem_live_add.2 (.inl rfl)) (wordsOf formats page) (Keywords.summaryOf page)
  have hnumbered := Nat.lt_of_le_of_lt hahead.numbered_le hfits.1
  unfold receive
  split
  case h_1 failure r' hr =>
    obtain ⟨hout, hreference⟩ := Prod.ext_iff.1 hr
    cases hreference
    exact takes_addPage_of_attributes_error hwritable hdistinct hused hfits hout
  case h_2 count r' hr =>
    obtain ⟨hout, hreference⟩ := Prod.ext_iff.1 hr
    cases hreference
    split
    case h_1 failure l' hl =>
      obtain ⟨hout', hlexicon⟩ := Prod.ext_iff.1 hl
      cases hlexicon
      exact takes_addPage_of_words_error hwritable hdistinct hused hfits hnumbered hout hout'
    case h_2 words l' hl =>
      obtain ⟨hout', hlexicon⟩ := Prod.ext_iff.1 hl
      cases hlexicon
      exact takes_addPage_of_ok hwritable hdistinct hused hfits hnumbered hout hout'

end Receive

/-! ## The pages that were handed over -/

/-- The index of attributes has the pages of `seen`, each under the attributes before the first that
is no name. -/
structure Rolls (seen : String → Option Page) (r : Reference) : Prop where
  live : ∀ shasum, shasum ∈ r.live ↔ seen shasum ≠ none
  posted : ∀ p shasum, r.Posted p shasum ↔
    ∃ page, seen shasum = some page ∧ p ∈ namedFront (pairsOf page)

namespace Rolls

variable {seen : String → Option Page} {r : Reference} {shasum : String} {page : Page}

/-- The empty index has no pages. -/
theorem empty : Rolls (fun _ => none) {} := ⟨fun _ => ⟨nofun, fun h => absurd rfl h⟩,
  fun _ _ => ⟨nofun, nofun⟩⟩

/-- A page that is added is kept, be it rejected or not. -/
theorem add (h : Rolls seen r) (shasum : String) (page : Page) :
    Rolls (keep seen shasum page) (r.add shasum (pairsOf page)).2 := by
  have hnew : shasum ∉ r.live ↔ seen shasum = none := by rw [h.live, not_not]
  constructor
  case live =>
    intro other
    rw [Reference.mem_live_add, h.live, keep_ne_none]
  case posted =>
    intro p other
    rw [Reference.posted_add, hnew, h.posted]
    cases hseen : seen shasum with
    | some old => simp [keep_of_some hseen]
    | none => rw [exists_keep hseen, eq_self, true_and]

/-- A page that is taken out is not kept. -/
theorem remove (h : Rolls seen r) (shasum : String) :
    Rolls (drop seen shasum) (r.remove shasum).2 := by
  constructor
  case live =>
    intro other
    rw [drop_ne_none, Reference.mem_live_remove, h.live]
  case posted =>
    intro p other
    rw [exists_drop, ← h.posted]
    exact Reference.posted_remove (Reference.live_of_posted (h.live _) (h.posted _ _))

end Rolls

/-- After the changes of the index of attributes that are `done`, whatever came of them, the engine
has the pages of `seen` in this index. -/
def Enrolls (used : Value → Prop) (config : Config) (formats : Formats) (done : List Change)
    (seen : String → Option Page) (e : Engine) : Prop :=
  ∃ l, Serves used config formats e ((refer {} done).2, l) ∧ Leads (refer {} done).2 l ∧
    Rolls seen (refer {} done).2

namespace Enrolls

variable {used : Value → Prop} {config : Config} {formats : Formats} {done : List Change}
  {seen : String → Option Page} {e : Engine} {stub : Stub} {page : Page}

/-- An engine over an empty store has no pages. -/
theorem empty (hs : e.store.Holds ∅) : Enrolls used e.config e.formats [] (fun _ => none) e :=
  ⟨{}, ⟨rfl, rfl, keeps_empty hs⟩, Leads.empty, Rolls.empty⟩

/-- A page that the engine is asked to add is kept, whatever comes of it. -/
theorem exists_receive (h : Enrolls used config formats done seen e)
    (hwritable : config.readOnly = false) (hdistinct : Distinct used)
    (hused : ∀ p ∈ pairsOf page, used p.2)
    (hfits : (refer {} (done ++ [.add stub page])).2.Fits) :
    Enrolls used config formats (done ++ [.add stub page]) (keep seen stub.shasum page)
        ((indexer.add stub page).run e).2 ∧
      ∃ r l, ((indexer.add stub page).run e).1 = (receive formats stub page (r, l)).1 ∧
        (stub.shasum ∈ r.live ↔ seen stub.shasum ≠ none) := by
  obtain ⟨l, hserves, hleads, hrolls⟩ := h
  have hrefer : (refer {} (done ++ [.add stub page])).2
      = ((refer {} done).2.add stub.shasum (pairsOf page)).2 := refer_concat {} done _
  rw [hrefer] at hfits
  obtain ⟨hout, hserves'⟩ := takes_receive hleads hwritable hdistinct hused hfits e hserves
  refine ⟨⟨_, ?_, hrefer ▸ hleads.receive formats stub page, hrefer ▸ hrolls.add stub.shasum page⟩,
    _, l, hout, hrolls.live _⟩
  rw [hrefer, ← reference_receive ((refer {} done).2, l)]
  exact hserves'

/-- If a page that the engine does not have is accepted, its attributes are names. -/
theorem isName_of_ok (h : Enrolls used config formats done seen e)
    (hwritable : config.readOnly = false) (hdistinct : Distinct used)
    (hused : ∀ p ∈ pairsOf page, used p.2)
    (hfits : (refer {} (done ++ [.add stub page])).2.Fits) (hnew : seen stub.shasum = none)
    (hok : ((indexer.add stub page).run e).1 = .ok ()) : ∀ p ∈ pairsOf page, isName p.1 = true := by
  obtain ⟨-, r, l, hout, hlive⟩ := h.exists_receive hwritable hdistinct hused hfits
  exact isName_of_receive_ok (fun hmem => hlive.1 hmem hnew) (hout.symm.trans hok)

/-- A page that the engine has is accepted if its words are names, be its attributes what they
may. -/
theorem accepts_known (h : Enrolls used config formats done seen e)
    (hwritable : config.readOnly = false) (hdistinct : Distinct used)
    (hused : ∀ p ∈ pairsOf page, used p.2)
    (hfits : (refer {} (done ++ [.add stub page])).2.Fits) (hknown : seen stub.shasum ≠ none)
    (hwords : ∀ word ∈ wordsOf formats page, isName word = true) :
    ((indexer.add stub page).run e).1 = .ok () := by
  obtain ⟨-, r, l, hout, hlive⟩ := h.exists_receive hwritable hdistinct hused hfits
  exact hout.trans (receive_of_live (hlive.2 hknown) hwords)

/-- A page that is taken out is not kept. -/
theorem remove (h : Enrolls used config formats done seen e) (hwritable : config.readOnly = false)
    (hdistinct : Distinct used) (stub : Stub) :
    Enrolls used config formats (done ++ [.remove stub]) (drop seen stub.shasum)
      ((indexer.remove stub).run e).2 := by
  obtain ⟨l, hserves, hleads, hrolls⟩ := h
  have hrefer : (refer {} (done ++ [.remove stub])).2
      = ((refer {} done).2.remove stub.shasum).2 := refer_concat {} done _
  refine ⟨_, ?_, hrefer ▸ hleads.remove stub.shasum, hrefer ▸ hrolls.remove stub.shasum⟩
  rw [hrefer]
  exact (takes_removePage hwritable hdistinct stub e hserves).2

/-- The store has numbers for the pages that are kept, and lists them under the attributes before
the first that is no name. -/
theorem shows (h : Enrolls used config formats done seen e) (hdistinct : Distinct used) :
    (∀ shasum, HasNumber e.store shasum ↔ seen shasum ≠ none) ∧
      ∀ p shasum, HasPosted e.store p shasum ↔
        ∃ page, seen shasum = some page ∧ p ∈ namedFront (pairsOf page) := by
  obtain ⟨l, ⟨_, _, m, t, hs, hm, hfollows, _⟩, _, hrolls⟩ := h
  have hstands : Stands used t e.store (refer {} done).2 :=
    ⟨t .context, ⟨m, hs, by rwa [Function.update_eq_self]⟩, hfollows⟩
  constructor
  · exact fun shasum => (hstands.hasNumber_iff shasum).trans (hrolls.live shasum)
  · exact fun p shasum => (hstands.hasPosted_iff hdistinct p shasum).trans (hrolls.posted p shasum)

end Enrolls

end SiteIndex.Engine
