import SiteIndex.Proofs.Index.Rejection
import SiteIndex.Proofs.Page.Context

/-!
# The page that is indexed under a shasum

The tables say which pages carry a value, and no longer what a page looked like when it was added.
The changes say it: a shasum stands for the page that was first added under it since it was taken
out or the index was cleared (`indexedPage`). After all changes a page is posted under its own
values and under no others (`refer_indexes`), that is under those of its list of each attribute
(`ownValues_eq_fanOut`).
-/

namespace SiteIndex.Index

open Store.Key (isName)

/-! ## The values of a page -/

/-- The values that a page is posted under for an attribute, in the order in which the page has
them. -/
def ownValues (page : Page) (key : String) : List Value :=
  ((namedFront (Attributes.postings page.context)).filter (·.1 = key)).map (·.2)

/-- A value is one of the page's own if the page is posted under it. -/
theorem mem_ownValues_iff {page : Page} {key : String} {value : Value} :
    value ∈ ownValues page key ↔ (key, value) ∈ namedFront (Attributes.postings page.context) := by
  simp [ownValues]

/-- Leaving out other names does not change what is found under a name. -/
theorem lookup_filter_of_kept (keep : String → Bool) {key : String} (hkey : keep key = true)
    (entries : List (String × Value)) :
    (entries.filter fun e => keep e.1).lookup key = entries.lookup key := by
  induction entries with
  | nil => rfl
  | cons entry rest ih =>
      obtain ⟨name, value⟩ := entry
      rw [List.filter_cons, NameMap.lookup_cons]
      by_cases h : key = name
      · subst h
        rw [if_pos hkey, if_pos rfl, NameMap.lookup_cons, if_pos rfl]
      · rw [if_neg h, ← ih]
        split
        · rw [NameMap.lookup_cons, if_neg h]
        · rfl

/-- Of single values that are listed name by name, those of one name come from its entry. -/
theorem filter_flatMap_fanOut {entries : List (String × Value)}
    (hascending : entries.Pairwise fun a b => a.1 < b.1) (key : String) :
    ((entries.flatMap fun (name, value) => value.fanOut.map (name, ·)).filter (·.1 = key)).map (·.2)
      = ((entries.lookup key).map Value.fanOut).getD [] := by
  induction entries with
  | nil => rfl
  | cons entry rest ih =>
      obtain ⟨name, value⟩ := entry
      obtain ⟨hfirst, hrest⟩ := List.pairwise_cons.1 hascending
      rw [List.flatMap_cons, List.filter_append, List.map_append, ih hrest, NameMap.lookup_cons]
      by_cases h : key = name
      · subst h
        -- No entry behind the first has its name.
        have hnone : rest.lookup key = none := List.lookup_eq_none_iff.2 fun e he => by
          simpa using String.ne_of_lt (hfirst e he)
        simp [hnone, Function.comp_def, List.filter_map]
      · simp [h, Ne.symm h, Function.comp_def, List.filter_map]

/-- The names of the pairs of a context do not fall. -/
theorem pairwise_postings (context : Context) :
    (Attributes.postings context).Pairwise fun a b => a.1 ≤ b.1 := by
  refine List.pairwise_flatMap.2 ⟨fun e _ => ?_, (context.ascending.filter _).imp ?_⟩
  · exact List.pairwise_map.2 (List.pairwise_of_forall fun _ _ => String.le_refl _)
  · intro a b hlt p hp q hq
    obtain ⟨_, _, rfl⟩ := List.mem_map.1 hp
    obtain ⟨_, _, rfl⟩ := List.mem_map.1 hq
    exact String.not_lt.1 (String.lt_asymm hlt)

/-- The attribute is indexed for the page: it is none of those that are left out, and none before
it is rejected as no name. -/
def Posts (page : Page) (key : String) : Prop :=
  key ∉ Attributes.unindexed ∧
    ∀ p ∈ Attributes.postings page.context, p.1 < key → isName p.1 = true

section Front

variable {pairs : List (String × Value)} {key : String}

/-- A pair that is not in front stands behind one whose attribute is no name. -/
theorem exists_not_name_le (hrising : pairs.Pairwise fun a b => a.1 ≤ b.1) {q : String × Value}
    (hq : q ∈ pairs.dropWhile fun p => isName p.1) :
    ∃ p ∈ pairs, ¬ isName p.1 = true ∧ p.1 ≤ q.1 := by
  have hback := hrising.sublist (List.dropWhile_sublist fun p => isName p.1)
  have hnot := List.head?_dropWhile_not (fun p => isName p.1) pairs
  have hsub := (List.dropWhile_sublist (l := pairs) fun p => isName p.1).subset
  cases hsplit : pairs.dropWhile fun p => isName p.1 with
  | nil =>
      rw [hsplit] at hq
      cases hq
  | cons p rest =>
      rw [hsplit] at hq hback hnot hsub
      refine ⟨p, hsub (List.mem_cons_self ..), by simpa using hnot, ?_⟩
      rcases List.mem_cons.1 hq with rfl | hq
      · exact String.le_refl _
      · exact List.rel_of_pairwise_cons hback hq

/-- All pairs of a name are in front if the attributes before it are names. -/
theorem filter_namedFront (hrising : pairs.Pairwise fun a b => a.1 ≤ b.1)
    (hkey : isName key = true) (hbefore : ∀ p ∈ pairs, p.1 < key → isName p.1 = true) :
    (namedFront pairs).filter (·.1 = key) = pairs.filter (·.1 = key) := by
  conv_rhs => rw [← List.takeWhile_append_dropWhile (p := fun p => isName p.1) (l := pairs)]
  have hback : (pairs.dropWhile fun p => isName p.1).filter (·.1 = key) = [] := by
    refine List.filter_eq_nil_iff.2 fun q hq heq => ?_
    obtain ⟨p, hp, hnot, hle⟩ := exists_not_name_le hrising hq
    rw [of_decide_eq_true heq] at hle
    -- The name itself is none of those that are rejected.
    have hne : ¬ key ≤ p.1 := fun hge => hnot (String.le_antisymm hle hge ▸ hkey)
    exact hnot (hbefore p hp (String.not_le.1 hne))
  rw [List.filter_append, hback, List.append_nil, namedFront]

/-- No pair of an attribute is in front if one before it is no name. -/
theorem filter_namedFront_eq_nil (hrising : pairs.Pairwise fun a b => a.1 ≤ b.1)
    {p : String × Value} (hp : p ∈ pairs) (hlt : p.1 < key) (hnot : ¬ isName p.1 = true) :
    (namedFront pairs).filter (·.1 = key) = [] := by
  refine List.filter_eq_nil_iff.2 fun q hq heq => ?_
  rw [← of_decide_eq_true heq] at hlt
  have hsplit := List.takeWhile_append_dropWhile (p := fun p => isName p.1) (l := pairs)
  rw [← hsplit] at hp hrising
  have hback : p ∈ pairs.dropWhile fun p => isName p.1 :=
    (List.mem_append.1 hp).resolve_left fun hfront =>
      hnot (List.mem_takeWhile_imp (p := fun p : String × Value => isName p.1) hfront)
  exact String.not_le.2 hlt ((List.pairwise_append.1 hrising).2.2 q hq p hback)

end Front

/-- Of an attribute that is indexed for it a page is posted under all single values, in their
order. -/
theorem ownValues_eq_fanOut {page : Page} {key : String} (hkey : isName key = true)
    (h : Posts page key) :
    ownValues page key = ((page.context.get? key).map Value.fanOut).getD [] := by
  have hindexed : (!Attributes.unindexed.contains key) = true := by simpa using h.1
  rw [ownValues, filter_namedFront (pairwise_postings _) hkey h.2, Attributes.postings,
    filter_flatMap_fanOut (page.context.ascending.filter _),
    lookup_filter_of_kept (fun name => !Attributes.unindexed.contains name) hindexed,
    NameMap.get?]

/-- Of an attribute that is not indexed for it a page is posted under no value. -/
theorem ownValues_eq_nil {page : Page} {key : String} (h : ¬ Posts page key) :
    ownValues page key = [] := by
  rw [ownValues, List.map_eq_nil_iff]
  by_cases hkey : key ∈ Attributes.unindexed
  · refine List.filter_eq_nil_iff.2 fun q hq heq => ?_
    have hposted := (List.takeWhile_sublist fun p : String × Value => isName p.1).subset hq
    exact (Attributes.mem_postings_iff.1 hposted).1 (of_decide_eq_true heq ▸ hkey)
  · have hrejected : ∃ p ∈ Attributes.postings page.context, p.1 < key ∧ ¬ isName p.1 = true := by
      simpa [Posts, hkey] using h
    obtain ⟨p, hp, hlt, hnot⟩ := hrejected
    exact filter_namedFront_eq_nil (pairwise_postings _) hp hlt hnot

/-! ## The pages of a history -/

/-- The page that is indexed under a shasum after a change, if `known` was before it. A page that
is indexed already is left as it is. -/
def Change.remember (shasum : String) (known : Option Page) : Change → Option Page
  | add stub page => if stub.shasum = shasum then known.or (some page) else known
  | remove stub => if stub.shasum = shasum then none else known
  | clear => none

/-- The page that is indexed under a shasum after all changes of an empty index. -/
def indexedPage (ops : List Change) (shasum : String) : Option Page :=
  ops.foldl (Change.remember shasum) none

/-- The last of several changes is made to what the others have left. -/
theorem indexedPage_concat (ops : List Change) (op : Change) (shasum : String) :
    indexedPage (ops ++ [op]) shasum = op.remember shasum (indexedPage ops shasum) := by
  rw [indexedPage, List.foldl_append]
  rfl

/-- A reference has the pages that are known, and posts each under its own values. -/
structure Reference.Indexes (r : Reference) (known : String → Option Page) : Prop where
  live_iff : ∀ shasum, shasum ∈ r.live ↔ known shasum ≠ none
  posted_iff : ∀ p shasum, r.Posted p shasum ↔
    ∃ page, known shasum = some page ∧ p.2 ∈ ownValues page p.1
  nodup_pairs : (r.rows.map Row.pair).Nodup

namespace Reference

variable {r : Reference} {known : String → Option Page} {shasum other : String}

/-- Adding a page gives no pair a second row. -/
theorem nodup_pairs_add (h : (r.rows.map Row.pair).Nodup) (shasum : String)
    (pairs : List (String × Value)) : ((r.add shasum pairs).2.rows.map Row.pair).Nodup := by
  have hfold : ∀ (pairs : List (String × Value)) (r : Reference), (r.rows.map Row.pair).Nodup →
      ((pairs.foldl (post shasum) r).rows.map Row.pair).Nodup := by
    intro pairs
    induction pairs with
    | nil => exact fun _ h => h
    | cons p rest ih => exact fun _ h => ih _ (nodup_pairs_post h shasum p)
  unfold add
  split
  · exact h
  · exact hfold _ _ h

/-- The rows that are left by a page have their pairs in the order that they had. -/
theorem pairs_without_sublist (shasum : String) (rows : List Row) :
    ((rows.filterMap (Row.without shasum)).map Row.pair).Sublist (rows.map Row.pair) := by
  induction rows with
  | nil => exact .slnil
  | cons row rest ih =>
      rw [List.filterMap_cons]
      cases hleft : row.without shasum with
      | none => exact ih.cons _
      | some left =>
          rw [List.map_cons, List.map_cons, Row.pair_of_without hleft]
          exact ih.cons_cons _

/-- Taking a page out gives no pair a second row. -/
theorem nodup_pairs_remove (h : (r.rows.map Row.pair).Nodup) (shasum : String) :
    ((r.remove shasum).2.rows.map Row.pair).Nodup := by
  unfold remove
  split
  · exact h.sublist (pairs_without_sublist shasum r.rows)
  · exact h

namespace Indexes

/-- The empty reference has no page. -/
theorem empty : Indexes {} fun _ => none where
  live_iff _ := by simp
  posted_iff _ _ := iff_of_false (fun ⟨_, hrow, _⟩ => nomatch hrow) (fun ⟨_, h, _⟩ => nomatch h)
  nodup_pairs := .nil

/-- A page that is added is known if its shasum was not, and the other ones stay. -/
theorem add (h : r.Indexes known) (stub : Page.Stub) (page : Page) :
    (r.add stub.shasum (Attributes.postings page.context)).2.Indexes
      fun shasum => (Change.add stub page).remember shasum (known shasum) where
  live_iff shasum := by
    rw [mem_live_add, h.live_iff, Change.remember]
    by_cases hshasum : stub.shasum = shasum
    · simp [hshasum]
    · simp [hshasum, Ne.symm hshasum]
  posted_iff p shasum := by
    rw [posted_add, h.live_iff, Change.remember, ← mem_ownValues_iff]
    by_cases hshasum : stub.shasum = shasum
    · subst hshasum
      cases hknown : known stub.shasum with
      | none => simp [h.posted_iff, hknown]
      | some first => simp [h.posted_iff, hknown]
    · simp [hshasum, Ne.symm hshasum, h.posted_iff]
  nodup_pairs := nodup_pairs_add h.nodup_pairs _ _

/-- A page that is taken out is not known any more, and the other ones stay. -/
theorem remove (h : r.Indexes known) (stub : Page.Stub) :
    (r.remove stub.shasum).2.Indexes
      fun shasum => (Change.remove stub).remember shasum (known shasum) where
  live_iff shasum := by
    rw [mem_live_remove, h.live_iff, Change.remember]
    by_cases hshasum : stub.shasum = shasum
    · simp [hshasum]
    · simp [hshasum, Ne.symm hshasum]
  posted_iff p shasum := by
    rw [posted_remove (live_of_posted (h.live_iff _) (h.posted_iff _ _)), h.posted_iff,
      Change.remember]
    by_cases hshasum : stub.shasum = shasum
    · simp [hshasum]
    · simp [hshasum, Ne.symm hshasum]
  nodup_pairs := nodup_pairs_remove h.nodup_pairs _

/-- After a change the pages are known that the change leaves. -/
theorem perform (h : r.Indexes known) (op : Change) :
    (op.perform r).2.Indexes fun shasum => op.remember shasum (known shasum) := by
  cases op with
  | add stub page => exact h.add stub page
  | remove stub => exact h.remove stub
  | clear => exact empty

end Indexes

end Reference

/-- After all changes the reference has the pages that they have left. -/
theorem refer_indexes (ops : List Change) : (refer {} ops).2.Indexes (indexedPage ops) := by
  induction ops using List.reverseRecOn with
  | nil => exact .empty
  | append_singleton front op ih =>
      rw [refer_concat]
      have hafter := ih.perform op
      simp only [← indexedPage_concat] at hafter
      exact hafter

end SiteIndex.Index
