import Mathlib.Data.List.Induction
import SiteIndex.Proofs.Index.Rejection

/-!
# Adding pages in another order

A reference lists rows and pages in the order in which they came, but of pages with different
shasums it says the same whatever order they were added in: the pages are the same, they carry the
same values (`posted_additions`), and the counters stand where they do in any other order
(`Tally.of_same`), so that either all orders fit or none.
-/

namespace SiteIndex.Index

open Page (Stub)
open Store.Key (isName)

/-- Two references say the same of all pages. -/
structure Reference.Same (r r' : Reference) : Prop where
  live : ∀ shasum, shasum ∈ r.live ↔ shasum ∈ r'.live
  posted : ∀ p shasum, r.Posted p shasum ↔ r'.Posted p shasum

/-- The changes that add pages one after the other. -/
def additions (pages : List (Stub × Page)) : List Change := pages.map fun p => .add p.1 p.2

section Additions

variable {pages pages' : List (Stub × Page)} {shasum : String} {p : String × Value}

/-- The last of several pages is added to what the others have left. -/
theorem refer_additions_concat (front : List (Stub × Page)) (stub : Stub) (page : Page) :
    (refer {} (additions (front ++ [(stub, page)]))).2
      = ((refer {} (additions front)).2.add stub.shasum
        (Attributes.postings page.context)).2 := by
  rw [additions, List.map_append, List.map_singleton, refer_concat]
  rfl

/-- The pages that are live are those that were added. -/
theorem mem_live_additions : shasum ∈ (refer {} (additions pages)).2.live ↔
    shasum ∈ pages.map (·.1.shasum) := by
  induction pages using List.reverseRecOn with
  | nil => exact Iff.rfl
  | append_singleton front last ih =>
      rw [refer_additions_concat, Reference.mem_live_add, ih, List.map_append, List.mem_append,
        List.map_singleton, List.mem_singleton, or_comm]

/-- A page is posted under the attributes of its own that are names, up to the first that is
none. -/
theorem posted_additions (hnodup : (pages.map (·.1.shasum)).Nodup) :
    (refer {} (additions pages)).2.Posted p shasum ↔ ∃ entry ∈ pages,
      entry.1.shasum = shasum ∧ p ∈ namedFront (Attributes.postings entry.2.context) := by
  induction pages using List.reverseRecOn with
  | nil =>
      exact iff_of_false (fun ⟨_, hrow, _⟩ => nomatch hrow) fun ⟨_, hentry, _⟩ => nomatch hentry
  | append_singleton front last ih =>
      rw [List.map_append, List.nodup_append] at hnodup
      obtain ⟨hfront, _, hapart⟩ := hnodup
      have hnew : last.1.shasum ∉ (refer {} (additions front)).2.live := by
        rw [mem_live_additions]
        exact fun hmem => hapart _ hmem _ (List.mem_singleton_self _) rfl
      rw [refer_additions_concat, Reference.posted_add, ih hfront]
      simp only [List.mem_append, List.mem_singleton, or_and_right, exists_or, exists_eq_left]
      rw [or_comm]
      refine or_congr Iff.rfl ?_
      constructor
      · rintro ⟨hp, _, rfl⟩
        exact ⟨rfl, hp⟩
      · rintro ⟨rfl, hp⟩
        exact ⟨hp, hnew, rfl⟩

/-- Pages that are added in another order are posted as they were. -/
theorem same_of_perm (hnodup : (pages.map (·.1.shasum)).Nodup) (hperm : pages.Perm pages') :
    (refer {} (additions pages)).2.Same (refer {} (additions pages')).2 where
  live shasum := by rw [mem_live_additions, mem_live_additions, (hperm.map _).mem_iff]
  posted p shasum := by
    rw [posted_additions hnodup, posted_additions ((hperm.map _).nodup_iff.1 hnodup)]
    exact exists_congr fun _ => and_congr_left fun _ => hperm.mem_iff

end Additions

/-! ## Counters -/

/-- Nothing was taken out since the index was empty: the counters count the pages and the rows, and
every row has a page. -/
structure Reference.Tally (r : Reference) : Prop where
  nodup_live : r.live.Nodup
  nodup_pairs : (r.rows.map Row.pair).Nodup
  numbered : r.numbered = r.live.length
  begun : ∀ name, r.begun name = (r.rows.map Row.pair).countP (·.1 = name)
  posted : ∀ p ∈ r.rows.map Row.pair, ∃ shasum, r.Posted p shasum

namespace Reference.Tally

variable {r r' : Reference} {shasum : String}

/-- The empty reference. -/
theorem empty : Tally {} := ⟨.nil, .nil, rfl, fun _ => rfl, nofun⟩

/-- A page that is new is counted. -/
theorem number (h : r.Tally) (hnew : shasum ∉ r.live) : (r.number shasum).Tally where
  nodup_live := List.nodup_append.2 ⟨h.nodup_live, List.nodup_singleton _,
    fun _ ha _ hb heq => hnew (List.mem_singleton.1 hb ▸ heq ▸ ha)⟩
  nodup_pairs := h.nodup_pairs
  numbered := by
    show r.numbered + 1 = (r.live ++ [shasum]).length
    rw [h.numbered, List.length_append, List.length_singleton]
  begun := h.begun
  posted := h.posted

/-- A row that is begun is counted. -/
theorem post (h : r.Tally) (p : String × Value) : (r.post shasum p).Tally where
  nodup_live := by rw [live_post]; exact h.nodup_live
  nodup_pairs := nodup_pairs_post h.nodup_pairs shasum p
  numbered := by rw [live_post, numbered_post]; exact h.numbered
  begun name := by
    rw [begun_post, pairs_post, h.begun]
    by_cases hp : p ∈ r.rows.map Row.pair
    · simp [hp]
    · by_cases hname : name = p.1 <;> simp [hp, hname, List.countP_append, eq_comm]
  posted q hq := by
    rcases mem_pairs_post.1 hq with rfl | hq
    · exact ⟨shasum, posted_post.2 (.inl ⟨rfl, rfl⟩)⟩
    · obtain ⟨other, hother⟩ := h.posted q hq
      exact ⟨other, posted_post.2 (.inr hother)⟩

/-- A page that is added is counted. -/
theorem add (h : r.Tally) (shasum : String) (pairs : List (String × Value)) :
    (r.add shasum pairs).2.Tally := by
  unfold Reference.add
  split
  case isTrue => exact h
  case isFalse hnew =>
    have hfold : ∀ (pairs : List (String × Value)) (r : Reference), r.Tally →
        (pairs.foldl (Reference.post shasum) r).Tally := by
      intro pairs
      induction pairs with
      | nil => exact fun _ h => h
      | cons p rest ih => exact fun _ h => ih _ (h.post p)
    exact hfold _ _ (h.number hnew)

/-- Pages that are added to an empty index are counted. -/
theorem additions (pages : List (Stub × Page)) : (refer {} (additions pages)).2.Tally := by
  induction pages using List.reverseRecOn with
  | nil => exact empty
  | append_singleton front last ih =>
      rw [refer_additions_concat]
      exact ih.add _ _

/-- References that say the same have the same pairs, up to their order. -/
theorem pairs_perm (h : r.Tally) (h' : r'.Tally) (hsame : r.Same r') :
    (r.rows.map Row.pair).Perm (r'.rows.map Row.pair) := by
  have hmem : ∀ {r : Reference}, r.Tally → ∀ p,
      p ∈ r.rows.map Row.pair ↔ ∃ shasum, r.Posted p shasum := by
    intro r h p
    refine ⟨h.posted p, ?_⟩
    rintro ⟨_, row, hrow, rfl, _⟩
    exact List.mem_map_of_mem hrow
  refine (List.perm_ext_iff_of_nodup h.nodup_pairs h'.nodup_pairs).2 fun p => ?_
  rw [hmem h, hmem h']
  exact exists_congr (hsame.posted p)

/-- The counters of references that say the same fit if those of one do. -/
theorem fits_of_same (h : r.Tally) (h' : r'.Tally) (hsame : r.Same r') (hfits : r.Fits) :
    r'.Fits := by
  have hlive := (List.perm_ext_iff_of_nodup h.nodup_live h'.nodup_live).2 hsame.live
  refine ⟨?_, fun name => ?_⟩
  · rw [h'.numbered, ← hlive.length_eq, ← h.numbered]
    exact hfits.1
  · rw [h'.begun, ← (h.pairs_perm h' hsame).countP_eq, ← h.begun]
    exact hfits.2 name

end Reference.Tally

/-- Adding a page does not set the counters back. -/
theorem Reference.le_add (r : Reference) (shasum : String) (pairs : List (String × Value)) :
    r.numbered ≤ (r.add shasum pairs).2.numbered ∧
      ∀ name, r.begun name ≤ (r.add shasum pairs).2.begun name := by
  unfold add
  split
  · exact ⟨Nat.le_refl _, fun _ => Nat.le_refl _⟩
  · refine ⟨?_, fun name => begun_le_foldl_post shasum _ (r.number shasum) name⟩
    rw [numbered_foldl_post]
    exact Nat.le_succ _

/-- Pages that fit once all are added have fitted all the way. -/
theorem fits_of_additions {pages : List (Stub × Page)} (h : (refer {} (additions pages)).2.Fits) :
    ∀ front, front <+: additions pages → (refer {} front).2.Fits := by
  induction pages using List.reverseRecOn with
  | nil =>
      intro front hfront
      rwa [List.prefix_nil.1 hfront]
  | append_singleton front last ih =>
      intro first hfirst
      rw [additions, List.map_append, List.map_singleton, List.prefix_concat_iff] at hfirst
      rcases hfirst with rfl | hfirst
      · rwa [additions, List.map_append, List.map_singleton] at h
      · rw [refer_additions_concat] at h
        obtain ⟨hnumbered, hbegun⟩ := (refer {} (additions front)).2.le_add last.1.shasum
          (Attributes.postings last.2.context)
        have hfits : (refer {} (additions front)).2.Fits :=
          ⟨hnumbered.trans_lt h.1, fun name => (hbegun name).trans_lt (h.2 name)⟩
        exact ih hfits first hfirst

/-- Pages fit in every order if they do in one. -/
theorem fits_of_perm {pages pages' : List (Stub × Page)}
    (hnodup : (pages.map (·.1.shasum)).Nodup) (hperm : pages.Perm pages')
    (h : (refer {} (additions pages)).2.Fits) :
    ∀ front, front <+: additions pages' → (refer {} front).2.Fits :=
  fits_of_additions ((Reference.Tally.additions pages).fits_of_same
    (Reference.Tally.additions pages') (same_of_perm hnodup hperm) h)

end SiteIndex.Index
