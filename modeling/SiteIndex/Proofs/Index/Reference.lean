import Mathlib.Algebra.Ring.Nat
import Mathlib.Data.List.Basic
import Mathlib.Data.List.TakeWhile
import Mathlib.Logic.Function.Basic
import SiteIndex.Index.Attributes

/-!
# What the index of attributes stands for

A `Reference` has a row for every pair of an attribute and a value that some page carries, in the
order in which the pairs were first seen, and the row lists the shasums of these pages. It knows
no keys, hashes or numbers of stubs; of the counters of the tables it keeps how often each has
been drawn from, since the tables can only follow it while these stay within 32 bits.
-/

namespace SiteIndex.Index

open Store.Key (isName)

/-- A value of an attribute with the shasums of the pages that carry it. -/
structure Row where
  name : String
  value : Value
  stubs : List String
  deriving DecidableEq

namespace Row

/-- The attribute of a row with its value. -/
def pair (row : Row) : String × Value := (row.name, row.value)

/-- The row with a page behind the others, unless the page is there already. -/
def post (shasum : String) (row : Row) : Row :=
  if shasum ∈ row.stubs then row else { row with stubs := row.stubs ++ [shasum] }

/-- The row without a page; nothing is left without the last one. -/
def without (shasum : String) (row : Row) : Option Row :=
  if row.stubs.filter (· ≠ shasum) = [] then none
  else some { row with stubs := row.stubs.filter (· ≠ shasum) }

variable {shasum other : String} {row : Row}

/-- Posting adds one page. -/
@[simp] theorem mem_stubs_post :
    other ∈ (row.post shasum).stubs ↔ other = shasum ∨ other ∈ row.stubs := by
  unfold post
  split
  · exact ⟨.inr, fun h => h.elim (fun heq => heq ▸ ‹_›) id⟩
  · simp [or_comm]

/-- Posting leaves the attribute and the value alone. -/
@[simp] theorem pair_post : (row.post shasum).pair = row.pair := by
  unfold post
  split <;> rfl

/-- Posting leaves the attribute alone. -/
@[simp] theorem name_post : (row.post shasum).name = row.name := congrArg Prod.fst pair_post

/-- What is left of a row is the row with the other pages. -/
theorem eq_of_without {left : Row} (h : row.without shasum = some left) :
    left = { row with stubs := row.stubs.filter (· ≠ shasum) } := by
  unfold without at h
  split at h
  · cases h
  · exact (Option.some.inj h).symm

/-- What is left of a row is a row of the same pair. -/
theorem pair_of_without {left : Row} (h : row.without shasum = some left) :
    left.pair = row.pair := by
  rw [eq_of_without h]
  rfl

/-- What is left of a row has the other pages. -/
theorem stubs_of_without {left : Row} (h : row.without shasum = some left) :
    left.stubs = row.stubs.filter (· ≠ shasum) := by rw [eq_of_without h]

/-- A row with another page does not go with the last one. -/
theorem exists_without (hother : other ∈ row.stubs) (hne : other ≠ shasum) :
    ∃ left, row.without shasum = some left := by
  have hleft : row.stubs.filter (· ≠ shasum) ≠ [] :=
    List.ne_nil_of_mem (List.mem_filter.2 ⟨hother, decide_eq_true hne⟩)
  exact ⟨_, if_neg hleft⟩

end Row

/-- The pages of an index and the rows of the values that they carry. -/
structure Reference where
  /-- The shasums of the pages that are indexed. -/
  live : List String := []
  rows : List Row := []
  /-- How many pages were added since the index was empty. -/
  numbered : Nat := 0
  /-- How many rows of an attribute were begun since the index was empty. -/
  begun : String → Nat := fun _ => 0

namespace Reference

/-- The rows of an attribute. -/
def rowsOf (name : String) (r : Reference) : List Row := r.rows.filter (·.name = name)

/-- The values of an attribute with the pages that carry them. -/
def values (name : String) (r : Reference) : List (Value × List String) :=
  (r.rowsOf name).map fun row => (row.value, row.stubs)

/-- The page carries the value under the attribute. -/
def Posted (r : Reference) (p : String × Value) (shasum : String) : Prop :=
  ∃ row ∈ r.rows, row.pair = p ∧ shasum ∈ row.stubs

instance (r : Reference) (p : String × Value) (shasum : String) : Decidable (r.Posted p shasum) :=
  inferInstanceAs (Decidable (∃ row ∈ r.rows, _))

/-- Puts a page into the row of a pair; the row of a new pair comes behind the others. -/
def post (shasum : String) (r : Reference) (p : String × Value) : Reference :=
  if p ∈ r.rows.map Row.pair then
    { r with rows := r.rows.map fun row => if row.pair = p then row.post shasum else row }
  else
    { r with
      rows := r.rows ++ [⟨p.1, p.2, [shasum]⟩]
      begun := Function.update r.begun p.1 (r.begun p.1 + 1) }

/-- A page that is not live becomes so. -/
def number (shasum : String) (r : Reference) : Reference :=
  { r with live := r.live ++ [shasum], numbered := r.numbered + 1 }

/-- Adds a page with pairs of attributes and values, and says how many different ones there are.
A live page is left as it is. Nothing is posted from the first attribute on that is no name. -/
def add (shasum : String) (pairs : List (String × Value)) (r : Reference) :
    Outcome Nat × Reference :=
  if shasum ∈ r.live then (.ok 0, r)
  else
    (match pairs.find? fun p => !isName p.1 with
      | some p => .error (.invalidName p.1)
      | none => .ok pairs.eraseDups.length,
    (pairs.takeWhile fun p => isName p.1).foldl (post shasum) (r.number shasum))

/-- Takes a page out of all rows, and says out of how many. A page that is not live leaves
everything as it is. -/
def remove (shasum : String) (r : Reference) : Nat × Reference :=
  if shasum ∈ r.live then
    (r.rows.countP (shasum ∈ ·.stubs),
      { r with
        live := r.live.filter (· ≠ shasum)
        rows := r.rows.filterMap (Row.without shasum) })
  else (0, r)

variable {r : Reference} {shasum other name : String} {p q : String × Value}

/-- The pages that are listed with a value of an attribute are those that carry it. -/
theorem mem_values_iff {value : Value} {stubs : List String} :
    (value, stubs) ∈ r.values name ↔ (⟨name, value, stubs⟩ : Row) ∈ r.rows := by
  constructor
  · intro h
    obtain ⟨row, hrow, heq⟩ := List.mem_map.1 h
    obtain ⟨hrow, hname⟩ := List.mem_filter.1 hrow
    obtain ⟨rfl, rfl⟩ := Prod.mk.inj heq
    exact of_decide_eq_true hname ▸ hrow
  · exact fun h => List.mem_map.2 ⟨_, List.mem_filter.2 ⟨h, decide_eq_true rfl⟩, rfl⟩

/-! ## Posting -/

/-- Posting leaves the pages alone. -/
@[simp] theorem live_post : (r.post shasum p).live = r.live := by
  unfold post
  split <;> rfl

/-- Posting leaves the number of pages alone. -/
@[simp] theorem numbered_post : (r.post shasum p).numbered = r.numbered := by
  unfold post
  split <;> rfl

/-- Posting adds one page to one pair. -/
theorem posted_post :
    (r.post shasum p).Posted q other ↔ (q = p ∧ other = shasum) ∨ r.Posted q other := by
  unfold post
  split
  case isTrue hp =>
    obtain ⟨row, hrow, hpair⟩ := List.mem_map.1 hp
    simp only [Posted, List.mem_map, exists_exists_and_eq_and]
    -- A row of another pair is itself; the row of the pair has one page more.
    constructor
    · rintro ⟨x, hx, hxq, hother⟩
      by_cases hxp : x.pair = p
      · rw [if_pos hxp, Row.pair_post] at hxq
        rw [if_pos hxp, Row.mem_stubs_post] at hother
        rcases hother with hother | hother
        · exact .inl ⟨hxq.symm.trans hxp, hother⟩
        · exact .inr ⟨x, hx, hxq, hother⟩
      · rw [if_neg hxp] at hxq hother
        exact .inr ⟨x, hx, hxq, hother⟩
    · rintro (⟨rfl, rfl⟩ | ⟨x, hx, hxq, hother⟩)
      · exact ⟨row, hrow, by rw [if_pos hpair]; simp [hpair]⟩
      · refine ⟨x, hx, ?_⟩
        split
        · simp [hxq, hother]
        · exact ⟨hxq, hother⟩
  case isFalse =>
    simp only [Posted, List.mem_append, List.mem_singleton, or_and_right, exists_or, exists_eq_left]
    rw [or_comm]
    refine or_congr ?_ Iff.rfl
    show p = q ∧ other = shasum ↔ _
    rw [eq_comm]

/-- The rows of an attribute are posted to among themselves. -/
theorem filter_map_post (rows : List Row) :
    (rows.map fun row => if row.pair = p then row.post shasum else row).filter (·.name = name)
      = (rows.filter (·.name = name)).map
        fun row => if row.pair = p then row.post shasum else row := by
  rw [List.filter_map]
  have hname : ((fun row : Row => decide (row.name = name)) ∘
      fun row : Row => if row.pair = p then row.post shasum else row)
      = fun row => decide (row.name = name) := by
    funext row
    show decide ((if row.pair = p then row.post shasum else row).name = name) = _
    split <;> simp
  rw [hname]

/-- The rows of other attributes stay as they are. -/
theorem rowsOf_post_of_ne (h : name ≠ p.1) : (r.post shasum p).rowsOf name = r.rowsOf name := by
  unfold post
  split
  case isTrue =>
    unfold rowsOf
    rw [filter_map_post]
    refine (List.map_congr_left fun row hrow => if_neg ?_).trans (List.map_id' _)
    intro hpair
    exact h ((of_decide_eq_true (List.mem_filter.1 hrow).2).symm.trans (congrArg Prod.fst hpair))
  case isFalse => simp [rowsOf, Ne.symm h]

/-- The page comes into the row of a pair that there is. -/
theorem rowsOf_post_used (h : p ∈ r.rows.map Row.pair) : (r.post shasum p).rowsOf p.1
    = (r.rowsOf p.1).map fun row => if row.value = p.2 then row.post shasum else row := by
  unfold post
  rw [if_pos h]
  unfold rowsOf
  rw [filter_map_post]
  refine List.map_congr_left fun row hrow => ?_
  have hrow : row.name = p.1 := of_decide_eq_true (List.mem_filter.1 hrow).2
  exact if_congr (by simp [Row.pair, Prod.ext_iff, hrow]) rfl rfl

/-- The row of a new pair comes behind the others of its attribute. -/
theorem rowsOf_post_new (h : p ∉ r.rows.map Row.pair) :
    (r.post shasum p).rowsOf p.1 = r.rowsOf p.1 ++ [⟨p.1, p.2, [shasum]⟩] := by
  unfold post
  rw [if_neg h]
  simp [rowsOf]

/-- Posting puts a pair behind the others if it has no row. -/
theorem pairs_post (shasum : String) (r : Reference) (p : String × Value) :
    (r.post shasum p).rows.map Row.pair = if p ∈ r.rows.map Row.pair then r.rows.map Row.pair
      else r.rows.map Row.pair ++ [p] := by
  unfold post
  split
  case isTrue =>
    rw [List.map_map]
    refine List.map_congr_left fun row _ => ?_
    show (if row.pair = p then row.post shasum else row).pair = row.pair
    split <;> simp
  case isFalse => rw [List.map_append, List.map_singleton, Row.pair]

/-- The pairs of the rows are those that were there and the one that is posted. -/
theorem mem_pairs_post : q ∈ (r.post shasum p).rows.map Row.pair ↔
    q = p ∨ q ∈ r.rows.map Row.pair := by
  rw [pairs_post]
  split
  case isTrue hp => exact (or_iff_right_of_imp fun heq => heq ▸ hp).symm
  case isFalse => rw [List.mem_append, List.mem_singleton, or_comm]

/-- Posting gives no pair a second row. -/
theorem nodup_pairs_post (h : (r.rows.map Row.pair).Nodup) (shasum : String) (p : String × Value) :
    ((r.post shasum p).rows.map Row.pair).Nodup := by
  rw [pairs_post]
  split
  case isTrue => exact h
  case isFalse hp =>
    exact List.nodup_append.2 ⟨h, List.pairwise_singleton _ _,
      fun _ ha _ hb heq => hp (List.mem_singleton.1 hb ▸ heq ▸ ha)⟩

/-- Posting begins a row for a pair that has none. -/
theorem begun_post (shasum : String) (r : Reference) (p : String × Value) (name : String) :
    (r.post shasum p).begun name
      = if name = p.1 ∧ p ∉ r.rows.map Row.pair then r.begun name + 1 else r.begun name := by
  unfold post
  by_cases hp : p ∈ r.rows.map Row.pair
  · simp [hp]
  · by_cases hname : name = p.1
    · subst hname
      simp [hp]
    · simp [hp, hname]

/-- Posting several pairs begins rows and ends none. -/
theorem begun_le_foldl_post (shasum : String) (pairs : List (String × Value)) (r : Reference)
    (name : String) : r.begun name ≤ (pairs.foldl (post shasum) r).begun name := by
  induction pairs generalizing r with
  | nil => exact Nat.le_refl _
  | cons p rest ih =>
      refine Nat.le_trans ?_ (ih (r.post shasum p))
      rw [begun_post]
      split
      · exact Nat.le_succ _
      · exact Nat.le_refl _

/-- Posting several pairs leaves the number of pages alone. -/
theorem numbered_foldl_post (pairs : List (String × Value)) (r : Reference) :
    (pairs.foldl (post shasum) r).numbered = r.numbered := by
  induction pairs generalizing r with
  | nil => rfl
  | cons p rest ih => exact (ih (r.post shasum p)).trans numbered_post

/-- Posting several pairs begins at most one row for each of them. -/
theorem begun_foldl_post_le (shasum : String) (pairs : List (String × Value)) (r : Reference)
    (name : String) : (pairs.foldl (post shasum) r).begun name ≤ r.begun name + pairs.length := by
  induction pairs generalizing r with
  | nil => exact Nat.le_refl _
  | cons p rest ih =>
      have hfirst : (r.post shasum p).begun name ≤ r.begun name + 1 := by
        rw [begun_post]
        split
        · exact Nat.le_refl _
        · exact Nat.le_succ _
      have hrest := ih (r.post shasum p)
      rw [List.foldl_cons, List.length_cons]
      omega

/-- The pairs of a list that a page is not posted under yet, each counted once. -/
def fresh (shasum : String) (r : Reference) (pairs : List (String × Value)) : Nat :=
  (pairs.filter fun p => !decide (r.Posted p shasum)).eraseDups.length

/-- The first pair of a list counts if the page is not posted under it yet. -/
theorem fresh_cons (rest : List (String × Value)) : r.fresh shasum (p :: rest)
    = if r.Posted p shasum then (r.post shasum p).fresh shasum rest
      else (r.post shasum p).fresh shasum rest + 1 := by
  unfold fresh
  by_cases hp : r.Posted p shasum
  · rw [if_pos hp, List.filter_cons_of_neg (by simp [hp])]
    congr 2
    refine List.filter_congr fun q _ => ?_
    have hsame : (r.post shasum p).Posted q shasum ↔ r.Posted q shasum := by
      rw [posted_post]
      exact or_iff_right_of_imp fun h => h.1 ▸ hp
    simp [hsame]
  · -- Once it is posted the pair is no longer fresh, as its repeats are no longer kept.
    rw [if_neg hp, List.filter_cons_of_pos (by simp [hp]), List.eraseDups_cons, List.length_cons,
      List.filter_filter]
    congr 3
    refine List.filter_congr fun q _ => ?_
    by_cases hq : q = p <;> simp [posted_post, hq]

/-- For a page without rows every pair counts once. -/
theorem fresh_of_not_posted (h : ∀ p, ¬ r.Posted p shasum) (pairs : List (String × Value)) :
    r.fresh shasum pairs = pairs.eraseDups.length := by
  unfold fresh
  rw [List.filter_eq_self.2 fun p _ => by simp [h p]]

/-- Posting several pairs leaves the pages alone. -/
theorem live_foldl_post (pairs : List (String × Value)) (r : Reference) :
    (pairs.foldl (post shasum) r).live = r.live := by
  induction pairs generalizing r with
  | nil => rfl
  | cons p rest ih => exact (ih (r.post shasum p)).trans live_post

/-- Posting several pairs adds one page to each of them. -/
theorem posted_foldl_post (pairs : List (String × Value)) (r : Reference) :
    (pairs.foldl (post shasum) r).Posted q other ↔
      (q ∈ pairs ∧ other = shasum) ∨ r.Posted q other := by
  induction pairs generalizing r with
  | nil => simp
  | cons p rest ih =>
      rw [List.foldl_cons, ih, posted_post, List.mem_cons, or_and_right, or_assoc, or_left_comm]

/-- A new page that is added without a fault is posted under all its pairs. -/
theorem add_of_ok {pairs : List (String × Value)} {count : Nat} (hnew : shasum ∉ r.live)
    (hok : (r.add shasum pairs).1 = .ok count) :
    (r.add shasum pairs).2 = pairs.foldl (post shasum) (r.number shasum) := by
  rw [add, if_neg hnew] at hok ⊢
  cases hfind : pairs.find? fun p => !isName p.1 with
  | some p =>
      rw [hfind] at hok
      cases hok
  | none =>
      have hnames : pairs.takeWhile (fun p => isName p.1) = pairs :=
        List.takeWhile_eq_self_iff.2 fun p hp => by simpa using List.find?_eq_none.1 hfind p hp
      rw [hnames]

/-- A page is added without a fault if its attributes are names. -/
theorem add_ok_of_names (r : Reference) (shasum : String) {pairs : List (String × Value)}
    (h : ∀ p ∈ pairs, isName p.1 = true) : ∃ count, (r.add shasum pairs).1 = .ok count := by
  have hfind : pairs.find? (fun p => !isName p.1) = none :=
    List.find?_eq_none.2 fun p hp => by simpa using h p hp
  rw [add, hfind]
  split <;> exact ⟨_, rfl⟩

/-- Adding a page draws from the counters once for the page and at most once for each pair. -/
theorem add_le (r : Reference) (shasum : String) (pairs : List (String × Value)) :
    (r.add shasum pairs).2.numbered ≤ r.numbered + 1 ∧
      ∀ name, (r.add shasum pairs).2.begun name ≤ r.begun name + pairs.length := by
  unfold add
  split
  · exact ⟨Nat.le_succ _, fun _ => Nat.le_add_right _ _⟩
  · refine ⟨Nat.le_of_eq (numbered_foldl_post _ _), fun name => ?_⟩
    refine Nat.le_trans (begun_foldl_post_le _ _ _ name) ?_
    exact Nat.add_le_add_left (List.takeWhile_sublist _).length_le _

/-! ## Taking pages out -/

/-- Taking a page out leaves the counters alone. -/
theorem counters_remove (r : Reference) (shasum : String) :
    (r.remove shasum).2.numbered = r.numbered ∧ (r.remove shasum).2.begun = r.begun := by
  unfold remove
  split <;> exact ⟨rfl, rfl⟩

/-- Taking a page out leaves the other ones, in their order. -/
theorem live_remove (r : Reference) (shasum : String) :
    (r.remove shasum).2.live = r.live.filter (· ≠ shasum) := by
  unfold remove
  split
  case isTrue => rfl
  case isFalse hnot =>
    refine (List.filter_eq_self.2 fun other hother => decide_eq_true ?_).symm
    rintro rfl
    exact hnot hother

/-- The pages that are live once one is taken out. -/
theorem mem_live_remove : other ∈ (r.remove shasum).2.live ↔ other ∈ r.live ∧ other ≠ shasum := by
  rw [live_remove, List.mem_filter, decide_eq_true_eq]

/-- If a reference has the pages of `seen`, what is posted is live. -/
theorem live_of_posted {seen : String → Option Page} {Q : Page → Prop}
    (hlive : shasum ∈ r.live ↔ seen shasum ≠ none)
    (hposted : r.Posted p shasum ↔ ∃ page, seen shasum = some page ∧ Q page)
    (h : r.Posted p shasum) : shasum ∈ r.live := by
  obtain ⟨page, hpage, _⟩ := hposted.1 h
  rw [hlive, hpage]
  exact Option.some_ne_none page

/-- Taking a page out takes it out of every row and leaves the other pages there. -/
theorem posted_remove (h : r.Posted p shasum → shasum ∈ r.live) :
    (r.remove shasum).2.Posted p other ↔ r.Posted p other ∧ other ≠ shasum := by
  by_cases hlive : shasum ∈ r.live
  case neg =>
    rw [remove, if_neg hlive]
    refine (and_iff_left_of_imp fun hother => ?_).symm
    exact fun heq => hlive (h (heq ▸ hother))
  rw [remove, if_pos hlive]
  constructor
  · rintro ⟨left, hleft, hpair, hother⟩
    obtain ⟨row, hrow, hwithout⟩ := List.mem_filterMap.1 hleft
    rw [Row.stubs_of_without hwithout] at hother
    obtain ⟨hother, hne⟩ := List.mem_filter.1 hother
    rw [Row.pair_of_without hwithout] at hpair
    exact ⟨⟨row, hrow, hpair, hother⟩, of_decide_eq_true hne⟩
  · rintro ⟨⟨row, hrow, hpair, hother⟩, hne⟩
    obtain ⟨left, hwithout⟩ := Row.exists_without hother hne
    refine ⟨left, List.mem_filterMap.2 ⟨row, hrow, hwithout⟩,
      (Row.pair_of_without hwithout).trans hpair, ?_⟩
    rw [Row.stubs_of_without hwithout]
    exact List.mem_filter.2 ⟨hother, decide_eq_true hne⟩

/-- The rows of an attribute lose the page one by one. -/
theorem rowsOf_filterMap_without (shasum name : String) (rows : List Row) :
    (rows.filterMap (Row.without shasum)).filter (·.name = name)
      = (rows.filter (·.name = name)).filterMap (Row.without shasum) := by
  rw [List.filter_filterMap, List.filterMap_filter]
  refine List.filterMap_congr fun row _ => ?_
  cases hleft : row.without shasum with
  | none => simp
  | some left =>
      have hname : left.name = row.name := congrArg Prod.fst (Row.pair_of_without hleft)
      simp [Option.filter, hname]

/-- The rows of a list are counted attribute by attribute. -/
theorem countP_eq_sum (test : Row → Bool) {names : List String} (hnodup : names.Nodup)
    {rows : List Row} (hnames : ∀ row ∈ rows, row.name ∈ names) :
    rows.countP test
      = (names.map fun name => (rows.filter (·.name = name)).countP test).sum := by
  induction names generalizing rows with
  | nil =>
      have hrows : rows = [] := List.eq_nil_iff_forall_not_mem.2 fun row hrow => by
        simpa using hnames row hrow
      rw [hrows]
      rfl
  | cons name rest ih =>
      obtain ⟨hname, hrest⟩ := List.nodup_cons.1 hnodup
      have hrestNames : ∀ row ∈ rows.filter fun row => !decide (row.name = name),
          row.name ∈ rest := by
        intro row hrow
        obtain ⟨hrow, hne⟩ := List.mem_filter.1 hrow
        exact (List.mem_cons.1 (hnames row hrow)).resolve_left (by simpa using hne)
      have hothers := ih hrest hrestNames
      rw [List.countP_eq_countP_filter_add rows test (fun row => decide (row.name = name)),
        List.map_cons, List.sum_cons, hothers]
      congr 2
      refine List.map_congr_left fun other hother => ?_
      rw [List.filter_filter]
      congr 1
      refine List.filter_congr fun row _ => ?_
      have hne : other ≠ name := fun heq => hname (heq ▸ hother)
      by_cases heq : row.name = other <;> simp [heq, hne]

end Reference

end SiteIndex.Index
