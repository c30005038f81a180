import Mathlib.Tactic.Ring
import SiteIndex.Proofs.Bytes
import SiteIndex.Store.OrderedMap

/-!
# Laws of ordered maps

An ordered map is its look-up function: `ext_get?`. Every operation is described by what it
does to look-ups, and both ways of scanning give the entries whose key starts with the prefix
(`scanRange_eq`, `scanWhile_eq`).
-/

namespace SiteIndex.Store.OrderedMap

variable {β : Type}

/-- Entries stand in ascending order of their keys. -/
abbrev Ascending (entries : List (Bytes × β)) : Prop :=
  entries.Pairwise fun a b => Bytes.Before a.1 b.1

/-- Ascending entries are pairwise different. -/
theorem Ascending.nodup {entries : List (Bytes × β)} (h : Ascending entries) :
    entries.Nodup := by
  refine h.imp ?_
  intro a b hab heq
  exact Bytes.Before.irrefl b.1 (heq ▸ hab)

/-- Ascending lists with the same entries are equal. -/
theorem eq_of_ascending {as bs : List (Bytes × β)} (ha : Ascending as) (hb : Ascending bs)
    (h : ∀ e, e ∈ as ↔ e ∈ bs) : as = bs := by
  have hperm := (List.perm_ext_iff_of_nodup ha.nodup hb.nodup).2 h
  exact hperm.eq_of_pairwise (fun a b _ _ hab hba => absurd hba hab.asymm) ha hb

/-- A key has at most one entry. -/
theorem value_unique {entries : List (Bytes × β)} (h : Ascending entries) {key : Bytes}
    {v w : β} (hv : (key, v) ∈ entries) (hw : (key, w) ∈ entries) : v = w := by
  induction entries with
  | nil => simp at hv
  | cons e rest ih =>
      have hr := List.pairwise_cons.1 h
      rcases List.mem_cons.1 hv with hv | hv <;> rcases List.mem_cons.1 hw with hw | hw
      · rw [← hv] at hw
        exact (Prod.mk.inj hw).2.symm
      · exact absurd (hr.1 _ hw) (by rw [← hv]; exact Bytes.Before.irrefl _)
      · exact absurd (hr.1 _ hv) (by rw [← hw]; exact Bytes.Before.irrefl _)
      · exact ih hr.2 hv hw

/-- A look-up finds exactly the entries of the map. -/
theorem get?_eq_some_iff {m : OrderedMap β} {key : Bytes} {value : β} :
    m.get? key = some value ↔ (key, value) ∈ m.entries := by
  unfold get?
  constructor
  · intro h
    obtain ⟨⟨k, v⟩, hfind, rfl⟩ := Option.map_eq_some_iff.1 h
    have hk : k = key := by simpa using List.find?_some hfind
    exact hk ▸ List.mem_of_find?_eq_some hfind
  · intro h
    cases hfind : m.entries.find? fun e => e.1 = key with
    | none => exact absurd (List.find?_eq_none.1 hfind _ h) (by simp)
    | some e =>
        obtain ⟨k, v⟩ := e
        have hk : k = key := by simpa using List.find?_some hfind
        subst hk
        have hv := value_unique m.sorted (List.mem_of_find?_eq_some hfind) h
        simp [hv]

/-- There is no entry under a key exactly when the look-up fails. -/
theorem get?_eq_none_iff {m : OrderedMap β} {key : Bytes} :
    m.get? key = none ↔ ∀ value, (key, value) ∉ m.entries := by
  rw [Option.eq_none_iff_forall_ne_some]
  simp only [ne_eq, get?_eq_some_iff]

/-- Maps with the same entries are equal. -/
theorem ext_entries {m n : OrderedMap β} (h : m.entries = n.entries) : m = n := by
  cases m
  cases n
  cases h
  rfl

/-- Maps with the same look-ups are equal. -/
theorem ext_get? {m n : OrderedMap β} (h : ∀ key, m.get? key = n.get? key) : m = n := by
  refine ext_entries (eq_of_ascending m.sorted n.sorted fun e => ?_)
  rw [← get?_eq_some_iff, ← get?_eq_some_iff, h]

/-- An insertion into ascending entries replaces the entry of its key. -/
theorem mem_insertInto {key : Bytes} {value : β} {entries : List (Bytes × β)}
    (h : Ascending entries) {e : Bytes × β} :
    e ∈ insertInto key value entries ↔ e = (key, value) ∨ e.1 ≠ key ∧ e ∈ entries := by
  induction entries with
  | nil => simp [insertInto]
  | cons entry rest ih =>
      obtain ⟨k, v⟩ := entry
      have hr := List.pairwise_cons.1 h
      have hlater : ∀ e ∈ rest, e.1 ≠ k := by
        intro e he heq
        exact Bytes.Before.irrefl k (heq ▸ hr.1 e he)
      unfold insertInto
      split
      case h_1 hlt =>
        -- The entries ascend, so that none behind the place of a smaller key can have that key.
        have hearlier : ∀ e ∈ (k, v) :: rest, e.1 ≠ key := by
          intro e he heq
          rcases List.mem_cons.1 he with rfl | he
          · exact Bytes.Before.irrefl key (heq ▸ hlt)
          · exact Bytes.Before.irrefl key (Bytes.Before.trans hlt (heq ▸ hr.1 e he))
        simp only [List.mem_cons] at hearlier ⊢
        grind
      case h_2 heq =>
        have := Bytes.compareTo_eq_iff.1 heq
        subst this
        simp only [List.mem_cons]
        grind
      case h_3 hgt =>
        have hne : k ≠ key := by
          intro heq
          exact Bytes.Before.irrefl key (by simpa [heq] using Bytes.compareTo_eq_gt_iff.1 hgt)
        simp only [List.mem_cons, ih hr.2]
        grind

/-- An insertion changes the look-up of its key alone. -/
theorem get?_insert (key other : Bytes) (value : β) (m : OrderedMap β) :
    (m.insert key value).get? other = if other = key then some value else m.get? other := by
  refine Option.ext fun v => ?_
  rw [get?_eq_some_iff]
  refine (mem_insertInto m.sorted).trans ?_
  by_cases h : other = key
  · subst h
    simp [eq_comm]
  · simp [h, get?_eq_some_iff]

/-- A restriction keeps the look-ups of the keys that pass the test. -/
theorem get?_filterKeys (keep : Bytes → Bool) (key : Bytes) (m : OrderedMap β) :
    (m.filterKeys keep).get? key = if keep key then m.get? key else none := by
  refine Option.ext fun v => ?_
  rw [get?_eq_some_iff]
  refine List.mem_filter.trans ?_
  by_cases h : keep key = true <;> simp [h, get?_eq_some_iff]

/-- Taking a key away changes the look-up of that key alone. -/
theorem get?_erase (key other : Bytes) (m : OrderedMap β) :
    (m.erase key).get? other = if other = key then none else m.get? other := by
  rw [erase, get?_filterKeys]
  by_cases h : other = key <;> simp [h]

/-! ## Scans -/

/-- The entries whose key starts with a prefix. -/
def under (m : OrderedMap β) (front : Bytes) : OrderedMap β := m.filterKeys front.isPrefixOf

/-- A scan by bounds finds the entries below the prefix. -/
theorem scanRange_eq (m : OrderedMap β) (front : Bytes) : m.scanRange front = m.under front := by
  refine ext_get? fun key => ?_
  rw [scanRange, under, get?_filterKeys, get?_filterKeys]
  congr 2
  rw [Bool.eq_iff_iff, Bytes.isPrefixOf_iff_between]
  cases Key.upperBound front <;> simp

/-- Among ascending entries that all stand behind one below the prefix, those below the
prefix come first. -/
theorem takeWhile_eq_filter {front : Bytes} {entries : List (Bytes × β)}
    (h : Ascending entries) (hfront : ∀ e ∈ entries, ¬ Bytes.Before e.1 front) :
    entries.takeWhile (fun e => front.isPrefixOf e.1)
      = entries.filter fun e => front.isPrefixOf e.1 := by
  induction entries with
  | nil => rfl
  | cons e rest ih =>
      have hr := List.pairwise_cons.1 h
      have ih := ih hr.2 fun e' he' => hfront e' (List.mem_cons_of_mem _ he')
      by_cases hp : front.isPrefixOf e.1 = true
      · simp [hp, ih]
      · -- Keys below a prefix stand together, so that none comes after one that is not below it.
        have hnone : ∀ e' ∈ rest, ¬ front.isPrefixOf e'.1 = true := by
          intro e' he' hp'
          exact hp (Bytes.isPrefixOf_of_between (hfront e (List.mem_cons_self ..)) hp'
            (hr.1 e' he'))
        simp only [List.takeWhile_cons, List.filter_cons, hp, Bool.false_eq_true, if_false]
        exact (List.filter_eq_nil_iff.2 hnone).symm

/-- A scan that walks on from the prefix finds the entries below the prefix. -/
theorem scanWhile_eq (m : OrderedMap β) (front : Bytes) : m.scanWhile front = m.under front := by
  have hwalk : ∀ entries : List (Bytes × β), Ascending entries →
      (entries.dropWhile fun e => decide (Bytes.Before e.1 front)).takeWhile
          (fun e => front.isPrefixOf e.1)
        = entries.filter fun e => front.isPrefixOf e.1 := by
    intro entries h
    induction entries with
    | nil => rfl
    | cons e rest ih =>
        have hr := List.pairwise_cons.1 h
        by_cases hb : Bytes.Before e.1 front
        · have hp : ¬ front.isPrefixOf e.1 = true := fun hp =>
            ((Bytes.isPrefixOf_iff_between front e.1).1 hp).1 hb
          simpa [hb, hp] using ih hr.2
        · rw [List.dropWhile_cons_of_neg (by simpa using hb)]
          refine takeWhile_eq_filter h fun e' he' hb' => hb ?_
          rcases List.mem_cons.1 he' with rfl | he'
          · exact hb'
          · exact (hr.1 e' he').trans hb'
  exact ext_entries (hwalk m.entries m.sorted)

/-- Entries that all belong to numbers are those of a list of numbers. -/
theorem exists_numbered {ι γ : Type} (key : ι → Bytes) (bytes : γ → β) (value : ι → Option γ)
    {entries : List (Bytes × β)}
    (h : ∀ e ∈ entries, ∃ i c, value i = some c ∧ e.1 = key i ∧ e.2 = bytes c) :
    ∃ found : List (ι × γ), entries = found.map (fun p => (key p.1, bytes p.2)) ∧
      ∀ i c, (i, c) ∈ found → value i = some c := by
  induction entries with
  | nil => exact ⟨[], rfl, by simp⟩
  | cons e rest ih =>
      obtain ⟨found, hrest, hfound⟩ := ih fun e' he' => h e' (List.mem_cons_of_mem _ he')
      obtain ⟨i, c, hvalue, hi, hc⟩ := h e (List.mem_cons_self ..)
      refine ⟨(i, c) :: found, ?_, ?_⟩
      · rw [List.map_cons, ← hrest, ← hi, ← hc]
      · intro j d hjd
        rcases List.mem_cons.1 hjd with hjd | hjd
        · cases hjd
          exact hvalue
        · exact hfound j d hjd

/-- If the keys below a prefix are numbered by `key`, a scan gives a list of what stands under
each number, in the order of the keys. -/
theorem exists_under {ι γ : Type} {m : OrderedMap β} {front : Bytes} (key : ι → Bytes)
    (bytes : γ → β) (value : ι → Option γ) (hkey : ∀ i j, key i = key j → i = j)
    (h : ∀ k v, front.isPrefixOf k = true ∧ m.get? k = some v ↔
      ∃ i c, value i = some c ∧ k = key i ∧ v = bytes c) :
    ∃ found : List (ι × γ),
      (m.under front).entries = found.map (fun p => (key p.1, bytes p.2)) ∧
      (∀ i c, (i, c) ∈ found ↔ value i = some c) ∧
      found.Pairwise fun p q => Bytes.Before (key p.1) (key q.1) := by
  have hmem : ∀ k v, (k, v) ∈ (m.under front).entries ↔
      ∃ i c, value i = some c ∧ k = key i ∧ v = bytes c := by
    intro k v
    rw [← h, ← get?_eq_some_iff, under, get?_filterKeys]
    by_cases hp : front.isPrefixOf k = true <;> simp [hp]
  obtain ⟨found, hentries, hfound⟩ :=
    exists_numbered key bytes value fun e he => (hmem e.1 e.2).1 he
  refine ⟨found, hentries, fun i c => ⟨hfound i c, fun hvalue => ?_⟩, ?_⟩
  · have he : (key i, bytes c) ∈ (m.under front).entries := (hmem _ _).2 ⟨i, c, hvalue, rfl, rfl⟩
    rw [hentries] at he
    obtain ⟨⟨j, d⟩, hjd, hpair⟩ := List.mem_map.1 he
    obtain rfl := hkey j i (Prod.mk.inj hpair).1
    obtain rfl := Option.some.inj ((hfound j d hjd).symm.trans hvalue)
    exact hjd
  · have hsorted := (m.under front).sorted
    rw [hentries, List.pairwise_map] at hsorted
    exact hsorted

end SiteIndex.Store.OrderedMap
