import Mathlib.Data.List.Basic
import Mathlib.Data.List.Induction
import SiteIndex.NameMap

/-!
# Laws of maps from names

A map is described by its look-ups: an insertion changes the look-up of its name alone, and a value
is one of the map if a look-up finds it.
-/

namespace SiteIndex.NameMap

variable {β : Type} {m : NameMap β} {name other : String} {value : β}

/-- A look-up goes on behind an entry of another name. -/
theorem lookup_cons (k : String) (v : β) (rest : List (String × β)) :
    ((k, v) :: rest).lookup name = if name = k then some v else rest.lookup name := by
  rw [List.lookup_cons]
  by_cases h : name = k
  · rw [if_pos h, beq_iff_eq.2 h]
  · rw [if_neg h, beq_eq_false_iff_ne.2 h]

/-- An insertion into entries changes the look-up of its name alone. -/
theorem lookup_insertInto (entries : List (String × β)) :
    (insertInto name value entries).lookup other
      = if other = name then some value else entries.lookup other := by
  induction entries with
  | nil => exact lookup_cons name value []
  | cons entry rest ih =>
      obtain ⟨k, v⟩ := entry
      unfold insertInto
      split
      case isTrue => exact lookup_cons name value _
      case isFalse =>
        split
        case isTrue heq =>
          rw [lookup_cons, lookup_cons]
          by_cases h : other = name <;> simp [h, heq ▸ h]
        case isFalse hne =>
          rw [lookup_cons, lookup_cons, ih]
          by_cases h : other = k
          · have hother : other ≠ name := fun heq => hne (heq.symm.trans h)
            rw [if_pos h, if_pos h, if_neg hother]
          · rw [if_neg h, if_neg h]

/-- An insertion changes the look-up of its name alone. -/
theorem get?_insert : (m.insert name value).get? other
    = if other = name then some value else m.get? other := lookup_insertInto m.entries

/-- The names of a map after an insertion. -/
theorem contains_insert :
    (m.insert name value).contains other = true ↔ other = name ∨ m.contains other = true := by
  unfold contains
  rw [get?_insert]
  by_cases h : other = name <;> simp [h]

/-- A look-up finds exactly the entries of the map. -/
theorem get?_eq_some_iff : m.get? name = some value ↔ (name, value) ∈ m.entries := by
  obtain ⟨entries, hascending⟩ := m
  show entries.lookup name = some value ↔ (name, value) ∈ entries
  induction entries with
  | nil => simp
  | cons entry rest ih =>
      obtain ⟨k, v⟩ := entry
      obtain ⟨hfirst, hrest⟩ := List.pairwise_cons.1 hascending
      rw [lookup_cons, List.mem_cons, Prod.mk.injEq]
      by_cases h : name = k
      · have hnot : (name, value) ∉ rest := fun hmem => String.lt_irrefl k (h ▸ hfirst _ hmem)
        rw [if_pos h, Option.some.injEq, or_iff_left hnot, and_iff_right h, eq_comm]
      · rw [if_neg h, ih hrest, or_iff_right fun heq => h heq.1]

/-- Maps with the same look-ups are equal. -/
theorem ext_get? {m n : NameMap β} (h : ∀ name, m.get? name = n.get? name) : m = n := by
  have hmem : ∀ e, e ∈ m.entries ↔ e ∈ n.entries := fun e => by
    rw [← get?_eq_some_iff, ← get?_eq_some_iff, h]
  have hnodup : ∀ m : NameMap β, m.entries.Nodup := by
    intro m
    refine m.ascending.imp ?_
    rintro a _ hlt rfl
    exact String.lt_irrefl _ hlt
  have hperm := (List.perm_ext_iff_of_nodup (hnodup m) (hnodup n)).2 hmem
  have hentries : m.entries = n.entries :=
    hperm.eq_of_pairwise
      (fun _ _ _ _ hab hba => absurd (String.lt_trans hab hba) (String.lt_irrefl _))
      m.ascending n.ascending
  cases m
  cases n
  cases hentries
  rfl

/-- The values of a map are those that a look-up finds. -/
theorem mem_values_iff : value ∈ m.values ↔ ∃ name, m.get? name = some value := by
  simp [values, get?_eq_some_iff]

/-- The names of a map are those that a look-up finds. -/
theorem mem_names_iff : name ∈ m.names ↔ m.contains name = true := by
  rw [contains, Option.isSome_iff_exists]
  simp [names, get?_eq_some_iff]

/-- No name stands in a map twice. -/
theorem nodup_names : m.names.Nodup :=
  List.pairwise_map.2 (m.ascending.imp fun hlt => String.ne_of_lt hlt)

/-- The names of a map of entries are those of the entries. -/
theorem mem_names_ofList {entries : List (String × β)} :
    name ∈ (ofList entries).names ↔ name ∈ entries.map (·.1) := by
  rw [mem_names_iff, ofList]
  induction entries using List.reverseRecOn with
  | nil => exact ⟨nofun, nofun⟩
  | append_singleton front entry ih =>
      rw [List.foldl_append, List.map_append, List.mem_append, ← ih, or_comm]
      exact contains_insert.trans (or_congr_left List.mem_singleton.symm)

end SiteIndex.NameMap
