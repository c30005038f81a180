/-!
# Maps from names

A map from texts to values whose entries are kept in ascending order of the names, so that two
maps with the same entries are the same map. Names ascend by code points.
-/

namespace SiteIndex

/-- A map whose names ascend. -/
structure NameMap (β : Type) where
  entries : List (String × β) := []
  ascending : entries.Pairwise (fun a b => a.1 < b.1) := by exact .nil

namespace NameMap

variable {β : Type}

/-- The map without entries. -/
def empty : NameMap β := {}

instance : EmptyCollection (NameMap β) := ⟨empty⟩

/-- Puts an entry into its place, over one with the same name. -/
def insertInto (name : String) (value : β) : List (String × β) → List (String × β)
  | [] => [(name, value)]
  | (k, v) :: rest =>
    if name < k then (name, value) :: (k, v) :: rest
    else if name = k then (name, value) :: rest
    else (k, v) :: insertInto name value rest

/-- An insertion brings in no other name. -/
theorem name_of_mem_insertInto {name : String} {value : β} {entries : List (String × β)}
    {e : String × β} (h : e ∈ insertInto name value entries) : e.1 = name ∨ e ∈ entries := by
  induction entries with
  | nil => simp_all [insertInto]
  | cons entry rest ih =>
    obtain ⟨k, v⟩ := entry
    unfold insertInto at h
    split at h
    · simp only [List.mem_cons] at h ⊢; grind
    · split at h <;> simp only [List.mem_cons] at h ⊢ <;> grind

/-- An insertion keeps the order. -/
theorem ascending_insertInto {name : String} {value : β} {entries : List (String × β)}
    (h : entries.Pairwise (fun a b => a.1 < b.1)) :
    (insertInto name value entries).Pairwise (fun a b => a.1 < b.1) := by
  induction entries with
  | nil => simp [insertInto]
  | cons entry rest ih =>
    obtain ⟨k, v⟩ := entry
    have hr := List.pairwise_cons.1 h
    unfold insertInto
    split
    case isTrue hlt =>
      refine List.pairwise_cons.2 ⟨fun e he => ?_, h⟩
      rcases List.mem_cons.1 he with rfl | he
      · exact hlt
      · exact String.lt_trans hlt (hr.1 e he)
    case isFalse hge =>
      split
      case isTrue heq =>
        subst heq
        exact List.pairwise_cons.2 hr
      case isFalse hne =>
        refine List.pairwise_cons.2 ⟨fun e he => ?_, ih hr.2⟩
        rcases name_of_mem_insertInto he with he | he
        · rw [he]
          refine String.not_le.1 fun hle => hne ?_
          exact String.le_antisymm hle (String.not_lt.1 hge)
        · exact hr.1 e he

/-- The map with an entry put under a name. -/
def insert (name : String) (value : β) (m : NameMap β) : NameMap β :=
  ⟨insertInto name value m.entries, ascending_insertInto m.ascending⟩

/-- The map without a name. -/
def erase (name : String) (m : NameMap β) : NameMap β :=
  ⟨m.entries.filter (·.1 ≠ name), m.ascending.filter _⟩

/-- The value under a name. -/
def get? (m : NameMap β) (name : String) : Option β := m.entries.lookup name

/-- There is an entry under the name. -/
def contains (m : NameMap β) (name : String) : Bool := (m.get? name).isSome

/-- The names in ascending order. -/
def names (m : NameMap β) : List String := m.entries.map (·.1)

/-- The values in the order of their names. -/
def values (m : NameMap β) : List β := m.entries.map (·.2)

/-- The number of entries. -/
def size (m : NameMap β) : Nat := m.entries.length

/-- There is no entry. -/
def isEmpty (m : NameMap β) : Bool := m.entries.isEmpty

/-- The map of a list of entries, of which later ones win. -/
def ofList (entries : List (String × β)) : NameMap β :=
  entries.foldl (fun m e => m.insert e.1 e.2) ∅

end NameMap

end SiteIndex
