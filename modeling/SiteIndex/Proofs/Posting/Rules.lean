import SiteIndex.Proofs.Posting.Writes

/-!
# Rules that the tables keep

A rule says of each cell what may be stored under its key. A store that respects a rule still does
after any change of the tables that writes only what the rule allows, also if the change breaks off
half way. Nothing is asked of the store beyond the rule, and of the numbers and values only what the
rule says.
-/

namespace SiteIndex.Posting

open SiteIndex.Action (Keeps)
open Store (Namespace OrderedMap)
open Store.Key (encodeNumber)

/-! ## Rules -/

/-- What may be stored under the key of each cell. -/
abbrev Rule := Namespace → (c : Cell) → Option Bytes → Prop

/-- The store has under the key of each cell what the rule allows. -/
def Respects (E : Rule) (s : Store) : Prop := ∀ ns c, E ns c (s.content.get? (c.key ns))

/-- The cell holds neither the number of a shasum nor a value. -/
def Cell.isPlain : Cell → Bool
  | .stubIndex _ | .slotValue _ _ => false
  | _ => true

/-- The rule asks nothing but that shasums keep their numbers and that values are certain ones. -/
structure Lenient (E : Rule) : Prop where
  /-- A shasum may have any number. -/
  number : ∀ ns shasum n, E ns (.stubIndex shasum) (some (encodeNumber n))
  /-- A slot may lose its value. -/
  valueGone : ∀ ns name slot, E ns (.slotValue name slot) none
  others : ∀ ns (c : Cell), c.isPlain = true → ∀ entry, E ns c entry

/-! ## Entries that a rule allows -/

section Permits

variable {E : Rule} {ns : Namespace} {c : Cell}

/-- The content of a store that respects the rule. -/
abbrev Allowed (E : Rule) (m : OrderedMap Bytes) : Prop := ∀ ns c, E ns c (m.get? (c.key ns))

/-- An entry that the rule allows in its cell leaves the others as they are. -/
theorem permits_of_rule {entry : Option Bytes} (h : E ns c entry) :
    Permits (Allowed E) (c.key ns) entry := by
  intro m m' hm' hm ns' d
  rw [hm']
  split
  case isTrue heq =>
    obtain ⟨rfl, rfl⟩ := Cell.key_injective heq
    exact h
  case isFalse => exact hm ns' d

/-- A key that is of no cell may lose its entry, and that of a cell if the rule allows it. -/
theorem permits_none (h : ∀ ns c, E ns c none) (key : Bytes) : Permits (Allowed E) key none := by
  intro m m' hm' hm ns c
  rw [hm']
  split
  case isTrue => exact h ns c
  case isFalse => exact hm ns c

/-- Cells that hold neither numbers of shasums nor values may become anything. -/
theorem Lenient.permits (hE : Lenient E) (hplain : c.isPlain = true) (entry : Option Bytes) :
    Permits (Allowed E) (c.key ns) entry := permits_of_rule (hE.others ns c hplain entry)

/-- The slots of attributes may become anything. -/
theorem Lenient.permitsSlots (hE : Lenient E) (ns : Namespace) (name : Name) :
    PermitsSlots (Allowed E) ns name where
  valueSlot _ := hE.permits rfl
  postings _ := hE.permits rfl
  nextSlot := hE.permits rfl

end Permits

/-! ## Operations -/

section Operations

variable {E : Rule} {ns : Namespace}

/-- A cell is set to what the rule allows. -/
theorem keeps_set {c : Cell} {value : Bytes} (h : E ns c (some value)) :
    Keeps (Respects E) (Store.set (c.key ns) value) := keeps_set_of_permits (permits_of_rule h)

/-- A namespace is emptied if the rule asks for no entry. -/
theorem keeps_clear (h : ∀ ns c, E ns c none) : Keeps (Respects E) (Tables.clear ns) :=
  keeps_clear_of_permits fun _ => permits_none h _

variable (hE : Lenient E)

include hE

/-- A number is entered with its shasum, and the next one is counted up. -/
theorem keeps_enter (shasum : String) (index : UInt32) :
    Keeps (Respects E) (do
      Store.set (Store.Key.stubShasum ns index) (Text.Utf8.encode shasum)
      Tables.writeNumber (Store.Key.nextStub ns) (index + 1)
      return index) :=
  keeps_enter_of_permits shasum index (hE.permits rfl) (hE.permits rfl)

/-- A shasum is given a number. -/
theorem keeps_ensureStub (shasum : String) : Keeps (Respects E) (Tables.ensureStub ns shasum) :=
  keeps_ensureStub_of_permits shasum (fun n => permits_of_rule (hE.number ns shasum n))
    (fun _ => hE.permits rfl) (hE.permits rfl)

/-- The number of a shasum is taken away if the rule allows it. -/
theorem keeps_forgetStub {shasum : String} (h : E ns (.stubIndex shasum) none) :
    Keeps (Respects E) (Tables.forgetStub ns shasum) :=
  keeps_forgetStub_of_permits (permits_of_rule h) fun _ => hE.permits rfl none

/-- A stub is posted under a token. -/
theorem keeps_addToken (token : String) (stub : UInt32) :
    Keeps (Respects E) (Tables.addToken ns token stub) :=
  keeps_addToken_of_permits stub fun _ _ => hE.permits rfl

/-- A stub is taken away from a token. -/
theorem keeps_removeToken (token : String) (stub : UInt32) :
    Keeps (Respects E) (Tables.removeToken ns token stub) :=
  keeps_removeToken_of_permits stub fun _ _ => hE.permits rfl

/-- A summary is stored. -/
theorem keeps_setSummary (shasum : String) (summary : Bytes) :
    Keeps (Respects E) (Tables.setSummary ns shasum summary) :=
  keeps_set (c := .summary shasum) (hE.others ns _ rfl _)

/-- A summary is taken away. -/
theorem keeps_removeSummary (shasum : String) :
    Keeps (Respects E) (Tables.removeSummary ns shasum) :=
  keeps_delete_of_permits (hE.permits (c := .summary shasum) rfl none)

/-- A stub is posted under a value if the rule allows this in each slot. -/
theorem keeps_addValue {name : String} {value : Value}
    (hvalue : ∀ (n : Name) slot, n.1 = name → E ns (.slotValue n slot) (some value.encode))
    (stub : UInt32) : Keeps (Respects E) (Tables.addValue ns name value stub) :=
  keeps_addValue_of_permits (fun n _ => hE.permitsSlots ns n)
    (fun n slot hn => permits_of_rule (hvalue n slot hn)) stub

/-- A stub is taken away from a value, which may lose its slot. -/
theorem keeps_removeValue (name : String) (value : Value) (stub : UInt32) :
    Keeps (Respects E) (Tables.removeValue ns name value stub) :=
  keeps_removeValue_of_permits (fun n _ => hE.permitsSlots ns n)
    (fun n slot _ => permits_of_rule (hE.valueGone ns n slot)) stub

end Operations

end SiteIndex.Posting
