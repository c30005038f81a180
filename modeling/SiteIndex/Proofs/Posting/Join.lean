import Mathlib.Data.List.Basic
import SiteIndex.Proofs.Outcome
import SiteIndex.Proofs.Posting.Cells

/-!
# The join of values and postings

The values of an attribute and its postings stand in two tables, both in the order of their slots,
and are joined by one walk over each. What the walk has passed over no later slot can need
(`takePostings_reads`), so that it gives what looking up the postings of every slot gives
(`join_reads`). All that is asked of a store is that the entries of the attribute are `Legible`:
slots may be on either side alone, and lists of stubs may be empty or in any order. Then the values
of the attribute are those that looking up each slot by itself finds, in ascending order of the
slots (`values_eq_lookUp`).
-/

namespace SiteIndex.Posting

open Store (Namespace OrderedMap)
open Store.Key (encodeNumber decodeTrailing)
open SiteIndex.Action (Takes)

/-! ## Lists in the order of their slots -/

section Slots

variable {β : Type} {slots : List (UInt32 × β)}

/-- Entries in ascending order of their slots. -/
abbrev BySlot (slots : List (UInt32 × β)) : Prop := slots.Pairwise (·.1 < ·.1)

/-- A slot has at most one entry. -/
theorem lookup_eq_some_iff (h : BySlot slots) {slot : UInt32} {b : β} :
    slots.lookup slot = some b ↔ (slot, b) ∈ slots := by
  induction slots with
  | nil => simp
  | cons p rest ih =>
      obtain ⟨k, c⟩ := p
      obtain ⟨hfirst, hrest⟩ := List.pairwise_cons.1 h
      by_cases hk : slot = k
      · subst hk
        have hnot : (slot, b) ∉ rest := fun hmem => UInt32.lt_irrefl slot (hfirst _ hmem)
        simp [hnot, eq_comm]
      · have hbeq : (slot == k) = false := by simp [hk]
        rw [List.lookup_cons, hbeq, List.mem_cons]
        simp [hk, ih hrest]

/-- A slot before all others has no entry among them. -/
theorem lookup_eq_none_of_lt {slot : UInt32} (h : ∀ p ∈ slots, slot < p.1) :
    slots.lookup slot = none := by
  rw [List.lookup_eq_none_iff]
  intro p hp
  simpa using UInt32.ne_of_lt (h p hp)

end Slots

/-! ## Entries as they are read -/

section Reading

variable {β γ : Type} {front : Bytes} {decode : Bytes → Outcome β}

/-- What stands after a front is found by stripping it. -/
theorem strip_append (front rest : Bytes) : Store.Key.strip (front ++ rest) front = .ok rest := by
  rw [Store.Key.strip, if_pos (List.isPrefixOf_iff_prefix.2 (List.prefix_append ..)),
    List.drop_left]

/-- The name at the end of a key is read. -/
theorem decodeName_append (front : Bytes) (name : String) :
    Store.Key.decodeName (front ++ Text.Utf8.encode name) front = .ok name := by
  rw [Store.Key.decodeName, strip_append]
  dsimp only [bind, Except.bind]
  rw [Text.Utf8.decode?_encode]
  rfl

/-- The slot of a key is read. -/
theorem decodeTrailing_append (front : Bytes) (slot : UInt32) :
    decodeTrailing (front ++ encodeNumber slot) front = .ok slot := by
  rw [decodeTrailing, strip_append]
  show (if (encodeNumber slot).length = 4
    then Except.ok (UInt32.ofNat (Bytes.bigEndianValue (encodeNumber slot)))
    else Except.error (.malformedKey (front ++ encodeNumber slot))) = .ok slot
  rw [encodeNumber, if_pos (Bytes.length_bigEndian 4 _), Bytes.bigEndianValue_of_lt slot.toNat_lt,
    UInt32.ofNat_toNat]

/-- The entries are read as slots with their contents. -/
abbrev Reads (front : Bytes) (decode : Bytes → Outcome β) :
    List (Bytes × Bytes) → List (UInt32 × β) → Prop :=
  List.Forall₂ fun e p => decodeTrailing e.1 front = .ok p.1 ∧ decode e.2 = .ok p.2

/-- Entries are read if each of them is. -/
theorem reads_map {found : List γ} {entry : γ → Bytes × Bytes} {slot : γ → UInt32 × β}
    (hkey : ∀ c, (entry c).1 = front ++ encodeNumber (slot c).1)
    (hdecode : ∀ c ∈ found, decode (entry c).2 = .ok (slot c).2) :
    Reads front decode (found.map entry) (found.map slot) := by
  refine List.forall₂_map_left_iff.2 (List.forall₂_map_right_iff.2 (List.forall₂_same.2 ?_))
  intro c hc
  rw [hkey]
  exact ⟨decodeTrailing_append front _, hdecode c hc⟩

end Reading

/-! ## The walk -/

/-- The postings of a slot are found, and those of later slots stay. -/
theorem takePostings_reads {front : Bytes} {entries : List (Bytes × Bytes)}
    {postings : List (UInt32 × PostingList)}
    (hreads : Reads front PostingList.decode entries postings) (h : BySlot postings)
    (slot : UInt32) :
    ∃ entries' rest, Reads front PostingList.decode entries' rest ∧ rest <:+ postings ∧
      (∀ p ∈ postings, slot < p.1 → p ∈ rest) ∧
      Tables.takePostings front slot entries
        = .ok ((postings.lookup slot).getD {}, entries') := by
  induction hreads with
  | nil => exact ⟨[], [], .nil, List.suffix_rfl, by simp, rfl⟩
  | @cons e p entries more hread hreads ih =>
      obtain ⟨k, list⟩ := p
      obtain ⟨hfirst, hmore⟩ := List.pairwise_cons.1 h
      -- Postings of an earlier slot are dropped; those of a later one stay for the next look-up.
      have hstep : Tables.takePostings front slot (e :: entries)
          = if k < slot then Tables.takePostings front slot entries
            else if k = slot then .ok (list, entries)
            else .ok ({}, e :: entries) := by
        show (decodeTrailing _ _ >>= _) = _
        rw [hread.1]
        show (if k < slot then _ else if k = slot then _ else _) = _
        rw [hread.2]
        rfl
      rw [hstep]
      by_cases hlow : k < slot
      · obtain ⟨entries', rest, hrest, hsuffix, hkeep, htake⟩ := ih hmore
        have hbeq : (slot == k) = false := by simpa using (UInt32.ne_of_lt hlow).symm
        refine ⟨entries', rest, hrest, hsuffix.trans (List.suffix_cons ..),
          fun p hp hslot => ?_, ?_⟩
        · rcases List.mem_cons.1 hp with rfl | hp
          · exact absurd hslot (UInt32.lt_asymm hlow)
          · exact hkeep p hp hslot
        · rw [if_pos hlow, htake, List.lookup_cons, hbeq]
      · by_cases heq : k = slot
        · subst heq
          refine ⟨entries, more, hreads, List.suffix_cons .., fun p hp hslot => ?_, ?_⟩
          · rcases List.mem_cons.1 hp with rfl | hp
            · exact absurd hslot (UInt32.lt_irrefl _)
            · exact hp
          · rw [if_neg hlow, if_pos rfl, List.lookup_cons, beq_self_eq_true]
            rfl
        · have hhigh : slot < k :=
            UInt32.lt_of_le_of_ne (UInt32.not_lt.1 hlow) fun h => heq h.symm
          have hnone : ((k, list) :: more).lookup slot = none :=
            lookup_eq_none_of_lt
              (List.forall_mem_cons.2 ⟨hhigh, fun p hp => UInt32.lt_trans hhigh (hfirst p hp)⟩)
          refine ⟨e :: entries, (k, list) :: more, .cons hread hreads, List.suffix_rfl,
            fun p hp _ => hp, ?_⟩
          rw [if_neg hlow, if_neg heq, hnone]
          rfl

/-- The entry of a slot with a value and postings that are not empty. -/
def paired (postings : List (UInt32 × PostingList)) (p : UInt32 × Value) : Option ValuePostings :=
  match postings.lookup p.1 with
  | some list => if list.stubs.isEmpty then none else some ⟨p.1, p.2, list⟩
  | none => none

/-- A slot has an entry if there are postings for its value. -/
theorem paired_eq_some_iff {postings : List (UInt32 × PostingList)} (h : BySlot postings)
    {p : UInt32 × Value} {e : ValuePostings} : paired postings p = some e ↔
      (e.slot, e.value) = p ∧ (e.slot, e.postings) ∈ postings ∧ e.postings.stubs ≠ [] := by
  obtain ⟨slot, value⟩ := p
  obtain ⟨slot', value', list'⟩ := e
  have hmem := @lookup_eq_some_iff _ _ h slot
  unfold paired
  cases hfound : postings.lookup slot with
  | none =>
      simp only [reduceCtorEq, false_iff, Prod.mk.injEq]
      rintro ⟨⟨rfl, -⟩, hlist, -⟩
      rw [← hmem, hfound] at hlist
      cases hlist
  | some list =>
      simp only [hfound, Option.some.injEq] at hmem
      by_cases hempty : list.stubs = []
      · simp only [hempty, List.isEmpty_nil, if_true, reduceCtorEq, false_iff, Prod.mk.injEq]
        rintro ⟨⟨rfl, -⟩, hlist, hne⟩
        rw [← hmem] at hlist
        exact hne (hlist ▸ hempty)
      · simp only [List.isEmpty_iff, hempty, if_false, Option.some.injEq, ValuePostings.mk.injEq,
          Prod.mk.injEq]
        constructor
        · rintro ⟨rfl, rfl, rfl⟩
          exact ⟨⟨rfl, rfl⟩, hmem.1 rfl, hempty⟩
        · rintro ⟨⟨rfl, rfl⟩, hlist, -⟩
          exact ⟨rfl, rfl, hmem.2 hlist⟩

/-- The join gives what looking up the postings of every slot gives. -/
theorem join_reads {valueFront postingFront : Bytes} {stored entries : List (Bytes × Bytes)}
    {values : List (UInt32 × Value)} {postings : List (UInt32 × PostingList)}
    (hstored : Reads valueFront Value.decode stored values)
    (hentries : Reads postingFront PostingList.decode entries postings)
    (hvalues : BySlot values) (hpostings : BySlot postings) :
    Tables.join valueFront postingFront stored entries
      = .ok (values.filterMap (paired postings)) := by
  induction hstored generalizing entries postings with
  | nil => rfl
  | @cons e p stored more hread _ ih =>
      obtain ⟨slot, value⟩ := p
      obtain ⟨hfirst, hmore⟩ := List.pairwise_cons.1 hvalues
      obtain ⟨entries', rest, hrest, hsuffix, hkeep, htake⟩ :=
        takePostings_reads hentries hpostings slot
      have hbySlot : BySlot rest := hpostings.sublist hsuffix.sublist
      -- The postings of the later slots are looked up in what the walk has left of them.
      have hlookup : ∀ q ∈ more, paired rest q = paired postings q := by
        intro q hq
        have hsame : rest.lookup q.1 = postings.lookup q.1 := by
          refine Option.ext fun list => ?_
          rw [lookup_eq_some_iff hbySlot, lookup_eq_some_iff hpostings]
          exact ⟨fun hmem => hsuffix.subset hmem, fun hmem => hkeep _ hmem (hfirst q hq)⟩
        rw [paired, hsame, paired]
      have ih := ih hrest hmore hbySlot
      rw [List.filterMap_congr hlookup] at ih
      show (decodeTrailing _ _ >>= _) = _
      rw [hread.1]
      show (Value.decode _ >>= _) = _
      rw [hread.2]
      show (Tables.takePostings _ slot _ >>= _) = _
      rw [htake]
      show (Tables.join _ _ stored _ >>= _) = _
      rw [ih, List.filterMap_cons, paired]
      show Except.ok _ = _
      cases postings.lookup slot with
      | none => rfl
      | some list => cases hempty : list.stubs.isEmpty <;> simp [hempty]

/-! ## Any content -/

section Content

variable {β : Type} {m : OrderedMap Bytes} {front : Bytes} {decode : Bytes → Outcome β}

/-- Every entry below the front has four bytes behind it, and a content that decodes. -/
def Legible (m : OrderedMap Bytes) (front : Bytes) (decode : Bytes → Outcome β) : Prop :=
  ∀ key bytes, m.get? key = some bytes → front <+: key →
    key.length = front.length + 4 ∧ ∃ b, decode bytes = .ok b

/-- Four bytes behind a front are those of a slot. -/
theorem exists_slot_of_length {key : Bytes} (hfront : front <+: key)
    (hlength : key.length = front.length + 4) : ∃ slot, key = front ++ encodeNumber slot := by
  obtain ⟨tail, rfl⟩ := hfront
  rw [List.length_append] at hlength
  have htail : tail.length = 4 := by omega
  exact ⟨_, congrArg (front ++ ·) (Bytes.bigEndian_bigEndianValue htail).symm⟩

/-- Keys with the same front stand in the order of their slots. -/
theorem before_slot_iff {a b : UInt32} :
    Bytes.Before (front ++ encodeNumber a) (front ++ encodeNumber b) ↔ a < b := by
  rw [Bytes.before_append_iff, UInt32.lt_iff_toNat_lt]
  exact Bytes.before_bigEndian_iff a.toNat_lt b.toNat_lt

/-- What stands under the key of a slot and what it decodes to. -/
def contents (m : OrderedMap Bytes) (front : Bytes) (decode : Bytes → Outcome β) (slot : UInt32) :
    Option (Bytes × β) :=
  (m.get? (front ++ encodeNumber slot)).bind fun bytes =>
    match decode bytes with
    | .ok b => some (bytes, b)
    | .error _ => none

/-- A slot has contents if its key has bytes that decode. -/
theorem contents_eq_some_iff {slot : UInt32} {bytes : Bytes} {b : β} :
    contents m front decode slot = some (bytes, b) ↔
      m.get? (front ++ encodeNumber slot) = some bytes ∧ decode bytes = .ok b := by
  rw [contents, Option.bind_eq_some_iff]
  constructor
  · rintro ⟨found, hget, h⟩
    cases hdecode : decode found with
    | error failure => simp [hdecode] at h
    | ok c =>
        obtain ⟨rfl, rfl⟩ : found = bytes ∧ c = b := by simpa [hdecode] using h
        exact ⟨hget, hdecode⟩
  · rintro ⟨hget, hdecode⟩
    exact ⟨bytes, hget, by rw [hdecode]⟩

/-- The slots are what a scan below the front finds, and what stands under their keys. -/
structure Tabulates (m : OrderedMap Bytes) (front : Bytes) (decode : Bytes → Outcome β)
    (slots : List (UInt32 × β)) : Prop where
  reads : Reads front decode (m.under front).entries slots
  bySlot : BySlot slots
  mem_iff : ∀ slot b, (slot, b) ∈ slots ↔
    ∃ bytes, m.get? (front ++ encodeNumber slot) = some bytes ∧ decode bytes = .ok b

/-- Legible entries are those of slots. -/
theorem Legible.exists_tabulates (h : Legible m front decode) :
    ∃ slots, Tabulates m front decode slots := by
  have hkeys : ∀ key bytes, front.isPrefixOf key = true ∧ m.get? key = some bytes ↔
      ∃ slot c, contents m front decode slot = some c ∧ key = front ++ encodeNumber slot ∧
        bytes = c.1 := by
    intro key bytes
    rw [List.isPrefixOf_iff_prefix]
    constructor
    · rintro ⟨hfront, hget⟩
      obtain ⟨hlength, b, hb⟩ := h key bytes hget hfront
      obtain ⟨slot, rfl⟩ := exists_slot_of_length hfront hlength
      exact ⟨slot, (bytes, b), contents_eq_some_iff.2 ⟨hget, hb⟩, rfl, rfl⟩
    · rintro ⟨slot, ⟨_, b⟩, hcontents, rfl, rfl⟩
      exact ⟨List.prefix_append .., (contents_eq_some_iff.1 hcontents).1⟩
  have hinjective : ∀ a b : UInt32, front ++ encodeNumber a = front ++ encodeNumber b → a = b :=
    fun a b hab => Bytes.bigEndian_four_injective (List.append_cancel_left hab)
  obtain ⟨found, hentries, hmem, hascending⟩ :=
    OrderedMap.exists_under (fun slot => front ++ encodeNumber slot) Prod.fst
      (contents m front decode) hinjective hkeys
  refine ⟨found.map fun p => (p.1, p.2.2), ?_, ?_, fun slot b => ?_⟩
  · rw [hentries]
    refine reads_map (fun _ => rfl) fun p hp => ?_
    exact (contents_eq_some_iff.1 ((hmem p.1 p.2).1 hp)).2
  · exact List.pairwise_map.2 (hascending.imp before_slot_iff.1)
  · simp only [List.mem_map, Prod.mk.injEq]
    constructor
    · rintro ⟨⟨_, bytes, _⟩, hp, rfl, rfl⟩
      exact ⟨bytes, contents_eq_some_iff.1 ((hmem _ _).1 hp)⟩
    · rintro ⟨bytes, hcontents⟩
      exact ⟨(slot, bytes, b), (hmem _ _).2 (contents_eq_some_iff.2 hcontents), rfl, rfl⟩

namespace Tabulates

variable {slots : List (UInt32 × β)} {slot : UInt32}

/-- A slot whose key has bytes is looked up among the slots. -/
theorem lookup_of_get (h : Tabulates m front decode slots) {bytes : Bytes} {b : β}
    (hget : m.get? (front ++ encodeNumber slot) = some bytes) (hdecode : decode bytes = .ok b) :
    slots.lookup slot = some b :=
  (lookup_eq_some_iff h.bySlot).2 ((h.mem_iff slot b).2 ⟨bytes, hget, hdecode⟩)

/-- A slot whose key has nothing is not among the slots. -/
theorem lookup_of_none (h : Tabulates m front decode slots)
    (hget : m.get? (front ++ encodeNumber slot) = none) : slots.lookup slot = none := by
  refine Option.eq_none_iff_forall_ne_some.2 fun b hb => ?_
  obtain ⟨bytes, hbytes, -⟩ := (h.mem_iff slot b).1 ((lookup_eq_some_iff h.bySlot).1 hb)
  rw [hget] at hbytes
  cases hbytes

end Tabulates

/-- Entries are legible if each of them is found to be. -/
theorem legible_of_all (h : m.entries.all fun e => !front.isPrefixOf e.1 ||
    (e.1.length == front.length + 4 && (decode e.2).isOk)) : Legible m front decode := by
  intro key bytes hget hfront
  have hentry := List.all_eq_true.1 h (key, bytes) (OrderedMap.get?_eq_some_iff.1 hget)
  rw [List.isPrefixOf_iff_prefix.2 hfront, Bool.not_true, Bool.false_or, Bool.and_eq_true,
    beq_iff_eq] at hentry
  cases hdecode : decode bytes with
  | ok b => exact ⟨hentry.1, b, rfl⟩
  | error failure =>
      rw [hdecode] at hentry
      cases hentry.2

end Content

/-! ## Looking up each slot -/

/-- The entry of a slot, looked up by its own keys: its value and its postings, if it has both. -/
def lookUpSlot (ns : Namespace) (name : String) (slot : UInt32) :
    Action Store (Option ValuePostings) := do
  let stored ← Store.get? (← Store.Key.slotValue ns name slot)
  let postings ← Tables.readPostings (← Store.Key.slotPostings ns name slot)
  match stored with
  | none => return none
  | some bytes =>
    let value ← Value.decode bytes
    return if postings.stubs.isEmpty then none else some ⟨slot, value, postings⟩

/-- Of entries in the order of their slots the one of a slot is found. -/
theorem find?_slot_eq_some_iff {entries : List ValuePostings}
    (h : entries.Pairwise (·.slot < ·.slot)) {slot : UInt32} {e : ValuePostings} :
    entries.find? (·.slot = slot) = some e ↔ e ∈ entries ∧ e.slot = slot := by
  induction entries with
  | nil => simp
  | cons first rest ih =>
      obtain ⟨hfirst, hrest⟩ := List.pairwise_cons.1 h
      rw [List.find?_cons, List.mem_cons]
      by_cases hslot : first.slot = slot
      · have hnot : ∀ x ∈ rest, x.slot ≠ slot :=
          fun x hx heq => UInt32.ne_of_lt (hfirst x hx) (hslot.trans heq.symm)
        simp only [hslot, decide_true, Option.some.injEq]
        constructor
        · rintro rfl
          exact ⟨.inl rfl, hslot⟩
        · rintro ⟨rfl | he, heq⟩
          · rfl
          · exact absurd heq (hnot e he)
      · have hne : e = first → e.slot ≠ slot := fun heq => heq ▸ hslot
        simp only [hslot, decide_false, ih hrest]
        tauto

section LookUp

variable {ns : Namespace} {s : Store} {name : String} {valueFront postingFront : Bytes}
  {values : List (UInt32 × Value)} {postings : List (UInt32 × PostingList)}

/-- A look-up leaves the store as it is. -/
theorem takes_get?_eq (key : Bytes) : Takes Eq (Store.get? key) s (.ok (s.content.get? key)) s := by
  rintro _ rfl
  rw [Store.run_get?]
  exact ⟨rfl, rfl⟩

/-- A scan leaves the store as it is. -/
theorem takes_scan_eq (front : Bytes) :
    Takes Eq (Store.scan front) s (.ok (s.content.under front).entries) s := by
  rintro _ rfl
  exact ⟨congrArg Except.ok (Store.entriesFrom_eq _ front), rfl⟩

/-- The postings of a slot are read; a slot without any has an empty list. -/
theorem takes_readSlot (hlegible : Legible s.content postingFront PostingList.decode)
    (hpostings : Tabulates s.content postingFront PostingList.decode postings) (slot : UInt32) :
    Takes Eq (Tables.readPostings (postingFront ++ encodeNumber slot)) s
      (.ok ((postings.lookup slot).getD {})) s := by
  refine Takes.bind (takes_get?_eq _) ?_
  cases hget : s.content.get? (postingFront ++ encodeNumber slot) with
  | none =>
      rw [hpostings.lookup_of_none hget]
      exact Takes.pure _
  | some blob =>
      obtain ⟨-, list, hlist⟩ := hlegible _ _ hget (List.prefix_append ..)
      rw [hpostings.lookup_of_get hget hlist]
      exact hlist ▸ Takes.lift (PostingList.decode blob)

/-- Looking up a slot pairs what stands under its two keys. -/
theorem takes_lookUpSlot
    (hvalueFront : Store.Key.attributePrefix ns .slotValue name = .ok valueFront)
    (hpostingFront : Store.Key.attributePrefix ns .slotPostings name = .ok postingFront)
    (hlegibleValues : Legible s.content valueFront Value.decode)
    (hlegiblePostings : Legible s.content postingFront PostingList.decode)
    (hvalues : Tabulates s.content valueFront Value.decode values)
    (hpostings : Tabulates s.content postingFront PostingList.decode postings) (slot : UInt32) :
    Takes Eq (lookUpSlot ns name slot) s
      (.ok ((values.lookup slot).bind fun v => paired postings (slot, v))) s := by
  have hvalueKey : Store.Key.slotValue ns name slot = .ok (valueFront ++ encodeNumber slot) := by
    rw [Store.Key.slotValue, hvalueFront]
    rfl
  have hpostingKey :
      Store.Key.slotPostings ns name slot = .ok (postingFront ++ encodeNumber slot) := by
    rw [Store.Key.slotPostings, hpostingFront]
    rfl
  refine Takes.lift_bind hvalueKey (Takes.bind (takes_get?_eq _) ?_)
  refine Takes.lift_bind hpostingKey
    (Takes.bind (takes_readSlot hlegiblePostings hpostings slot) ?_)
  cases hget : s.content.get? (valueFront ++ encodeNumber slot) with
  | none =>
      rw [hvalues.lookup_of_none hget]
      exact Takes.pure none
  | some bytes =>
      obtain ⟨-, value, hvalue⟩ := hlegibleValues _ _ hget (List.prefix_append ..)
      rw [hvalues.lookup_of_get hget hvalue, Option.bind_some, paired]
      refine Takes.lift_bind hvalue ?_
      cases postings.lookup slot with
      | none => exact Takes.pure none
      | some list => exact Takes.pure _

/-- The values of an attribute are the join of what is found in its two tables. -/
theorem takes_values_join
    (hvalueFront : Store.Key.attributePrefix ns .slotValue name = .ok valueFront)
    (hpostingFront : Store.Key.attributePrefix ns .slotPostings name = .ok postingFront)
    (hvalues : Tabulates s.content valueFront Value.decode values)
    (hpostings : Tabulates s.content postingFront PostingList.decode postings) :
    Takes Eq (Tables.values ns name) s (.ok (values.filterMap (paired postings))) s := by
  refine Takes.lift_bind hvalueFront (Takes.lift_bind hpostingFront ?_)
  refine Takes.bind (takes_scan_eq _) (Takes.bind (takes_scan_eq _) ?_)
  rw [← join_reads hvalues.reads hpostings.reads hvalues.bySlot hpostings.bySlot]
  exact Takes.lift _

/-- Of the join the entry of a slot is what its value is paired with. -/
theorem find?_paired (hvalues : BySlot values) (hpostings : BySlot postings)
    (hslots : (values.filterMap (paired postings)).Pairwise (·.slot < ·.slot)) (slot : UInt32) :
    (values.filterMap (paired postings)).find? (·.slot = slot)
      = (values.lookup slot).bind fun v => paired postings (slot, v) := by
  refine Option.ext fun e => ?_
  rw [find?_slot_eq_some_iff hslots, List.mem_filterMap, Option.bind_eq_some_iff]
  constructor
  · rintro ⟨⟨p, hp, he⟩, rfl⟩
    obtain ⟨rfl, -, -⟩ := (paired_eq_some_iff hpostings).1 he
    exact ⟨e.value, (lookup_eq_some_iff hvalues).2 hp, he⟩
  · rintro ⟨v, hv, he⟩
    obtain ⟨hpair, -, -⟩ := (paired_eq_some_iff hpostings).1 he
    exact ⟨⟨(slot, v), (lookup_eq_some_iff hvalues).1 hv, he⟩, congrArg Prod.fst hpair⟩

/-- Whatever else a store holds, if the stored values and the postings of an attribute can be read,
the values of the attribute are listed in ascending order of their slots, no slot twice, and they
are the slots that have a value and postings that are not empty: what looking up each slot by itself
gives. -/
theorem values_eq_lookUp
    (hvalueFront : Store.Key.attributePrefix ns .slotValue name = .ok valueFront)
    (hpostingFront : Store.Key.attributePrefix ns .slotPostings name = .ok postingFront)
    (hlegibleValues : Legible s.content valueFront Value.decode)
    (hlegiblePostings : Legible s.content postingFront PostingList.decode) :
    ∃ entries, (Tables.values ns name).run s = (.ok entries, s) ∧
      entries.Pairwise (·.slot < ·.slot) ∧
      (∀ e, e ∈ entries ↔
        (∃ bytes, s.content.get? (valueFront ++ encodeNumber e.slot) = some bytes ∧
          Value.decode bytes = .ok e.value) ∧
        (∃ blob, s.content.get? (postingFront ++ encodeNumber e.slot) = some blob ∧
          PostingList.decode blob = .ok e.postings) ∧ e.postings.stubs ≠ []) ∧
      ∀ slot, (lookUpSlot ns name slot).run s = (.ok (entries.find? (·.slot = slot)), s) := by
  obtain ⟨values, hvalues⟩ := hlegibleValues.exists_tabulates
  obtain ⟨postings, hpostings⟩ := hlegiblePostings.exists_tabulates
  have hrun : ∀ {α : Type} {x : Action Store α} {out : Outcome α},
      Takes Eq x s out s → x.run s = (out, s) :=
    fun h => Prod.ext (h s rfl).1 (h s rfl).2
  have hslots : (values.filterMap (paired postings)).Pairwise (·.slot < ·.slot) := by
    refine List.Pairwise.filterMap _ (fun p q hpq a ha b hb => ?_) hvalues.bySlot
    obtain ⟨rfl, -, -⟩ := (paired_eq_some_iff hpostings.bySlot).1 ha
    obtain ⟨rfl, -, -⟩ := (paired_eq_some_iff hpostings.bySlot).1 hb
    exact hpq
  refine ⟨_, hrun (takes_values_join hvalueFront hpostingFront hvalues hpostings), hslots,
    fun e => ?_, fun slot => ?_⟩
  · rw [← hvalues.mem_iff, ← hpostings.mem_iff, List.mem_filterMap]
    constructor
    · rintro ⟨p, hp, he⟩
      obtain ⟨rfl, hlist, hne⟩ := (paired_eq_some_iff hpostings.bySlot).1 he
      exact ⟨hp, hlist, hne⟩
    · rintro ⟨hvalue, hlist, hne⟩
      exact ⟨_, hvalue, (paired_eq_some_iff hpostings.bySlot).2 ⟨rfl, hlist, hne⟩⟩
  · rw [find?_paired hvalues.bySlot hpostings.bySlot hslots]
    exact hrun (takes_lookUpSlot hvalueFront hpostingFront hlegibleValues hlegiblePostings hvalues
      hpostings slot)

end LookUp

/-- A buffered store with the slots of an attribute. Slots 0, 3 and 7 have postings alone, slot 2 a
value alone, and slot 4 a value and no stubs. The value of slot 5 still waits in the buffer. -/
def gapped : Store :=
  let posted (slot : UInt32) : Bytes := [0x63, 0x21, 0x61, 0] ++ encodeNumber slot
  let stored (slot : UInt32) : Bytes := [0x63, 0x22, 0x61, 0] ++ encodeNumber slot
  let blobs : List (Bytes × Bytes) :=
    [(posted 0, [9]), (posted 1, [3, 0]), (posted 3, [2]), (posted 4, []), (posted 5, [1, 1]),
      (posted 7, [8])]
  let values : List (Bytes × Bytes) := [1, 2, 4].map fun slot => (stored slot, (Value.int 6).encode)
  let driver : Store.Driver :=
    { Store.Driver.ofBackend .redb false with
      entries := (blobs ++ values).foldl (fun m e => m.insert e.1 e.2) ∅ }
  .buffered
    { Store.Buffered.make driver 8 0 with
      pending := OrderedMap.insert (stored 5) (some (Value.bool true).encode) ∅ }

/-- The walk comes past slots that are on one side alone, and gives slots 1 and 5. -/
theorem values_gapped :
    ((Tables.values .context "a").run gapped).1.toOption
        = some [⟨1, .int 6, ⟨[3, 3]⟩⟩, ⟨5, .bool true, ⟨[1, 2]⟩⟩] ∧
      ∃ entries, (Tables.values .context "a").run gapped = (.ok entries, gapped) ∧
        ∀ slot, (lookUpSlot .context "a" slot).run gapped
          = (.ok (entries.find? (·.slot = slot)), gapped) := by
  have hvalues : Legible gapped.content [0x63, 0x22, 0x61, 0] Value.decode :=
    legible_of_all (by decide +kernel)
  have hpostings : Legible gapped.content [0x63, 0x21, 0x61, 0] PostingList.decode :=
    legible_of_all (by decide +kernel)
  have hfront : Store.Key.attributePrefix .context .slotValue "a" = .ok [0x63, 0x22, 0x61, 0] := rfl
  obtain ⟨entries, hrun, -, -, hlookUp⟩ := values_eq_lookUp hfront rfl hvalues hpostings
  exact ⟨by decide +kernel, entries, hrun, hlookUp⟩

end SiteIndex.Posting
