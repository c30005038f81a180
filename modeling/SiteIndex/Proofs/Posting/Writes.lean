import SiteIndex.Proofs.Posting.Cells

/-!
# What the operations of the tables write

Every operation reads some keys and writes some cells, one at a time. What holds of the content of a
store and is kept when one of those cells gets a new entry is kept by the operation, also if it
breaks off half way, and whatever the driver makes of it: a write that is refused leaves the content
as it was or is in it all the same. Nothing is asked of the store, and of the property only that
single entries keep it (`Permits`).
-/

namespace SiteIndex.Posting

open SiteIndex.Action (Keeps)
open Store (BatchOp Namespace OrderedMap Table)
open Store.Key (encodeNumber isName)

/-! ## Changes of the content -/

section Changes

variable {P : OrderedMap Bytes → Prop}

/-- A change is made to the content of the store, or the store refuses it. -/
theorem content_apply_cases (op : BatchOp) (s : Store) :
    ((Store.apply op).run s).2.content = op.apply s.content ∨
      ((Store.apply op).run s).2.content = s.content := by
  cases s with
  | plain d =>
      show (d.apply op).2.entries = _ ∨ (d.apply op).2.entries = _
      unfold Store.Driver.apply
      split
      case isTrue => exact .inr rfl
      case isFalse => exact .inl rfl
  | buffered b => exact .inl (b.content_apply op)

/-- What a change keeps of any content is kept of that of the store. -/
theorem keeps_apply {op : BatchOp} (hop : ∀ m, P m → P (op.apply m)) :
    Keeps (fun s : Store => P s.content) (Store.apply op) := by
  intro s hs
  rcases content_apply_cases op s with h | h
  · rw [h]
    exact hop _ hs
  · rwa [h]

/-- What changes keep of any content is kept by a batch of them, as far as the store takes it. -/
theorem keeps_writeBatch {ops : List BatchOp} (hops : ∀ op ∈ ops, ∀ m, P m → P (op.apply m)) :
    Keeps (fun s : Store => P s.content) (Store.writeBatch ops) := by
  intro s hs
  cases s with
  | plain d =>
      show P (d.writeBatch ops).2.entries
      obtain ⟨-, failure, hwrite⟩ | ⟨-, hwrite⟩ := d.writeBatch_cases ops
      · rwa [hwrite]
      · rw [hwrite]
        have hmore : ∀ (rest : List BatchOp) (m : OrderedMap Bytes), (∀ op ∈ rest, op ∈ ops) →
            P m → P (rest.foldl BatchOp.apply m) := by
          intro rest
          induction rest with
          | nil => exact fun _ _ hm => hm
          | cons op rest ih =>
              intro m hrest hm
              obtain ⟨hop, hrest⟩ := List.forall_mem_cons.1 hrest
              exact ih _ hrest (hops op hop m hm)
        exact hmore ops d.entries (fun _ hop => hop) hs
  | buffered b =>
      show P (b.writeBatch ops).2.content
      replace hs : P b.content := hs
      induction ops generalizing b with
      | nil => exact hs
      | cons op rest ih =>
          obtain ⟨hop, hrest⟩ := List.forall_mem_cons.1 hops
          have hafter : P (b.apply op).2.content := b.content_apply op ▸ hop _ hs
          unfold Store.Buffered.writeBatch
          generalize b.apply op = result at hafter ⊢
          obtain ⟨out, b'⟩ := result
          cases out with
          | ok => exact ih hrest b' hafter
          | error failure => exact hafter

end Changes

/-! ## Keys that can be made -/

section Keys

variable {ns : Namespace} {key : Bytes}

/-- A token that has a key is a name. -/
theorem exists_name_of_token {token : String} (h : Store.Key.token ns token = .ok key) :
    ∃ name : Name, name.1 = token ∧ key = (Cell.postings (.token name)).key ns := by
  by_cases hname : isName token = true
  · rw [token_eq ns ⟨token, hname⟩] at h
    exact ⟨⟨token, hname⟩, rfl, (Except.ok.inj h).symm⟩
  · rw [Store.Key.token, checkName_error hname] at h
    cases h

/-- An attribute whose values have keys is a name. -/
theorem exists_name_of_valueSlot {name : String} {hash : Bytes}
    (h : Store.Key.valueSlot ns name hash = .ok key) :
    ∃ n : Name, n.1 = name ∧ key = (Cell.valueSlot n hash).key ns := by
  by_cases hname : isName name = true
  · rw [valueSlot_eq ns ⟨name, hname⟩] at h
    exact ⟨⟨name, hname⟩, rfl, (Except.ok.inj h).symm⟩
  · rw [Store.Key.valueSlot, Store.Key.attributePrefix, checkName_error hname] at h
    cases h

/-- An attribute whose slots have keys is a name. -/
theorem exists_name_of_slotPostings {name : String} {slot : UInt32}
    (h : Store.Key.slotPostings ns name slot = .ok key) :
    ∃ n : Name, n.1 = name ∧ key = (Cell.postings (.slot n slot)).key ns := by
  by_cases hname : isName name = true
  · rw [slotPostings_eq ns ⟨name, hname⟩] at h
    exact ⟨⟨name, hname⟩, rfl, (Except.ok.inj h).symm⟩
  · rw [Store.Key.slotPostings, Store.Key.attributePrefix, checkName_error hname] at h
    cases h

end Keys

/-! ## Reading -/

section Reading

variable {P : Store → Prop} {ns : Namespace}

/-- A look-up leaves the store alone. -/
theorem keeps_get? (key : Bytes) : Keeps P (Store.get? key) := by
  intro s hs
  rwa [Store.run_get?]

/-- A stored number is read without a change. -/
theorem keeps_readNumber? (key : Bytes) : Keeps P (Tables.readNumber? key) := by
  refine Keeps.bind (keeps_get? key) fun entry => ?_
  cases entry with
  | none => exact Keeps.pure none
  | some bytes => exact Keeps.lift_bind fun n _ => Keeps.pure (some n)

/-- A stored counter is read without a change. -/
theorem keeps_readCounter (key : Bytes) : Keeps P (Tables.readCounter key) :=
  Keeps.bind (keeps_readNumber? key) fun n => Keeps.pure (n.getD 0)

/-- The number of a shasum is read without a change. -/
theorem keeps_stubIndex? (shasum : String) : Keeps P (Tables.stubIndex? ns shasum) :=
  keeps_readNumber? _

/-- Postings are read without a change. -/
theorem keeps_readPostings (key : Bytes) : Keeps P (Tables.readPostings key) := by
  refine Keeps.bind (keeps_get? key) fun entry => ?_
  cases entry with
  | none => exact Keeps.pure _
  | some blob => exact Keeps.ofOutcome _

/-- Entries are scanned and read without a change. -/
theorem keeps_entries {α : Type} (front : Bytes) (read : Bytes × Bytes → Outcome α) :
    Keeps P (do (← Store.scan front).mapM fun e => Action.ofOutcome (read e)) :=
  Keeps.bind (Keeps.inspect _) fun _ => Keeps.mapM fun e => Keeps.ofOutcome (read e)

/-- The tokens of a stub are read without a change. -/
theorem keeps_tokensOf (stub : UInt32) : Keeps P (Tables.tokensOf ns stub) :=
  Keeps.bind (Keeps.inspect _) fun _ =>
    Keeps.bind (Keeps.mapM fun e => Keeps.ofOutcome (Tables.tokenOf? _ stub e)) fun found =>
      Keeps.pure (found.filterMap id)

/-- The attributes are read without a change. -/
theorem keeps_attributes : Keeps P (Tables.attributes ns) := keeps_entries _ _

/-- The values of an attribute are read without a change. -/
theorem keeps_values (name : String) : Keeps P (Tables.values ns name) :=
  Keeps.lift_bind fun _ _ => Keeps.lift_bind fun _ _ => Keeps.bind (Keeps.inspect _) fun _ =>
    Keeps.bind (Keeps.inspect _) fun _ => Keeps.ofOutcome _

end Reading

/-! ## Single entries -/

/-- The property is kept when the entry under the key becomes the given one. -/
def Permits (P : OrderedMap Bytes → Prop) (key : Bytes) (entry : Option Bytes) : Prop :=
  ∀ m m' : OrderedMap Bytes,
    (∀ other, m'.get? other = if other = key then entry else m.get? other) → P m → P m'

/-- The property is kept whatever the slots of an attribute and its counter become; of the values
nothing is said. -/
structure PermitsSlots (P : OrderedMap Bytes → Prop) (ns : Namespace) (name : Name) : Prop where
  valueSlot : ∀ hash entry, Permits P ((Cell.valueSlot name hash).key ns) entry
  postings : ∀ slot entry, Permits P ((Cell.postings (.slot name slot)).key ns) entry
  nextSlot : ∀ entry, Permits P ((Cell.nextSlot name).key ns) entry

section Writing

variable {P : OrderedMap Bytes → Prop} {ns : Namespace} {key : Bytes}

/-- A value is put under a key that may have it. -/
theorem keeps_set_of_permits {value : Bytes} (h : Permits P key (some value)) :
    Keeps (fun s => P s.content) (Store.set key value) :=
  keeps_apply fun m => h m _ (Store.get?_apply (m := m) (.set key value))

/-- A key that may have no entry is deleted. -/
theorem keeps_delete_of_permits (h : Permits P key none) :
    Keeps (fun s => P s.content) (Store.delete key) :=
  keeps_apply fun m => h m _ (Store.get?_apply (m := m) (.delete key))

/-- A namespace is emptied if its keys may have no entries. -/
theorem keeps_clear_of_permits (h : ∀ rest, Permits P (ns.byte :: rest) none) :
    Keeps (fun s => P s.content) (Tables.clear ns) := by
  have hclear : ∀ s : Store, Keeps (fun s => P s.content) (Store.writeBatch
      ((s.entriesFrom (Store.Key.namespacePrefix ns)).map fun e => .delete e.1)) := by
    refine fun s => keeps_writeBatch fun op hop m => ?_
    obtain ⟨e, he, rfl⟩ := List.mem_map.1 hop
    rw [Store.entriesFrom_eq] at he
    obtain ⟨rest, hrest⟩ := List.isPrefixOf_iff_prefix.1 (List.mem_filter.1 he).2
    exact (hrest ▸ h rest : Permits P e.1 none) m _ (Store.get?_apply (m := m) (.delete e.1))
  exact fun s hs => Keeps.bind (hclear s) (fun _ => Keeps.pure _) s hs

/-- A number is entered with its shasum, and the next one is counted up. -/
theorem keeps_enter_of_permits (shasum : String) (index : UInt32)
    (hshasum : ∀ entry, Permits P ((Cell.stubShasum index).key ns) entry)
    (hnext : ∀ entry, Permits P (Cell.nextStub.key ns) entry) :
    Keeps (fun s => P s.content) (do
      Store.set (Store.Key.stubShasum ns index) (Text.Utf8.encode shasum)
      Tables.writeNumber (Store.Key.nextStub ns) (index + 1)
      return index) := by
  refine Keeps.bind (keeps_set_of_permits (hshasum _)) fun _ => ?_
  refine Keeps.bind ?_ fun _ => Keeps.pure index
  rw [Tables.writeNumber, show Store.Key.nextStub ns = Cell.key ns .nextStub from
    (List.append_nil _).symm]
  exact keeps_set_of_permits (hnext _)

/-- A shasum is given a number. -/
theorem keeps_ensureStub_of_permits (shasum : String)
    (hindex : ∀ index, Permits P ((Cell.stubIndex shasum).key ns) (some (encodeNumber index)))
    (hshasum : ∀ index entry, Permits P ((Cell.stubShasum index).key ns) entry)
    (hnext : ∀ entry, Permits P (Cell.nextStub.key ns) entry) :
    Keeps (fun s => P s.content) (Tables.ensureStub ns shasum) := by
  refine Keeps.bind (keeps_stubIndex? shasum) fun found => ?_
  cases found with
  | some index => exact Keeps.pure index
  | none =>
      exact Keeps.bind (keeps_readCounter _) fun index =>
        Keeps.bind (keeps_set_of_permits (hindex index)) fun _ =>
          keeps_enter_of_permits shasum index (hshasum index) hnext

/-- The number of a shasum is taken away. -/
theorem keeps_forgetStub_of_permits {shasum : String}
    (hindex : Permits P ((Cell.stubIndex shasum).key ns) none)
    (hshasum : ∀ index, Permits P ((Cell.stubShasum index).key ns) none) :
    Keeps (fun s => P s.content) (Tables.forgetStub ns shasum) := by
  refine Keeps.bind (keeps_stubIndex? shasum) fun found => ?_
  cases found with
  | none => exact Keeps.pure none
  | some index =>
      exact Keeps.bind (keeps_delete_of_permits hindex) fun _ =>
        Keeps.bind (keeps_delete_of_permits (hshasum index)) fun _ => Keeps.pure (some index)

/-- Postings are stored. -/
theorem keeps_writePostings_of_permits (hkey : ∀ entry, Permits P key entry)
    (postings : PostingList) :
    Keeps (fun s => P s.content) (Tables.writePostings key postings) := by
  unfold Tables.writePostings
  split
  · exact keeps_delete_of_permits (hkey none)
  · exact Keeps.lift_bind fun blob _ => keeps_set_of_permits (hkey (some blob))

/-- Postings are stored if they have changed. -/
theorem keeps_writeIf_of_permits (hkey : ∀ entry, Permits P key entry) (changed : Bool)
    (postings : PostingList) :
    Keeps (fun s => P s.content) (do
      if changed then Tables.writePostings key postings
      return changed) := by
  cases changed with
  | true =>
      exact Keeps.bind (keeps_writePostings_of_permits hkey postings) fun _ => Keeps.pure true
  | false => exact Keeps.pure false

/-- A stub is posted under a token. -/
theorem keeps_addToken_of_permits {token : String} (stub : UInt32)
    (h : ∀ n : Name, n.1 = token → ∀ entry, Permits P ((Cell.postings (.token n)).key ns) entry) :
    Keeps (fun s => P s.content) (Tables.addToken ns token stub) := by
  refine Keeps.lift_bind fun key hkey => Keeps.bind (keeps_readPostings key) fun postings => ?_
  obtain ⟨n, hn, rfl⟩ := exists_name_of_token hkey
  exact keeps_writeIf_of_permits (h n hn) _ _

/-- A stub is taken away from a token. -/
theorem keeps_removeToken_of_permits {token : String} (stub : UInt32)
    (h : ∀ n : Name, n.1 = token → ∀ entry, Permits P ((Cell.postings (.token n)).key ns) entry) :
    Keeps (fun s => P s.content) (Tables.removeToken ns token stub) := by
  refine Keeps.lift_bind fun key hkey => Keeps.bind (keeps_readPostings key) fun postings => ?_
  obtain ⟨n, hn, rfl⟩ := exists_name_of_token hkey
  exact keeps_writeIf_of_permits (h n hn) _ _

variable {name : String} {value : Value}

/-- A value is given a slot. -/
theorem keeps_ensureSlot_of_permits (h : ∀ n : Name, n.1 = name → PermitsSlots P ns n)
    (hvalue : ∀ (n : Name) slot, n.1 = name →
      Permits P ((Cell.slotValue n slot).key ns) (some value.encode)) :
    Keeps (fun s => P s.content) (Tables.ensureSlot ns name value) := by
  refine Keeps.lift_bind fun slotKey hslotKey => Keeps.bind (keeps_readNumber? slotKey) fun found =>
    ?_
  obtain ⟨n, rfl, rfl⟩ := exists_name_of_valueSlot hslotKey
  have hslots := h n rfl
  cases found with
  | some slot => exact Keeps.pure slot
  | none =>
      dsimp only
      rw [nextSlot_eq]
      refine Keeps.lift_bind fun counter hcounter => Keeps.bind (keeps_readCounter _) fun slot => ?_
      obtain rfl := Except.ok.inj hcounter
      refine Keeps.bind (keeps_set_of_permits (hslots.valueSlot _ _)) fun _ => ?_
      rw [slotValue_eq]
      refine Keeps.lift_bind fun valueKey hvalueKey => ?_
      obtain rfl := Except.ok.inj hvalueKey
      refine Keeps.bind (keeps_set_of_permits (hvalue n slot rfl)) fun _ => ?_
      exact Keeps.bind (keeps_set_of_permits (hslots.nextSlot _)) fun _ => Keeps.pure slot

/-- A stub is posted under a value. -/
theorem keeps_addValue_of_permits (h : ∀ n : Name, n.1 = name → PermitsSlots P ns n)
    (hvalue : ∀ (n : Name) slot, n.1 = name →
      Permits P ((Cell.slotValue n slot).key ns) (some value.encode)) (stub : UInt32) :
    Keeps (fun s => P s.content) (Tables.addValue ns name value stub) := by
  refine Keeps.bind (keeps_ensureSlot_of_permits h hvalue) fun slot =>
    Keeps.lift_bind fun key hkey => Keeps.bind (keeps_readPostings key) fun postings => ?_
  obtain ⟨n, hn, rfl⟩ := exists_name_of_slotPostings hkey
  exact keeps_writeIf_of_permits ((h n hn).postings slot) _ _

/-- A stub is taken away from a value, which may lose its slot. -/
theorem keeps_removeValue_of_permits (h : ∀ n : Name, n.1 = name → PermitsSlots P ns n)
    (hgone : ∀ (n : Name) slot, n.1 = name → Permits P ((Cell.slotValue n slot).key ns) none)
    (stub : UInt32) : Keeps (fun s => P s.content) (Tables.removeValue ns name value stub) := by
  refine Keeps.lift_bind fun slotKey hslotKey => Keeps.bind (keeps_readNumber? slotKey) fun found =>
    ?_
  obtain ⟨n, rfl, rfl⟩ := exists_name_of_valueSlot hslotKey
  have hslots := h n rfl
  cases found with
  | none => exact Keeps.pure false
  | some slot =>
      dsimp only
      rw [slotPostings_eq]
      refine Keeps.lift_bind fun key hkey => Keeps.bind (keeps_readPostings key) fun postings => ?_
      obtain rfl := Except.ok.inj hkey
      generalize postings.remove stub = result
      obtain ⟨removed, rest⟩ := result
      cases removed with
      | false => exact Keeps.pure false
      | true =>
          dsimp only
          rw [if_pos rfl, slotValue_eq]
          split
          · refine Keeps.bind (keeps_delete_of_permits (hslots.postings slot none)) fun _ => ?_
            refine Keeps.lift_bind fun valueKey hvalueKey => ?_
            obtain rfl := Except.ok.inj hvalueKey
            refine Keeps.bind (keeps_delete_of_permits (hgone n slot rfl)) fun _ => ?_
            exact Keeps.bind (keeps_delete_of_permits (hslots.valueSlot _ none)) fun _ =>
              Keeps.pure true
          · exact Keeps.bind (keeps_writePostings_of_permits (hslots.postings slot) _) fun _ =>
              Keeps.pure true

end Writing

end SiteIndex.Posting
