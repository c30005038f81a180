import SiteIndex.Posting.Tables
import SiteIndex.Proofs.Lockstep
import SiteIndex.Proofs.Store.Durability

/-!
# Keys that the indexes own

The indexes own the keys that start with the byte of a namespace; a store may hold other entries
beside theirs. Stores that agree on owned keys are not told apart by looking these up, and writes to
owned keys keep them in agreement, while each keeps its other entries as they were (`Abreast`). This
holds whatever their drivers and buffers are, as long as no write is refused.
-/

namespace SiteIndex.Store

open Posting (Tables.clear)
open SiteIndex.Action (Takes)

variable {m n : OrderedMap Bytes} {key front : Bytes}

/-! ## Owned keys -/

/-- The key starts with the byte of the namespace. -/
def Namespace.Owns (ns : Namespace) (key : Bytes) : Prop := ∃ rest, key = ns.byte :: rest

/-- The key starts with the byte of a namespace. -/
def Owned (key : Bytes) : Prop := ∃ ns rest, key = Namespace.byte ns :: rest

/-- The keys below a prefix in a namespace are in the namespace. -/
theorem Namespace.Owns.of_isPrefixOf {ns : Namespace} (h : ns.Owns front)
    (hbelow : front.isPrefixOf key = true) : ns.Owns key := by
  obtain ⟨rest, rfl⟩ := h
  obtain ⟨back, rfl⟩ := List.isPrefixOf_iff_prefix.1 hbelow
  exact ⟨rest ++ back, rfl⟩

/-- Owned keys are those below the prefix of a namespace. -/
theorem owned_iff : Owned key ↔ ∃ ns, (Key.namespacePrefix ns).isPrefixOf key = true := by
  refine exists_congr fun ns => ?_
  rw [List.isPrefixOf_iff_prefix]
  exact exists_congr fun rest => eq_comm

/-- The keys below an owned prefix are owned. -/
theorem Owned.of_isPrefixOf (h : Owned front) (hbelow : front.isPrefixOf key = true) :
    Owned key := by
  obtain ⟨ns, hns⟩ := h
  exact ⟨ns, Namespace.Owns.of_isPrefixOf hns hbelow⟩

/-- If there is a key at all it is owned. -/
def Keyed (out : Outcome Bytes) : Prop := ∀ key, out = .ok key → Owned key

/-- A key for a name is the one that is made for it. -/
theorem eq_of_checkName {name : String} {other : Bytes}
    (h : (do Key.checkName name; return key : Outcome Bytes) = .ok other) : other = key := by
  unfold Key.checkName at h
  split at h
  · exact (Except.ok.inj h).symm
  · cases h

/-- A key for a name. -/
theorem Keyed.of_checkName {name : String} (h : Owned key) :
    Keyed (do Key.checkName name; return key) := fun _ hother => eq_of_checkName hother ▸ h

/-- A key that goes on. -/
theorem Keyed.append {out : Outcome Bytes} (h : Keyed out) (rest : Bytes) :
    Keyed (do return (← out) ++ rest) := by
  cases out with
  | error failure => exact nofun
  | ok front =>
      intro key hkey
      cases hkey
      refine (h front rfl).of_isPrefixOf ?_
      rw [List.isPrefixOf_iff_prefix]
      exact List.prefix_append ..

section Keys

variable (ns : Namespace) (name : String)

/-- The keys of a table are owned. -/
theorem owned_tablePrefix (table : Table) (rest : Bytes) :
    Owned (Key.tablePrefix ns table ++ rest) := ⟨ns, table.byte :: rest, rfl⟩

/-- The key of a token is owned. -/
theorem keyed_token : Keyed (Key.token ns name) := .of_checkName (owned_tablePrefix ..)

/-- The prefix of an attribute is owned. -/
theorem keyed_attributePrefix (table : Table) : Keyed (Key.attributePrefix ns table name) :=
  .of_checkName ⟨ns, _, rfl⟩

/-- The key of a counter of slots is owned. -/
theorem keyed_nextSlot : Keyed (Key.nextSlot ns name) := .of_checkName (owned_tablePrefix ..)

/-- The key of the slot of a value is owned. -/
theorem keyed_valueSlot (hash : Bytes) : Keyed (Key.valueSlot ns name hash) :=
  Keyed.append (keyed_attributePrefix ns name _) hash

/-- The key of the postings of a slot is owned. -/
theorem keyed_slotPostings (slot : UInt32) : Keyed (Key.slotPostings ns name slot) :=
  Keyed.append (keyed_attributePrefix ns name _) _

/-- The key of the value of a slot is owned. -/
theorem keyed_slotValue (slot : UInt32) : Keyed (Key.slotValue ns name slot) :=
  Keyed.append (keyed_attributePrefix ns name _) _

end Keys

/-! ## Looking up -/

/-- The stores have the same under the keys of a set. -/
def AgreeOn (K : Bytes → Prop) (s t : Store) : Prop :=
  ∀ key, K key → s.content.get? key = t.content.get? key

/-- The stores have the same under owned keys. -/
def Agree (s t : Store) : Prop := ∀ key, Owned key → s.content.get? key = t.content.get? key

/-- Stores that agree on all owned keys agree on those of a namespace. -/
theorem Agree.on {s t : Store} (h : Agree s t) (ns : Namespace) : AgreeOn ns.Owns s t :=
  fun key hkey => h key ⟨ns, hkey⟩

/-- Stores that agree on all keys below a prefix show the same there. -/
theorem AgreeOn.entriesFrom_eq {K : Bytes → Prop} {s t : Store} (h : AgreeOn K s t)
    (hfront : ∀ key, front.isPrefixOf key = true → K key) :
    s.entriesFrom front = t.entriesFrom front := by
  rw [Store.entriesFrom_eq, Store.entriesFrom_eq]
  refine congrArg OrderedMap.entries (OrderedMap.ext_get? fun key => ?_)
  rw [OrderedMap.under, OrderedMap.under, OrderedMap.get?_filterKeys, OrderedMap.get?_filterKeys]
  split
  case isTrue hbelow => exact h key (hfront key hbelow)
  case isFalse => rfl

section Reading

variable {R : Store → Store → Prop} {K : Bytes → Prop}

/-- Stores that agree on a key give the same value of it. -/
theorem lockstep_get? (hR : ∀ s t, R s t → AgreeOn K s t) (hkey : K key) :
    Lockstep R (get? key) := by
  intro s t hst
  show ((get? key).run s).1 = ((get? key).run t).1 ∧ R ((get? key).run s).2 ((get? key).run t).2
  rw [run_get?, run_get?, hR s t hst key hkey]
  exact ⟨rfl, hst⟩

/-- Stores that agree on a key give the same value of it, or both have none. -/
theorem lockstep_get (hR : ∀ s t, R s t → AgreeOn K s t) (hkey : K key) :
    Lockstep R (get key) := by
  intro s t hst
  refine ⟨?_, hst⟩
  show s.read key = t.read key
  rw [read_eq, read_eq, hR s t hst key hkey]

/-- Stores that agree on all keys below a prefix give the same entries there. -/
theorem lockstep_scan (hR : ∀ s t, R s t → AgreeOn K s t)
    (hfront : ∀ key, front.isPrefixOf key = true → K key) : Lockstep R (scan front) :=
  Lockstep.inspect fun s t hst => (hR s t hst).entriesFrom_eq hfront

end Reading

/-! ## Writing -/

/-- The store refuses no write, and has the entries of the map under keys that are not owned. -/
structure Beside (m : OrderedMap Bytes) (s : Store) : Prop where
  reliable : s.Reliable
  others : ∀ key, ¬ Owned key → s.content.get? key = m.get? key

/-- Both stores refuse no write and agree on owned keys; each has the entries of its map under the
others. -/
structure Abreast (m n : OrderedMap Bytes) (s t : Store) : Prop where
  left : Beside m s
  right : Beside n t
  agree : Agree s t

/-- A store beside a map, after a change of an owned key. -/
theorem Beside.change {s : Store} (h : Beside m s) {op : BatchOp} {entry : Option Bytes}
    (hkey : Owned key) (hop : ∀ (m : OrderedMap Bytes) other,
      (op.apply m).get? other = if other = key then entry else m.get? other) :
    ((apply op).run s).1 = .ok () ∧ Beside m ((apply op).run s).2 ∧ ∀ other,
      ((apply op).run s).2.content.get? other
        = if other = key then entry else s.content.get? other := by
  obtain ⟨hout, hrel, hcontent⟩ := takes_apply (m := s.content) op s ⟨h.reliable, rfl⟩
  have hget : ∀ other, ((apply op).run s).2.content.get? other
      = if other = key then entry else s.content.get? other := fun other =>
    (congrArg (·.get? other) hcontent).trans (hop s.content other)
  refine ⟨hout, ⟨hrel, fun other hother => ?_⟩, hget⟩
  have hne : other ≠ key := by
    rintro rfl
    exact hother hkey
  rw [hget, if_neg hne]
  exact h.others other hother

/-- A change of an owned key keeps two stores abreast. -/
theorem lockstep_apply {op : BatchOp} {entry : Option Bytes} (hkey : Owned key)
    (hop : ∀ (m : OrderedMap Bytes) other,
      (op.apply m).get? other = if other = key then entry else m.get? other) :
    Lockstep (Abreast m n) (apply op) := by
  intro s t h
  obtain ⟨hout, hleft, hget⟩ := h.left.change hkey hop
  obtain ⟨hout', hright, hget'⟩ := h.right.change hkey hop
  refine ⟨hout.trans hout'.symm, hleft, hright, fun other hother => ?_⟩
  refine (hget other).trans (Eq.trans ?_ (hget' other).symm)
  rw [h.agree other hother]

/-- A value is put under an owned key in both stores. -/
theorem lockstep_set (hkey : Owned key) (value : Bytes) :
    Lockstep (Abreast m n) (set key value) := lockstep_apply hkey fun m => get?_apply (m := m) _

/-- An owned key is deleted in both stores. -/
theorem lockstep_delete (hkey : Owned key) : Lockstep (Abreast m n) (delete key) :=
  lockstep_apply hkey fun m => get?_apply (m := m) _

/-- Clearing a namespace takes away its keys and no others. -/
theorem run_clear {s : Store} (h : s.Reliable) (ns : Namespace) :
    (∃ count, ((Tables.clear ns).run s).1 = .ok count) ∧ ((Tables.clear ns).run s).2.Reliable ∧
      ∀ key, ((Tables.clear ns).run s).2.content.get? key
        = if (Key.namespacePrefix ns).isPrefixOf key then none else s.content.get? key := by
  have hclear : Takes Holds (Tables.clear ns) s.content
      (.ok (s.content.under (Key.namespacePrefix ns)).entries.length) _ :=
    Takes.bind (takes_scan _) (Takes.bind (takes_writeBatch _) (Takes.pure _))
  obtain ⟨hout, hrel, hcontent⟩ := hclear s ⟨h, rfl⟩
  refine ⟨⟨_, hout⟩, hrel, fun key => ?_⟩
  rw [hcontent, get?_deleteUnder]

/-! ## Flushing -/

/-- Nothing waits in the buffer. -/
def Settled : Store → Prop
  | plain _ => True
  | buffered b => b.pending.isEmpty = true

/-- The driver of a store has everything if nothing waits. -/
theorem Settled.entries_eq {s : Store} (h : s.Settled) : s.driver.entries = s.content := by
  cases s with
  | plain d => rfl
  | buffered b => exact (Buffered.content_of_isEmpty h).symm

/-- A buffer in front of a reliable driver has nothing pending after a drain. -/
theorem Buffered.isEmpty_drain {b : Buffered} (h : b.driver.Reliable) :
    b.drain.2.pending.isEmpty = true := by
  obtain ⟨hempty, hdrain⟩ | ⟨-, hrefused, -⟩ | ⟨-, -, hdrain⟩ := b.drain_cases
  · rw [hdrain]
    exact hempty
  · rw [h.accepts] at hrefused
    cases hrefused
  · rw [hdrain, b.taken_fields.2.2.1]
    rfl

/-- The store has gone through with everything that waited. -/
structure Flushed (s after : Store) : Prop where
  reliable : after.Reliable
  content : after.content = s.content
  settled : after.Settled

/-- A flush goes through. -/
theorem run_flush {s : Store} (h : s.Reliable) :
    (flush.run s).1 = .ok () ∧ Flushed s (flush.run s).2 := by
  cases s with
  | plain d => exact ⟨rfl, h, rfl, trivial⟩
  | buffered b =>
      obtain ⟨hout, hrel⟩ := Buffered.drain_reliable h
      exact ⟨hout, hrel, b.content_drain, Buffered.isEmpty_drain h⟩

/-- A compaction goes through. -/
theorem run_compact {s : Store} (h : s.Reliable) :
    (compact.run s).1 = .ok () ∧ Flushed s (compact.run s).2 := by
  cases s with
  | plain d => exact ⟨rfl, h, rfl, trivial⟩
  | buffered b =>
      obtain ⟨hout, hrel⟩ := Buffered.drain_reliable h
      obtain ⟨hsame, -, -, hpending⟩ := b.compact_fields
      refine ⟨hsame.trans hout, ?_, b.content_compact, ?_⟩
      · show b.compact.2.driver.Reliable
        unfold Buffered.compact
        split
        case h_1 b' hdrain => exact (congrArg (·.2.driver.Reliable) hdrain).mp hrel
        case h_2 failure b' hdrain => exact (congrArg (·.2.driver.Reliable) hdrain).mp hrel
      · show b.compact.2.pending.isEmpty = true
        rw [hpending]
        exact Buffered.isEmpty_drain h

/-- Stores that are abreast stay so when both are flushed. -/
theorem Abreast.flushed {s t s' t' : Store} (h : Abreast m n s t) (hs : Flushed s s')
    (ht : Flushed t t') : Abreast m n s' t' where
  left := ⟨hs.reliable, hs.content ▸ h.left.others⟩
  right := ⟨ht.reliable, ht.content ▸ h.right.others⟩
  agree := by
    unfold Agree
    rw [hs.content, ht.content]
    exact h.agree

end SiteIndex.Store
