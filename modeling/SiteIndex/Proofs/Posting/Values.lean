import Mathlib.Logic.Function.Basic
import SiteIndex.Proofs.Posting.Coherence
import SiteIndex.Proofs.Posting.Join
import SiteIndex.Proofs.Value.Encoding

/-!
# The values of an attribute

The values of an attribute are a join of two tables: the values of its slots and the postings of
its slots. For tables that stand for fields the join is one of values and sets of stubs
(`join_keyed`). `Listing` says which slots, values and stubs the join gives, and `takes_values` that
the tables of a store give them. Posting a stub under a value and taking it away change one entry of
the list (`Listing.addValue_used`, `Listing.addValue_new`, `Listing.removeValue`) and leave the
other attributes alone.
-/

namespace SiteIndex.Posting

open Store (Namespace OrderedMap)
open Store.Key (tablePrefix encodeNumber isName)
open SiteIndex.Action (Takes)

/-! ## The join of values and postings -/

/-- Keys with a common front and the slots after it. -/
def keyed {β : Type} (front : Bytes) (form : β → Bytes) (slots : List (UInt32 × β)) :
    List (Bytes × Bytes) := slots.map fun p => (front ++ encodeNumber p.1, form p.2)

/-- The entry of a slot with a value and postings that are not empty. -/
def joined (postings : List (UInt32 × StubSet)) (p : UInt32 × Value) : Option ValuePostings :=
  match postings.lookup p.1 with
  | some stubs => if stubs = ∅ then none else some ⟨p.1, p.2, ⟨stubs.toList⟩⟩
  | none => none

/-- A slot is joined if it has postings. -/
theorem joined_eq_some_iff {postings : List (UInt32 × StubSet)} {p : UInt32 × Value}
    {e : ValuePostings} : joined postings p = some e ↔ ∃ stubs,
      postings.lookup p.1 = some stubs ∧ stubs ≠ ∅ ∧ e = ⟨p.1, p.2, ⟨stubs.toList⟩⟩ := by
  unfold joined
  cases hfound : postings.lookup p.1 with
  | none => simp
  | some stubs =>
      by_cases hempty : stubs = ∅
      · simp [hempty]
      · simp [hempty, eq_comm]

/-- A slot is looked up among sets of stubs as it is among their lists. -/
theorem paired_toList {postings : List (UInt32 × StubSet)} (h : BySlot postings)
    (p : UInt32 × Value) :
    paired (postings.map fun q => (q.1, ⟨q.2.toList⟩)) p = joined postings p := by
  have hlists : BySlot (postings.map fun q => (q.1, (⟨q.2.toList⟩ : PostingList))) :=
    List.pairwise_map.2 h
  refine Option.ext fun e => ?_
  simp only [paired_eq_some_iff hlists, joined_eq_some_iff, lookup_eq_some_iff h, List.mem_map,
    Prod.mk.injEq]
  constructor
  · rintro ⟨rfl, ⟨⟨slot, stubs⟩, hstubs, rfl, hlist⟩, hne⟩
    rw [← hlist, ne_eq, StubSet.toList_eq_nil_iff] at hne
    exact ⟨stubs, hstubs, hne, by rw [hlist]⟩
  · rintro ⟨stubs, hstubs, hne, rfl⟩
    exact ⟨rfl, ⟨(p.1, stubs), hstubs, rfl, rfl⟩, by rwa [ne_eq, StubSet.toList_eq_nil_iff]⟩

/-- The join of values and sets of stubs gives what looking up the stubs of every slot gives. -/
theorem join_keyed (valueFront postingFront : Bytes) {values : List (UInt32 × Value)}
    {postings : List (UInt32 × StubSet)} (hvalues : BySlot values) (hpostings : BySlot postings)
    (hstorable : ∀ p ∈ values, p.2.Storable) :
    Tables.join valueFront postingFront (keyed valueFront Value.encode values)
      (keyed postingFront StubSet.blob postings) = .ok (values.filterMap (joined postings)) := by
  have hstored : Reads valueFront Value.decode (keyed valueFront Value.encode values) values := by
    have hreads : Reads valueFront Value.decode (keyed valueFront Value.encode values)
        (values.map id) :=
      reads_map (fun _ => rfl) fun p hp => Value.decode_encode (hstorable p hp)
    rwa [List.map_id] at hreads
  have hentries : Reads postingFront PostingList.decode (keyed postingFront StubSet.blob postings)
      (postings.map fun p => (p.1, ⟨p.2.toList⟩)) :=
    reads_map (fun _ => rfl) fun p _ => PostingList.decode_blob p.2
  rw [join_reads hstored hentries hvalues (List.pairwise_map.2 hpostings)]
  exact congrArg Except.ok (List.filterMap_congr fun p _ => paired_toList hpostings p)

/-! ## Scans of a store -/

section Scans

variable {m : OrderedMap Bytes} {t : Namespace → Fields} {ns : Namespace} {f : Fields} {name : Name}

/-- The values of an attribute are all that stands below its prefix in their table. -/
theorem exists_slotValue {c : Cell} {rest : Bytes} (htable : c.table = .slotValue)
    (hpayload : c.payload = Text.Utf8.encode name.1 ++ 0 :: rest) :
    ∃ slot, c = .slotValue name slot := by
  cases c with
  | slotValue other slot =>
      obtain ⟨rfl, _⟩ := Name.split hpayload
      exact ⟨slot, rfl⟩
  | postings heading => cases heading <;> cases htable
  | _ => cases htable

/-- The postings of an attribute are all that stands below its prefix in their table. -/
theorem exists_slotPostings {c : Cell} {rest : Bytes} (htable : c.table = .slotPostings)
    (hpayload : c.payload = Text.Utf8.encode name.1 ++ 0 :: rest) :
    ∃ slot, c = .postings (.slot name slot) := by
  cases c with
  | postings heading =>
      cases heading with
      | token text => cases htable
      | slot other slot =>
          obtain ⟨rfl, _⟩ := Name.split hpayload
          exact ⟨slot, rfl⟩
  | _ => cases htable

/-- A scan of an attribute in a table gives its entries in the order of their slots. -/
theorem exists_scan {β : Type} (table : Store.Table) (cell : UInt32 → Cell) (form : β → Bytes)
    (value : UInt32 → Option β) (hm : Stored m (Function.update t ns f))
    (htable : ∀ slot, (cell slot).table = table)
    (hpayload : ∀ slot, (cell slot).payload = Text.Utf8.encode name.1 ++ 0 :: encodeNumber slot)
    (honly : ∀ c rest, c.table = table → c.payload = Text.Utf8.encode name.1 ++ 0 :: rest →
      ∃ slot, c = cell slot)
    (hvalue : ∀ slot, (f (cell slot)).map (cell slot).bytes = (value slot).map form) :
    ∃ slots : List (UInt32 × β),
      (m.under (tablePrefix ns table ++ (Text.Utf8.encode name.1 ++ [0]))).entries
        = keyed (tablePrefix ns table ++ (Text.Utf8.encode name.1 ++ [0])) form slots ∧
      BySlot slots ∧ ∀ slot b, (slot, b) ∈ slots ↔ value slot = some b := by
  have hkey : ∀ slot, (cell slot).key ns
      = tablePrefix ns table ++ (Text.Utf8.encode name.1 ++ [0]) ++ encodeNumber slot := by
    intro slot
    rw [Cell.key, htable, hpayload, List.append_assoc, List.append_assoc]
    rfl
  have hget : ∀ slot, m.get? ((cell slot).key ns) = (value slot).map form := by
    intro slot
    rw [hm.get?_key, Function.update_self, hvalue]
  have hscan : ∀ k v,
      (tablePrefix ns table ++ (Text.Utf8.encode name.1 ++ [0])).isPrefixOf k = true ∧
        m.get? k = some v ↔
          ∃ slot b, value slot = some b ∧ k = (cell slot).key ns ∧ v = form b := by
    intro k v
    constructor
    · rintro ⟨hfront, hk⟩
      obtain ⟨ns', c, rfl⟩ := hm.only k v hk
      obtain ⟨rfl, hc, rest, hrest⟩ := Cell.attributePrefix_isPrefixOf.1 hfront
      obtain ⟨slot, rfl⟩ := honly c rest hc hrest
      rw [hget] at hk
      obtain ⟨b, hb, rfl⟩ := Option.map_eq_some_iff.1 hk
      exact ⟨slot, b, hb, rfl, rfl⟩
    · rintro ⟨slot, b, hb, rfl, rfl⟩
      refine ⟨Cell.attributePrefix_isPrefixOf.2 ⟨rfl, htable slot, _, hpayload slot⟩, ?_⟩
      rw [hget, hb]
      rfl
  -- A slot is four bytes with the highest first, so that keys ascend as their slots do.
  have hinjective : ∀ a b, (cell a).key ns = (cell b).key ns → a = b := by
    intro a b hab
    rw [hkey, hkey] at hab
    exact Bytes.bigEndian_four_injective (List.append_cancel_left hab)
  obtain ⟨slots, hentries, hmem, hascending⟩ :=
    OrderedMap.exists_under (fun slot => (cell slot).key ns) form value hinjective hscan
  refine ⟨slots, ?_, hascending.imp fun {p q} hpq => ?_, hmem⟩
  · rw [hentries, keyed]
    refine List.map_congr_left fun p _ => ?_
    rw [hkey]
  · rw [hkey, hkey, Bytes.before_append_iff] at hpq
    exact UInt32.lt_iff_toNat_lt.2
      ((Bytes.before_bigEndian_iff p.1.toNat_lt q.1.toNat_lt).1 hpq)

end Scans

/-! ## Listings -/

/-- A slot of an attribute with its value and the stubs posted under it. -/
structure Entry where
  slot : UInt32
  value : Value
  stubs : StubSet

/-- The form in which an entry is read. -/
def Entry.postings (e : Entry) : ValuePostings := ⟨e.slot, e.value, ⟨e.stubs.toList⟩⟩

/-- The slots of an attribute in ascending order. -/
structure Listing (f : Fields) (name : Name) (entries : List Entry) : Prop where
  ascending : entries.Pairwise (·.slot < ·.slot)
  mem_iff : ∀ e, e ∈ entries ↔ f (.slotValue name e.slot) = some e.value ∧
    f (.postings (.slot name e.slot)) = some e.stubs

section Listings

variable {t : Namespace → Fields} {ns : Namespace} {f : Fields} {name : Name}
  {entries : List Entry}

/-- Lists in the order of their slots with the same members are equal. -/
theorem eq_of_slots {as bs : List ValuePostings} (ha : as.Pairwise (·.slot < ·.slot))
    (hb : bs.Pairwise (·.slot < ·.slot)) (h : ∀ e, e ∈ as ↔ e ∈ bs) : as = bs := by
  have hnodup : ∀ l : List ValuePostings, l.Pairwise (·.slot < ·.slot) → l.Nodup := by
    intro l hl
    refine hl.imp ?_
    intro a b hab heq
    exact UInt32.lt_irrefl b.slot (heq ▸ hab)
  have hperm := (List.perm_ext_iff_of_nodup (hnodup as ha) (hnodup bs hb)).2 h
  exact hperm.eq_of_pairwise (fun a b _ _ hab hba => absurd hba (UInt32.lt_asymm hab)) ha hb

/-- The slots with a value joined with those with postings are the listing. -/
theorem filterMap_joined (hcoherent : Coherent f) (hlisting : Listing f name entries)
    {values : List (UInt32 × Value)} {postings : List (UInt32 × StubSet)}
    (hvalues : BySlot values) (hpostings : BySlot postings)
    (hvalue : ∀ slot v, (slot, v) ∈ values ↔ f (.slotValue name slot) = some v)
    (hstubs : ∀ slot stubs, (slot, stubs) ∈ postings ↔
      f (.postings (.slot name slot)) = some stubs) :
    values.filterMap (joined postings) = entries.map Entry.postings := by
  have hlookup : ∀ slot stubs, postings.lookup slot = some stubs ↔
      f (.postings (.slot name slot)) = some stubs := by
    intro slot stubs
    rw [lookup_eq_some_iff hpostings, hstubs]
  -- Both lists ascend by slot, so that it is enough to compare their members.
  refine eq_of_slots ?_ (List.pairwise_map.2 hlisting.ascending) fun e => ?_
  · refine List.Pairwise.filterMap _ (fun p q hpq a ha b hb => ?_) hvalues
    obtain ⟨_, _, _, rfl⟩ := joined_eq_some_iff.1 ha
    obtain ⟨_, _, _, rfl⟩ := joined_eq_some_iff.1 hb
    exact hpq
  · rw [List.mem_filterMap, List.mem_map]
    constructor
    · rintro ⟨p, hp, he⟩
      obtain ⟨stubs, hfound, _, rfl⟩ := joined_eq_some_iff.1 he
      exact ⟨⟨p.1, p.2, stubs⟩,
        (hlisting.mem_iff _).2 ⟨(hvalue p.1 p.2).1 hp, (hlookup _ _).1 hfound⟩, rfl⟩
    · rintro ⟨entry, hentry, rfl⟩
      obtain ⟨hv, hposted⟩ := (hlisting.mem_iff entry).1 hentry
      exact ⟨(entry.slot, entry.value), (hvalue _ _).2 hv, joined_eq_some_iff.2
        ⟨entry.stubs, (hlookup _ _).2 hposted, hcoherent.postings_ne _ _ hposted, rfl⟩⟩

/-- The values of an attribute are those of its listing. -/
theorem takes_values (hcoherent : Coherent f) (hlisting : Listing f name entries)
    (hstorable : ∀ e ∈ entries, e.value.Storable) :
    Takes (Shows t ns) (Tables.values ns name.1) f (.ok (entries.map Entry.postings)) f := by
  refine Takes.refine fun m hm => ⟨m, ?_, hm⟩
  obtain ⟨values, hvalues, hbyValue, hmemValue⟩ := exists_scan .slotValue (Cell.slotValue name)
    Value.encode (fun slot => f (.slotValue name slot)) hm (fun _ => rfl) (fun _ => rfl)
    (fun _ _ => exists_slotValue) (fun _ => rfl)
  obtain ⟨postings, hpostings, hbyPosting, hmemPosting⟩ := exists_scan .slotPostings
    (fun slot => .postings (.slot name slot)) StubSet.blob
    (fun slot => f (.postings (.slot name slot))) hm (fun _ => rfl) (fun _ => rfl)
    (fun _ _ => exists_slotPostings) (fun _ => rfl)
  -- Every slot with a value has postings, so its entry is listed and can be stored.
  have hvalues_storable : ∀ p ∈ values, p.2.Storable := by
    intro p hp
    have hvalue := (hmemValue p.1 p.2).1 hp
    obtain ⟨stubs, hstubs⟩ := (hcoherent.postings_iff name p.1).2 ⟨p.2, hvalue⟩
    exact hstorable ⟨p.1, p.2, stubs⟩ ((hlisting.mem_iff _).2 ⟨hvalue, hstubs⟩)
  refine Takes.lift_bind (attributePrefix_eq ns name .slotValue) ?_
  refine Takes.lift_bind (attributePrefix_eq ns name .slotPostings) ?_
  refine Takes.bind (Store.takes_scan _) (Takes.bind (Store.takes_scan _) ?_)
  rw [hvalues, hpostings]
  have hjoin := join_keyed (tablePrefix ns .slotValue ++ (Text.Utf8.encode name.1 ++ [0]))
    (tablePrefix ns .slotPostings ++ (Text.Utf8.encode name.1 ++ [0])) hbyValue hbyPosting
    hvalues_storable
  rw [← filterMap_joined hcoherent hlisting hbyValue hbyPosting hmemValue hmemPosting, ← hjoin]
  exact Takes.lift _

/-- The slots of an attribute that have a value are listed. -/
theorem exists_listing {m : OrderedMap Bytes} (hm : Stored m (Function.update t ns f))
    (hcoherent : Coherent f) (name : Name) : ∃ entries, Listing f name entries := by
  obtain ⟨postings, _, hbyPosting, hmem⟩ := exists_scan .slotPostings
    (fun slot => .postings (.slot name slot)) StubSet.blob
    (fun slot => f (.postings (.slot name slot))) hm (fun _ => rfl) (fun _ => rfl)
    (fun _ _ => exists_slotPostings) (fun _ => rfl)
  refine ⟨postings.map fun p => ⟨p.1, (f (.slotValue name p.1)).getD default, p.2⟩,
    List.pairwise_map.2 hbyPosting, fun e => ?_⟩
  rw [List.mem_map]
  constructor
  · rintro ⟨⟨slot, stubs⟩, hp, rfl⟩
    have hstubs := (hmem slot stubs).1 hp
    obtain ⟨value, hvalue⟩ := (hcoherent.postings_iff name slot).1 ⟨stubs, hstubs⟩
    exact ⟨by rw [hvalue]; rfl, hstubs⟩
  · rintro ⟨hvalue, hstubs⟩
    exact ⟨(e.slot, e.stubs), (hmem _ _).2 hstubs, by rw [hvalue]; rfl⟩

/-- A scan of a table of names gives the names that it has entries for, in the order of their
keys. -/
theorem exists_scan_ordered {β : Type} {m : OrderedMap Bytes} (table : Store.Table)
    (cell : Name → Cell) (form : β → Bytes) (value : Name → Option β)
    (hm : Stored m (Function.update t ns f)) (hinjective : ∀ a b, cell a = cell b → a = b)
    (htable : ∀ c, c.table = table ↔ ∃ name, c = cell name)
    (hvalue : ∀ name, (f (cell name)).map (cell name).bytes = (value name).map form) :
    ∃ found : List (Name × β),
      (m.under (tablePrefix ns table)).entries
        = found.map (fun p => ((cell p.1).key ns, form p.2)) ∧
      (found.map (·.1)).Pairwise (fun a b => Bytes.Before ((cell a).key ns) ((cell b).key ns)) ∧
      ∀ name b, (name, b) ∈ found ↔ value name = some b := by
  have hget : ∀ name, m.get? ((cell name).key ns) = (value name).map form := by
    intro name
    rw [hm.get?_key, Function.update_self, hvalue]
  have hscan : ∀ k v, (tablePrefix ns table).isPrefixOf k = true ∧ m.get? k = some v ↔
      ∃ name b, value name = some b ∧ k = (cell name).key ns ∧ v = form b := by
    intro k v
    constructor
    · rintro ⟨hfront, hk⟩
      obtain ⟨ns', c, rfl⟩ := hm.only k v hk
      obtain ⟨rfl, hc⟩ := Cell.tablePrefix_isPrefixOf.1 hfront
      obtain ⟨name, rfl⟩ := (htable c).1 hc
      rw [hget] at hk
      obtain ⟨b, hb, rfl⟩ := Option.map_eq_some_iff.1 hk
      exact ⟨name, b, hb, rfl, rfl⟩
    · rintro ⟨name, b, hb, rfl, rfl⟩
      refine ⟨Cell.tablePrefix_isPrefixOf.2 ⟨rfl, (htable _).2 ⟨name, rfl⟩⟩, ?_⟩
      rw [hget, hb]
      rfl
  obtain ⟨found, hentries, hmem, hascending⟩ := OrderedMap.exists_under
    (fun name => (cell name).key ns) form value
    (fun a b hab => hinjective a b (Cell.key_injective hab).2) hscan
  exact ⟨found, hentries, List.pairwise_map.2 hascending, hmem⟩

/-- A scan of a table of names gives the names that it has entries for, each once. -/
theorem exists_scan_names {β : Type} {m : OrderedMap Bytes} (table : Store.Table)
    (cell : Name → Cell) (form : β → Bytes) (value : Name → Option β)
    (hm : Stored m (Function.update t ns f)) (hinjective : ∀ a b, cell a = cell b → a = b)
    (htable : ∀ c, c.table = table ↔ ∃ name, c = cell name)
    (hvalue : ∀ name, (f (cell name)).map (cell name).bytes = (value name).map form) :
    ∃ found : List (Name × β),
      (m.under (tablePrefix ns table)).entries
        = found.map (fun p => ((cell p.1).key ns, form p.2)) ∧
      (found.map (·.1)).Nodup ∧ ∀ name b, (name, b) ∈ found ↔ value name = some b := by
  obtain ⟨found, hentries, hordered, hmem⟩ :=
    exists_scan_ordered table cell form value hm hinjective htable hvalue
  refine ⟨found, hentries, hordered.imp ?_, hmem⟩
  intro a b hab heq
  rw [heq] at hab
  exact Bytes.Before.irrefl _ hab

/-- The names that a scan gives are those with an entry. -/
theorem mem_names_iff {β : Type} {found : List (Name × β)} {value : Name → Option β}
    (hmem : ∀ name b, (name, b) ∈ found ↔ value name = some b) (name : Name) :
    name ∈ found.map (·.1) ↔ value name ≠ none := by
  rw [List.mem_map, Option.ne_none_iff_exists']
  constructor
  · rintro ⟨⟨other, b⟩, hp, rfl⟩
    exact ⟨b, (hmem other b).1 hp⟩
  · rintro ⟨b, hb⟩
    exact ⟨(name, b), (hmem name b).2 hb, rfl⟩

/-- The names at the ends of the keys of a table are read. -/
theorem takes_names {β : Type} {m : OrderedMap Bytes} {table : Store.Table} (cell : Name → Cell)
    {form : β → Bytes} {found : List (Name × β)}
    (hkey : ∀ name : Name, (cell name).key ns = tablePrefix ns table ++ Text.Utf8.encode name.1)
    (hentries : (m.under (tablePrefix ns table)).entries
      = found.map fun p => ((cell p.1).key ns, form p.2)) :
    Takes Store.Holds (do
        (← Store.scan (tablePrefix ns table)).mapM fun e =>
          Action.ofOutcome (Store.Key.decodeName e.1 (tablePrefix ns table))) m
      (.ok ((found.map (·.1)).map (·.1))) m := by
  refine Takes.bind (Store.takes_scan _) ?_
  rw [hentries, List.mapM_map, List.map_map]
  refine Takes.mapM fun p _ => ?_
  show Takes Store.Holds (Action.ofOutcome (Store.Key.decodeName ((cell p.1).key ns)
    (tablePrefix ns table))) m (.ok p.1.1) m
  rw [hkey, decodeName_append]
  exact Takes.ofOutcome _

/-- The counters of slots are those of the attributes. -/
theorem table_nextSlot (c : Cell) : c.table = .nextSlot ↔ ∃ name, c = .nextSlot name := by
  constructor
  · intro hc
    cases c with
    | nextSlot name => exact ⟨name, rfl⟩
    | postings heading => cases heading <;> cases hc
    | _ => cases hc
  · rintro ⟨name, rfl⟩
    rfl

/-- The attributes that ever had a value are listed, each once. -/
theorem exists_takes_attributes {m : OrderedMap Bytes} (hm : Stored m (Function.update t ns f)) :
    ∃ names : List Name, names.Nodup ∧ (∀ name, name ∈ names ↔ f (.nextSlot name) ≠ none) ∧
      Takes (Shows t ns) (Tables.attributes ns) f (.ok (names.map (·.1))) f := by
  obtain ⟨found, hentries, hnodup, hmem⟩ := exists_scan_names .nextSlot Cell.nextSlot encodeNumber
    (fun name => f (.nextSlot name)) hm (fun _ _ => Cell.nextSlot.inj) table_nextSlot fun _ => rfl
  refine ⟨found.map (·.1), hnodup, mem_names_iff hmem,
    Takes.refine fun m' hm' => ⟨m', ?_, hm'⟩⟩
  obtain rfl := hm'.unique hm
  exact takes_names Cell.nextSlot (fun _ => rfl) hentries

/-- The shasum of a number is read. -/
theorem takes_shasum {index : UInt32} {shasum : String} (h : f (.stubShasum index) = some shasum) :
    Takes (Shows t ns) (Tables.shasum ns index) f (.ok shasum) f := by
  have hget : Takes (Shows t ns) (Store.get ((Cell.stubShasum index).key ns)) f
      (.ok ((Cell.stubShasum index).bytes shasum)) f := takes_get h
  refine Takes.bind hget ?_
  have hdecode : Text.Utf8.decodeLossy ((Cell.stubShasum index).bytes shasum) = shasum :=
    Text.Utf8.decodeLossy_encode shasum
  rw [hdecode]
  exact Takes.pure _

/-- The shasums of numbers are read. -/
theorem takes_shasums {indices : List UInt32} {shasum : UInt32 → String}
    (h : ∀ index ∈ indices, f (.stubShasum index) = some (shasum index)) :
    Takes (Shows t ns) (Tables.shasums ns indices) f (.ok (indices.map shasum)) f :=
  Takes.mapM fun index hindex => takes_shasum (h index hindex)

end Listings

/-! ## Changes of a listing -/

/-- The attribute that a cell belongs to. -/
def Cell.attribute : Cell → Option Name
  | .postings (.slot name _) | .valueSlot name _ | .slotValue name _ | .nextSlot name => some name
  | _ => none

/-- A cell of an attribute is none of the cells without one. -/
theorem Cell.ne_of_attribute {c d : Cell} {name : Name} (hc : c.attribute = some name)
    (hd : d.attribute = none) : c ≠ d := by
  rintro rfl
  rw [hd] at hc
  cases hc

/-- The entry with other stubs. -/
def Entry.withStubs (stubs : StubSet) (e : Entry) : Entry := { e with stubs }

/-- The entry without a stub; nothing is left without the last one. -/
def Entry.without (stub : UInt32) (e : Entry) : Option Entry :=
  if e.stubs.erase stub = ∅ then none else some (e.withStubs (e.stubs.erase stub))

namespace Listing

variable {f g : Fields} {name : Name} {entries front back : List Entry} {e : Entry}

/-- A listing depends on the cells of its attribute alone. -/
theorem congr (h : Listing f name entries) (hsame : ∀ c, c.attribute = some name → g c = f c) :
    Listing g name entries where
  ascending := h.ascending
  mem_iff e := by
    rw [h.mem_iff, hsame (.slotValue name e.slot) rfl, hsame (.postings (.slot name e.slot)) rfl]

/-- The stubs of an entry are those that are posted under its slot. -/
theorem stubs_eq (h : Listing f name entries) (he : e ∈ entries) :
    f.stubs (.slot name e.slot) = e.stubs := by
  rw [Fields.stubs, ((h.mem_iff e).1 he).2]
  rfl

/-- An attribute with entries has a counter. -/
theorem nextSlot_ne_none (h : Listing f name entries) (hcoherent : Coherent f) (he : e ∈ entries) :
    f (.nextSlot name) ≠ none := by
  intro hnone
  have hlt := hcoherent.slot_lt name e.slot e.value ((h.mem_iff e).1 he).1
  rw [Fields.nextSlot, hnone] at hlt
  exact UInt32.not_lt_zero hlt

/-- A stub that is posted under a slot is in its entry. -/
theorem exists_of_mem_stubs (h : Listing f name entries) (hcoherent : Coherent f)
    {slot stub : UInt32} (hstub : stub ∈ f.stubs (.slot name slot)) :
    ∃ e ∈ entries, e.slot = slot ∧ stub ∈ e.stubs := by
  obtain ⟨stubs, hstubs, hstub⟩ := Fields.mem_stubs_iff.1 hstub
  obtain ⟨value, hvalue⟩ := (hcoherent.postings_iff name slot).1 ⟨stubs, hstubs⟩
  exact ⟨⟨slot, value, stubs⟩, (h.mem_iff _).2 ⟨hvalue, hstubs⟩, rfl, hstub⟩

/-- The slot of an entry is found by the hash of its value. -/
theorem valueSlot (h : Listing f name entries) (hcoherent : Coherent f) (he : e ∈ entries) :
    f (.valueSlot name e.value.hash) = some e.slot :=
  (hcoherent.valueSlot_iff name e.value.hash e.slot).2
    ⟨e.value, ((h.mem_iff e).1 he).1, rfl⟩

/-- The slot that is found by a hash has an entry. -/
theorem exists_of_valueSlot (h : Listing f name entries) (hcoherent : Coherent f) {hash : Bytes}
    {slot : UInt32} (hslot : f (.valueSlot name hash) = some slot) :
    ∃ e ∈ entries, e.slot = slot ∧ e.value.hash = hash := by
  obtain ⟨value, hvalue, hhash⟩ := (hcoherent.valueSlot_iff name hash slot).1 hslot
  obtain ⟨stubs, hstubs⟩ := (hcoherent.postings_iff name slot).2 ⟨value, hvalue⟩
  exact ⟨⟨slot, value, stubs⟩, (h.mem_iff _).2 ⟨hvalue, hstubs⟩, rfl, hhash⟩

/-- The other entries have other slots. -/
theorem slot_ne (h : Listing f name (front ++ e :: back)) {x : Entry} (hx : x ∈ front ++ back) :
    x.slot ≠ e.slot := by
  have hascending := h.ascending
  rw [List.pairwise_append, List.pairwise_cons] at hascending
  obtain ⟨_, ⟨hback, _⟩, hfront⟩ := hascending
  intro heq
  rcases List.mem_append.1 hx with hx | hx
  · exact UInt32.lt_irrefl e.slot (heq ▸ hfront x hx e (List.mem_cons_self ..))
  · exact UInt32.lt_irrefl e.slot (heq ▸ hback x hx)

/-- An entry of a slot is the one that the slot has in the list. -/
theorem mem_iff_eq (h : Listing f name (front ++ e :: back)) {x : Entry}
    (hslot : x.slot = e.slot) (d : Entry) : x ∈ front ++ d :: back ↔ x = d := by
  have hnot : x ∉ front ++ back := fun hx => h.slot_ne hx hslot
  rw [List.mem_append, not_or] at hnot
  simp [hnot]

/-- Other stubs under the slot of an entry change that entry alone. -/
theorem putStubs (h : Listing f name (front ++ e :: back)) {stubs : StubSet} (hne : stubs ≠ ∅) :
    Listing (f.putStubs (.slot name e.slot) stubs) name
      (front ++ e.withStubs stubs :: back) where
  ascending := by
    have hascending := h.ascending
    rw [List.pairwise_append, List.pairwise_cons] at hascending ⊢
    obtain ⟨hfront, hback, hacross⟩ := hascending
    refine ⟨hfront, hback, fun a ha b hb => ?_⟩
    rcases List.mem_cons.1 hb with rfl | hb
    · exact hacross a ha e (List.mem_cons_self ..)
    · exact hacross a ha b (List.mem_cons_of_mem _ hb)
  mem_iff x := by
    have hmem := h.mem_iff x
    have he := (h.mem_iff e).1 (List.mem_append_right _ (List.mem_cons_self ..))
    rw [Fields.putStubs, if_neg hne]
    by_cases hslot : x.slot = e.slot
    · rw [h.mem_iff_eq hslot, hslot]
      simp only [ne_eq, reduceCtorEq, not_false_eq_true, Fields.put_of_ne, he.1, Fields.put_self,
        Option.some.injEq]
      constructor
      · rintro rfl
        exact ⟨rfl, rfl⟩
      · rintro ⟨hvalue, hstubs⟩
        obtain ⟨slot, value, stubs'⟩ := x
        dsimp only at hslot hvalue hstubs
        rw [hslot, ← hvalue, ← hstubs]
        rfl
    · have hne : x ≠ e := fun heq => hslot (heq ▸ rfl)
      have hne' : x ≠ e.withStubs stubs := fun heq => hslot (heq ▸ rfl)
      simp only [List.mem_append, List.mem_cons, hne, hne', false_or] at hmem ⊢
      rw [hmem]
      simp [hslot]

/-- Dropping the slot of an entry takes that entry out. -/
theorem dropSlot (h : Listing f name (front ++ e :: back)) :
    Listing (f.dropSlot name e.value e.slot) name (front ++ back) where
  ascending := h.ascending.sublist
    ((List.Sublist.refl front).append (List.sublist_cons_self e back))
  mem_iff x := by
    have hmem := h.mem_iff x
    unfold Fields.dropSlot
    by_cases hslot : x.slot = e.slot
    · simp [hslot, show x ∉ front ++ back from fun hx => h.slot_ne hx hslot]
    · have hne : x ≠ e := fun heq => hslot (heq ▸ rfl)
      simp only [List.mem_append, List.mem_cons, hne, false_or] at hmem ⊢
      rw [hmem]
      simp [hslot]

/-- A new value comes last. -/
theorem newSlot (h : Listing f name entries) (hcoherent : Coherent f) {value : Value}
    {stubs : StubSet} (hnew : f (.valueSlot name value.hash) = none) (hne : stubs ≠ ∅) :
    Listing ((f.ensureSlot name value).2.putStubs (.slot name (f.nextSlot name)) stubs) name
      (entries ++ [⟨f.nextSlot name, value, stubs⟩]) where
  ascending := by
    rw [List.pairwise_append]
    refine ⟨h.ascending, List.pairwise_singleton .., fun a ha b hb => ?_⟩
    obtain rfl := List.mem_singleton.1 hb
    exact hcoherent.slot_lt name a.slot a.value ((h.mem_iff a).1 ha).1
  mem_iff x := by
    have hmem := h.mem_iff x
    unfold Fields.ensureSlot Fields.putStubs
    rw [hnew, if_neg hne, List.mem_append, List.mem_singleton]
    by_cases hslot : x.slot = f.nextSlot name
    · have hfree : x ∉ entries := by
        rw [hmem, hslot, hcoherent.slotValue_nextSlot]
        simp
      obtain ⟨slot, value', stubs'⟩ := x
      dsimp only at hslot
      subst hslot
      simp only [hfree, false_or, Entry.mk.injEq, true_and]
      simp [eq_comm]
    · have hother : x ≠ ⟨f.nextSlot name, value, stubs⟩ := fun heq => hslot (heq ▸ rfl)
      simp only [hother, or_false, hmem]
      simp [hslot]

/-- Posting under a value of the listing changes its entry. -/
theorem addValue_used (h : Listing f name (front ++ e :: back)) (hcoherent : Coherent f)
    {value : Value} (hhash : value.hash = e.value.hash) (stub : UInt32) :
    (f.addValue name value stub).1 = !e.stubs.contains stub ∧
      Listing (f.addValue name value stub).2 name
        (front ++ e.withStubs (e.stubs.insert stub) :: back) := by
  have he : e ∈ front ++ e :: back := List.mem_append_right _ (List.mem_cons_self ..)
  have hslot : f (.valueSlot name value.hash) = some e.slot := by
    rw [hhash]
    exact h.valueSlot hcoherent he
  have hensure : f.ensureSlot name value = (e.slot, f) := by rw [Fields.ensureSlot, hslot]
  rw [Fields.addValue, hensure, Fields.post, h.stubs_eq he]
  cases hmem : e.stubs.contains stub with
  | true =>
      rw [StubSet.insert_of_mem (StubSet.contains_iff.1 hmem)]
      exact ⟨rfl, h⟩
  | false => exact ⟨rfl, h.putStubs (StubSet.insert_ne_empty _ _)⟩

/-- Posting under a value that is not in the listing puts an entry behind the others. -/
theorem addValue_new (h : Listing f name entries) (hcoherent : Coherent f) {value : Value}
    (hnew : ∀ e ∈ entries, value.hash ≠ e.value.hash) (stub : UInt32) :
    (f.addValue name value stub).1 = true ∧
      Listing (f.addValue name value stub).2 name
        (entries ++ [⟨f.nextSlot name, value, StubSet.insert stub ∅⟩]) := by
  have hslot : f (.valueSlot name value.hash) = none := by
    refine Option.eq_none_iff_forall_ne_some.2 fun slot hslot => ?_
    obtain ⟨e, he, _, hhash⟩ := h.exists_of_valueSlot hcoherent hslot
    exact hnew e he hhash.symm
  rw [hcoherent.addValue_eq_newSlot hslot]
  exact ⟨rfl, h.newSlot hcoherent hslot (StubSet.insert_ne_empty _ _)⟩

/-- Taking a stub away from an entry leaves the entry without it. -/
theorem removeValue (h : Listing f name (front ++ e :: back)) (hcoherent : Coherent f)
    {stub : UInt32} (hmem : stub ∈ e.stubs) :
    (f.removeValue name e.value stub).1 = true ∧
      Listing (f.removeValue name e.value stub).2 name
        (front ++ (e.without stub).toList ++ back) := by
  have he : e ∈ front ++ e :: back := List.mem_append_right _ (List.mem_cons_self ..)
  have hcontains := StubSet.contains_iff.2 hmem
  rw [Fields.removeValue, h.valueSlot hcoherent he]
  dsimp only
  rw [h.stubs_eq he, Entry.without]
  by_cases hlast : e.stubs.erase stub = ∅
  · rw [if_pos ⟨hcontains, hlast⟩, if_pos hlast]
    refine ⟨rfl, ?_⟩
    simpa using h.dropSlot
  · rw [if_neg fun hboth => hlast hboth.2, if_neg hlast, Fields.unpost, h.stubs_eq he,
      if_pos hcontains]
    refine ⟨rfl, ?_⟩
    simpa using h.putStubs hlast

end Listing

/-! ## What stays the same -/

namespace Fields

variable (f : Fields) {name : Name} {c : Cell}

/-- Posting under a value leaves the cells of other attributes alone. -/
theorem addValue_of_ne (h : c.attribute ≠ some name) (value : Value) (stub : UInt32) :
    (f.addValue name value stub).2 c = f c := by
  have hput : ∀ {d : Cell}, d.attribute = some name → c ≠ d := fun hd heq => h (heq ▸ hd)
  unfold addValue
  rw [post_of_ne _ (hput rfl), ensureSlot]
  cases f (.valueSlot name value.hash) with
  | some slot => rfl
  | none =>
      dsimp only
      rw [put_of_ne _ (hput rfl), put_of_ne _ (hput rfl), put_of_ne _ (hput rfl)]

/-- Posting under a value that has no slot begins the next one of its attribute. -/
theorem nextSlot_addValue (value : Value) (stub : UInt32) (other : Name) :
    (f.addValue name value stub).2.nextSlot other
      = if other = name ∧ f (.valueSlot name value.hash) = none then f.nextSlot other + 1
        else f.nextSlot other := by
  rw [nextSlot, addValue, post_of_ne _ (by simp), ensureSlot]
  cases f (.valueSlot name value.hash) with
  | some slot => simp [nextSlot]
  | none =>
      by_cases h : other = name
      · subst h
        simp
      · simp [h, nextSlot]

/-- Taking a stub away from a value leaves the cells of other attributes and the counter of the
attribute alone. -/
theorem removeValue_of_ne (h : c.attribute ≠ some name ∨ c = .nextSlot name) (value : Value)
    (stub : UInt32) : (f.removeValue name value stub).2 c = f c := by
  have hput : ∀ {d : Cell}, d.attribute = some name → d ≠ .nextSlot name → c ≠ d := by
    intro d hd hnext heq
    subst heq
    rcases h with h | h
    · exact h hd
    · exact hnext h
  obtain hsame | ⟨slot, -, hdrop | ⟨-, hunpost⟩⟩ := f.removeValue_cases name value stub
  · rw [hsame]
  · rw [hdrop, dropSlot, put_of_ne _ (hput rfl (by simp)), put_of_ne _ (hput rfl (by simp)),
      put_of_ne _ (hput rfl (by simp))]
  · rw [hunpost, unpost_of_ne _ (hput rfl (by simp)) stub]

end Fields

end SiteIndex.Posting
