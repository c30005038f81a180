import SiteIndex.Proofs.Index.Reference
import SiteIndex.Proofs.Posting.Values

/-!
# The index of attributes follows the reference

`Follows` relates the tables of a store to a `Reference`: the entries of every attribute are its
rows, with the numbers of the stubs in place of their shasums. Adding a page, taking one out and
emptying the index keep the relation, and the results are those of the reference.
-/

namespace SiteIndex.Index

open Posting
open Store (Namespace OrderedMap)
open Store.Key (isName)
open SiteIndex.Action (Takes)

/-! ## Rows of entries -/

/-- The shasum of a number. -/
def shasumOf (f : Fields) (index : UInt32) : String := (f (.stubShasum index)).getD ""

/-- The row of an entry. -/
def rowOf (f : Fields) (name : String) (e : Entry) : Row :=
  ⟨name, e.value, e.stubs.toList.map (shasumOf f)⟩

/-- The stubs of an entry have shasums. -/
def Live (f : Fields) (e : Entry) : Prop :=
  ∀ index ∈ e.stubs, f (.stubShasum index) = some (shasumOf f index)

section Rows

variable {f g : Fields} {name : String} {e : Entry} {shasum : String} {index : UInt32}

/-- The shasum of the number of a page is that of the page. -/
theorem shasumOf_of_index (hcoherent : Coherent f) (hindex : f (.stubIndex shasum) = some index) :
    shasumOf f index = shasum := by
  rw [shasumOf, (hcoherent.stub_inverse shasum index).1 hindex]
  rfl

/-- A stub is in the row of an entry if its number is in the entry. -/
theorem mem_stubs_rowOf (hcoherent : Coherent f) (hlive : Live f e)
    (hindex : f (.stubIndex shasum) = some index) :
    shasum ∈ (rowOf f name e).stubs ↔ index ∈ e.stubs := by
  rw [rowOf, List.mem_map]
  constructor
  · rintro ⟨k, hk, rfl⟩
    have hinverse := (hcoherent.stub_inverse _ k).2 (hlive k hk)
    rw [hindex, Option.some.injEq] at hinverse
    rw [hinverse]
    exact hk
  · intro hmem
    exact ⟨index, hmem, shasumOf_of_index hcoherent hindex⟩

/-- The row of an entry depends on the shasums of its stubs alone. -/
theorem rowOf_congr (hsame : ∀ k ∈ e.stubs, g (.stubShasum k) = f (.stubShasum k)) :
    rowOf g name e = rowOf f name e := by
  unfold rowOf
  rw [List.map_congr_left fun k hk => ?_]
  rw [shasumOf, hsame k hk, shasumOf]

/-- The stubs of an entry keep their shasums. -/
theorem Live.congr (hlive : Live f e)
    (hsame : ∀ k ∈ e.stubs, g (.stubShasum k) = f (.stubShasum k)) : Live g e := by
  intro k hk
  have hshasum : shasumOf g k = shasumOf f k := by rw [shasumOf, hsame k hk, shasumOf]
  rw [hsame k hk, hshasum]
  exact hlive k hk

/-- Adding the highest number to an entry puts its shasum behind the others. -/
theorem rowOf_insert (hcoherent : Coherent f) (hlive : Live f e)
    (hindex : f (.stubIndex shasum) = some index) (hlast : ∀ k ∈ e.stubs, k ≤ index) :
    rowOf f name (e.withStubs (e.stubs.insert index)) = (rowOf f name e).post shasum := by
  have hmem : shasum ∈ (rowOf f name e).stubs ↔ index ∈ e.stubs :=
    mem_stubs_rowOf hcoherent hlive hindex
  unfold Row.post
  by_cases hposted : index ∈ e.stubs
  · rw [if_pos (hmem.2 hposted), StubSet.insert_of_mem hposted]
    rfl
  · -- Stubs ascend by number, so the shasum of the highest one comes last, as in the row.
    have hbelow : ∀ k ∈ e.stubs.toList, k < index := by
      intro k hk
      exact UInt32.lt_of_le_of_ne (hlast k hk) fun heq => hposted (heq ▸ hk)
    have hinsert : (e.stubs.insert index).toList = e.stubs.toList ++ [index] := by
      have happend : StubSet.insertInto index (e.stubs.toList ++ []) = e.stubs.toList ++ [index] :=
        PostingList.insertInto_append hbelow (by simp)
      rw [List.append_nil] at happend
      exact happend
    rw [if_neg fun h => hposted (hmem.1 h)]
    show Row.mk name e.value ((e.stubs.insert index).toList.map (shasumOf f)) = _
    rw [hinsert, List.map_append, List.map_singleton, shasumOf_of_index hcoherent hindex]
    rfl

/-- Taking a number out of an entry takes its shasum out of the row. -/
theorem rowOf_without (hcoherent : Coherent f) (hlive : Live f e)
    (hindex : f (.stubIndex shasum) = some index) :
    (e.without index).map (rowOf f name) = (rowOf f name e).without shasum := by
  have hothers : (rowOf f name e).stubs.filter (· ≠ shasum)
      = (e.stubs.erase index).toList.map (shasumOf f) := by
    show (e.stubs.toList.map (shasumOf f)).filter (· ≠ shasum)
      = (e.stubs.toList.filter (· ≠ index)).map (shasumOf f)
    rw [List.filter_map]
    congr 1
    refine List.filter_congr fun k hk => decide_eq_decide.2 (not_congr ?_)
    constructor
    · intro heq
      have hinverse := (hcoherent.stub_inverse _ k).2 (hlive k hk)
      rw [show shasumOf f k = shasum from heq, hindex, Option.some.injEq] at hinverse
      exact hinverse.symm
    · intro heq
      show shasumOf f k = shasum
      rw [heq, shasumOf_of_index hcoherent hindex]
  unfold Entry.without Row.without
  rw [hothers]
  by_cases hlast : e.stubs.erase index = ∅
  · rw [if_pos hlast, hlast]
    rfl
  · have hsome : (e.stubs.erase index).toList.map (shasumOf f) ≠ [] :=
      fun hnil => hlast (StubSet.toList_eq_nil_iff.1 (List.map_eq_nil_iff.1 hnil))
    rw [if_neg hlast, if_neg hsome]
    rfl

end Rows

/-! ## The relation -/

/-- The entries of an attribute are its rows. -/
structure Shown (f : Fields) (r : Reference) (name : Name) (entries : List Entry) : Prop where
  listing : Listing f name entries
  live : ∀ e ∈ entries, Live f e
  rows : r.rowsOf name.1 = entries.map (rowOf f name.1)

/-- The values that pages carry: they have a stored form, and no two have the same hash. -/
structure Distinct (used : Value → Prop) : Prop where
  storable : ∀ v, used v → v.Storable
  hash_injective : ∀ v w, used v → used w → v.hash = w.hash → v = w

/-- Fewer values are told apart if more are. -/
theorem Distinct.mono {used used' : Value → Prop} (h : Distinct used)
    (hfewer : ∀ v, used' v → used v) : Distinct used' where
  storable v hv := h.storable v (hfewer v hv)
  hash_injective v w hv hw := h.hash_injective v w (hfewer v hv) (hfewer w hw)

/-- The values of a list are told apart if they can be stored and their hashes differ. -/
theorem distinct_of_nodup {values : List Value} (hstored : ∀ v ∈ values, v.Storable)
    (hhashes : (values.map Value.hash).Nodup) : Distinct (· ∈ values) :=
  ⟨hstored, fun _ _ hv hw heq => List.inj_on_of_nodup_map hhashes hv hw heq⟩

/-- The tables stand for the reference. -/
structure Follows (used : Value → Prop) (f : Fields) (r : Reference) : Prop where
  coherent : Coherent f
  numbered : f.nextStub.toNat = r.numbered
  begun : ∀ name : Name, (f.nextSlot name).toNat = r.begun name.1
  live : ∀ shasum, shasum ∈ r.live ↔ f (.stubIndex shasum) ≠ none
  shown : ∀ name, ∃ entries, Shown f r name entries
  pairs : ∀ p ∈ r.rows.map Row.pair, isName p.1 = true ∧ used p.2

namespace Shown

variable {f g : Fields} {r : Reference} {name : Name} {entries front back : List Entry}
  {e : Entry} {value : Value} {shasum : String} {index : UInt32}

/-- The row of an entry is in the reference. -/
theorem rowOf_mem (h : Shown f r name entries) (he : e ∈ entries) :
    rowOf f name.1 e ∈ r.rows := by
  have hrow : rowOf f name.1 e ∈ r.rowsOf name.1 := by
    rw [h.rows]
    exact List.mem_map_of_mem he
  exact List.mem_of_mem_filter hrow

/-- A row of the attribute is that of an entry. -/
theorem exists_rowOf (h : Shown f r name entries) {row : Row} (hrow : row ∈ r.rows)
    (hname : row.name = name.1) : ∃ e ∈ entries, rowOf f name.1 e = row := by
  have hmem : row ∈ r.rowsOf name.1 := List.mem_filter.2 ⟨hrow, decide_eq_true hname⟩
  rwa [h.rows, List.mem_map] at hmem

/-- There is a row for every value with an entry. -/
theorem mem_pairs_iff (h : Shown f r name entries) :
    (name.1, value) ∈ r.rows.map Row.pair ↔ ∃ e ∈ entries, e.value = value := by
  rw [List.mem_map]
  constructor
  · rintro ⟨row, hrow, hpair⟩
    obtain ⟨e, he, rfl⟩ := h.exists_rowOf hrow (congrArg Prod.fst hpair)
    exact ⟨e, he, congrArg Prod.snd hpair⟩
  · rintro ⟨e, he, rfl⟩
    exact ⟨_, h.rowOf_mem he, rfl⟩

/-- A page carries a value if its number is in the entry of the value. -/
theorem posted_iff (h : Shown f r name entries) (hcoherent : Coherent f)
    (hindex : f (.stubIndex shasum) = some index) :
    r.Posted (name.1, value) shasum ↔ ∃ e ∈ entries, e.value = value ∧ index ∈ e.stubs := by
  constructor
  · rintro ⟨row, hrow, hpair, hshasum⟩
    obtain ⟨e, he, rfl⟩ := h.exists_rowOf hrow (congrArg Prod.fst hpair)
    exact ⟨e, he, congrArg Prod.snd hpair,
      (mem_stubs_rowOf hcoherent (h.live e he) hindex).1 hshasum⟩
  · rintro ⟨e, he, rfl, hmem⟩
    exact ⟨_, h.rowOf_mem he, rfl, (mem_stubs_rowOf hcoherent (h.live e he) hindex).2 hmem⟩

/-- What is shown depends on the cells of the attribute and the shasums of its stubs. -/
theorem congr (h : Shown f r name entries) {r' : Reference}
    (hcells : ∀ c, c.attribute = some name → g c = f c)
    (hshasums : ∀ e ∈ entries, ∀ k ∈ e.stubs, g (.stubShasum k) = f (.stubShasum k))
    (hrows : r'.rowsOf name.1 = r.rowsOf name.1) : Shown g r' name entries where
  listing := h.listing.congr hcells
  live e he := (h.live e he).congr (hshasums e he)
  rows := by
    rw [hrows, h.rows]
    exact List.map_congr_left fun e he => (rowOf_congr (hshasums e he)).symm

/-- Entries of other slots have other values. -/
theorem value_ne (h : Shown f r name (front ++ e :: back)) (hcoherent : Coherent f) {x : Entry}
    (hx : x ∈ front ++ back) : x.value ≠ e.value := by
  intro heq
  have hxin : x ∈ front ++ e :: back := by
    rcases List.mem_append.1 hx with hx | hx
    · exact List.mem_append_left _ hx
    · exact List.mem_append_right _ (List.mem_cons_of_mem _ hx)
  have he : e ∈ front ++ e :: back := List.mem_append_right _ (List.mem_cons_self ..)
  have hslot := h.listing.valueSlot hcoherent hxin
  rw [heq, h.listing.valueSlot hcoherent he, Option.some.injEq] at hslot
  exact h.listing.slot_ne hx hslot.symm

/-- A page is posted under the value of an entry if its number is in the entry. -/
theorem posted_iff_mem (h : Shown f r name (front ++ e :: back)) (hcoherent : Coherent f)
    (hindex : f (.stubIndex shasum) = some index) :
    r.Posted (name.1, e.value) shasum ↔ index ∈ e.stubs := by
  rw [h.posted_iff hcoherent hindex]
  constructor
  · rintro ⟨x, hx, heq, hmem⟩
    have hxe : x = e := by
      by_contra hne
      refine h.value_ne hcoherent ?_ heq
      simpa [hne] using hx
    rwa [hxe] at hmem
  · exact fun hmem => ⟨e, List.mem_append_right _ (List.mem_cons_self ..), rfl, hmem⟩

/-- The page with the highest number comes into the row of a value that there is. -/
theorem post_used (h : Shown f r name (front ++ e :: back)) (hcoherent : Coherent f)
    (hindex : f (.stubIndex shasum) = some index)
    (hlast : ∀ other k, f (.stubIndex other) = some k → k ≤ index) :
    (f.addValue name e.value index).1 = !decide (r.Posted (name.1, e.value) shasum) ∧
      Shown (f.addValue name e.value index).2 (r.post shasum (name.1, e.value)) name
        (front ++ e.withStubs (e.stubs.insert index) :: back) := by
  have he : e ∈ front ++ e :: back := List.mem_append_right _ (List.mem_cons_self ..)
  have hshasums : ∀ k, (f.addValue name e.value index).2 (.stubShasum k) = f (.stubShasum k) :=
    fun k => f.addValue_of_ne (by simp [Cell.attribute]) e.value index
  have hindexed : f (.stubShasum index) = some (shasumOf f index) := by
    rw [shasumOf_of_index hcoherent hindex, (hcoherent.stub_inverse _ _).1 hindex]
  obtain ⟨hadded, hlisting⟩ := h.listing.addValue_used hcoherent rfl index
  refine ⟨?_, hlisting, fun x hx => ?_, ?_⟩
  · rw [hadded, Bool.not_inj_iff, Bool.eq_iff_iff, StubSet.contains_iff, decide_eq_true_eq,
      h.posted_iff_mem hcoherent hindex]
  · have hlive : Live f x := by
      rcases List.mem_append.1 hx with hx | hx
      · exact h.live x (List.mem_append_left _ hx)
      · rcases List.mem_cons.1 hx with rfl | hx
        · intro k hk
          rcases StubSet.mem_insert.1 hk with rfl | hk
          · exact hindexed
          · exact h.live e he k hk
        · exact h.live x (List.mem_append_right _ (List.mem_cons_of_mem _ hx))
    exact hlive.congr fun k _ => hshasums k
  · have hrowOf : ∀ x ∈ front ++ e.withStubs (e.stubs.insert index) :: back,
        rowOf (f.addValue name e.value index).2 name.1 x = rowOf f name.1 x :=
      fun x _ => rowOf_congr fun k _ => hshasums k
    -- Only the row of `e` has the value, since other entries of the attribute have other values.
    have hkeep : ∀ x ∈ front ++ back, (if (rowOf f name.1 x).value = e.value
        then (rowOf f name.1 x).post shasum else rowOf f name.1 x) = rowOf f name.1 x :=
      fun x hx => if_neg (h.value_ne hcoherent hx)
    have hinsert : (if (rowOf f name.1 e).value = e.value
        then (rowOf f name.1 e).post shasum else rowOf f name.1 e)
        = rowOf f name.1 (e.withStubs (e.stubs.insert index)) := by
      rw [rowOf_insert hcoherent (h.live e he) hindex fun k hk =>
        hlast _ k ((hcoherent.stub_inverse _ k).2 (h.live e he k hk))]
      exact if_pos rfl
    rw [Reference.rowsOf_post_used (h.mem_pairs_iff.2 ⟨e, he, rfl⟩), h.rows,
      List.map_congr_left hrowOf, List.map_map, List.map_append, List.map_cons, List.map_append,
      List.map_cons]
    refine congrArg₂ (· ++ ·) ?_ (congrArg₂ List.cons hinsert ?_)
    · exact List.map_congr_left fun x hx => hkeep x (List.mem_append_left _ hx)
    · exact List.map_congr_left fun x hx => hkeep x (List.mem_append_right _ hx)

/-- A value that there is not yet gets a row behind the others. -/
theorem post_new (h : Shown f r name entries) (hcoherent : Coherent f)
    (hindex : f (.stubIndex shasum) = some index)
    (hhash : ∀ e ∈ entries, value.hash ≠ e.value.hash) :
    (f.addValue name value index).1 = !decide (r.Posted (name.1, value) shasum) ∧
      Shown (f.addValue name value index).2 (r.post shasum (name.1, value)) name
        (entries ++ [⟨f.nextSlot name, value, StubSet.insert index ∅⟩]) := by
  have hshasums : ∀ k, (f.addValue name value index).2 (.stubShasum k) = f (.stubShasum k) :=
    fun k => f.addValue_of_ne (by simp [Cell.attribute]) value index
  have hshasum := shasumOf_of_index hcoherent hindex
  have hfresh : ¬ ∃ e ∈ entries, e.value = value := by
    rintro ⟨e, he, rfl⟩
    exact hhash e he rfl
  have hposted : ¬ r.Posted (name.1, value) shasum := by
    rw [h.posted_iff hcoherent hindex]
    rintro ⟨e, he, heq, _⟩
    exact hfresh ⟨e, he, heq⟩
  obtain ⟨hadded, hlisting⟩ := h.listing.addValue_new hcoherent hhash index
  have hlive : ∀ x ∈ entries ++ [⟨f.nextSlot name, value, StubSet.insert index ∅⟩], Live f x := by
    intro x hx
    rcases List.mem_append.1 hx with hx | hx
    · exact h.live x hx
    · obtain rfl := List.mem_singleton.1 hx
      intro k hk
      rcases StubSet.mem_insert.1 hk with rfl | hk
      · rw [hshasum]
        exact (hcoherent.stub_inverse _ _).1 hindex
      · exact absurd hk StubSet.not_mem_empty
  refine ⟨by simp [hadded, hposted], hlisting, fun x hx => (hlive x hx).congr fun k _ =>
    hshasums k, ?_⟩
  rw [Reference.rowsOf_post_new (mt h.mem_pairs_iff.1 hfresh), h.rows,
    List.map_congr_left fun x _ => rowOf_congr fun k _ => hshasums k, List.map_append]
  have hrow : rowOf f name.1 ⟨f.nextSlot name, value, StubSet.insert index ∅⟩
      = ⟨name.1, value, [shasum]⟩ := by
    rw [← hshasum]
    rfl
  rw [List.map_singleton, hrow]

/-- An attribute with entries has a counter. -/
theorem nextSlot_ne_none (h : Shown f r name entries) (hcoherent : Coherent f)
    (he : e ∈ entries) : f (.nextSlot name) ≠ none := h.listing.nextSlot_ne_none hcoherent he

/-- As many rows have a page as entries have its number. -/
theorem countP_rowsOf (h : Shown f r name entries) (hcoherent : Coherent f)
    (hindex : f (.stubIndex shasum) = some index) :
    (r.rowsOf name.1).countP (shasum ∈ ·.stubs) = entries.countP (·.stubs.contains index) := by
  rw [h.rows, List.countP_map]
  refine List.countP_congr fun e he => ?_
  show decide (shasum ∈ (rowOf f name.1 e).stubs) = true ↔ _
  rw [decide_eq_true_eq, mem_stubs_rowOf hcoherent (h.live e he) hindex, StubSet.contains_iff]

/-- The rows lose a page as the entries lose its number. -/
theorem without (h : Shown f r name entries) (hcoherent : Coherent f)
    (hindex : f (.stubIndex shasum) = some index)
    (hlisting : Listing g name (entries.filterMap (Entry.without index)))
    (hshasums : ∀ k, k ≠ index → g (.stubShasum k) = f (.stubShasum k)) {r' : Reference}
    (hrows : r'.rows = r.rows.filterMap (Row.without shasum)) :
    Shown g r' name (entries.filterMap (Entry.without index)) := by
  have hsame : ∀ e ∈ entries, ∀ left, e.without index = some left →
      Live f left ∧ ∀ k ∈ left.stubs, g (.stubShasum k) = f (.stubShasum k) := by
    intro e he left hleft
    unfold Entry.without at hleft
    split at hleft
    · cases hleft
    · cases hleft
      constructor
      · exact fun k hk => h.live e he k (StubSet.mem_erase.1 hk).1
      · exact fun k hk => hshasums k (StubSet.mem_erase.1 hk).2
  refine ⟨hlisting, fun left hleft => ?_, ?_⟩
  · obtain ⟨e, he, hwithout⟩ := List.mem_filterMap.1 hleft
    obtain ⟨hlive, hkeep⟩ := hsame e he left hwithout
    exact hlive.congr hkeep
  · rw [Reference.rowsOf, hrows, Reference.rowsOf_filterMap_without]
    show (r.rowsOf name.1).filterMap (Row.without shasum) = _
    rw [h.rows, List.filterMap_map, List.map_filterMap]
    refine List.filterMap_congr fun e he => ?_
    show (rowOf f name.1 e).without shasum = _
    rw [← rowOf_without hcoherent (h.live e he) hindex]
    cases hleft : e.without index with
    | none => rfl
    | some left => exact congrArg some (rowOf_congr (hsame e he left hleft).2).symm

end Shown

/-! ## What requests do to the tables -/

namespace Attributes

variable {t : Namespace → Fields} {f g : Fields} {stub : Page.Stub} {page : Page} {index : UInt32}

/-- A page that has a number is not posted again. -/
theorem takes_add_known (hindex : f (.stubIndex stub.shasum) = some index) :
    Takes (Shows t .context) (Attributes.add stub page) f (.ok 0) f := by
  have hstub : Takes (Shows t .context) (Tables.stubIndex? .context stub.shasum) f
      (.ok (some index)) f := hindex ▸ takes_stubIndex? stub.shasum
  exact Takes.bind hstub (Takes.pure 0)

/-- A page without a number is given one and posted under its values. -/
theorem takes_add_new (hindex : f (.stubIndex stub.shasum) = none) {out : Outcome Nat}
    (hadd : Takes (Shows t .context)
      (addAll (f.ensureStub stub.shasum).1 (postings page.context)) (f.ensureStub stub.shasum).2
      out g) : Takes (Shows t .context) (Attributes.add stub page) f out g := by
  have hstub : Takes (Shows t .context) (Tables.stubIndex? .context stub.shasum) f (.ok none) f :=
    hindex ▸ takes_stubIndex? stub.shasum
  exact Takes.bind hstub (Takes.bind (takes_ensureStub stub.shasum) hadd)

/-- A pair whose attribute is a name is posted, and the others behind it. -/
theorem takes_addAll_cons (name : Name) (value : Value) {rest : List (String × Value)}
    {out : Outcome Nat}
    (hrest : Takes (Shows t .context) (addAll index rest) (f.addValue name value index).2 out g) :
    Takes (Shows t .context) (addAll index ((name.1, value) :: rest)) f
      (out.map fun more => if (f.addValue name value index).1 then more + 1 else more) g := by
  cases out with
  | error fault => exact Takes.bind (takes_addValue name value index) (Takes.bind_error hrest)
  | ok more =>
      exact Takes.bind (takes_addValue name value index) (Takes.bind hrest (Takes.pure _))

/-- Posting ends at a pair whose attribute is no name. -/
theorem takes_addAll_invalid {p : String × Value} (hname : ¬ isName p.1 = true)
    (rest : List (String × Value)) :
    Takes (Shows t .context) (addAll index (p :: rest)) f (.error (.invalidName p.1)) f :=
  Takes.bind_error (takes_addValue_invalid hname p.2 index)

/-- Taking out a page that has no number does nothing. -/
theorem takes_remove_unknown (hindex : f (.stubIndex stub.shasum) = none) :
    Takes (Shows t .context) (Attributes.remove stub) f (.ok 0) f := by
  have hstub : Takes (Shows t .context) (Tables.stubIndex? .context stub.shasum) f (.ok none) f :=
    hindex ▸ takes_stubIndex? stub.shasum
  exact Takes.bind hstub (Takes.pure 0)

/-- A page that has a number is taken from all attributes before it is forgotten. -/
theorem takes_remove_known (hindex : f (.stubIndex stub.shasum) = some index)
    {names : List String} {count : Nat}
    (hnames : Takes (Shows t .context) (Tables.attributes .context) f (.ok names) f)
    (hremove : Takes (Shows t .context) (removeFromAll index names) f (.ok count) g) :
    Takes (Shows t .context) (Attributes.remove stub) f (.ok count)
      (g.forgetStub stub.shasum).2 := by
  have hstub : Takes (Shows t .context) (Tables.stubIndex? .context stub.shasum) f
      (.ok (some index)) f := hindex ▸ takes_stubIndex? stub.shasum
  exact Takes.bind hstub (Takes.bind hnames (Takes.bind hremove
    (Takes.bind (takes_forgetStub stub.shasum) (Takes.pure _))))

end Attributes

namespace Follows

variable {used : Value → Prop} {t : Namespace → Fields} {f g : Fields} {r : Reference}
  {name : Name} {entries : List Entry} {shasum : String} {index : UInt32}

/-- Empty tables stand for the empty index. -/
theorem empty : Follows used (fun _ => none) {} where
  coherent := Coherent.empty
  numbered := rfl
  begun _ := rfl
  live := by simp
  shown name := ⟨[], ⟨.nil, by simp⟩, by simp, rfl⟩
  pairs := by simp

/-- A page that has a number is live. -/
theorem mem_live (h : Follows used f r) (hindex : f (.stubIndex shasum) = some index) :
    shasum ∈ r.live := by
  rw [h.live, hindex]
  exact Option.some_ne_none index

/-- A page without a number is not live. -/
theorem not_mem_live (h : Follows used f r) (hindex : f (.stubIndex shasum) = none) :
    shasum ∉ r.live := by
  rw [h.live, hindex]
  exact fun hne => hne rfl

/-- The values of entries are used. -/
theorem used_value (h : Follows used f r) (hshown : Shown f r name entries) {e : Entry}
    (he : e ∈ entries) : used e.value :=
  (h.pairs (name.1, e.value) (hshown.mem_pairs_iff.2 ⟨e, he, rfl⟩)).2

/-- Only live pages carry values. -/
theorem live_of_posted (h : Follows used f r) {p : String × Value} (hp : r.Posted p shasum) :
    shasum ∈ r.live := by
  obtain ⟨row, hrow, rfl, hshasum⟩ := hp
  obtain ⟨entries, hshown⟩ := h.shown ⟨row.name, (h.pairs _ (List.mem_map_of_mem hrow)).1⟩
  obtain ⟨e, he, heq⟩ := hshown.exists_rowOf hrow rfl
  rw [← heq] at hshasum
  obtain ⟨k, hk, rfl⟩ := List.mem_map.1 hshasum
  exact h.mem_live ((h.coherent.stub_inverse _ k).2 (hshown.live e he k hk))

/-- The values of an attribute are those of the reference. -/
theorem takes_values (h : Follows used f r) (hdistinct : Distinct used) (name : Name) :
    Takes (Shows t .context) (Attributes.values name.1) f (.ok (r.values name.1)) f := by
  obtain ⟨entries, hshown⟩ := h.shown name
  have hvalues : r.values name.1 = (entries.map Entry.postings).map fun e =>
      (e.value, e.postings.stubs.map (shasumOf f)) := by
    rw [Reference.values, hshown.rows, List.map_map, List.map_map]
    rfl
  rw [hvalues]
  refine Takes.bind (Posting.takes_values h.coherent hshown.listing fun e he =>
    hdistinct.storable _ (h.used_value hshown he)) (Takes.mapM fun x hx => ?_)
  obtain ⟨e, he, rfl⟩ := List.mem_map.1 hx
  exact Takes.bind (takes_shasums (hshown.live e he)) (Takes.pure _)

/-! ## Adding pages -/

/-- A page that gets a number carries nothing yet. -/
theorem number (h : Follows used f r) (hnew : f (.stubIndex shasum) = none)
    (hroom : r.numbered + 1 < UInt32.size) :
    Follows used (f.ensureStub shasum).2 (r.number shasum) := by
  have hnext : f.nextStub.toNat + 1 < UInt32.size := by
    rw [h.numbered]
    exact hroom
  have hcoherent := h.coherent.ensureStub shasum fun _ => hnext
  have hensure : (f.ensureStub shasum).2 = ((f.put (.stubIndex shasum) (some f.nextStub)).put
      (.stubShasum f.nextStub) (some shasum)).put .nextStub (some (f.nextStub + 1)) := by
    rw [Fields.ensureStub, hnew]
  refine ⟨hcoherent, ?_, fun name => ?_, fun other => ?_, fun name => ?_, h.pairs⟩
  · rw [hensure]
    show (((f.put _ _).put _ _).put .nextStub _).nextStub.toNat = r.numbered + 1
    rw [Fields.nextStub_put, toNat_succ hnext, h.numbered]
  · rw [hensure, Reference.number]
    simpa [Fields.nextSlot] using h.begun name
  · rw [hensure, Reference.number]
    by_cases hother : other = shasum
    · simp [hother]
    · simp [hother, h.live]
  · obtain ⟨entries, hshown⟩ := h.shown name
    refine ⟨entries, hshown.congr (fun c hc => ?_) (fun e he k hk => ?_) rfl⟩
    · rw [hensure, Fields.put_of_ne _ (Cell.ne_of_attribute hc rfl),
        Fields.put_of_ne _ (Cell.ne_of_attribute hc rfl),
        Fields.put_of_ne _ (Cell.ne_of_attribute hc rfl)]
    · have hlive := hshown.live e he k hk
      have hlt := h.coherent.stub_lt _ k ((h.coherent.stub_inverse _ k).2 hlive)
      rw [hensure]
      have hne : k ≠ f.nextStub := fun heq => UInt32.lt_irrefl k (heq ▸ hlt)
      simp [hne]

/-- A page that gets a number gets the highest one. -/
theorem number_last (h : Follows used f r) (hnew : f (.stubIndex shasum) = none)
    (hroom : r.numbered + 1 < UInt32.size) :
    (f.ensureStub shasum).2 (.stubIndex shasum) = some f.nextStub ∧
      ∀ other k, (f.ensureStub shasum).2 (.stubIndex other) = some k → k ≤ f.nextStub := by
  have hnext : f.nextStub.toNat + 1 < UInt32.size := by
    rw [h.numbered]
    exact hroom
  have hcounter : (f.ensureStub shasum).2.nextStub = f.nextStub + 1 := by
    rw [Fields.ensureStub, hnew]
    exact Fields.nextStub_put _ _
  constructor
  · rw [Fields.ensureStub, hnew]
    simp
  · intro other k hk
    have hlt := (h.number hnew hroom).coherent.stub_lt other k hk
    rw [hcounter, lt_succ_iff hnext] at hlt
    rcases hlt with hlt | rfl
    · exact UInt32.le_of_lt hlt
    · exact UInt32.le_refl _

/-- A value has no slot if there is no row for it. -/
theorem valueSlot_eq_none_iff (h : Follows used f r) (hdistinct : Distinct used)
    (hshown : Shown f r name entries) {value : Value} (hvalue : used value) :
    f (.valueSlot name value.hash) = none ↔ (name.1, value) ∉ r.rows.map Row.pair := by
  rw [hshown.mem_pairs_iff, ← Option.not_isSome_iff_eq_none, not_iff_not]
  constructor
  · intro hsome
    obtain ⟨slot, hslot⟩ := Option.isSome_iff_exists.1 hsome
    obtain ⟨e, he, _, hhash⟩ := hshown.listing.exists_of_valueSlot h.coherent hslot
    exact ⟨e, he, hdistinct.hash_injective _ _ (h.used_value hshown he) hvalue hhash⟩
  · rintro ⟨e, he, rfl⟩
    rw [hshown.listing.valueSlot h.coherent he]
    rfl

/-- The row of the value gets the page with the highest number, be it new or not. -/
theorem shown_post (h : Follows used f r) (hdistinct : Distinct used)
    (hshown : Shown f r name entries) (hindex : f (.stubIndex shasum) = some index)
    (hlast : ∀ other k, f (.stubIndex other) = some k → k ≤ index) {value : Value}
    (hvalue : used value) :
    (f.addValue name value index).1 = !decide (r.Posted (name.1, value) shasum) ∧
      ∃ after,
        Shown (f.addValue name value index).2 (r.post shasum (name.1, value)) name after := by
  by_cases hfound : ∃ e ∈ entries, e.value = value
  · obtain ⟨e, he, rfl⟩ := hfound
    obtain ⟨front, back, rfl⟩ := List.append_of_mem he
    obtain ⟨hadded, hafter⟩ := hshown.post_used h.coherent hindex hlast
    exact ⟨hadded, _, hafter⟩
  · obtain ⟨hadded, hafter⟩ := hshown.post_new h.coherent hindex fun e he heq =>
      hfound ⟨e, he, (hdistinct.hash_injective _ _ hvalue (h.used_value hshown he) heq).symm⟩
    exact ⟨hadded, _, hafter⟩

/-- Posting the page with the highest number puts it into the row of the value. -/
theorem post (h : Follows used f r) (hdistinct : Distinct used)
    (hindex : f (.stubIndex shasum) = some index)
    (hlast : ∀ other k, f (.stubIndex other) = some k → k ≤ index) (name : Name) {value : Value}
    (hvalue : used value)
    (hroom : (r.post shasum (name.1, value)).begun name.1 < UInt32.size) :
    (f.addValue name value index).1 = !decide (r.Posted (name.1, value) shasum) ∧
      Follows used (f.addValue name value index).2 (r.post shasum (name.1, value)) := by
  obtain ⟨entries, hshown⟩ := h.shown name
  have hslot := h.valueSlot_eq_none_iff hdistinct hshown hvalue
  have hbegun : ∀ other : Name, (r.post shasum (name.1, value)).begun other.1
      = if other = name ∧ f (.valueSlot name value.hash) = none then r.begun other.1 + 1
        else r.begun other.1 := by
    intro other
    rw [Reference.begun_post]
    exact if_congr (and_congr Subtype.ext_iff.symm hslot.symm) rfl rfl
  have hcounter : f (.valueSlot name value.hash) = none →
      (f.nextSlot name).toNat + 1 < UInt32.size := by
    intro hnone
    have hcount := hbegun name
    rw [if_pos ⟨rfl, hnone⟩, ← h.begun name] at hcount
    omega
  obtain ⟨hadded, after, hafter⟩ := h.shown_post hdistinct hshown hindex hlast hvalue
  refine ⟨hadded, h.coherent.addValue name value index hcounter, ?_, fun other => ?_,
    fun other => ?_, fun other => ?_, fun p hp => ?_⟩
  · rw [Reference.numbered_post, ← h.numbered, Fields.nextStub,
      f.addValue_of_ne (by simp [Cell.attribute]), Fields.nextStub]
  · rw [f.nextSlot_addValue, hbegun]
    split
    case isTrue hnew =>
      obtain ⟨rfl, hnone⟩ := hnew
      rw [toNat_succ (hcounter hnone), h.begun]
    case isFalse => exact h.begun other
  · rw [Reference.live_post, f.addValue_of_ne (by simp [Cell.attribute])]
    exact h.live other
  · by_cases hother : other = name
    · subst hother
      exact ⟨after, hafter⟩
    · obtain ⟨others, hshown'⟩ := h.shown other
      refine ⟨others, hshown'.congr (fun c hc => ?_) (fun _ _ k _ => ?_)
        (Reference.rowsOf_post_of_ne fun heq => hother (Subtype.ext heq))⟩
      · exact f.addValue_of_ne (by rw [hc]; simpa using hother) value index
      · exact f.addValue_of_ne (by simp [Cell.attribute]) value index
  · rcases Reference.mem_pairs_post.1 hp with rfl | hp
    · exact ⟨name.2, hvalue⟩
    · exact h.pairs p hp

/-- Posting a page under pairs one after the other; the first attribute that is no name ends it. -/
theorem takes_addAll (h : Follows used f r) (hdistinct : Distinct used)
    (hindex : f (.stubIndex shasum) = some index)
    (hlast : ∀ other k, f (.stubIndex other) = some k → k ≤ index)
    (pairs : List (String × Value)) (hused : ∀ p ∈ pairs, used p.2)
    (hroom : ∀ name,
      ((pairs.takeWhile fun p => isName p.1).foldl (Reference.post shasum) r).begun name
        < UInt32.size) :
    ∃ g, Takes (Shows t .context) (Attributes.addAll index pairs) f
        (match pairs.find? fun p => !isName p.1 with
          | some p => .error (.invalidName p.1)
          | none => .ok (r.fresh shasum pairs)) g ∧
      Follows used g
        ((pairs.takeWhile fun p => isName p.1).foldl (Reference.post shasum) r) := by
  -- The page keeps the highest number all the while, so that every post is a `post` of it.
  induction pairs generalizing f r with
  | nil => exact ⟨f, Takes.pure 0, h⟩
  | cons p rest ih =>
      obtain ⟨name, value⟩ := p
      by_cases hname : isName name = true
      · have htake : ((name, value) :: rest).takeWhile (fun p => isName p.1)
            = (name, value) :: rest.takeWhile fun p => isName p.1 :=
          List.takeWhile_cons_of_pos hname
        have hfind : ((name, value) :: rest).find? (fun p => !isName p.1)
            = rest.find? fun p => !isName p.1 := List.find?_cons_of_neg (by simpa using hname)
        rw [htake, List.foldl_cons] at hroom ⊢
        rw [hfind]
        have hbegun := Reference.begun_le_foldl_post shasum
          (rest.takeWhile fun p => isName p.1) (r.post shasum (name, value)) name
        obtain ⟨hadded, hafter⟩ := h.post hdistinct hindex hlast ⟨name, hname⟩
          (hused _ (List.mem_cons_self ..)) (Nat.lt_of_le_of_lt hbegun (hroom name))
        have hstubs : ∀ other, (f.addValue ⟨name, hname⟩ value index).2 (.stubIndex other)
            = f (.stubIndex other) :=
          fun other => f.addValue_of_ne (by simp [Cell.attribute]) value index
        obtain ⟨g, hrest, hfollows⟩ := ih hafter (by rw [hstubs, hindex])
          (fun other k hk => hlast other k (by rwa [hstubs] at hk))
          (fun p hp => hused p (List.mem_cons_of_mem _ hp)) hroom
        have hall := Attributes.takes_addAll_cons ⟨name, hname⟩ value hrest
        rw [hadded] at hall
        refine ⟨g, ?_, hfollows⟩
        cases hinvalid : rest.find? fun p => !isName p.1 with
        | some p =>
            rw [hinvalid] at hall
            exact hall
        | none =>
            rw [hinvalid] at hall
            dsimp only
            rw [Reference.fresh_cons]
            by_cases hposted : r.Posted (name, value) shasum
            · rw [decide_eq_true hposted] at hall
              rw [if_pos hposted]
              exact hall
            · rw [decide_eq_false hposted] at hall
              rw [if_neg hposted]
              exact hall
      · have htake : ((name, value) :: rest).takeWhile (fun p => isName p.1) = [] :=
          List.takeWhile_cons_of_neg hname
        have hfind : ((name, value) :: rest).find? (fun p => !isName p.1) = some (name, value) :=
          List.find?_cons_of_pos (by simpa using hname)
        rw [htake, hfind]
        exact ⟨f, Attributes.takes_addAll_invalid hname rest, h⟩

/-- Adding a page follows the reference. -/
theorem takes_add (h : Follows used f r) (hdistinct : Distinct used) (stub : Page.Stub)
    (page : Page) (hused : ∀ p ∈ Attributes.postings page.context, used p.2)
    (hnumbered : (r.add stub.shasum (Attributes.postings page.context)).2.numbered < UInt32.size)
    (hbegun : ∀ name, (r.add stub.shasum (Attributes.postings page.context)).2.begun name
      < UInt32.size) :
    ∃ g, Takes (Shows t .context) (Attributes.add stub page) f
        (r.add stub.shasum (Attributes.postings page.context)).1 g ∧
      Follows used g (r.add stub.shasum (Attributes.postings page.context)).2 := by
  unfold Reference.add at hnumbered hbegun ⊢
  cases hindex : f (.stubIndex stub.shasum) with
  | some index =>
      rw [if_pos (h.mem_live hindex)]
      exact ⟨f, Attributes.takes_add_known hindex, h⟩
  | none =>
      have hlive := h.not_mem_live hindex
      rw [if_neg hlive] at hnumbered hbegun ⊢
      have hroom : r.numbered + 1 < UInt32.size := by
        rwa [Reference.numbered_foldl_post] at hnumbered
      have hnumber := h.number hindex hroom
      have hensure : f.ensureStub stub.shasum = (f.nextStub, (f.ensureStub stub.shasum).2) := by
        rw [Fields.ensureStub, hindex]
      obtain ⟨hnew, hlast⟩ := h.number_last hindex hroom
      have hnone : ∀ p, ¬ (r.number stub.shasum).Posted p stub.shasum :=
        fun p hp => hlive (h.live_of_posted hp)
      obtain ⟨g, hadd, hfollows⟩ := hnumber.takes_addAll hdistinct hnew hlast
        (Attributes.postings page.context) hused hbegun
      rw [Reference.fresh_of_not_posted hnone] at hadd
      refine ⟨g, Attributes.takes_add_new hindex ?_, hfollows⟩
      rw [hensure]
      exact hadd

/-! ## Taking pages out -/

/-- An entry is read with a stub if it has it. -/
theorem contains_postings {e : Entry} (index : UInt32) :
    e.postings.postings.contains index = e.stubs.contains index :=
  PostingList.contains_toList e.stubs index

/-- An entry without the stub stays as it is. -/
theorem without_of_not_mem (hcoherent : Coherent f) (hlisting : Listing f name entries) {e : Entry}
    (he : e ∈ entries) (hmem : index ∉ e.stubs) : e.without index = some e := by
  rw [Entry.without, StubSet.erase_of_not_mem hmem,
    if_neg (hcoherent.postings_ne _ _ ((hlisting.mem_iff e).1 he).2)]
  rfl

/-- Taking a stub out of the entries of an attribute one after the other. -/
theorem takes_removeFrom (hcoherent : Coherent f) {front rest : List Entry}
    (hlisting : Listing f name (front ++ rest)) (index : UInt32) :
    ∃ g, Takes (Shows t .context)
        (Attributes.removeFrom index name.1 (rest.map Entry.postings)) f
        (.ok (rest.countP (·.stubs.contains index))) g ∧
      Coherent g ∧ Listing g name (front ++ rest.filterMap (Entry.without index)) ∧
      ∀ c, c.attribute ≠ some name ∨ c = .nextSlot name → g c = f c := by
  -- The entries before the ones to come are those that were gone through and still have stubs.
  induction rest generalizing f front with
  | nil => exact ⟨f, Takes.pure 0, hcoherent, hlisting, fun _ _ => rfl⟩
  | cons e rest ih =>
      by_cases hmem : index ∈ e.stubs
      · have hcontains : e.postings.postings.contains index = true := by
          rw [contains_postings, StubSet.contains_iff]
          exact hmem
        obtain ⟨hremoved, hafter⟩ := hlisting.removeValue hcoherent hmem
        obtain ⟨g, hrest, hcoherent', hlisting', hsame⟩ :=
          ih (hcoherent.removeValue name e.value index) hafter
        refine ⟨g, ?_, hcoherent', ?_, fun c hc => ?_⟩
        · rw [List.countP_cons_of_pos (p := fun x : Entry => x.stubs.contains index)
            (StubSet.contains_iff.2 hmem), List.map_cons,
            Attributes.removeFrom, if_pos hcontains]
          have hremove : Takes (Shows t .context) (Tables.removeValue .context name.1 e.value index)
              f (.ok (f.removeValue name e.value index).1) (f.removeValue name e.value index).2 :=
            takes_removeValue name e.value index
          rw [hremoved] at hremove
          exact Takes.bind hremove (Takes.bind hrest (Takes.pure _))
        · rw [List.append_assoc] at hlisting'
          rw [List.filterMap_cons]
          cases hwithout : e.without index with
          | none => simpa [hwithout] using hlisting'
          | some left => simpa [hwithout] using hlisting'
        · rw [hsame c hc, f.removeValue_of_ne hc]
      · have hcontains : e.postings.postings.contains index = false := by
          rw [contains_postings, Bool.eq_false_iff, ne_eq, StubSet.contains_iff]
          exact hmem
        have hwithout : e.without index = some e := without_of_not_mem hcoherent hlisting
          (List.mem_append_right _ (List.mem_cons_self ..)) hmem
        have hlisting' : Listing f name ((front ++ [e]) ++ rest) := by simpa using hlisting
        obtain ⟨g, hrest, hcoherent', hlisting', hsame⟩ := ih hcoherent hlisting'
        refine ⟨g, ?_, hcoherent', ?_, hsame⟩
        · rw [List.countP_cons_of_neg (p := fun x : Entry => x.stubs.contains index)
            (mt StubSet.contains_iff.1 hmem), List.map_cons,
            Attributes.removeFrom, hcontains]
          exact Takes.bind (Takes.pure false) (Takes.bind hrest (Takes.pure _))
        · rw [List.filterMap_cons, hwithout]
          simpa using hlisting'

/-- Taking a stub out of the entries of several attributes. -/
theorem takes_removeFromAll (hcoherent : Coherent f) {entries : Name → List Entry}
    {names : List Name} (hnodup : names.Nodup)
    (hlisting : ∀ name ∈ names, Listing f name (entries name))
    (hstorable : ∀ name, ∀ e ∈ entries name, e.value.Storable) (index : UInt32) :
    ∃ g, Takes (Shows t .context) (Attributes.removeFromAll index (names.map (·.1))) f
        (.ok (names.map fun name => (entries name).countP (·.stubs.contains index)).sum) g ∧
      Coherent g ∧
      (∀ name ∈ names, Listing g name ((entries name).filterMap (Entry.without index))) ∧
      ∀ c, (∀ name ∈ names, c.attribute ≠ some name) ∨ (∃ name, c = .nextSlot name) →
        g c = f c := by
  -- The first attribute changes its own cells alone, so that the others are still listed.
  induction names generalizing f with
  | nil => exact ⟨f, Takes.pure 0, hcoherent, by simp, fun _ _ => rfl⟩
  | cons name rest ih =>
      obtain ⟨hname, hrest⟩ := List.nodup_cons.1 hnodup
      have hfirst := hlisting name (List.mem_cons_self ..)
      have hvalues : Takes (Shows t .context) (Tables.values .context name.1) f
          (.ok ((entries name).map Entry.postings)) f :=
        Posting.takes_values hcoherent hfirst (hstorable name)
      have hwhole : Listing f name ([] ++ entries name) := hfirst
      obtain ⟨g, hremove, hcoherent', hafter, hsame⟩ := takes_removeFrom hcoherent hwhole index
      have hothers : ∀ other ∈ rest, Listing g other (entries other) := by
        intro other hother
        refine (hlisting other (List.mem_cons_of_mem _ hother)).congr fun c hc => hsame c (.inl ?_)
        rw [hc]
        intro heq
        exact hname (Option.some.inj heq ▸ hother)
      obtain ⟨g', hmore, hcoherent'', hafter', hsame'⟩ := ih hcoherent' hrest hothers
      refine ⟨g', Takes.bind hvalues (Takes.bind hremove (Takes.bind hmore (Takes.pure _))),
        hcoherent'', fun other hother => ?_, fun c hc => ?_⟩
      · rcases List.mem_cons.1 hother with rfl | hother
        · refine hafter.congr fun c hc => hsame' c (.inl fun n hn heq => ?_)
          rw [hc] at heq
          exact hname (Option.some.inj heq ▸ hn)
        · exact hafter' other hother
      · rcases hc with hc | ⟨n, rfl⟩
        · rw [hsame' c (.inl fun n hn => hc n (List.mem_cons_of_mem _ hn)),
            hsame c (.inl (hc name (List.mem_cons_self ..)))]
        · rw [hsame' _ (.inr ⟨n, rfl⟩)]
          by_cases hn : n = name
          · exact hsame _ (.inr (hn ▸ rfl))
          · exact hsame _ (.inl fun heq => hn (Option.some.inj heq))

/-- Taking a stub out of all attributes that have a counter leaves it under no value. -/
theorem takes_removeEverywhere (hcoherent : Coherent f) {entries : Name → List Entry}
    {names : List Name} (hnodup : names.Nodup)
    (hnames : ∀ name, name ∈ names ↔ f (.nextSlot name) ≠ none)
    (hlisting : ∀ name, Listing f name (entries name))
    (hstorable : ∀ name, ∀ e ∈ entries name, e.value.Storable) (index : UInt32) :
    ∃ g, Takes (Shows t .context) (Attributes.removeFromAll index (names.map (·.1))) f
        (.ok (names.map fun name => (entries name).countP (·.stubs.contains index)).sum) g ∧
      Coherent g ∧ (∀ name, Listing g name ((entries name).filterMap (Entry.without index))) ∧
      (∀ {c}, c.attribute = none → g c = f c) ∧
      ∀ name, g (.nextSlot name) = f (.nextSlot name) := by
  obtain ⟨g, hremove, hcoherent', hafter, hsame⟩ := takes_removeFromAll (t := t) hcoherent hnodup
    (fun name _ => hlisting name) hstorable index
  refine ⟨g, hremove, hcoherent', fun name => ?_, fun hc => hsame _ (.inl fun name _ => hc ▸ nofun),
    fun name => hsame _ (.inr ⟨name, rfl⟩)⟩
  -- An attribute that is not gone through never had a value, so it has no entries to lose.
  by_cases hname : name ∈ names
  · exact hafter name hname
  · have hnone : entries name = [] := List.eq_nil_iff_forall_not_mem.2 fun e he =>
      hname ((hnames name).2 ((hlisting name).nextSlot_ne_none hcoherent he))
    have hcells : ∀ c, c.attribute = some name → g c = f c := by
      refine fun c hc => hsame c (.inl fun n hn heq => ?_)
      rw [hc] at heq
      exact hname (Option.some.inj heq ▸ hn)
    have hlisting := (hlisting name).congr hcells
    rwa [hnone] at hlisting ⊢

/-- A page that has a number is taken out of all attributes that the tables have. -/
theorem exists_takes_remove {m : OrderedMap Bytes}
    (hm : Stored m (Function.update t .context f)) (hcoherent : Coherent f)
    {entries : Name → List Entry} (hlisting : ∀ name, Listing f name (entries name))
    (hstorable : ∀ name, ∀ e ∈ entries name, e.value.Storable) {stub : Page.Stub}
    (hindex : f (.stubIndex stub.shasum) = some index) :
    ∃ names : List Name, names.Nodup ∧ (∀ name, name ∈ names ↔ f (.nextSlot name) ≠ none) ∧
      ∃ g, Takes (Shows t .context) (Attributes.remove stub) f
          (.ok (names.map fun name => (entries name).countP (·.stubs.contains index)).sum)
          (g.forgetStub stub.shasum).2 ∧
        Coherent g ∧ (∀ name, Listing g name ((entries name).filterMap (Entry.without index))) ∧
        (∀ {c}, c.attribute = none → g c = f c) ∧
        ∀ name, g (.nextSlot name) = f (.nextSlot name) := by
  obtain ⟨names, hnodup, hnames, hattributes⟩ := exists_takes_attributes hm
  obtain ⟨g, hremove, hafter⟩ :=
    takes_removeEverywhere (t := t) hcoherent hnodup hnames hlisting hstorable index
  exact ⟨names, hnodup, hnames, g, Attributes.takes_remove_known hindex hattributes hremove, hafter⟩

/-- The rows of a page are counted by the entries that have its number. -/
theorem countP_rows (h : Follows used f r) (hindex : f (.stubIndex shasum) = some index)
    {entries : Name → List Entry} (hshown : ∀ name, Shown f r name (entries name))
    {names : List Name} (hnodup : names.Nodup)
    (hnames : ∀ name, name ∈ names ↔ f (.nextSlot name) ≠ none) :
    r.rows.countP (shasum ∈ ·.stubs)
      = (names.map fun name => (entries name).countP (·.stubs.contains index)).sum := by
  have hdistinctNames : (names.map (·.1)).Nodup := hnodup.map Subtype.val_injective
  have hcover : ∀ row ∈ r.rows, row.name ∈ names.map (·.1) := by
    intro row hrow
    have hname := (h.pairs _ (List.mem_map_of_mem hrow)).1
    obtain ⟨e, he, _⟩ := (hshown ⟨row.name, hname⟩).exists_rowOf hrow rfl
    have hcounter := (hshown ⟨row.name, hname⟩).nextSlot_ne_none h.coherent he
    exact List.mem_map.2 ⟨⟨row.name, hname⟩, (hnames _).2 hcounter, rfl⟩
  rw [Reference.countP_eq_sum _ hdistinctNames hcover, List.map_map]
  congr 1
  exact List.map_congr_left fun name _ => (hshown name).countP_rowsOf h.coherent hindex

/-- Once all entries have lost the number of a page, forgetting the page leaves the reference
without it. -/
theorem forget (h : Follows used f r) (hindex : f (.stubIndex shasum) = some index)
    {entries : Name → List Entry} (hshown : ∀ name, Shown f r name (entries name))
    (hcoherent : Coherent g)
    (hlistings : ∀ name, Listing g name ((entries name).filterMap (Entry.without index)))
    (hplain : ∀ {c}, c.attribute = none → g c = f c)
    (hcounters : ∀ name, g (.nextSlot name) = f (.nextSlot name)) :
    Follows used (g.forgetStub shasum).2 (r.remove shasum).2 := by
  have hindex' : g (.stubIndex shasum) = some index := by
    rw [hplain rfl]
    exact hindex
  have hforget : (g.forgetStub shasum).2
      = (g.put (.stubIndex shasum) none).put (.stubShasum index) none := by
    rw [Fields.forgetStub, hindex']
  rw [Reference.remove, if_pos (h.mem_live hindex)]
  refine ⟨hcoherent.forgetStub _, ?_, fun name => ?_, fun other => ?_, fun name => ?_,
    fun p hp => ?_⟩
  · rw [hforget]
    have hcounter : g .nextStub = f .nextStub := hplain rfl
    simpa [Fields.nextStub, hcounter] using h.numbered
  · rw [hforget]
    simpa [Fields.nextSlot, hcounters] using h.begun name
  · rw [hforget]
    by_cases hother : other = shasum
    · simp [hother]
    · have hother' : g (.stubIndex other) = f (.stubIndex other) := hplain rfl
      simp [hother, h.live, hother']
  · refine ⟨_, (hshown name).without h.coherent hindex ((hlistings name).congr fun c hc => ?_)
      (fun k hk => ?_) rfl⟩
    · rw [hforget, Fields.put_of_ne _ (Cell.ne_of_attribute hc rfl),
        Fields.put_of_ne _ (Cell.ne_of_attribute hc rfl)]
    · have hplain' : g (.stubShasum k) = f (.stubShasum k) := hplain rfl
      rw [hforget]
      simp [hk, hplain']
  · obtain ⟨left, hleft, rfl⟩ := List.mem_map.1 hp
    obtain ⟨row, hrow, hwithout⟩ := List.mem_filterMap.1 hleft
    rw [Row.pair_of_without hwithout]
    exact h.pairs _ (List.mem_map_of_mem hrow)

/-- Taking out a page follows the reference. -/
theorem takes_remove (h : Follows used f r) (hdistinct : Distinct used) {m : OrderedMap Bytes}
    (hm : Stored m (Function.update t .context f)) (stub : Page.Stub) :
    ∃ g, Takes (Shows t .context) (Attributes.remove stub) f (.ok (r.remove stub.shasum).1) g ∧
      Follows used g (r.remove stub.shasum).2 := by
  cases hindex : f (.stubIndex stub.shasum) with
  | none =>
      rw [Reference.remove, if_neg (h.not_mem_live hindex)]
      exact ⟨f, Attributes.takes_remove_unknown hindex, h⟩
  | some index =>
      choose entries hshown using h.shown
      obtain ⟨names, hnodup, hnames, g, hremove, hcoherent, hlistings, hplain, hcounters⟩ :=
        exists_takes_remove hm h.coherent (fun name => (hshown name).listing)
          (fun name e he => hdistinct.storable _ (h.used_value (hshown name) he)) hindex
      refine ⟨_, ?_, h.forget hindex hshown hcoherent hlistings hplain hcounters⟩
      rw [Reference.remove, if_pos (h.mem_live hindex), h.countP_rows hindex hshown hnodup hnames]
      exact hremove

end Follows

end SiteIndex.Index
