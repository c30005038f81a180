import Mathlib.Data.Set.Function
import SiteIndex.Proofs.Index.Anchored
import SiteIndex.Proofs.Posting.History

/-!
# Stored values survive

A value is read as it was stored, and no stored form is the front of another one
(`Value.encode_append_inj`), so that the hashes of values differ unless the digests of different
stored forms collide. What the tables hold as values are values that were posted
(`Posting.Sourced`). Hence the values that are listed of an attribute are those that were posted
under it, the hash of each leads to its slot, and a page that is taken out is found under each of
its values (`values_survive`).
-/

namespace SiteIndex

/-! ## Stored forms -/

namespace Value

variable {v w : Value} {rest rest' : Bytes}

/-- Where a stored value ends is told by its bytes alone. -/
theorem encode_append_inj (hv : v.Storable) (hw : w.Storable)
    (h : v.encode ++ rest = w.encode ++ rest') : v = w ∧ rest = rest' := by
  have hreadv := decodeWith_append v hv (max v.encode.length w.encode.length) rest
    (Nat.le_max_left ..)
  have hreadw := decodeWith_append w hw (max v.encode.length w.encode.length) rest'
    (Nat.le_max_right ..)
  rw [h] at hreadv
  exact Prod.mk.inj (Except.ok.inj (hreadv.symm.trans hreadw))

/-- Values have different hashes if the digests of their stored forms do not collide. -/
theorem hash_injOn {used : Set Value} (hstorable : ∀ v ∈ used, v.Storable)
    (hdigest : Set.InjOn (fun bytes => (Digest.sha256 bytes).take 16) (encode '' used)) :
    Set.InjOn hash used := by
  intro v hv w hw hhash
  have hbytes : v.encode = w.encode :=
    hdigest (Set.mem_image_of_mem _ hv) (Set.mem_image_of_mem _ hw) hhash
  exact (encode_append_inj (hstorable v hv) (hstorable w hw) (congrArg (· ++ []) hbytes)).1

end Value

namespace Posting

open Store (Namespace)
open Store.Key (isName)
open SiteIndex.Action (Takes)

/-! ## Where values come from -/

variable {ops : List (Namespace × Op)} {t : Namespace → Fields} {ns : Namespace} {f : Fields}
  {name : Name} {slot : UInt32} {v : Value}

/-- Forgetting a shasum leaves the cells of attributes alone. -/
theorem Fields.forgetStub_of_attribute (f : Fields) {c : Cell} (hc : c.attribute = some name)
    (shasum : String) : (f.forgetStub shasum).2 c = f c := by
  unfold forgetStub
  cases f (.stubIndex shasum) with
  | none => rfl
  | some index =>
      have hindex : c ≠ .stubIndex shasum := Cell.ne_of_attribute hc rfl
      have hshasum : c ≠ .stubShasum index := Cell.ne_of_attribute hc rfl
      dsimp only
      rw [put_of_ne _ hshasum, put_of_ne _ hindex]

/-- Taking a stub away puts no value into a slot. -/
theorem Fields.slotValue_removeValue {other : Name} {value : Value} {stub : UInt32}
    (h : (f.removeValue other value stub).2 (.slotValue name slot) = some v) :
    f (.slotValue name slot) = some v := by
  obtain hsame | ⟨found, -, hdrop | ⟨-, hunpost⟩⟩ := f.removeValue_cases other value stub
  · rwa [hsame] at h
  · rw [hdrop] at h
    simp only [dropSlot, ne_eq, reduceCtorEq, not_false_eq_true, put_of_ne, put_slotValue] at h
    split at h
    · cases h
    · exact h
  · rwa [hunpost, unpost_of_ne _ (by simp)] at h

/-- A value is put into a slot only by posting under it. -/
theorem Op.slotValue_perform {op : Op} (h : op.perform f (.slotValue name slot) = some v) :
    f (.slotValue name slot) = some v ∨ ∃ stub, op = .addValue name.1 v stub := by
  cases op with
  | ensureStub shasum =>
      left
      rw [perform, Fields.ensureStub] at h
      cases hindex : f (.stubIndex shasum) with
      | some index => rwa [hindex] at h
      | none => simpa [hindex] using h
  | forgetStub shasum =>
      rw [perform, Fields.forgetStub_of_attribute f rfl] at h
      exact .inl h
  | addValue other value stub =>
      by_cases hname : isName other = true
      · rw [perform, dif_pos hname] at h
        by_cases hother : name = ⟨other, hname⟩
        · rcases Index.Anchored.slotValue_addValue h with rfl | h
          · exact .inr ⟨stub, by rw [hother]⟩
          · exact .inl h
        · have hcell : (Cell.slotValue name slot).attribute ≠ some ⟨other, hname⟩ :=
            fun heq => hother (Option.some.inj heq)
          rw [f.addValue_of_ne hcell] at h
          exact .inl h
      · rw [perform, dif_neg hname] at h
        exact .inl h
  | removeValue other value stub =>
      left
      by_cases hname : isName other = true
      · rw [perform, dif_pos hname] at h
        exact Fields.slotValue_removeValue h
      · rwa [perform, dif_neg hname] at h
  | addToken token stub =>
      left
      by_cases hname : isName token = true
      · rwa [perform, dif_pos hname, Fields.post_of_ne _ (by simp)] at h
      · rwa [perform, dif_neg hname] at h
  | removeToken token stub =>
      left
      by_cases hname : isName token = true
      · rwa [perform, dif_pos hname, Fields.unpost_of_ne _ (by simp)] at h
      · rwa [perform, dif_neg hname] at h
  | clear => cases h

/-- The values in the tables were posted by the operations. -/
def Sourced (ops : List (Namespace × Op)) (t : Namespace → Fields) : Prop :=
  ∀ ns name slot v, t ns (.slotValue name slot) = some v →
    ∃ stub, (ns, Op.addValue name.1 v stub) ∈ ops

/-- An operation leaves values in the tables that it posts or that were posted before. -/
theorem Sourced.step (h : Sourced ops t) (ns : Namespace) (op : Op) :
    Sourced (ops ++ [(ns, op)]) (Function.update t ns (op.perform (t ns))) := by
  intro ns' name slot v hv
  have hbefore : t ns' (.slotValue name slot) = some v →
      ∃ stub, (ns', Op.addValue name.1 v stub) ∈ ops ++ [(ns, op)] := fun hv =>
    (h ns' name slot v hv).imp fun _ hmem => List.mem_append_left _ hmem
  by_cases hns : ns' = ns
  · subst hns
    rw [Function.update_self] at hv
    rcases Op.slotValue_perform hv with hv | ⟨stub, rfl⟩
    · exact hbefore hv
    · exact ⟨stub, by simp⟩
  · rw [Function.update_of_ne hns] at hv
    exact hbefore hv

/-- Operations keep a history sound, and what it holds as values was posted. -/
theorem History.Sound.exists_sourced {h : History} (hsound : h.Sound t) (hsourced : Sourced ops t)
    (more : List (Namespace × Op))
    (hroom : ∀ front, front <+: more → ∀ ns c,
      ((h.run front).issued ns c).length < UInt32.size) :
    ∃ t', (h.run more).Sound t' ∧ Sourced (ops ++ more) t' := by
  induction more generalizing h t ops with
  | nil => exact ⟨t, hsound, by rwa [List.append_nil]⟩
  | cons o rest ih =>
      rw [← List.singleton_append, ← List.append_assoc]
      refine ih (hsound.step o.1 o.2 (hroom [o] ⟨rest, rfl⟩ o.1)) (hsourced.step o.1 o.2) ?_
      exact fun front hfront => hroom (o :: front) ((List.prefix_cons_inj o).2 hfront)

/-- The store of a sound history shows its tables. -/
theorem History.Sound.shows {h : History} (hsound : h.Sound t) (ns : Namespace) :
    Shows t ns h.store (t ns) :=
  ⟨h.store.content, ⟨hsound.reliable, rfl⟩, by
    rw [Function.update_eq_self]
    exact hsound.stored⟩

/-- Posting under a value leaves its stub under the slot that the hash of the value leads to. -/
theorem Fields.addValue_self (f : Fields) (name : Name) (value : Value) (stub : UInt32) :
    ∃ slot, (f.addValue name value stub).2 (.valueSlot name value.hash) = some slot ∧
      stub ∈ (f.addValue name value stub).2.stubs (.slot name slot) := by
  refine ⟨(f.ensureSlot name value).1, ?_, ?_⟩
  · rw [addValue, post_of_ne _ (by simp), ensureSlot]
    cases hslot : f (.valueSlot name value.hash) with
    | some slot => exact hslot
    | none => simp
  · rw [addValue, mem_stubs_post]
    exact .inl ⟨rfl, rfl⟩

/-! ## Values that are listed -/

/-- What is listed of an attribute: values that were posted under it, each in the slot that its hash
leads to. A stub that was posted last is listed under its value, if no other value that was posted
under the attribute has the same hash. -/
structure Retrieved (ops : List (Namespace × Op)) (s : Store) (ns : Namespace) (name : Name)
    (found : List ValuePostings) : Prop where
  listed : ((Tables.values ns name.1).run s).1 = .ok found
  posted : ∀ p ∈ found, ∃ stub, (ns, Op.addValue name.1 p.value stub) ∈ ops
  slot : ∀ p ∈ found,
    numberAt s.content ((Cell.valueSlot name p.value.hash).key ns) = some p.slot
  hashes : (found.map (·.value.hash)).Nodup
  last : ∀ front value stub, ops = front ++ [(ns, .addValue name.1 value stub)] →
    (∀ other stub', (ns, Op.addValue name.1 other stub') ∈ ops → other.hash = value.hash →
      other = value) →
    ∃ p ∈ found, p.value = value ∧ stub ∈ p.postings.stubs

/-- All values that are posted have a stored form. -/
def StorableOps (ops : List (Namespace × Op)) : Prop :=
  ∀ ns name value stub, (ns, Op.addValue name value stub) ∈ ops → value.Storable

namespace History.Sound

variable {h : History} {entries : List Entry}

/-- The values in the tables have stored forms. -/
theorem storable (hsourced : Sourced ops t) (hstorable : StorableOps ops)
    (hvalue : t ns (.slotValue name slot) = some v) : v.Storable := by
  obtain ⟨stub, hmem⟩ := hsourced ns name slot v hvalue
  exact hstorable ns name.1 v stub hmem

/-- The values of an attribute are listed with their slots. -/
theorem exists_values (hsound : h.Sound t) (hsourced : Sourced ops t)
    (hstorable : StorableOps ops) (ns : Namespace) (name : Name) :
    ∃ entries, Listing (t ns) name entries ∧
      ((Tables.values ns name.1).run h.store).1 = .ok (entries.map Entry.postings) := by
  have hstored : Stored h.store.content (Function.update t ns (t ns)) := by
    rw [Function.update_eq_self]
    exact hsound.stored
  obtain ⟨entries, hlisting⟩ := exists_listing hstored (hsound.coherent ns) name
  have hvalues : Takes (Shows t ns) (Tables.values ns name.1) (t ns)
      (.ok (entries.map Entry.postings)) (t ns) :=
    takes_values (hsound.coherent ns) hlisting fun e he =>
      storable hsourced hstorable ((hlisting.mem_iff e).1 he).1
  exact ⟨entries, hlisting, (hvalues h.store (hsound.shows ns)).1⟩

/-- The hashes of the values of an attribute differ. -/
theorem nodup_hashes (hcoherent : Coherent f) (hlisting : Listing f name entries) :
    (entries.map (·.value.hash)).Nodup := by
  refine List.pairwise_map.2 (hlisting.ascending.imp_of_mem fun {a b} ha hb hab heq => ?_)
  have hslot := hlisting.valueSlot hcoherent ha
  rw [heq, hlisting.valueSlot hcoherent hb] at hslot
  exact UInt32.lt_irrefl a.slot (Option.some.inj hslot ▸ hab)

/-- The stub that was posted last is listed under its value. -/
theorem exists_last (hsound : h.Sound t) (hsourced : Sourced ops t)
    (hlisting : Listing (t ns) name entries) {f : Fields} {stub : UInt32}
    (hlast : t ns = (f.addValue name v stub).2)
    (hother : ∀ other stub', (ns, Op.addValue name.1 other stub') ∈ ops → other.hash = v.hash →
      other = v) :
    ∃ e ∈ entries, e.value = v ∧ stub ∈ e.stubs := by
  obtain ⟨slot, hslot, hstub⟩ := f.addValue_self name v stub
  rw [← hlast] at hslot hstub
  obtain ⟨e, he, rfl, hmem⟩ := hlisting.exists_of_mem_stubs (hsound.coherent ns) hstub
  obtain ⟨value, hvalue, hhash⟩ := ((hsound.coherent ns).valueSlot_iff name v.hash e.slot).1 hslot
  have hsame : e.value = value :=
    Option.some.inj (((hlisting.mem_iff e).1 he).1.symm.trans hvalue)
  obtain ⟨stub', hposted⟩ := hsourced ns name e.slot value hvalue
  exact ⟨e, he, hsame.trans (hother value stub' hposted hhash), hmem⟩

end History.Sound

namespace History

variable {s : Store}

/-- The tables of an empty store hold no values. -/
theorem sourced_empty : Sourced [] fun _ _ => none := nofun

/-- Whatever operations are run on a store that was empty, the values that are listed of an
attribute were posted under it, and their hashes lead to their slots. -/
theorem exists_retrieved (hs : s.Holds ∅) (hstorable : StorableOps ops)
    (hroom : ∀ front, front <+: ops → ∀ ns c,
      (((start s).run front).issued ns c).length < UInt32.size) (ns : Namespace) (name : Name) :
    ∃ found, Retrieved ops ((start s).run ops).store ns name found := by
  obtain ⟨t, hsound, hsourced⟩ := (Sound.start hs).exists_sourced sourced_empty ops hroom
  rw [List.nil_append] at hsourced
  obtain ⟨entries, hlisting, hlisted⟩ := hsound.exists_values hsourced hstorable ns name
  refine ⟨entries.map Entry.postings, hlisted, ?_, ?_, ?_, ?_⟩
  · intro p hp
    obtain ⟨e, he, rfl⟩ := List.mem_map.1 hp
    exact hsourced ns name e.slot e.value ((hlisting.mem_iff e).1 he).1
  · intro p hp
    obtain ⟨e, he, rfl⟩ := List.mem_map.1 hp
    rw [numberAt_key hsound.stored, Fields.number_valueSlot]
    exact hlisting.valueSlot (hsound.coherent ns) he
  · rw [List.map_map]
    exact Sound.nodup_hashes (hsound.coherent ns) hlisting
  · rintro front value stub rfl hother
    -- The tables before the last operation are sound as well, and it posts under the value there.
    obtain ⟨t₀, hsound₀, hsourced₀⟩ := (Sound.start hs).exists_sourced sourced_empty front
      fun first hfirst => hroom first (hfirst.trans (List.prefix_append ..))
    have hrun : (start s).run (front ++ [(ns, .addValue name.1 value stub)])
        = ((start s).run front).step ns (.addValue name.1 value stub) := List.foldl_concat ..
    have hsound₁ := hsound₀.step ns (.addValue name.1 value stub) fun c => by
      rw [← hrun]
      exact hroom _ (List.prefix_refl _) ns c
    have hsourced₁ := hsourced₀.step ns (.addValue name.1 value stub)
    rw [← hrun] at hsound₁
    obtain ⟨entries₁, hlisting₁, hlisted₁⟩ := hsound₁.exists_values hsourced₁ hstorable ns name
    rw [hlisted] at hlisted₁
    have hlast : Function.update t₀ ns ((Op.addValue name.1 value stub).perform (t₀ ns)) ns
        = ((t₀ ns).addValue name value stub).2 := by
      rw [Function.update_self, Op.perform, dif_pos name.2]
    obtain ⟨e, he, hvalue, hstub⟩ :=
      hsound₁.exists_last hsourced₁ hlisting₁ hlast hother
    refine ⟨e.postings, ?_, hvalue, StubSet.mem_toList.2 hstub⟩
    rw [Except.ok.inj hlisted₁]
    exact List.mem_map_of_mem he

end History

end Posting

namespace Index

open Posting
open Store (Namespace)
open SiteIndex.Action (Takes)

/-! ## Taking pages out -/

variable {t : Namespace → Fields} {f : Fields} {index : UInt32}

/-- A page that is taken out of coherent tables is left under no value. -/
theorem exists_takes_remove_unlisted {m : Store.OrderedMap Bytes}
    (hm : Stored m (Function.update t .context f)) (hcoherent : Coherent f)
    (hstorable : ∀ name slot v, f (.slotValue name slot) = some v → v.Storable)
    {stub : Page.Stub} (hindex : f (.stubIndex stub.shasum) = some index) :
    ∃ count g, Takes (Shows t .context) (Attributes.remove stub) f (.ok count) g ∧ Coherent g ∧
      ∀ name, ∃ entries, Listing g name entries ∧
        ∀ e ∈ entries, index ∉ e.stubs ∧ e.value.Storable := by
  choose entries hlisting using exists_listing hm hcoherent
  have hstorable : ∀ name, ∀ e ∈ entries name, e.value.Storable := fun name e he =>
    hstorable name e.slot e.value (((hlisting name).mem_iff e).1 he).1
  obtain ⟨_, _, _, g, hremove, hcoherent, hlistings, -, -⟩ :=
    Follows.exists_takes_remove hm hcoherent hlisting hstorable hindex
  refine ⟨_, _, hremove, hcoherent.forgetStub stub.shasum,
    fun name => ⟨(entries name).filterMap (Entry.without index),
      (hlistings name).congr fun c hc => g.forgetStub_of_attribute hc stub.shasum, ?_⟩⟩
  intro x hx
  obtain ⟨e, he, hwithout⟩ := List.mem_filterMap.1 hx
  unfold Entry.without at hwithout
  split at hwithout
  · cases hwithout
  · obtain rfl := Option.some.inj hwithout
    exact ⟨fun hmem => (StubSet.mem_erase.1 hmem).2 rfl, hstorable name e he⟩

/-- Stored values survive. A value is read as it was stored, floats bit for bit, and ends where its
bytes say whatever comes after them, so that equal bytes are of equal values; values have
different hashes if the digests of different stored forms do not collide. Whatever operations are
run on a store that was empty, the values that are listed of an attribute were posted under it and
are found in their slots by their hashes, and a page that is taken out is listed nowhere. -/
theorem values_survive :
    (∀ v : Value, v.Storable → Value.decode v.encode = .ok v) ∧
    (∀ v w : Value, v.Storable → w.Storable → ∀ rest rest' : Bytes,
      v.encode ++ rest = w.encode ++ rest' → v = w ∧ rest = rest') ∧
    (∀ used : Set Value, (∀ v ∈ used, v.Storable) →
      Set.InjOn (fun bytes => (Digest.sha256 bytes).take 16) (Value.encode '' used) →
      Set.InjOn Value.hash used) ∧
    ∀ (s : Store) (ops : List (Namespace × Op)), s.Holds ∅ → StorableOps ops →
      (∀ front, front <+: ops → ∀ ns c,
        (((History.start s).run front).issued ns c).length < UInt32.size) →
      let s' := ((History.start s).run ops).store
      (∀ ns name, ∃ found, Retrieved ops s' ns name found) ∧
      ∀ (stub : Page.Stub) (index : UInt32),
        ((Tables.stubIndex? .context stub.shasum).run s').1 = .ok (some index) →
        (∃ count, ((Attributes.remove stub).run s').1 = .ok count) ∧
        ∀ name : Name, ∃ found,
          ((Tables.values .context name.1).run ((Attributes.remove stub).run s').2).1
            = .ok found ∧ ∀ p ∈ found, index ∉ p.postings.stubs := by
  refine ⟨fun v hv => Value.decode_encode hv,
    fun v w hv hw rest rest' h => Value.encode_append_inj hv hw h,
    fun used hstorable hdigest => Value.hash_injOn hstorable hdigest, ?_⟩
  intro s ops hs hstorable hroom s'
  refine ⟨History.exists_retrieved hs hstorable hroom, fun stub index hindex => ?_⟩
  obtain ⟨t, hsound, hsourced⟩ :=
    (History.Sound.start hs).exists_sourced History.sourced_empty ops hroom
  have hshows := hsound.shows .context
  have hnumber : t .context (.stubIndex stub.shasum) = some index :=
    Except.ok.inj ((takes_stubIndex? stub.shasum s' hshows).1.symm.trans hindex)
  have hstored : Stored s'.content (Function.update t .context (t .context)) := by
    rw [Function.update_eq_self]
    exact hsound.stored
  obtain ⟨count, g, hremove, hcoherent, hlistings⟩ := exists_takes_remove_unlisted hstored
    (hsound.coherent .context)
    (fun name slot v => History.Sound.storable hsourced hstorable) hnumber
  obtain ⟨hcount, hafter⟩ := hremove s' hshows
  refine ⟨⟨count, hcount⟩, fun name => ?_⟩
  obtain ⟨entries, hlisting, hunlisted⟩ := hlistings name
  have hvalues : Takes (Shows t .context) (Tables.values .context name.1) g
      (.ok (entries.map Entry.postings)) g :=
    Posting.takes_values hcoherent hlisting fun e he => (hunlisted e he).2
  refine ⟨entries.map Entry.postings, (hvalues _ hafter).1, fun p hp => ?_⟩
  obtain ⟨e, he, rfl⟩ := List.mem_map.1 hp
  exact fun hmem => (hunlisted e he).1 (StubSet.mem_toList.1 hmem)

/-- A list of lists with a float that is no number. -/
def nestedValue : Value := .list [.text "1", .list [.int 1, .float ⟨0x7FF8000000000001⟩], .list []]

/-- A page with three values that look alike. -/
def lookalikeOps : List (Namespace × Op) :=
  [(.context, .ensureStub "a"), (.context, .addValue "x" (.int 1) 0),
    (.context, .addValue "x" (.text "1") 0), (.context, .addValue "x" nestedValue 0)]

/-- Values that look alike are told apart behind a write buffer, the last one is listed as it was
posted, and the page is found under all of them when it is taken out. -/
theorem values_survive_lookalikes :
    let name : Name := ⟨"x", by decide⟩
    let stub : Page.Stub :=
      { shasum := "a", source := "a.md", mount := "/", language := "en", fallback := "en" }
    let s' := ((History.start (.buffered (.make (.ofBackend .sqlite false) 2 3))).run
      lookalikeOps).store
    Value.decode nestedValue.encode = .ok nestedValue ∧
    (∃ found, Retrieved lookalikeOps s' .context name found ∧
      ∃ p ∈ found, p.value = nestedValue ∧ 0 ∈ p.postings.stubs) ∧
    ∃ found, ((Tables.values .context "x").run ((Attributes.remove stub).run s').2).1 = .ok found ∧
      ∀ p ∈ found, 0 ∉ p.postings.stubs := by
  intro name stub s'
  have hposted : ∀ ns key value index, (ns, Op.addValue key value index) ∈ lookalikeOps →
      value = .int 1 ∨ value = .text "1" ∨ value = nestedValue := by
    intro ns key value index hmem
    simp only [lookalikeOps, List.mem_cons, Prod.mk.injEq, reduceCtorEq, and_false,
      Op.addValue.injEq, false_or, List.not_mem_nil, or_false] at hmem
    rcases hmem with ⟨-, -, rfl, -⟩ | ⟨-, -, rfl, -⟩ | ⟨-, -, rfl, -⟩
    · exact .inl rfl
    · exact .inr (.inl rfl)
    · exact .inr (.inr rfl)
  have htext : (Value.text "1").Storable := by
    show (Text.Utf8.encode "1").length < 2 ^ 64
    decide
  have hnested : nestedValue.Storable :=
    ⟨by decide, htext, ⟨by decide, trivial, trivial, trivial⟩, ⟨by decide, trivial⟩, trivial⟩
  have hstorable : StorableOps lookalikeOps := by
    intro ns key value index hmem
    rcases hposted ns key value index hmem with rfl | rfl | rfl
    · trivial
    · exact htext
    · exact hnested
  have hroom : ∀ front, front <+: lookalikeOps → ∀ ns c,
      (((History.start (.buffered (.make (.ofBackend .sqlite false) 2 3))).run front).issued
        ns c).length < UInt32.size := by
    intro front hfront ns c
    have hlength : front.length ≤ 4 := hfront.length_le
    have hissued := History.length_issued_le
      (.start (.buffered (.make (.ofBackend .sqlite false) 2 3))) front ns c
    have hstart : ((History.start (.buffered (.make (.ofBackend .sqlite false) 2 3))).issued
      ns c).length = 0 := rfl
    have hsize : UInt32.size = 4294967296 := rfl
    omega
  obtain ⟨hlisted, hremoved⟩ := values_survive.2.2.2 _ lookalikeOps
    (Store.holds_buffered .sqlite 2 3) hstorable hroom
  obtain ⟨found, hfound⟩ := hlisted .context name
  refine ⟨values_survive.1 nestedValue hnested, ⟨found, hfound, ?_⟩, ?_⟩
  · refine hfound.last _ nestedValue 0 (List.dropLast_concat_getLast (by decide)).symm ?_
    have hhashes : (Value.int 1).hash ≠ nestedValue.hash ∧
        (Value.text "1").hash ≠ nestedValue.hash := by decide +kernel
    intro other index hmem hhash
    rcases hposted _ _ _ _ hmem with rfl | rfl | rfl
    · exact absurd hhash hhashes.1
    · exact absurd hhash hhashes.2
    · rfl
  · exact (hremoved stub 0 (by decide +kernel)).2 name

end Index

end SiteIndex
