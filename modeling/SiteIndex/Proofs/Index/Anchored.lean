import SiteIndex.Proofs.Index.Runs
import SiteIndex.Proofs.Posting.Tokens

/-!
# The stubs that are posted under attributes

A page whose attributes were posted only up to one that is no name is left half indexed. `Anchored`
says what holds all the same: whatever is posted has a shasum. Adding a page keeps that, whether it
fails or not, as long as the counters do not run over (`Anchored.exists_takes_add`), and so does
taking one out (`Anchored.exists_takes_remove`). This relies on the tables being coherent: every
slot that lists the page is then among the values of its attribute, so that none is left when the
number is forgotten.
-/

namespace SiteIndex.Index

open Posting
open Store (Namespace OrderedMap)
open Store.Key (isName)
open SiteIndex.Action (Takes)

/-- Whatever is posted under attributes has a shasum, and nothing is posted under words. -/
structure Anchored (f : Fields) : Prop where
  coherent : Coherent f
  storable : ∀ name slot value, f (.slotValue name slot) = some value → value.Storable
  tokens : ∀ text, f (.postings (.token text)) = none
  shasum_of_posted : ∀ name slot index, index ∈ f.stubs (.slot name slot) →
    f (.stubShasum index) ≠ none

/-- The counters have gone up to these numbers at most. -/
structure Counted (f : Fields) (pages : Nat) (values : String → Nat) : Prop where
  stubs : f.nextStub.toNat ≤ pages
  slots : ∀ name : Name, (f.nextSlot name).toNat ≤ values name.1

namespace Counted

variable {f g : Fields} {pages more : Nat} {values others : String → Nat}

/-- The counters of empty tables stand at zero. -/
theorem empty : Counted (fun _ => none) pages values :=
  ⟨Nat.zero_le _, fun _ => Nat.zero_le _⟩

/-- Counters that have not gone beyond numbers have not gone beyond higher ones. -/
theorem mono (h : Counted f pages values) (hpages : pages ≤ more)
    (hvalues : ∀ name, values name ≤ others name) : Counted f more others :=
  ⟨Nat.le_trans h.stubs hpages, fun name => Nat.le_trans (h.slots name) (hvalues name.1)⟩

/-- The counters are those of their cells. -/
theorem congr (h : Counted f pages values) (hstub : g .nextStub = f .nextStub)
    (hslot : ∀ name, g (.nextSlot name) = f (.nextSlot name)) : Counted g pages values where
  stubs := by
    rw [Fields.nextStub, hstub]
    exact h.stubs
  slots name := by
    rw [Fields.nextSlot, hslot]
    exact h.slots name

/-- A shasum draws at most one number. -/
theorem ensureStub (h : Counted f pages values) (hroom : pages + 1 < UInt32.size)
    (shasum : String) : Counted (f.ensureStub shasum).2 (pages + 1) values := by
  unfold Fields.ensureStub
  cases f (.stubIndex shasum) with
  | some index => exact h.mono (Nat.le_succ _) fun _ => Nat.le_refl _
  | none =>
      have hstubs := h.stubs
      constructor
      case stubs =>
        rw [Fields.nextStub_put, toNat_succ (by omega)]
        omega
      case slots =>
        intro name
        simpa [Fields.nextSlot] using h.slots name

/-- A value draws at most one slot of its attribute. -/
theorem addValue (h : Counted f pages values) (name : Name)
    (hroom : values name.1 + 1 < UInt32.size) (value : Value) (stub : UInt32) :
    Counted (f.addValue name value stub).2 pages
      fun other => if other = name.1 then values other + 1 else values other where
  stubs := by
    rw [Fields.nextStub, f.addValue_of_ne (by simp [Cell.attribute])]
    exact h.stubs
  slots other := by
    have hslots := h.slots other
    rw [f.nextSlot_addValue]
    by_cases hother : other = name
    · subst hother
      rw [if_pos rfl]
      split
      · rw [toNat_succ (by omega)]
        omega
      · omega
    · have hname : other.1 ≠ name.1 := fun heq => hother (Subtype.ext heq)
      rw [if_neg fun hboth => hother hboth.1, if_neg hname]
      exact hslots

end Counted

namespace Anchored

variable {f g : Fields} {t : Namespace → Fields} {m : OrderedMap Bytes} {index : UInt32}

/-- Empty tables post nothing. -/
theorem empty : Anchored fun _ => none where
  coherent := Coherent.empty
  storable := nofun
  tokens _ := rfl
  shasum_of_posted _ _ _ h := absurd h StubSet.not_mem_empty

/-! ## Adding pages -/

/-- A shasum may be given a number. -/
theorem ensureStub (h : Anchored f) (shasum : String)
    (hroom : f.nextStub.toNat + 1 < UInt32.size) : Anchored (f.ensureStub shasum).2 := by
  have hcoherent := h.coherent.ensureStub shasum fun _ => hroom
  unfold Fields.ensureStub at hcoherent ⊢
  cases hindex : f (.stubIndex shasum) with
  | some index => exact h
  | none =>
      rw [hindex] at hcoherent
      constructor
      case coherent => exact hcoherent
      case storable => simpa using h.storable
      case tokens => simpa using h.tokens
      case shasum_of_posted =>
        intro name slot k hk
        have hposted := h.shasum_of_posted name slot k (by simpa [Fields.stubs] using hk)
        by_cases hnew : k = f.nextStub
        · simp [hnew]
        · simpa [hnew] using hposted

/-- A value of a slot was there before or is the one that is posted under. -/
theorem slotValue_addValue {name other : Name} {value v : Value} {stub slot : UInt32}
    (h : (f.addValue name value stub).2 (.slotValue other slot) = some v) :
    v = value ∨ f (.slotValue other slot) = some v := by
  rw [Fields.addValue, Fields.post_of_ne _ (by simp), Fields.ensureSlot] at h
  cases hslot : f (.valueSlot name value.hash) with
  | some old =>
      rw [hslot] at h
      exact .inr h
  | none =>
      rw [hslot] at h
      simp only [ne_eq, reduceCtorEq, not_false_eq_true, Fields.put_of_ne, Fields.put_slotValue]
        at h
      split at h
      · exact .inl (Option.some.inj h).symm
      · exact .inr h

/-- Posting under a value adds one stub to one of its slots. -/
theorem mem_stubs_addValue {name other : Name} {value : Value} {stub slot k : UInt32}
    (h : k ∈ (f.addValue name value stub).2.stubs (.slot other slot)) :
    k = stub ∨ k ∈ f.stubs (.slot other slot) := by
  rw [Fields.addValue, Fields.mem_stubs_post] at h
  rcases h with ⟨_, rfl⟩ | h
  · exact .inl rfl
  · right
    have hstubs : (f.ensureSlot name value).2.stubs (.slot other slot)
        = f.stubs (.slot other slot) := by
      rw [Fields.stubs, Fields.ensureSlot]
      cases f (.valueSlot name value.hash) with
      | some old => rfl
      | none => simp [Fields.stubs]
    rwa [hstubs] at h

/-- A number that has a shasum may be posted. -/
theorem addValue (h : Anchored f) (hindex : f (.stubShasum index) ≠ none) (name : Name)
    {value : Value} (hvalue : value.Storable) (hroom : (f.nextSlot name).toNat + 1 < UInt32.size) :
    Anchored (f.addValue name value index).2 where
  coherent := h.coherent.addValue name value index fun _ => hroom
  storable other slot v hv := by
    rcases slotValue_addValue hv with rfl | hv
    · exact hvalue
    · exact h.storable other slot v hv
  tokens text := by
    rw [f.addValue_of_ne (by simp [Cell.attribute])]
    exact h.tokens text
  shasum_of_posted other slot k hk := by
    rw [f.addValue_of_ne (by simp [Cell.attribute])]
    rcases mem_stubs_addValue hk with rfl | hk
    · exact hindex
    · exact h.shasum_of_posted other slot k hk

/-- A number that has a shasum may be posted under pairs, up to one whose attribute is no name. -/
theorem exists_takes_addAll {pages : Nat} {values : String → Nat} (h : Anchored f)
    (hcounted : Counted f pages values) (hindex : f (.stubShasum index) ≠ none)
    {pairs : List (String × Value)} (hstorable : ∀ p ∈ pairs, p.2.Storable)
    (hroom : ∀ name, values name + pairs.countP (·.1 = name) < UInt32.size) :
    ∃ out g, Takes (Shows t .context) (Attributes.addAll index pairs) f out g ∧ Anchored g ∧
      Counted g pages fun name => values name + pairs.countP (·.1 = name) := by
  induction pairs generalizing f values with
  | nil => exact ⟨_, f, Takes.pure 0, h, hcounted⟩
  | cons p rest ih =>
      obtain ⟨name, value⟩ := p
      by_cases hname : isName name = true
      · have hnameRoom := hroom name
        rw [List.countP_cons_of_pos (by simp)] at hnameRoom
        have hslots : (f.nextSlot ⟨name, hname⟩).toNat ≤ values name := hcounted.slots _
        have hone : values name + 1 < UInt32.size := by omega
        have hposted := h.addValue hindex ⟨name, hname⟩ (hstorable _ (List.mem_cons_self ..))
          (by omega)
        have hcount : ∀ other, (if other = name then values other + 1 else values other)
            + rest.countP (·.1 = other)
              = values other + ((name, value) :: rest).countP (·.1 = other) := by
          intro other
          by_cases hother : other = name
          · rw [if_pos hother, List.countP_cons_of_pos (by simp [hother])]
            omega
          · rw [if_neg hother, List.countP_cons_of_neg (by simpa using Ne.symm hother)]
        have hindex' : (f.addValue ⟨name, hname⟩ value index).2 (.stubShasum index) ≠ none := by
          rwa [f.addValue_of_ne (by simp [Cell.attribute])]
        obtain ⟨out, g, hrest, hanchored, hcounted'⟩ := ih hposted
          (hcounted.addValue ⟨name, hname⟩ hone value index) hindex'
          (fun p hp => hstorable p (List.mem_cons_of_mem _ hp))
          (fun other => (hcount other).symm ▸ hroom other)
        simp only [hcount] at hcounted'
        exact ⟨_, g, Attributes.takes_addAll_cons ⟨name, hname⟩ value hrest, hanchored, hcounted'⟩
      · refine ⟨_, f, Attributes.takes_addAll_invalid hname rest, h, ?_⟩
        exact hcounted.mono (Nat.le_refl _) fun _ => Nat.le_add_right ..

/-- A page may be added, also if one of its attributes is no name. -/
theorem exists_takes_add {pages : Nat} {values : String → Nat} (h : Anchored f)
    (hcounted : Counted f pages values) (stub : Page.Stub) (page : Page)
    (hstorable : ∀ p ∈ Attributes.postings page.context, p.2.Storable)
    (hpages : pages + 1 < UInt32.size)
    (hroom : ∀ name, values name + (Attributes.postings page.context).countP (·.1 = name)
      < UInt32.size) :
    ∃ out g, Takes (Shows t .context) (Attributes.add stub page) f out g ∧ Anchored g ∧
      Counted g (pages + 1) fun name =>
        values name + (Attributes.postings page.context).countP (·.1 = name) := by
  cases hindex : f (.stubIndex stub.shasum) with
  | some index =>
      exact ⟨_, f, Attributes.takes_add_known hindex, h,
        hcounted.mono (Nat.le_succ _) fun _ => Nat.le_add_right ..⟩
  | none =>
      have hstubs := hcounted.stubs
      have hnumbered : (f.ensureStub stub.shasum).2 (.stubShasum (f.ensureStub stub.shasum).1)
          ≠ none := by
        simp [Fields.ensureStub, hindex]
      obtain ⟨out, g, hadd, hanchored, hcounted'⟩ :=
        (h.ensureStub stub.shasum (by omega)).exists_takes_addAll (t := t)
          (hcounted.ensureStub hpages stub.shasum) hnumbered hstorable hroom
      exact ⟨out, g, Attributes.takes_add_new hindex hadd, hanchored, hcounted'⟩

/-! ## Taking pages out -/

/-- Once no entry has the number of a page, the page may be forgotten. -/
theorem forget (h : Anchored f) {shasum : String} (hindex : f (.stubIndex shasum) = some index)
    (hcoherent : Coherent g) {entries : Name → List Entry}
    (hlisting : ∀ name, Listing f name (entries name))
    (hlistings : ∀ name, Listing g name ((entries name).filterMap (Entry.without index)))
    (hplain : ∀ {c}, c.attribute = none → g c = f c) : Anchored (g.forgetStub shasum).2 := by
  have hindex' : g (.stubIndex shasum) = some index := (hplain rfl).trans hindex
  have hforget : (g.forgetStub shasum).2
      = (g.put (.stubIndex shasum) none).put (.stubShasum index) none := by
    rw [Fields.forgetStub, hindex']
  have hwithout : ∀ {e x : Entry}, e.without index = some x →
      x = e.withStubs (e.stubs.erase index) := by
    intro e x hx
    unfold Entry.without at hx
    split at hx
    · cases hx
    · exact (Option.some.inj hx).symm
  constructor
  case coherent => exact hcoherent.forgetStub shasum
  all_goals rw [hforget]
  case storable =>
    intro name slot value hvalue
    have hvalue : g (.slotValue name slot) = some value := by simpa using hvalue
    obtain ⟨stubs, hstubs⟩ := (hcoherent.postings_iff name slot).2 ⟨value, hvalue⟩
    have hentry := ((hlistings name).mem_iff ⟨slot, value, stubs⟩).2 ⟨hvalue, hstubs⟩
    obtain ⟨e, he, hx⟩ := List.mem_filterMap.1 hentry
    have heq : value = e.value := congrArg Entry.value (hwithout hx)
    exact heq ▸ h.storable name e.slot e.value (((hlisting name).mem_iff e).1 he).1
  case tokens =>
    intro text
    have htext : g (.postings (.token text)) = f (.postings (.token text)) := hplain rfl
    simp [htext, h.tokens text]
  case shasum_of_posted =>
    intro name slot k hk
    have hk : k ∈ g.stubs (.slot name slot) := by simpa [Fields.stubs] using hk
    obtain ⟨x, hentry, _, hmem⟩ := (hlistings name).exists_of_mem_stubs hcoherent hk
    obtain ⟨e, he, hx⟩ := List.mem_filterMap.1 hentry
    rw [hwithout hx] at hmem
    obtain ⟨hmem, hne⟩ := StubSet.mem_erase.1 hmem
    have hposted : k ∈ f.stubs (.slot name e.slot) := by
      rw [(hlisting name).stubs_eq he]
      exact hmem
    have hshasum : g (.stubShasum k) = f (.stubShasum k) := hplain rfl
    simpa [hne, hshasum] using h.shasum_of_posted name e.slot k hposted

/-- A page may be taken out. -/
theorem exists_takes_remove {pages : Nat} {values : String → Nat}
    (hm : Stored m (Function.update t .context f)) (h : Anchored f)
    (hcounted : Counted f pages values) (stub : Page.Stub) :
    ∃ out g, Takes (Shows t .context) (Attributes.remove stub) f out g ∧ Anchored g ∧
      Counted g pages values := by
  cases hindex : f (.stubIndex stub.shasum) with
  | none => exact ⟨_, f, Attributes.takes_remove_unknown hindex, h, hcounted⟩
  | some index =>
      choose entries hlisting using exists_listing hm h.coherent
      obtain ⟨_, _, _, g, hremove, hcoherent, hlistings, hplain, hcounters⟩ :=
        Follows.exists_takes_remove hm h.coherent hlisting
          (fun name e he => h.storable name e.slot e.value (((hlisting name).mem_iff e).1 he).1)
          hindex
      refine ⟨_, _, hremove, h.forget hindex hcoherent hlisting hlistings hplain, ?_⟩
      have hnumbers : Counted g pages values := hcounted.congr (hplain rfl) hcounters
      refine hnumbers.congr ?_ fun name => ?_
      · unfold Fields.forgetStub
        cases g (.stubIndex stub.shasum) <;> simp
      · unfold Fields.forgetStub
        cases g (.stubIndex stub.shasum) <;> simp

end Anchored

end SiteIndex.Index
