import SiteIndex.Index.Attributes
import SiteIndex.Index.Keywords
import SiteIndex.Proofs.Posting.Rules

/-!
# Rules that the indexes keep

A page that is added or taken out changes the tables by writing cells, one after the other. So every
rule that allows these cells is kept, whatever comes of the change and whatever was in the store
before. In this way a page that has a number keeps it until it is taken out itself
(`knows_keywords_remove`), and what is stored as the values of an attribute is what pages were
posted with (`keeps_attributes_add`).
-/

namespace SiteIndex.Index

open Markup (Formats)
open Page (Stub)
open Posting
open SiteIndex.Action (Gains Keeps)
open Store (Namespace)
open Store.Key (decodeNumber)

/-! ## Pages that are added and taken out -/

section Rules

variable {E : Rule} (hE : Lenient E)

include hE

/-- A stub is posted under values that the rule allows. -/
theorem keeps_addAll (index : UInt32) {pairs : List (String × Value)}
    (hpairs : ∀ p ∈ pairs, ∀ (n : Name) slot, n.1 = p.1 →
      E .context (.slotValue n slot) (some p.2.encode)) :
    Keeps (Respects E) (Attributes.addAll index pairs) := by
  induction pairs with
  | nil => exact Keeps.pure 0
  | cons p rest ih =>
      obtain ⟨hp, hrest⟩ := List.forall_mem_cons.1 hpairs
      exact Keeps.bind (keeps_addValue hE hp index) fun _ =>
        Keeps.bind (ih hrest) fun _ => Keeps.pure _

/-- A page may be added to the index of attributes if the rule allows its values. -/
theorem keeps_attributes_add (stub : Stub) (page : Page)
    (hpairs : ∀ p ∈ Attributes.postings page.context, ∀ (n : Name) slot, n.1 = p.1 →
      E .context (.slotValue n slot) (some p.2.encode)) :
    Keeps (Respects E) (Attributes.add stub page) := by
  refine Keeps.bind (keeps_stubIndex? _) fun found => ?_
  cases found with
  | some index => exact Keeps.pure 0
  | none =>
      exact Keeps.bind (keeps_ensureStub hE _) fun index => keeps_addAll hE index hpairs

/-- A stub is taken away from values of an attribute. -/
theorem keeps_removeFrom (index : UInt32) (name : String) (entries : List ValuePostings) :
    Keeps (Respects E) (Attributes.removeFrom index name entries) := by
  induction entries with
  | nil => exact Keeps.pure 0
  | cons entry rest ih =>
      unfold Attributes.removeFrom
      dsimp only
      split
      · exact Keeps.bind (keeps_removeValue hE name entry.value index) fun _ =>
          Keeps.bind ih fun _ => Keeps.pure _
      · exact Keeps.bind (Keeps.pure false) fun _ => Keeps.bind ih fun _ => Keeps.pure _

/-- A stub is taken away from all values of attributes. -/
theorem keeps_removeFromAll (index : UInt32) (names : List String) :
    Keeps (Respects E) (Attributes.removeFromAll index names) := by
  induction names with
  | nil => exact Keeps.pure 0
  | cons name rest ih =>
      exact Keeps.bind (keeps_values name) fun entries =>
        Keeps.bind (keeps_removeFrom hE index name entries) fun _ =>
          Keeps.bind ih fun _ => Keeps.pure _

/-- A page may be taken out of the index of attributes if the rule lets go of its number. -/
theorem keeps_attributes_remove {stub : Stub} (h : E .context (.stubIndex stub.shasum) none) :
    Keeps (Respects E) (Attributes.remove stub) := by
  refine Keeps.bind (keeps_stubIndex? _) fun found => ?_
  cases found with
  | none => exact Keeps.pure 0
  | some index =>
      exact Keeps.bind keeps_attributes fun names =>
        Keeps.bind (keeps_removeFromAll hE index names) fun _ =>
          Keeps.bind (keeps_forgetStub hE h) fun _ => Keeps.pure _

/-- A stub is posted under words. -/
theorem keeps_addWords (index : UInt32) (words : List String) :
    Keeps (Respects E) (Keywords.addAll index words) := by
  induction words with
  | nil => exact Keeps.pure ()
  | cons word rest ih => exact Keeps.bind (keeps_addToken hE word index) fun _ => ih

/-- A page may be added to the index of keywords. -/
theorem keeps_keywords_add (formats : Formats) (stub : Stub) (page : Page) :
    Keeps (Respects E) (Keywords.add formats stub page) := by
  refine Keeps.bind (keeps_stubIndex? _) fun found => ?_
  cases found with
  | some index => exact Keeps.pure 0
  | none =>
      exact Keeps.bind (keeps_ensureStub hE _) fun index =>
        Keeps.bind (keeps_addWords hE index _) fun _ =>
          Keeps.bind (keeps_setSummary hE _ _) fun _ => Keeps.pure _

/-- A stub is taken away from words. -/
theorem keeps_removeWords (index : UInt32) (words : List String) :
    Keeps (Respects E) (Keywords.removeAll index words) := by
  induction words with
  | nil => exact Keeps.pure ()
  | cons word rest ih => exact Keeps.bind (keeps_removeToken hE word index) fun _ => ih

/-- A page may be taken out of the index of keywords if the rule lets go of its number. -/
theorem keeps_keywords_remove {stub : Stub} (h : E .keyword (.stubIndex stub.shasum) none) :
    Keeps (Respects E) (Keywords.remove stub) := by
  refine Keeps.bind (keeps_stubIndex? _) fun found => ?_
  cases found with
  | none => exact Keeps.pure 0
  | some index =>
      exact Keeps.bind (keeps_tokensOf index) fun words =>
        Keeps.bind (keeps_removeWords hE index words) fun _ =>
          Keeps.bind (keeps_removeSummary hE _) fun _ =>
            Keeps.bind (keeps_forgetStub hE h) fun _ => Keeps.pure _

end Rules

/-! ## Pages that keep their numbers -/

section Numbers

variable {ns ns' : Namespace} {shasum : String} {stub : Stub}

/-- The index has a number for the page. -/
def Knows (ns : Namespace) (shasum : String) (s : Store) : Prop :=
  ∃ index, ((Tables.stubIndex? ns shasum).run s).1 = .ok (some index)

/-- A number is stored for the shasum. -/
def numbered (ns : Namespace) (shasum : String) : Rule := fun other c entry =>
  other = ns → c = .stubIndex shasum → ∃ bytes, entry = some bytes ∧
    ∃ index, decodeNumber bytes = .ok index

/-- The number of a shasum is read from its cell. -/
theorem run_stubIndex? (ns : Namespace) (shasum : String) (s : Store) :
    ((Tables.stubIndex? ns shasum).run s).1
      = match s.content.get? ((Cell.stubIndex shasum).key ns) with
        | some bytes => (decodeNumber bytes).map some
        | none => .ok none := by
  have hget := Store.run_get? (Store.Key.stubIndex ns shasum) s
  rw [Tables.stubIndex?, Tables.readNumber?, Action.run_bind_of_ok (congrArg Prod.fst hget), hget]
  show _ = match s.content.get? (Store.Key.stubIndex ns shasum) with
    | some bytes => (decodeNumber bytes).map some
    | none => .ok none
  cases s.content.get? (Store.Key.stubIndex ns shasum) with
  | none => rfl
  | some bytes =>
      show ((do return some (← decodeNumber bytes) : Action Store (Option UInt32)).run s).1
        = (decodeNumber bytes).map some
      cases decodeNumber bytes <;> rfl

/-- A page has a number if one is stored for its shasum. -/
theorem knows_eq_respects (ns : Namespace) (shasum : String) :
    Knows ns shasum = Respects (numbered ns shasum) := by
  funext s
  refine propext ?_
  rw [Knows, run_stubIndex?]
  constructor
  · rintro ⟨index, hindex⟩ other c hother hcell
    rw [hother, hcell]
    cases hentry : s.content.get? ((Cell.stubIndex shasum).key ns) with
    | none =>
        rw [hentry] at hindex
        cases hindex
    | some bytes =>
        rw [hentry] at hindex
        dsimp only at hindex
        refine ⟨bytes, rfl, ?_⟩
        cases hnumber : decodeNumber bytes with
        | ok n => exact ⟨n, rfl⟩
        | error failure =>
            rw [hnumber] at hindex
            cases hindex
  · intro h
    obtain ⟨bytes, hentry, index, hindex⟩ := h ns (.stubIndex shasum) rfl rfl
    rw [hentry]
    exact ⟨index, congrArg (Except.map some) hindex⟩

/-- That a shasum has a number asks nothing of other cells. -/
theorem lenient_numbered (ns : Namespace) (shasum : String) : Lenient (numbered ns shasum) where
  number _ _ n _ _ := ⟨_, rfl, n, decodeNumber_encodeNumber n⟩
  valueGone _ _ _ _ h := nomatch h
  others _ c hplain _ _ h := by
    subst h
    cases hplain

/-- Taking the number of another shasum away is allowed. -/
theorem numbered_of_ne (h : stub.shasum ≠ shasum) :
    numbered ns shasum ns' (.stubIndex stub.shasum) none :=
  fun _ hcell => absurd (Cell.stubIndex.inj hcell) h

/-- A page that has a number keeps it when a page is added to the index of attributes. -/
theorem knows_attributes_add (stub : Stub) (page : Page) :
    Keeps (Knows ns shasum) (Attributes.add stub page) := by
  rw [knows_eq_respects]
  exact keeps_attributes_add (lenient_numbered ns shasum) stub page fun _ _ _ _ _ _ h => nomatch h

/-- A page that has a number keeps it when another is taken out of the index of attributes. -/
theorem knows_attributes_remove (h : stub.shasum ≠ shasum) :
    Keeps (Knows ns shasum) (Attributes.remove stub) := by
  rw [knows_eq_respects]
  exact keeps_attributes_remove (lenient_numbered ns shasum) (numbered_of_ne h)

/-- A page that has a number keeps it when a page is added to the index of keywords. -/
theorem knows_keywords_add (formats : Formats) (stub : Stub) (page : Page) :
    Keeps (Knows ns shasum) (Keywords.add formats stub page) := by
  rw [knows_eq_respects]
  exact keeps_keywords_add (lenient_numbered ns shasum) formats stub page

/-- A page that has a number keeps it when another is taken out of the index of keywords. -/
theorem knows_keywords_remove (h : stub.shasum ≠ shasum) :
    Keeps (Knows ns shasum) (Keywords.remove stub) := by
  rw [knows_eq_respects]
  exact keeps_keywords_remove (lenient_numbered ns shasum) (numbered_of_ne h)

/-! ### Pages that are given numbers -/

/-- A cell that could be set has its entry. -/
theorem get?_of_set {key value : Bytes} {s : Store} (h : ((Store.set key value).run s).1 = .ok ()) :
    ((Store.set key value).run s).2.content.get? key = some value := by
  have hcontent : ((Store.set key value).run s).2.content = s.content.insert key value := by
    cases s with
    | plain d =>
        replace h : (d.apply (.set key value)).1 = .ok () := h
        show (d.apply (.set key value)).2.entries = _
        unfold Store.Driver.apply at h ⊢
        split at h
        case isTrue => cases h
        case isFalse hwritable => rw [if_neg hwritable]; rfl
    | buffered b => exact b.content_apply _
  rw [hcontent, Store.OrderedMap.get?_insert, if_pos rfl]

/-- What is done only for pages without a number gives the page one if it does so then. -/
theorem gains_of_stubIndex? {α : Type} {f : Option UInt32 → Action Store α}
    (hsome : ∀ index, Keeps (Knows ns shasum) (f (some index)))
    (hnone : Gains (Knows ns shasum) (f none)) :
    Gains (Knows ns shasum) (Tables.stubIndex? ns shasum >>= f) := by
  intro s a hok
  obtain ⟨found, hfound, hrun⟩ := Action.run_of_bind_ok hok
  have hstate : ((Tables.stubIndex? ns shasum).run s).2 = s :=
    keeps_stubIndex? (P := (· = s)) shasum s rfl
  rw [hrun, hstate] at hok ⊢
  cases found with
  | none => exact hnone s a hok
  | some index => exact hsome index s ⟨index, hfound⟩

/-- A shasum that is given a number has one. -/
theorem gains_ensureStub (ns : Namespace) (shasum : String) :
    Gains (Knows ns shasum) (Tables.ensureStub ns shasum) := by
  refine gains_of_stubIndex? (fun index => Keeps.pure index) ?_
  refine Gains.bind_gains fun index => Gains.bind_keeps ?_ fun _ => ?_
  · intro s _ hset
    rw [knows_eq_respects]
    rintro _ _ rfl rfl
    exact ⟨_, get?_of_set hset, index, decodeNumber_encodeNumber index⟩
  · rw [knows_eq_respects]
    exact keeps_enter (lenient_numbered ns shasum) shasum index

/-- A page that could be added to the index of attributes has a number. -/
theorem gains_attributes_add (stub : Stub) (page : Page) :
    Gains (Knows .context stub.shasum) (Attributes.add stub page) := by
  refine gains_of_stubIndex? (fun _ => Keeps.pure 0) ?_
  refine Gains.bind_keeps (gains_ensureStub .context stub.shasum) fun index => ?_
  rw [knows_eq_respects]
  exact keeps_addAll (lenient_numbered ..) index fun _ _ _ _ _ _ h => nomatch h

/-- A page that could be added to the index of keywords has a number. -/
theorem gains_keywords_add (formats : Formats) (stub : Stub) (page : Page) :
    Gains (Knows .keyword stub.shasum) (Keywords.add formats stub page) := by
  have hE := lenient_numbered .keyword stub.shasum
  refine gains_of_stubIndex? (fun _ => Keeps.pure 0) ?_
  refine Gains.bind_keeps (gains_ensureStub .keyword stub.shasum) fun index => ?_
  rw [knows_eq_respects]
  exact Keeps.bind (keeps_addWords hE index _) fun _ =>
    Keeps.bind (keeps_setSummary hE _ _) fun _ => Keeps.pure _

/-- A page that has a number is not added to the index of attributes. -/
theorem attributes_add_of_knows {s : Store} (h : Knows .context stub.shasum s) (page : Page) :
    (Attributes.add stub page).run s = (.ok 0, s) := by
  obtain ⟨index, hindex⟩ := h
  rw [Attributes.add, Action.run_bind_of_ok hindex,
    show ((Tables.stubIndex? .context stub.shasum).run s).2 = s from
      keeps_stubIndex? (P := (· = s)) stub.shasum s rfl]
  rfl

/-- A page that has a number is not added to the index of keywords. -/
theorem keywords_add_of_knows {s : Store} (h : Knows .keyword stub.shasum s) (formats : Formats)
    (page : Page) : (Keywords.add formats stub page).run s = (.ok 0, s) := by
  obtain ⟨index, hindex⟩ := h
  rw [Keywords.add, Action.run_bind_of_ok hindex,
    show ((Tables.stubIndex? .keyword stub.shasum).run s).2 = s from
      keeps_stubIndex? (P := (· = s)) stub.shasum s rfl]
  rfl

end Numbers

end SiteIndex.Index
