import SiteIndex.Proofs.Index.Runs

/-!
# Pages that the index of attributes rejects

A page is given its number first and is then posted attribute by attribute, and the number alone
says that it is indexed. So a page with an attribute that is no name is rejected only after it has
been numbered and posted under the attributes before this one. It stays so, and if it is added again
it passes for indexed (`admits_serve`).
-/

namespace SiteIndex.Index

open Posting
open Store (Namespace)
open Store.Key (isName)
open SiteIndex.Action (Takes)

/-! ## What an index shows of a page -/

/-- The index in the store has a number for the page. -/
def HasNumber (s : Store) (shasum : String) : Prop :=
  ∃ index, ((Tables.stubIndex? .context shasum).run s).1 = .ok (some index)

/-- The index in the store lists the page with the value of the attribute. -/
def HasPosted (s : Store) (p : String × Value) (shasum : String) : Prop :=
  ∃ listed stubs, ((Attributes.values p.1).run s).1 = .ok listed ∧
    (p.2, stubs) ∈ listed ∧ shasum ∈ stubs

/-- The pairs before the first attribute that is no name. -/
def namedFront (pairs : List (String × Value)) : List (String × Value) :=
  pairs.takeWhile fun p => isName p.1

/-- All pairs are in front if their attributes are names. -/
theorem namedFront_eq_self {pairs : List (String × Value)} (h : ∀ p ∈ pairs, isName p.1 = true) :
    namedFront pairs = pairs := List.takeWhile_eq_self_iff.2 h

/-- What the index in a store makes of a page that it is asked to add. A page without a number is
rejected if some attribute is no name, but it has its number then and stays posted under the
attributes before this one; a page with a number is left as it is. -/
structure Admits (s : Store) (stub : Page.Stub) (page : Page) : Prop where
  known : HasNumber s stub.shasum → (Attributes.add stub page).run s = (.ok 0, s)
  accepted : ¬ HasNumber s stub.shasum →
    (∀ p ∈ Attributes.postings page.context, isName p.1 = true) →
      ((Attributes.add stub page).run s).1
        = .ok (Attributes.postings page.context).eraseDups.length
  /-- The failure names the first attribute that is no name. -/
  rejected : ¬ HasNumber s stub.shasum →
    ∀ p, (Attributes.postings page.context).find? (fun p => !isName p.1) = some p →
      ((Attributes.add stub page).run s).1 = .error (.invalidName p.1)
  number_iff : ∀ other, HasNumber ((Attributes.add stub page).run s).2 other ↔
    other = stub.shasum ∨ HasNumber s other
  posted_iff : ∀ p other, HasPosted ((Attributes.add stub page).run s).2 p other ↔
    (p ∈ namedFront (Attributes.postings page.context) ∧ ¬ HasNumber s stub.shasum ∧
      other = stub.shasum) ∨ HasPosted s p other
  /-- Whatever came of it, the next time it is a success without any effect. -/
  again : (Attributes.add stub page).run ((Attributes.add stub page).run s).2
    = (.ok 0, ((Attributes.add stub page).run s).2)

/-! ## Adding a page to a reference -/

namespace Reference

variable {r : Reference} {shasum other : String} {pairs : List (String × Value)}
  {p : String × Value}

/-- A page that is added is live, whatever comes of it. -/
theorem mem_live_add : other ∈ (r.add shasum pairs).2.live ↔ other = shasum ∨ other ∈ r.live := by
  unfold add
  split
  case isTrue hlive => exact (or_iff_right_of_imp fun heq => heq ▸ hlive).symm
  case isFalse =>
    rw [live_foldl_post]
    show other ∈ r.live ++ [shasum] ↔ _
    rw [List.mem_append, List.mem_singleton, or_comm]

/-- A new page is posted under the pairs before the first attribute that is no name. -/
theorem posted_add : (r.add shasum pairs).2.Posted p other ↔
    (p ∈ namedFront pairs ∧ shasum ∉ r.live ∧ other = shasum) ∨ r.Posted p other := by
  unfold add
  split
  case isTrue hlive => exact (or_iff_right fun h => h.2.1 hlive).symm
  case isFalse hlive =>
    rw [posted_foldl_post, and_iff_right hlive]
    exact Iff.rfl

/-- The attributes of a new page that is added without a fault are names. -/
theorem isName_of_add_ok {count : Nat} (hnew : shasum ∉ r.live)
    (hok : (r.add shasum pairs).1 = .ok count) : ∀ p ∈ pairs, isName p.1 = true := by
  rw [add, if_neg hnew] at hok
  cases hfind : pairs.find? fun p => !isName p.1 with
  | some p =>
      rw [hfind] at hok
      cases hok
  | none => exact fun p hp => by simpa using List.find?_eq_none.1 hfind p hp

end Reference

/-! ## Reading a number -/

section Reading

variable {s : Store} {shasum : String}

/-- Reading the number of a page leaves the store as it is. -/
theorem state_stubIndex? (ns : Namespace) (shasum : String) (s : Store) :
    ((Tables.stubIndex? ns shasum).run s).2 = s := by
  have hget := Store.run_get? (Store.Key.stubIndex ns shasum) s
  rw [Tables.stubIndex?, Tables.readNumber?, Action.run_bind_of_ok (congrArg Prod.fst hget), hget]
  cases s.content.get? (Store.Key.stubIndex ns shasum) with
  | none => rfl
  | some bytes =>
      show ((do return some (← Store.Key.decodeNumber bytes) :
        Action Store (Option UInt32)).run s).2 = s
      cases hnumber : Store.Key.decodeNumber bytes with
      | error failure => rfl
      | ok index => rfl

/-- A page that has a number is not added. -/
theorem run_add_of_hasNumber {stub : Page.Stub} (h : HasNumber s stub.shasum) (page : Page) :
    (Attributes.add stub page).run s = (.ok 0, s) := by
  obtain ⟨index, hindex⟩ := h
  rw [Attributes.add, Action.run_bind_of_ok hindex, state_stubIndex?]
  rfl

end Reading

/-! ## Stores and references -/

namespace Stands

variable {used : Value → Prop} {t : Namespace → Fields} {s : Store} {r : Reference}

/-- The pages that have numbers are the live ones. -/
theorem hasNumber_iff (h : Stands used t s r) (shasum : String) :
    HasNumber s shasum ↔ shasum ∈ r.live := by
  obtain ⟨f, hs, hfollows⟩ := h
  rw [HasNumber, (takes_stubIndex? shasum s hs).1, hfollows.live, Option.ne_none_iff_exists']
  simp

/-- The pages that are listed are those that the reference has posted. -/
theorem hasPosted_iff (h : Stands used t s r) (hdistinct : Distinct used) (p : String × Value)
    (shasum : String) : HasPosted s p shasum ↔ r.Posted p shasum := by
  have hposted : (∃ stubs, (p.2, stubs) ∈ r.values p.1 ∧ shasum ∈ stubs) ↔
      r.Posted p shasum := by
    constructor
    · rintro ⟨stubs, hvalue, hshasum⟩
      exact ⟨_, Reference.mem_values_iff.1 hvalue, rfl, hshasum⟩
    · rintro ⟨row, hrow, rfl, hshasum⟩
      exact ⟨_, Reference.mem_values_iff.2 hrow, hshasum⟩
  by_cases hname : isName p.1 = true
  · rw [HasPosted, (takes_values hdistinct ⟨p.1, hname⟩ s h).1, ← hposted]
    simp
  · -- No values are read under an attribute that is no name, and no row has one.
    have hread : Takes (Stands used t) (Attributes.values p.1) r (.error (.invalidName p.1)) r :=
      Takes.bind_error (takes_values_invalid hname)
    rw [HasPosted, (hread s h).1]
    obtain ⟨f, -, hfollows⟩ := h
    refine iff_of_false (by simp) ?_
    rintro ⟨row, hrow, rfl, -⟩
    exact hname (hfollows.pairs _ (List.mem_map_of_mem hrow)).1

/-- What the index makes of a page that is added. -/
theorem admits (h : Stands used t s r) (hdistinct : Distinct used) {stub : Page.Stub} {page : Page}
    (hused : ∀ p ∈ Attributes.postings page.context, used p.2)
    (hfits : (r.add stub.shasum (Attributes.postings page.context)).2.Fits) :
    Admits s stub page := by
  obtain ⟨hout, hafter⟩ := takes_add hdistinct stub page hused hfits s h
  have hnumber := hafter.hasNumber_iff
  constructor
  case known => exact fun hknown => run_add_of_hasNumber hknown page
  case accepted =>
    intro hnew hnames
    have hfind : (Attributes.postings page.context).find? (fun p => !isName p.1) = none :=
      List.find?_eq_none.2 fun p hp => by simpa using hnames p hp
    rw [hout, Reference.add, if_neg (mt (h.hasNumber_iff _).2 hnew), hfind]
  case rejected =>
    intro hnew p hfind
    rw [hout, Reference.add, if_neg (mt (h.hasNumber_iff _).2 hnew), hfind]
  case number_iff =>
    intro other
    rw [hnumber, Reference.mem_live_add, h.hasNumber_iff]
  case posted_iff =>
    intro p other
    rw [hafter.hasPosted_iff hdistinct, Reference.posted_add, h.hasPosted_iff hdistinct,
      h.hasNumber_iff]
  case again =>
    exact run_add_of_hasNumber ((hnumber _).2 (Reference.mem_live_add.2 (.inl rfl))) page

end Stands

/-- Whatever changes have been made to a store that was empty, and whatever came of them, a page
with an attribute that is no name is rejected only once it has been numbered and posted in part. -/
theorem admits_serve {s : Store} (hs : s.Holds ∅) (ops : List Change) (stub : Page.Stub)
    (page : Page) (hdistinct : Distinct (Used (ops ++ [.add stub page])))
    (hfits : ∀ front, front <+: ops ++ [.add stub page] → (refer {} front).2.Fits) :
    Admits (serve s ops).2 stub page := by
  have hstart : Stands (Used (ops ++ [.add stub page])) (fun _ _ => none) s {} := stands_empty hs
  have hstands := (hstart.serve hdistinct ops
    (fun op hop p hp => ⟨op, List.mem_append_left _ hop, p, hp, rfl⟩)
    fun front hfront => hfits front (hfront.trans (List.prefix_append ..))).2
  have hlast := hfits _ (List.prefix_refl _)
  rw [refer_concat] at hlast
  exact hstands.admits hdistinct (fun p hp => ⟨.add stub page,
    List.mem_append_right _ (List.mem_singleton_self _), p, hp, rfl⟩) hlast

end SiteIndex.Index
