import SiteIndex.Proofs.Index.Attributes

/-!
# Runs of the index of attributes

`Stands` says that a store stands for a `Reference`, whatever its other namespace holds. Every
change takes stores that stand for a reference to stores that stand for the next one
(`takes_add`, `takes_remove`, `takes_clear`), so that along every run the results and the values
that are read are those of the reference (`runs_eq_reference`).
-/

namespace SiteIndex.Index

open Posting
open Store (Namespace)
open Store.Key (isName)
open SiteIndex.Action (Takes)

/-! ## Stores and references -/

/-- The index of attributes in a store stands for a reference; `t` says what is in the other
namespace. -/
def Stands (used : Value → Prop) (t : Namespace → Fields) (s : Store) (r : Reference) : Prop :=
  ∃ f, Shows t .context s f ∧ Follows used f r

/-- The counters of a reference fit their width. -/
def Reference.Fits (r : Reference) : Prop :=
  r.numbered < UInt32.size ∧ ∀ name, r.begun name < UInt32.size

section Operations

variable {used : Value → Prop} {t : Namespace → Fields} {r : Reference}

/-- An empty store stands for the empty index. -/
theorem stands_empty {s : Store} (hs : s.Holds ∅) : Stands used (fun _ _ => none) s {} := by
  refine ⟨fun _ => none, ⟨∅, hs, ?_⟩, Follows.empty⟩
  rw [Function.update_eq_self]
  exact Stored.empty

/-- The values of an attribute are those of the reference. -/
theorem takes_values (hdistinct : Distinct used) (name : Name) :
    Takes (Stands used t) (Attributes.values name.1) r (.ok (r.values name.1)) r :=
  Takes.refine fun f h => ⟨f, h.takes_values hdistinct name, h⟩

/-- Adding a page does what the reference says. -/
theorem takes_add (hdistinct : Distinct used) (stub : Page.Stub) (page : Page)
    (hused : ∀ p ∈ Attributes.postings page.context, used p.2)
    (hfits : (r.add stub.shasum (Attributes.postings page.context)).2.Fits) :
    Takes (Stands used t) (Attributes.add stub page) r
      (r.add stub.shasum (Attributes.postings page.context)).1
      (r.add stub.shasum (Attributes.postings page.context)).2 :=
  Takes.refine fun _ h => h.takes_add hdistinct stub page hused hfits.1 hfits.2

/-- Taking a page out does what the reference says. -/
theorem takes_remove (hdistinct : Distinct used) (stub : Page.Stub) :
    Takes (Stands used t) (Attributes.remove stub) r (.ok (r.remove stub.shasum).1)
      (r.remove stub.shasum).2 := by
  rintro s ⟨f, ⟨m, hholds, hm⟩, h⟩
  obtain ⟨g, hremove, hg⟩ := h.takes_remove hdistinct hm stub
  obtain ⟨hout, hs⟩ := hremove s ⟨m, hholds, hm⟩
  exact ⟨hout, g, hs, hg⟩

/-- Clearing leaves the empty index. -/
theorem takes_clear {α : Type} (a : α) :
    Takes (Stands used t) (do let _ ← Attributes.clear; return a) r (.ok a) {} := by
  refine Takes.refine fun f _ => ⟨fun _ => none, ?_, Follows.empty⟩
  have htables : ∃ count, Takes (Shows t .context) Attributes.clear f (.ok count) fun _ => none :=
    Posting.takes_clear
  obtain ⟨count, hclear⟩ := htables
  exact Takes.bind hclear (Takes.pure a)

end Operations

/-! ## Runs -/

/-- A change of the index. -/
inductive Change where
  | add (stub : Page.Stub) (page : Page)
  | remove (stub : Page.Stub)
  | clear

namespace Change

/-- The pairs that a change posts a page under. -/
def pairs : Change → List (String × Value)
  | add _ page => Attributes.postings page.context
  | remove _ | clear => []

/-- The change of a store. How many entries clearing drops is left out. -/
def action : Change → Action Store Nat
  | add stub page => Attributes.add stub page
  | remove stub => Attributes.remove stub
  | clear => do
    let _ ← Attributes.clear
    return 0

/-- The change of a reference. -/
def perform (r : Reference) : Change → Outcome Nat × Reference
  | add stub page => r.add stub.shasum (Attributes.postings page.context)
  | remove stub => (.ok (r.remove stub.shasum).1, (r.remove stub.shasum).2)
  | clear => (.ok 0, {})

end Change

/-- The results of changes one after the other and the state after them. What a change has done
stays also if it fails. -/
def runs {σ : Type} (step : σ → Change → Outcome Nat × σ) : σ → List Change → List (Outcome Nat) × σ
  | s, [] => ([], s)
  | s, op :: rest =>
    ((step s op).1 :: (runs step (step s op).2 rest).1, (runs step (step s op).2 rest).2)

/-- Changes of a store. -/
def serve (s : Store) (ops : List Change) : List (Outcome Nat) × Store :=
  runs (fun s op => op.action.run s) s ops

/-- Changes of a reference. -/
def refer (r : Reference) (ops : List Change) : List (Outcome Nat) × Reference :=
  runs Change.perform r ops

/-- The last of several changes is made to what the others have left. -/
theorem refer_concat (r : Reference) (ops : List Change) (op : Change) :
    (refer r (ops ++ [op])).2 = (op.perform (refer r ops).2).2 := by
  induction ops generalizing r with
  | nil => rfl
  | cons first rest ih => exact ih (first.perform r).2

/-- The values that changes post pages under. -/
def Used (ops : List Change) (v : Value) : Prop := ∃ op ∈ ops, ∃ p ∈ op.pairs, p.2 = v

/-- Changes that post under values of a list tell them apart as the list does. -/
theorem Distinct.used {values : List Value} (h : Distinct (· ∈ values)) {ops : List Change}
    (hvalues : ∀ op ∈ ops, ∀ p ∈ op.pairs, p.2 ∈ values) : Distinct (Used ops) := by
  refine h.mono fun v hv => ?_
  obtain ⟨op, hop, p, hp, rfl⟩ := hv
  exact hvalues op hop p hp

variable {used : Value → Prop} {t : Namespace → Fields} {s : Store} {r : Reference}

/-- A change of a store does what it does to the reference. -/
theorem Change.takes_action (hdistinct : Distinct used) (op : Change)
    (hused : ∀ p ∈ op.pairs, used p.2) (hfits : (op.perform r).2.Fits) :
    Takes (Stands used t) op.action r (op.perform r).1 (op.perform r).2 := by
  cases op with
  | add stub page => exact takes_add hdistinct stub page hused hfits
  | remove stub => exact takes_remove hdistinct stub
  | clear => exact takes_clear 0

/-- A change adds at most one page, and at most as many rows as it has pairs. -/
theorem Change.perform_le (r : Reference) (op : Change) :
    (op.perform r).2.numbered ≤ r.numbered + 1 ∧
      ∀ name, (op.perform r).2.begun name ≤ r.begun name + op.pairs.length := by
  cases op with
  | add stub page => exact r.add_le stub.shasum (Attributes.postings page.context)
  | remove stub =>
      obtain ⟨hnumbered, hbegun⟩ := r.counters_remove stub.shasum
      refine ⟨?_, fun name => ?_⟩
      · show (r.remove stub.shasum).2.numbered ≤ r.numbered + 1
        omega
      · show (r.remove stub.shasum).2.begun name ≤ r.begun name
        rw [hbegun]
  | clear => exact ⟨Nat.zero_le _, fun _ => Nat.zero_le _⟩

/-- Few changes do not make the counters run over. -/
theorem refer_le (r : Reference) (ops : List Change) :
    (refer r ops).2.numbered ≤ r.numbered + ops.length ∧
      ∀ name, (refer r ops).2.begun name ≤ r.begun name + (ops.flatMap Change.pairs).length := by
  induction ops generalizing r with
  | nil => exact ⟨Nat.le_refl _, fun _ => Nat.le_refl _⟩
  | cons op rest ih =>
      obtain ⟨hnumbered, hbegun⟩ := op.perform_le r
      obtain ⟨hnumbered', hbegun'⟩ := ih (op.perform r).2
      constructor
      · show (refer (op.perform r).2 rest).2.numbered ≤ r.numbered + (rest.length + 1)
        omega
      · intro name
        have hfirst := hbegun name
        have hrest := hbegun' name
        rw [List.flatMap_cons, List.length_append]
        show (refer (op.perform r).2 rest).2.begun name ≤ _
        omega

/-- Fewer changes and pairs than there are numbers fit. -/
theorem fits_of_few (ops : List Change) (hops : ops.length < UInt32.size)
    (hpairs : (ops.flatMap Change.pairs).length < UInt32.size) :
    ∀ front, front <+: ops → (refer {} front).2.Fits := by
  rintro front ⟨back, rfl⟩
  obtain ⟨hnumbered, hbegun⟩ := refer_le {} front
  rw [List.length_append] at hops
  rw [List.flatMap_append, List.length_append] at hpairs
  have hzero : ({} : Reference).numbered = 0 := rfl
  refine ⟨by omega, fun name => ?_⟩
  have hname := hbegun name
  have hnone : ({} : Reference).begun name = 0 := rfl
  omega

/-- Changes of a store give the results of the reference, and it stays what the store stands for. -/
theorem Stands.serve (h : Stands used t s r) (hdistinct : Distinct used) (ops : List Change)
    (hused : ∀ op ∈ ops, ∀ p ∈ op.pairs, used p.2)
    (hfits : ∀ front, front <+: ops → (refer r front).2.Fits) :
    (serve s ops).1 = (refer r ops).1 ∧ Stands used t (serve s ops).2 (refer r ops).2 := by
  -- A change that fails leaves a store that stands for the reference too, so that runs go on.
  induction ops generalizing s r with
  | nil => exact ⟨rfl, h⟩
  | cons op rest ih =>
      have hfirst := op.takes_action (t := t) hdistinct (hused op (List.mem_cons_self ..))
        (hfits [op] ⟨rest, rfl⟩)
      obtain ⟨hout, hstands⟩ := hfirst s h
      obtain ⟨houts, hstands'⟩ := ih hstands (fun o ho => hused o (List.mem_cons_of_mem _ ho))
        fun front hfront => hfits (op :: front) ((List.prefix_cons_inj op).2 hfront)
      exact ⟨congrArg₂ List.cons hout houts, hstands'⟩

/-- Whatever changes are made to a store that was empty, their results are those of the
reference, and so are the values of every attribute after each of them. -/
theorem runs_eq_reference (hs : s.Holds ∅) (ops : List Change) (hdistinct : Distinct (Used ops))
    (hfits : ∀ front, front <+: ops → (refer {} front).2.Fits) :
    (serve s ops).1 = (refer {} ops).1 ∧
      ∀ front, front <+: ops → ∀ name, isName name = true →
        ((Attributes.values name).run (serve s front).2).1
          = .ok ((refer {} front).2.values name) := by
  have hstart : Stands (Used ops) (fun _ _ => none) s {} := stands_empty hs
  have hused : ∀ op ∈ ops, ∀ p ∈ op.pairs, Used ops p.2 :=
    fun op hop p hp => ⟨op, hop, p, hp, rfl⟩
  refine ⟨(hstart.serve hdistinct ops hused hfits).1, fun front hfront name hname => ?_⟩
  have hstands := (hstart.serve hdistinct front
    (fun op hop => hused op (hfront.subset hop))
    fun first hfirst => hfits first (hfirst.trans hfront)).2
  exact (takes_values hdistinct ⟨name, hname⟩ _ hstands).1

/-- A page that comes back behind another one, in a store with a write buffer. -/
theorem runs_eq_reference_reindexed :
    let stub (shasum : String) : Page.Stub :=
      { shasum, source := "a.md", mount := "/", language := "en", fallback := "en" }
    let page : Page :=
      { shasum := "", source := "a.md", url := "/a", title := "", description := "",
        language := "en", format := "md", sectionName := "", permalink := none, redirects := [],
        translates := none, created := ⟨0, 0, 0⟩, updated := ⟨0, 0, 0⟩, content := "",
        frontmatter := ∅, context := NameMap.ofList [("tags", .list [.text "x", .text "x"])] }
    let ops : List Change := [.add (stub "a") page, .add (stub "b") page, .remove (stub "a"),
      .add (stub "a") page]
    let s : Store := .buffered (.make (.ofBackend .sqlite false) 2 3)
    (serve s ops).1 = [.ok 1, .ok 1, .ok 1, .ok 1] ∧
      ((Attributes.values "tags").run (serve s ops).2).1 = .ok [(.text "x", ["b", "a"])] := by
  intro stub page ops s
  have hstored : ∀ v ∈ [Value.text "x"], v.Storable := by
    simp only [List.forall_mem_singleton, Value.Storable]
    decide
  have hdistinct : Distinct (Used ops) :=
    (distinct_of_nodup hstored (List.nodup_singleton _)).used (by decide)
  have hfits := fits_of_few ops (by decide) (by decide)
  obtain ⟨hout, hvalues⟩ := runs_eq_reference (Store.holds_buffered .sqlite 2 3) ops hdistinct hfits
  rw [hout, hvalues ops (List.prefix_refl ops) "tags" (by decide)]
  exact ⟨by decide, by decide⟩

end SiteIndex.Index
