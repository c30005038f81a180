import SiteIndex.Proofs.Index.Anchored
import SiteIndex.Proofs.Query.Meaning
import SiteIndex.Query.Projection

/-!
# Answers do not miss a stub

Queries and selections read the values of attributes and look the shasums of stubs up. Whatever they
look up was posted under some attribute, so that over tables that are `Anchored` it has a shasum:
they may be refused, but not because an entry is missing (`finds_run`, `finds_select`).
-/

namespace SiteIndex.Query

open Posting
open Index (Anchored)
open SiteIndex.Random (Generator)
open Store (Namespace OrderedMap)
open Store.Key (isName)
open SiteIndex.Action (Takes Found Finds)

/-! ## Refusals -/

/-- Values that cannot be compared are refused for their types. -/
theorem found_equals (v w : Value) : Found (fun _ => True) (v.equals w) := by
  cases v <;> cases w <;> first | exact Found.ok trivial | exact Found.error rfl

/-- A literal that cannot be read is refused for its type. -/
theorem found_ofLiteral (v : Value) (text : String) : Found (fun _ => True) (v.ofLiteral text) := by
  unfold Value.ofLiteral
  dsimp only
  split
  · exact Found.ok trivial
  · exact Found.error rfl

/-- Looking for an equal value misses no entry. -/
theorem found_equalsAny (v : Value) (values : List Value) :
    Found (fun _ => True) (equalsAny v values) := by
  induction values with
  | nil => exact Found.ok trivial
  | cons w rest ih =>
      refine Found.bind (found_equals v w) fun hit _ => ?_
      cases hit with
      | true => exact Found.ok trivial
      | false => exact ih

/-- Comparing with a literal misses no entry. -/
theorem found_equalsLiteral (text : String) (e : ValuePostings) :
    Found (fun _ => True) (equalsLiteral text e) :=
  Found.bind (found_ofLiteral e.value text) fun w _ => found_equals e.value w

/-- Matching a pattern misses no entry. -/
theorem found_matchesPattern (key : String) (regex : Pattern.Regex) (e : ValuePostings) :
    Found (fun _ => True) (matchesPattern key regex e) := by
  unfold matchesPattern
  cases e.value <;> first | exact Found.ok trivial | exact Found.error rfl

section Entries

variable {entries others : List ValuePostings}

/-- The stubs are posted under some of the entries. -/
def Among (entries : List ValuePostings) (hits : StubSet) : Prop :=
  ∀ index ∈ hits, ∃ e ∈ entries, index ∈ e.postings.stubs

/-- What is hit by a test is posted. -/
theorem found_hitsBy {test : ValuePostings → Outcome Bool}
    (htest : ∀ e, Found (fun _ => True) (test e)) (entries : List ValuePostings) :
    Found (Among entries) (hitsBy test entries) := by
  induction entries with
  | nil => exact Found.ok fun _ h => absurd h StubSet.not_mem_empty
  | cons e rest ih =>
      refine Found.bind (htest e) fun hit _ => Found.bind ih fun more hmore => Found.ok ?_
      intro index hindex
      have hcase : index ∈ e.postings.toSet ∨ index ∈ more := by
        cases hit with
        | true => exact StubSet.mem_union.1 hindex
        | false => exact .inr hindex
      rcases hcase with hindex | hindex
      · exact ⟨e, List.mem_cons_self .., StubSet.mem_ofList.1 hindex⟩
      · obtain ⟨x, hx, hmem⟩ := hmore index hindex
        exact ⟨x, List.mem_cons_of_mem _ hx, hmem⟩

/-- The stubs that have an equal value among others are some of the stubs. -/
theorem found_referenceStubs (others : List ValuePostings) (value : Value) (stubs : List UInt32) :
    Found (fun found => ∀ index ∈ found, index ∈ stubs) (referenceStubs others value stubs) := by
  induction stubs with
  | nil => exact Found.ok fun _ h => h
  | cons stub rest ih =>
      refine Found.bind (found_equalsAny value (valuesOf others stub)) fun hit _ =>
        Found.bind ih fun more hmore => Found.ok ?_
      intro index hindex
      cases hit with
      | true =>
          rcases List.mem_cons.1 hindex with rfl | hindex
          · exact List.mem_cons_self ..
          · exact List.mem_cons_of_mem _ (hmore index hindex)
      | false => exact List.mem_cons_of_mem _ (hmore index hindex)

/-- The stubs that have an equal value under another attribute are posted. -/
theorem found_referenceHits (others entries : List ValuePostings) :
    Found (Among entries) (referenceHits others entries) := by
  induction entries with
  | nil => exact Found.ok fun _ h => absurd h StubSet.not_mem_empty
  | cons e rest ih =>
      refine Found.bind (found_referenceStubs others e.value e.postings.stubs) fun found hfound =>
        Found.bind ih fun more hmore => Found.ok ?_
      intro index hindex
      rcases StubSet.mem_union.1 hindex with hindex | hindex
      · exact ⟨e, List.mem_cons_self .., hfound index (StubSet.mem_ofList.1 hindex)⟩
      · obtain ⟨x, hx, hmem⟩ := hmore index hindex
        exact ⟨x, List.mem_cons_of_mem _ hx, hmem⟩

/-- All stubs of the entries are posted. -/
theorem among_allStubs (entries : List ValuePostings) : Among entries (allStubs entries) :=
  fun _ => mem_allStubs.1

end Entries

/-! ## Reading anchored tables -/

section Tables

variable {t : Namespace → Fields} {f : Fields}

/-- The number has a shasum. -/
def Known (f : Fields) (index : UInt32) : Prop := f (.stubShasum index) ≠ none

/-- All stubs of the entries have shasums. -/
def AllKnown (f : Fields) (entries : List ValuePostings) : Prop :=
  ∀ e ∈ entries, ∀ index ∈ e.postings.stubs, Known f index

/-- Stubs that are posted under entries have shasums if these have. -/
theorem known_of_among {entries : List ValuePostings} {hits : StubSet} (hhits : Among entries hits)
    (hknown : AllKnown f entries) : ∀ index ∈ hits, Known f index := by
  intro index hindex
  obtain ⟨e, he, hmem⟩ := hhits index hindex
  exact hknown e he index hmem

/-- The values of an attribute are read, with stubs that have shasums, or the attribute is no
name. -/
theorem finds_values (h : Anchored f) (key : String) :
    Finds (fun s => Shows t .context s f) (Tables.values .context key) (AllKnown f) := by
  by_cases hkey : isName key = true
  · intro s hs
    obtain ⟨m, _, hm⟩ := id hs
    obtain ⟨entries, hlisting⟩ := exists_listing hm h.coherent ⟨key, hkey⟩
    have hstorable : ∀ e ∈ entries, e.value.Storable := fun e he =>
      h.storable _ e.slot e.value ((hlisting.mem_iff e).1 he).1
    have hvalues : Takes (Shows t .context) (Tables.values .context (Subtype.val ⟨key, hkey⟩)) f
        (.ok (entries.map Entry.postings)) f := takes_values h.coherent hlisting hstorable
    obtain ⟨hout, hs'⟩ := hvalues s hs
    refine ⟨hs', ?_⟩
    have hfound : Found (AllKnown f) (.ok (entries.map Entry.postings)) := by
      refine Found.ok fun x hx index hindex => ?_
      obtain ⟨e, he, rfl⟩ := List.mem_map.1 hx
      have hposted : index ∈ f.stubs (.slot ⟨key, hkey⟩ e.slot) := by
        rw [hlisting.stubs_eq he]
        exact hindex
      exact h.shasum_of_posted _ _ _ hposted
    exact hout ▸ hfound
  · exact Finds.of_takes (takes_values_invalid hkey) (Found.error rfl)

/-- The shasums of stubs that have one are read. -/
theorem finds_shasums {ns : Namespace} {indices : List UInt32}
    (hknown : ∀ index ∈ indices, Known f index) :
    Finds (fun s => Shows t ns s f) (Tables.shasums ns indices) fun _ => True := by
  have hshasum : ∀ index ∈ indices,
      f (.stubShasum index) = some ((f (.stubShasum index)).getD "") := by
    intro index hindex
    obtain ⟨shasum, hshasum⟩ := Option.ne_none_iff_exists'.1 (hknown index hindex)
    rw [hshasum]
    rfl
  exact Finds.of_takes (takes_shasums hshasum) (Found.ok trivial)

/-- An operand hits stubs that are posted. -/
theorem finds_operandHits (h : Anchored f) (key : String) (entries : List ValuePostings)
    (operand : Operand) :
    Finds (fun s => Shows t .context s f) (operandHits .context key entries operand)
      (Among entries) := by
  cases operand with
  | literal text => exact Finds.ofOutcome (found_hitsBy (found_equalsLiteral text) entries)
  | pattern p =>
      unfold operandHits
      dsimp only
      cases Pattern.compile? p.source with
      | none => exact Finds.ofOutcome (Found.error (e := .invalidPattern) rfl)
      | some regex => exact Finds.ofOutcome (found_hitsBy (found_matchesPattern key regex) entries)
  | reference other =>
      exact Finds.bind (finds_values h other) fun others _ =>
        Finds.ofOutcome (found_referenceHits others entries)

/-- Evaluating an expression finds stubs that have shasums. -/
theorem finds_evaluate (h : Anchored f) (e : Expression) :
    Finds (fun s => Shows t .context s f) (evaluate .context e)
      fun hits => ∀ index ∈ hits, Known f index := by
  induction e with
  | condition kind left right ihl ihr =>
      refine Finds.bind ihl fun a ha => Finds.bind ihr fun b hb => ?_
      cases kind with
      | and => exact Finds.pure fun index hindex => ha index (StubSet.mem_inter.1 hindex).1
      | or =>
          exact Finds.pure fun index hindex =>
            (StubSet.mem_union.1 hindex).elim (ha index) (hb index)
  | operation key op operand =>
      refine Finds.bind (finds_values h key) fun entries hentries =>
        Finds.bind (finds_operandHits h key entries operand) fun hits hhits => Finds.pure ?_
      intro index hindex
      split at hindex
      · exact known_of_among (among_allStubs entries) hentries index (StubSet.mem_diff.1 hindex).1
      · exact known_of_among hhits hentries index hindex

/-- A statement is answered, or refused for another reason than a missing entry. -/
theorem finds_run (h : Anchored f) (s : Statement) :
    Finds (fun store => Shows t .context store f) (run .context s) fun _ => True := by
  refine Finds.bind (finds_evaluate h s.expression) fun hits hhits => ?_
  refine Finds.bind (Finds.mapM_any fun key _ => ?_) fun _ _ => ?_
  · exact Finds.bind (finds_values h key) fun _ _ => Finds.pure trivial
  · exact Finds.bind (finds_shasums hhits) fun _ _ => Finds.pure trivial

/-- The pages that have a selected attribute are found. -/
theorem finds_unscopedRows (h : Anchored f) (terms : List Term) :
    Finds (fun store => Shows t .context store f) (unscopedRows .context terms) fun _ => True := by
  refine Finds.bind (Finds.mapM fun term _ => finds_values h term.key) fun columns hcolumns => ?_
  refine Finds.bind (finds_shasums ?_) fun _ _ => Finds.pure trivial
  intro index hindex
  obtain ⟨_, hset, hmem⟩ := (StubSet.mem_foldl_union.1 hindex).resolve_left StubSet.not_mem_empty
  obtain ⟨entries, hentries, rfl⟩ := List.mem_map.1 hset
  exact known_of_among (among_allStubs entries) (hcolumns entries hentries) index hmem

/-- The terms of a selection are projected. -/
theorem finds_projectAll (h : Anchored f) (rows : List UInt32) (scope : Option StubSet)
    (terms : List Term) (g : Generator) :
    Finds (fun store => Shows t .context store f) (projectAll .context rows scope terms g)
      fun result => Found (fun _ => True) result.1 := by
  induction terms generalizing g with
  | nil => exact Finds.pure (Found.ok trivial)
  | cons term rest ih =>
      refine Finds.bind (finds_values h term.key).attempt fun out hout => ?_
      cases out with
      | error fault => exact Finds.pure (Found.error (hout.2 fault rfl))
      | ok entries =>
          refine Finds.bind (ih _) fun others hothers => Finds.pure ?_
          cases hout : others.1 with
          | error fault => exact Found.error (hothers.2 fault hout)
          | ok columns => exact Found.ok trivial

/-- A selection is answered, or refused for another reason than a missing entry. -/
theorem finds_select (h : Anchored f) (s : Selection) (g : Generator) :
    Finds (fun store => Shows t .context store f) (select .context s g)
      fun result => Found (fun _ => True) result.1 := by
  have hrows : Finds (fun store => Shows t .context store f) (rows .context s) fun _ => True := by
    unfold rows
    cases s.scope with
    | none => exact Finds.bind (finds_unscopedRows h s.terms) fun _ _ => Finds.pure trivial
    | some statement => exact Finds.bind (finds_run h statement) fun _ _ => Finds.pure trivial
  refine Finds.bind hrows.attempt fun out hout => ?_
  cases out with
  | error fault => exact Finds.pure (Found.error (hout.2 fault rfl))
  | ok entry => exact finds_projectAll h entry.1 entry.2 s.terms g

end Tables

end SiteIndex.Query
