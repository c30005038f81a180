import SiteIndex.Proofs.Index.Reference
import SiteIndex.Proofs.Posting.List
import SiteIndex.Query.Matching

/-!
# What an expression means

An expression has a meaning over the reference of an index: `Satisfies` says which pages satisfy
it, and `Refused` when it has no answer since values that cannot be compared meet. The second
half describes what the parts of `evaluate` find among the entries of an attribute, as outcomes
that tell when they fail and which stubs they hit (`Tells`).
-/

namespace SiteIndex.Query

open Posting
open Index (Reference)

/-! ## Comparing values -/

/-- Values of one type that are no lists can be compared. -/
def Comparable (v w : Value) : Prop := v.isList = false ∧ v.typeName = w.typeName

/-- Comparing gives an answer for comparable values and for no others. -/
theorem equals_cases (v w : Value) :
    (Comparable v w ∧ ∃ b, v.equals w = .ok b) ∨
      (¬ Comparable v w ∧ ∃ fault, v.equals w = .error fault) := by
  unfold Comparable
  cases v <;> cases w <;> simp [Value.equals, Value.isList, Value.typeName]

/-- A reading that goes well gives a value of the type that was read. -/
theorem eq_of_read {α : Type} {read : Option α} {form : α → Value} {fault : Failure} {w : Value}
    (h : (match read.map form with
      | some value => Except.ok value
      | none => .error fault) = .ok w) : ∃ a, w = form a := by
  cases read with
  | none => cases h
  | some a =>
      cases h
      exact ⟨a, rfl⟩

/-- A literal is read as a value that can be compared with the one it was read for. -/
theorem comparable_of_ofLiteral {v w : Value} {text : String} (h : v.ofLiteral text = .ok w) :
    Comparable v w := by
  cases v with
  | text _ =>
      cases h
      exact ⟨rfl, rfl⟩
  | bool _ =>
      unfold Value.ofLiteral at h
      dsimp only at h
      by_cases htrue : text = "true"
      · rw [if_pos htrue] at h
        cases h
        exact ⟨rfl, rfl⟩
      · rw [if_neg htrue] at h
        by_cases hfalse : text = "false"
        · rw [if_pos hfalse] at h
          cases h
          exact ⟨rfl, rfl⟩
        · rw [if_neg hfalse] at h
          cases h
  | int _ =>
      obtain ⟨_, rfl⟩ := eq_of_read h
      exact ⟨rfl, rfl⟩
  | float _ =>
      obtain ⟨_, rfl⟩ := eq_of_read h
      exact ⟨rfl, rfl⟩
  | time _ =>
      obtain ⟨_, rfl⟩ := eq_of_read h
      exact ⟨rfl, rfl⟩
  | duration _ =>
      obtain ⟨_, rfl⟩ := eq_of_read h
      exact ⟨rfl, rfl⟩
  | list _ => cases h

/-- Some value that cannot be compared with `v` comes before any that equals it. -/
def Clash (v : Value) : List Value → Prop
  | [] => False
  | w :: rest => ¬ Comparable v w ∨ (v.equals w = .ok false ∧ Clash v rest)

/-- Looking for an equal value fails at a clash and is answered otherwise. -/
theorem equalsAny_cases (v : Value) (values : List Value) :
    (Clash v values ∧ ∃ fault, equalsAny v values = .error fault) ∨
      (¬ Clash v values ∧ ∃ b, equalsAny v values = .ok b ∧
        (b = true ↔ ∃ w ∈ values, v.equals w = .ok true)) := by
  induction values with
  | nil => exact .inr ⟨not_false, false, rfl, by simp⟩
  | cons w rest ih =>
      have hstep : equalsAny v (w :: rest) = (v.equals w >>= fun hit =>
        if hit = true then .ok true else equalsAny v rest) := rfl
      rw [hstep, Clash]
      rcases equals_cases v w with ⟨hcomparable, b, hb⟩ | ⟨hcomparable, fault, hfault⟩
      · cases b with
        | true =>
            refine .inr ⟨?_, true, ?_, by simp [hb]⟩
            · simp [hcomparable, hb]
            · rw [hb]
              rfl
        | false =>
            have hrest : (v.equals w >>= fun hit =>
                if hit = true then .ok true else equalsAny v rest) = equalsAny v rest := by
              rw [hb]
              rfl
            rw [hrest]
            simpa [hcomparable, hb] using ih
      · rw [hfault]
        exact .inl ⟨.inl hcomparable, fault, rfl⟩

/-! ## Expressions over a reference -/

section Meaning

variable (r : Reference)

/-- The values that a page carries under an attribute, in the order of the rows. -/
def carried (name shasum : String) : List Value :=
  ((r.rowsOf name).filter (shasum ∈ ·.stubs)).map (·.value)

/-- A comparison of an attribute with an operand hits a page: one of its values equals the
literal as a value of its type, is a text that matches, or equals one that the page carries
under the other attribute. -/
def Hits (key shasum : String) : Operand → Prop
  | .literal text => ∃ v w, r.Posted (key, v) shasum ∧ v.ofLiteral text = .ok w ∧
      v.equals w = .ok true
  | .pattern p => ∃ regex text, Pattern.compile? p.source = some regex ∧
      r.Posted (key, .text text) shasum ∧ regex.isMatch text = true
  | .reference other => ∃ v w, r.Posted (key, v) shasum ∧ r.Posted (other, w) shasum ∧
      v.equals w = .ok true

/-- A comparison has no answer: the literal is no value of some type that it is compared with,
the pattern is none or meets a value that is no text, or some page carries values that clash. -/
def Refuses (key : String) : Operand → Prop
  | .literal text => ∃ v shasum, r.Posted (key, v) shasum ∧ ∀ w, v.ofLiteral text ≠ .ok w
  | .pattern p => Pattern.compile? p.source = none ∨
      ∃ v shasum, r.Posted (key, v) shasum ∧ v.asText? = none
  | .reference other => ∃ v shasum, r.Posted (key, v) shasum ∧ Clash v (carried r other shasum)

/-- A page satisfies an expression. A negated comparison is satisfied by the pages that have the
attribute and are not hit. -/
def Satisfies (shasum : String) : Expression → Prop
  | .condition .and left right => Satisfies shasum left ∧ Satisfies shasum right
  | .condition .or left right => Satisfies shasum left ∨ Satisfies shasum right
  | .operation key op operand =>
    if op.isNegated then (∃ v, r.Posted (key, v) shasum) ∧ ¬ Hits r key shasum operand
    else Hits r key shasum operand

/-- Some comparison in an expression has no answer. -/
def Refused : Expression → Prop
  | .condition _ left right => Refused left ∨ Refused right
  | .operation key _ operand => Refuses r key operand

end Meaning

/-! ## What is found among entries -/

/-- An outcome that fails in one case and otherwise has certain stubs. -/
def Tells (out : Outcome StubSet) (refused : Prop) (hit : UInt32 → Prop) : Prop :=
  match out with
  | .ok stubs => ¬ refused ∧ ∀ index, index ∈ stubs ↔ hit index
  | .error _ => refused

section Entries

variable {entries others : List ValuePostings} {index : UInt32}

/-- What an outcome tells may be said in other words. -/
theorem Tells.congr {out : Outcome StubSet} {refused refused' : Prop} {hit hit' : UInt32 → Prop}
    (h : Tells out refused hit) (hrefused : refused ↔ refused')
    (hhit : ¬ refused → ∀ index, hit index ↔ hit' index) : Tells out refused' hit' := by
  cases out with
  | error fault => exact hrefused.1 h
  | ok stubs =>
      obtain ⟨hok, hmem⟩ := h
      exact ⟨fun hr => hok (hrefused.2 hr), fun index => (hmem index).trans (hhit hok index)⟩

/-- Two outcomes one after the other are refused if either is, and are put together otherwise. -/
theorem Tells.both {x y : Outcome StubSet} {refused refused' : Prop} {hit hit' : UInt32 → Prop}
    (hx : Tells x refused hit) (hy : Tells y refused' hit') {f : StubSet → StubSet → StubSet}
    {g : Prop → Prop → Prop}
    (hf : ∀ s t index, index ∈ f s t ↔ g (index ∈ s) (index ∈ t)) :
    Tells (x >>= fun s => y >>= fun t => Except.ok (f s t)) (refused ∨ refused') fun index =>
      g (hit index) (hit' index) := by
  cases x with
  | error fault => exact .inl hx
  | ok s =>
      cases y with
      | error fault => exact .inr hy
      | ok t =>
          obtain ⟨hok, hmem⟩ := hx
          obtain ⟨hok', hmem'⟩ := hy
          refine ⟨fun h => h.elim hok hok', fun index => ?_⟩
          rw [hf, propext (hmem index), propext (hmem' index)]

/-- Stubs that are known are found. -/
theorem tells_ok (stubs : StubSet) : Tells (.ok stubs) False (· ∈ stubs) :=
  ⟨not_false, fun _ => Iff.rfl⟩

/-- Comparing with a literal fails if it is no value of the type. -/
theorem equalsLiteral_error_iff {text : String} {e : ValuePostings} :
    (∃ fault, equalsLiteral text e = .error fault) ↔ ∀ w, e.value.ofLiteral text ≠ .ok w := by
  unfold equalsLiteral
  cases hread : e.value.ofLiteral text with
  | error fault => exact ⟨fun _ w hw => (by cases hw), fun _ => ⟨fault, rfl⟩⟩
  | ok w =>
      constructor
      · rintro ⟨fault, hfault⟩
        rcases equals_cases e.value w with ⟨_, b, hb⟩ | ⟨hnot, _⟩
        · have hok : e.value.equals w = .error fault := hfault
          rw [hb] at hok
          cases hok
        · exact absurd (comparable_of_ofLiteral hread) hnot
      · exact fun hnone => absurd rfl (hnone w)

/-- A value equals a literal that is read as an equal value of its type. -/
theorem equalsLiteral_true_iff {text : String} {e : ValuePostings} :
    equalsLiteral text e = .ok true ↔
      ∃ w, e.value.ofLiteral text = .ok w ∧ e.value.equals w = .ok true := by
  unfold equalsLiteral
  cases hread : e.value.ofLiteral text with
  | error fault => exact ⟨fun htrue => (by cases htrue), fun ⟨w, hw, _⟩ => (by cases hw)⟩
  | ok w =>
      constructor
      · exact fun htrue => ⟨w, rfl, htrue⟩
      · rintro ⟨x, hx, htrue⟩
        cases hx
        exact htrue

/-- Only texts are matched with a pattern. -/
theorem matchesPattern_error_iff {key : String} {regex : Pattern.Regex} {e : ValuePostings} :
    (∃ fault, matchesPattern key regex e = .error fault) ↔ e.value.asText? = none := by
  unfold matchesPattern
  cases e.value <;> simp [Value.asText?]

/-- A value matches a pattern if it is a text that does. -/
theorem matchesPattern_true_iff {key : String} {regex : Pattern.Regex} {e : ValuePostings} :
    matchesPattern key regex e = .ok true ↔
      ∃ text, e.value = .text text ∧ regex.isMatch text = true := by
  unfold matchesPattern
  cases e.value <;> simp

/-- All stubs of the entries. -/
theorem mem_allStubs : index ∈ allStubs entries ↔ ∃ e ∈ entries, index ∈ e.postings.stubs := by
  rw [allStubs, StubSet.mem_foldl_union]
  simp [PostingList.toSet]

/-- The entries that pass a test are found, unless one cannot be tested. -/
theorem tells_hitsBy (test : ValuePostings → Outcome Bool) (entries : List ValuePostings) :
    Tells (hitsBy test entries) (∃ e ∈ entries, ∃ fault, test e = .error fault) fun index =>
      ∃ e ∈ entries, index ∈ e.postings.stubs ∧ test e = .ok true := by
  induction entries with
  | nil => exact ⟨by simp, by simp⟩
  | cons e rest ih =>
      have hstep : hitsBy test (e :: rest) = (test e >>= fun hit => hitsBy test rest >>= fun more =>
        Except.ok (if hit = true then e.postings.toSet.union more else more)) := rfl
      rw [hstep]
      cases htest : test e with
      | error fault => exact ⟨e, List.mem_cons_self .., fault, htest⟩
      | ok hit =>
          cases hit with
          | true =>
              have htogether := (tells_ok e.postings.toSet).both ih (f := StubSet.union)
                fun _ _ _ => StubSet.mem_union
              refine htogether.congr ?_ fun _ index => ?_
              · simp [htest]
              · simp [htest, PostingList.toSet]
          | false =>
              have hrest : (Except.ok false >>= fun hit => hitsBy test rest >>= fun more =>
                  Except.ok (if hit = true then e.postings.toSet.union more else more))
                  = hitsBy test rest := by
                cases hitsBy test rest <;> rfl
              rw [hrest]
              refine ih.congr ?_ fun _ index => ?_
              · simp [htest]
              · simp [htest]

/-- The stubs that have an equal value among others are found, unless there is a clash. -/
theorem tells_referenceStubs (others : List ValuePostings) (value : Value)
    (stubs : List UInt32) :
    Tells ((referenceStubs others value stubs).map StubSet.ofList)
      (∃ index ∈ stubs, Clash value (valuesOf others index)) fun index => index ∈ stubs ∧
        ∃ w ∈ valuesOf others index, value.equals w = .ok true := by
  induction stubs with
  | nil => exact ⟨by simp, by simp⟩
  | cons stub rest ih =>
      have hstep : referenceStubs others value (stub :: rest)
          = (equalsAny value (valuesOf others stub) >>= fun hit =>
            referenceStubs others value rest >>= fun more =>
              Except.ok (if hit = true then stub :: more else more)) := rfl
      rw [hstep]
      rcases equalsAny_cases value (valuesOf others stub) with
        ⟨hclash, fault, hfault⟩ | ⟨hclash, hit, hhit, hequal⟩
      · rw [hfault]
        exact ⟨stub, List.mem_cons_self .., hclash⟩
      · -- The first stub is answered, so that what is left to refuse is a clash among the others.
        rw [hhit]
        cases hrest : referenceStubs others value rest with
        | error fault =>
            rw [hrest] at ih
            obtain ⟨index, hindex, hclash⟩ := ih
            exact ⟨index, List.mem_cons_of_mem _ hindex, hclash⟩
        | ok more =>
            rw [hrest] at ih
            obtain ⟨hok, hmem⟩ := ih
            have hmore : ∀ index, index ∈ more ↔ index ∈ rest ∧
                ∃ w ∈ valuesOf others index, value.equals w = .ok true := by
              intro index
              exact StubSet.mem_ofList.symm.trans (hmem index)
            refine ⟨?_, fun index => StubSet.mem_ofList.trans ?_⟩
            · rw [List.exists_mem_cons_iff, not_or]
              exact ⟨hclash, hok⟩
            · have hhits : index ∈ (if hit = true then stub :: more else more)
                  ↔ (hit = true ∧ index = stub) ∨ index ∈ more := by
                cases hit <;> simp
              dsimp only
              rw [hhits, hmore, List.mem_cons, or_and_right]
              refine or_congr_left ⟨?_, ?_⟩
              · rintro ⟨hfound, rfl⟩
                exact ⟨rfl, hequal.1 hfound⟩
              · rintro ⟨rfl, hw⟩
                exact ⟨hequal.2 hw, rfl⟩

/-- The stubs of the entries that have an equal value among others are found, unless there is a
clash. -/
theorem tells_referenceHits (others entries : List ValuePostings) :
    Tells (referenceHits others entries)
      (∃ e ∈ entries, ∃ index ∈ e.postings.stubs, Clash e.value (valuesOf others index))
      fun index => ∃ e ∈ entries, index ∈ e.postings.stubs ∧
        ∃ w ∈ valuesOf others index, e.value.equals w = .ok true := by
  induction entries with
  | nil => exact ⟨by simp, by simp⟩
  | cons e rest ih =>
      have hstep : referenceHits others (e :: rest)
          = ((referenceStubs others e.value e.postings.stubs).map StubSet.ofList >>= fun stubs =>
            referenceHits others rest >>= fun more => Except.ok (stubs.union more)) := by
        have hunfold : referenceHits others (e :: rest)
            = (referenceStubs others e.value e.postings.stubs >>= fun stubs =>
              referenceHits others rest >>= fun more =>
                Except.ok ((StubSet.ofList stubs).union more)) := rfl
        rw [hunfold]
        cases referenceStubs others e.value e.postings.stubs <;> rfl
      rw [hstep]
      have htogether := (tells_referenceStubs others e.value e.postings.stubs).both ih
        (f := StubSet.union) fun _ _ _ => StubSet.mem_union
      refine htogether.congr ?_ fun _ index => ?_
      · simp
      · simp

end Entries

end SiteIndex.Query
