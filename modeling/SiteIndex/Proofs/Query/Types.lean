import SiteIndex.Proofs.Posting.Types
import SiteIndex.Query.Matching

/-!
# Queries over texts

A comparison fails if it meets a value of another type. So a statement whose attributes are all read
as texts does not fail for types, be it compared with literals, patterns or other attributes, and
whatever values the attribute has by which its matches are ordered (`yields_run`).
-/

namespace SiteIndex.Query

open Posting
open SiteIndex.Action (Meets Yields)

/-! ## Comparisons of texts -/

section Comparisons

/-- All values of the entries are texts. -/
def Textual (entries : List ValuePostings) : Prop := ∀ e ∈ entries, e.value.typeName = "string"

/-- Texts can be compared. -/
theorem meets_equals {v w : Value} (hv : v.typeName = "string") (hw : w.typeName = "string") :
    Meets (fun _ => True) NoMismatch (v.equals w) := by
  obtain ⟨s, rfl⟩ := Value.exists_text_of_typeName hv
  obtain ⟨t, rfl⟩ := Value.exists_text_of_typeName hw
  exact Meets.ok trivial

/-- A literal is compared with a text as a text. -/
theorem meets_equalsLiteral (literal : String) {e : ValuePostings}
    (h : e.value.typeName = "string") :
    Meets (fun _ => True) NoMismatch (equalsLiteral literal e) := by
  obtain ⟨s, hs⟩ := Value.exists_text_of_typeName h
  rw [equalsLiteral, hs]
  exact Meets.ok trivial

/-- A pattern can be applied to a text. -/
theorem meets_matchesPattern (key : String) (r : Pattern.Regex) {e : ValuePostings}
    (h : e.value.typeName = "string") :
    Meets (fun _ => True) NoMismatch (matchesPattern key r e) := by
  obtain ⟨s, hs⟩ := Value.exists_text_of_typeName h
  rw [matchesPattern, hs]
  exact Meets.ok trivial

/-- A test that all entries can take can be taken by them one after the other. -/
theorem meets_hitsBy {test : ValuePostings → Outcome Bool} {entries : List ValuePostings}
    (h : ∀ e ∈ entries, Meets (fun _ => True) NoMismatch (test e)) :
    Meets (fun _ => True) NoMismatch (hitsBy test entries) := by
  induction entries with
  | nil => exact Meets.ok trivial
  | cons e rest ih =>
      obtain ⟨he, hrest⟩ := List.forall_mem_cons.1 h
      exact Meets.bind he fun _ _ _ => Meets.bind (ih hrest) fun _ _ _ => Meets.ok trivial

/-- A text can be looked for among texts. -/
theorem meets_equalsAny {v : Value} {values : List Value} (hv : v.typeName = "string")
    (h : ∀ w ∈ values, w.typeName = "string") :
    Meets (fun _ => True) NoMismatch (equalsAny v values) := by
  induction values with
  | nil => exact Meets.ok trivial
  | cons w rest ih =>
      obtain ⟨hw, hrest⟩ := List.forall_mem_cons.1 h
      refine Meets.bind (meets_equals hv hw) fun hit _ _ => ?_
      cases hit with
      | true => exact Meets.ok trivial
      | false => exact ih hrest

variable {entries others : List ValuePostings}

/-- A text can be looked for among the values that each of some stubs has. -/
theorem meets_referenceStubs {v : Value} (hv : v.typeName = "string") (hothers : Textual others)
    (stubs : List UInt32) : Meets (fun _ => True) NoMismatch (referenceStubs others v stubs) := by
  induction stubs with
  | nil => exact Meets.ok trivial
  | cons stub rest ih =>
      refine Meets.bind (meets_equalsAny hv fun w hw => ?_) fun _ _ _ =>
        Meets.bind ih fun _ _ _ => Meets.ok trivial
      obtain ⟨e, he, rfl⟩ := List.mem_map.1 hw
      exact hothers e (List.mem_of_mem_filter he)

/-- The texts of two attributes can be compared. -/
theorem meets_referenceHits (hentries : Textual entries) (hothers : Textual others) :
    Meets (fun _ => True) NoMismatch (referenceHits others entries) := by
  induction entries with
  | nil => exact Meets.ok trivial
  | cons e rest ih =>
      obtain ⟨he, hrest⟩ := List.forall_mem_cons.1 hentries
      exact Meets.bind (meets_referenceStubs he hothers _) fun _ _ _ =>
        Meets.bind (ih hrest) fun _ _ _ => Meets.ok trivial

end Comparisons

/-! ## Statements -/

section Statements

variable {P : Store → Prop}

/-- The attributes that an operand reads. -/
def Operand.keys : Operand → List String
  | .reference key => [key]
  | .pattern _ | .literal _ => []

/-- An operand can be compared with texts. -/
theorem yields_operandHits {key : String} {entries : List ValuePostings} {operand : Operand}
    (h : ∀ other ∈ operand.keys, ∀ s, P s → Respects (valued other "string") s)
    (hentries : Textual entries) :
    Yields P (operandHits .context key entries operand) (fun _ => True) NoMismatch := by
  cases operand with
  | literal text =>
      exact Yields.ofOutcome (meets_hitsBy fun e he => meets_equalsLiteral text (hentries e he))
  | pattern p =>
      unfold operandHits
      dsimp only
      cases Pattern.compile? p.source with
      | none => exact Yields.ofOutcome (Meets.error (e := .invalidPattern) (by decide))
      | some r =>
          exact Yields.ofOutcome
            (meets_hitsBy fun e he => meets_matchesPattern key r (hentries e he))
  | reference other =>
      exact Yields.bind (yields_values (h other (List.mem_singleton_self other)))
        fun others hothers => Yields.ofOutcome (meets_referenceHits hentries hothers)

/-- An expression over attributes that are texts is evaluated without comparing types. -/
theorem yields_evaluate {e : Expression}
    (h : ∀ key ∈ e.keys, ∀ s, P s → Respects (valued key "string") s) :
    Yields P (evaluate .context e) (fun _ => True) NoMismatch := by
  induction e with
  | condition kind left right ihl ihr =>
      exact Yields.bind (ihl fun key hkey => h key (List.mem_append_left _ hkey)) fun _ _ =>
        Yields.bind (ihr fun key hkey => h key (List.mem_append_right _ hkey)) fun _ _ =>
          Yields.pure trivial
  | operation key op operand =>
      have hkey : key ∈ (Expression.operation key op operand).keys := by
        cases operand <;> exact List.mem_cons_self ..
      have hothers : ∀ other ∈ operand.keys,
          other ∈ (Expression.operation key op operand).keys := by
        cases operand with
        | reference other' => exact fun _ hother => List.mem_cons_of_mem _ hother
        | pattern | literal => exact nofun
      exact Yields.bind (yields_values (h key hkey)) fun entries hentries =>
        Yields.bind (yields_operandHits (fun other hother => h other (hothers other hother))
          hentries) fun _ _ => Yields.pure trivial

/-- A statement over attributes that are texts is answered, or it fails for another reason than
types. -/
theorem yields_run {s : Statement}
    (h : ∀ key ∈ s.expression.keys, ∀ store, P store → Respects (valued key "string") store) :
    Yields P (run .context s) (fun _ => True) NoMismatch := by
  refine Yields.bind (yields_evaluate h) fun hits _ => Yields.bind (Yields.mapM_any fun key _ => ?_)
    fun columns _ => Yields.bind (yields_shasums .context _) fun _ _ => Yields.pure trivial
  exact Yields.bind (yields_values_any .context key) fun _ _ => Yields.pure trivial

end Statements

end SiteIndex.Query
