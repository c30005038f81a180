import SiteIndex.Proofs.Engine.Resolution
import SiteIndex.Proofs.Index.Rules

/-!
# Rules that engines keep

Whatever an engine is called for, it changes its store by what pages ask of the indexes. So a rule
of the tables that lets go of every entry and allows the values of the pages is kept by all calls,
whatever comes of them (`respects_calls`). Nothing is asked of the store: its driver may refuse any
write, and there may be more pages than numbers.
-/

namespace SiteIndex.Engine

open Markup (Formats)
open Page (Stub)
open Posting

/-- The pages that a call may post under their attributes. -/
def Call.posting : Call → List Page
  | .add _ page | .addAttributes _ page => [page]
  | .rebuild site previous => (site.made previous.stubs).map (·.2)
  | _ => []

section Rules

variable {E : Rule} {e : Engine}

/-- The rule allows the values of the page. -/
def Allows (E : Rule) (page : Page) : Prop :=
  ∀ p ∈ pairsOf page, ∀ (n : Name) slot, n.1 = p.1 →
    E .context (.slotValue n slot) (some p.2.encode)

/-- The store of the engine respects the rule. -/
def Respects (E : Rule) (e : Engine) : Prop := Posting.Respects E e.store

/-- What is kept of the store is kept of that of the engine. -/
theorem keeps_store {α : Type} {x : Action Store α} (hx : Action.Keeps (Posting.Respects E) x) :
    Action.Keeps (Respects E) (onStore x) := fun e h => hx e.store h

variable (hE : Lenient E)

include hE

/-- A page may go to both indexes. -/
theorem respects_add (stub : Stub) {page : Page} (hpage : Allows E page) :
    Action.Keeps (Respects E) (add stub page) := fun e h =>
  kept_unlessReadOnly (P := Respects E) h
    (keeps_store (Index.keeps_attributes_add hE stub page hpage) e h)
    fun e h => keeps_store (Index.keeps_keywords_add hE e.formats stub page) e h

variable (hnone : ∀ ns c, E ns c none)

include hnone

/-- A page may be taken out of both indexes. -/
theorem respects_remove (stub : Stub) : Action.Keeps (Respects E) (remove stub) := fun e h =>
  kept_unlessReadOnly (P := Respects E) h
    (keeps_store (Index.keeps_attributes_remove hE (hnone ..)) e h)
    (keeps_store (Index.keeps_keywords_remove hE (hnone ..)))

/-- Every call keeps a rule that allows its pages, whatever comes of it. -/
theorem respects_perform (h : Respects E e) {call : Call}
    (hpages : ∀ page ∈ call.posting, Allows E page) : Respects E (perform e call) := by
  cases call with
  | add stub page => exact respects_add hE stub (hpages page (List.mem_singleton_self page)) e h
  | remove stub => exact respects_remove hE hnone stub e h
  | addAttributes stub page =>
      exact keeps_store (Index.keeps_attributes_add hE stub page
        (hpages page (List.mem_singleton_self page))) e h
  | removeAttributes stub =>
      exact keeps_store (Index.keeps_attributes_remove hE (hnone ..)) e h
  | addKeywords stub page => exact keeps_store (Index.keeps_keywords_add hE e.formats stub page) e h
  | removeKeywords stub => exact keeps_store (Index.keeps_keywords_remove hE (hnone ..)) e h
  | clear =>
      exact kept_both (P := Respects E) (keeps_store (keeps_clear hnone) e h)
        (keeps_store (keeps_clear hnone))
  | rebuild site previous =>
      have hstate : ((site.rebuild [indexer] previous).run e).run.2 = _ :=
        (Site.tally_rebuild site indexer previous e).2
      show Respects E ((site.rebuild [indexer] previous).run e).run.2
      rw [hstate]
      refine Site.keeps_askEach (fun stub _ => respects_remove hE hnone stub)
        (Site.keeps_askEach (fun entry hentry => ?_) h)
      exact respects_add hE entry.1 (hpages _ (List.mem_map_of_mem hentry))

/-- Calls keep a rule that allows their pages, whatever comes of them. -/
theorem respects_calls (h : Respects E e) {calls : List Call}
    (hpages : ∀ call ∈ calls, ∀ page ∈ call.posting, Allows E page) :
    Respects E (calls.foldl perform e) := by
  induction calls using List.reverseRecOn with
  | nil => exact h
  | append_singleton front call ih =>
      rw [List.forall_mem_append, List.forall_mem_singleton] at hpages
      rw [List.foldl_append]
      exact respects_perform hE hnone (ih hpages.1) hpages.2

end Rules

end SiteIndex.Engine
