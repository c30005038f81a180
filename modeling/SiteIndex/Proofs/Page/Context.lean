import Mathlib.Data.List.Forall2
import SiteIndex.Index.Attributes
import SiteIndex.Proofs.NameMap

/-!
# What a page is indexed by

The context of a page is told by its look-ups (`mem_postings_iff`). A page that is made again from
the same text for the same place may have other times, but nothing else: of its attributes only
those of the times may change (`get?_context_of_retimed`).
-/

namespace SiteIndex

open Markup (Format)
open Page (Stub)
open Time (Instant)

namespace Index.Attributes

variable {context : Context} {name : String} {value : Value}

/-- A page is posted under the single values of its attributes. -/
theorem mem_postings_iff : (name, value) ∈ postings context ↔
    name ∉ unindexed ∧ ∃ field, context.get? name = some field ∧ value ∈ field.fanOut := by
  simp only [postings, List.mem_flatMap, List.mem_filter, List.mem_map, Prod.exists, Prod.mk.injEq,
    NameMap.get?_eq_some_iff, Bool.not_eq_true', List.contains_eq_mem, decide_eq_false_iff_not]
  constructor
  · rintro ⟨_, field, ⟨hfield, hindexed⟩, _, hvalue, rfl, rfl⟩
    exact ⟨hindexed, field, hfield, hvalue⟩
  · rintro ⟨hindexed, field, hfield, hvalue⟩
    exact ⟨name, field, ⟨hfield, hindexed⟩, value, hvalue, rfl, rfl⟩

end Index.Attributes

namespace Page

/-- Entries that are put over a map one after the other. -/
def putAll (context : Context) (entries : List (String × Value)) : Context :=
  entries.foldl (fun c e => c.insert e.1 e.2) context

/-- A name is found alike after entries that are the same for it. -/
theorem get?_putAll_congr {name : String} {entries entries' : List (String × Value)}
    (h : List.Forall₂ (fun e e' => e.1 = e'.1 ∧ (e.1 = name → e.2 = e'.2)) entries entries')
    {c c' : Context} (hc : c.get? name = c'.get? name) :
    (putAll c entries).get? name = (putAll c' entries').get? name := by
  induction h generalizing c c' with
  | nil => exact hc
  | @cons e e' _ _ he _ ih =>
      obtain ⟨hname, hvalue⟩ := he
      refine ih ?_
      rw [NameMap.get?_insert, NameMap.get?_insert, ← hname]
      split
      case isTrue heq => rw [hvalue heq.symm]
      case isFalse => exact hc

/-- The page with other times. -/
def retimed (page : Page) (created updated : Instant) : Page :=
  withContext { page with created, updated }

/-- A page that has its context has it still when it is put together again. -/
theorem withContext_withContext (page : Page) : withContext (withContext page) = withContext page :=
  rfl

/-- The context of a page with other times is made for these. -/
theorem retimed_withContext (page : Page) (created updated : Instant) :
    (withContext page).retimed created updated = withContext { page with created, updated } := rfl

/-- The attributes of a page with other times are the same but for those of the times. -/
theorem get?_context_of_retimed (page : Page) {created updated : Instant} {name : String}
    (hcreated : name = "created" → page.created = created)
    (hupdated : name = "updated" → page.updated = updated) :
    (page.retimed created updated).context.get? name = (withContext page).context.get? name := by
  refine get?_putAll_congr ?_ rfl
  have hsame : ∀ {entries : List (String × Value)}, List.Forall₂
      (fun e e' => e.1 = e'.1 ∧ (e.1 = name → e.2 = e'.2)) entries entries := fun {_} =>
    List.forall₂_same.2 fun _ _ => ⟨rfl, fun _ => rfl⟩
  have hcreated' : "created" = name → Value.time created = .time page.created := fun h => by
    rw [hcreated h.symm]
  have hupdated' : "updated" = name → Value.time updated = .time page.updated := fun h => by
    rw [hupdated h.symm]
  -- six texts come before the times, and the other attributes after them
  have hplain {e : String × Value} : e.1 = e.1 ∧ (e.1 = name → e.2 = e.2) := ⟨rfl, fun _ => rfl⟩
  exact .cons hplain (.cons hplain (.cons hplain (.cons hplain (.cons hplain (.cons hplain
    (.cons ⟨rfl, hcreated'⟩ (.cons ⟨rfl, hupdated'⟩ hsame)))))))

section Assemble

variable {stub stub' : Stub} {raw : String} {created modified created' modified' : Instant}
  {format : Option Format} {page : Page}

/-- A page of the same text at the same place differs in its times only. -/
theorem exists_retimed (hshasum : stub'.shasum = stub.shasum) (hsource : stub'.source = stub.source)
    (hmount : stub'.mount = stub.mount) (hlanguage : stub'.language = stub.language)
    (h : assemble stub raw created modified format = .ok page) :
    withContext page = page ∧ ∃ created updated,
      assemble stub' raw created' modified' format = .ok (page.retimed created updated) := by
  unfold assemble at h ⊢
  rw [hshasum, hsource, hmount, hlanguage]
  cases hsplit : Frontmatter.split raw with
  | error failure =>
      rw [hsplit] at h
      cases h
  | ok split =>
      rw [hsplit] at h
      obtain rfl := Except.ok.inj h
      refine ⟨withContext_withContext _, (timeField? split.fields "created").getD created',
        (timeField? split.fields "updated").getD modified', ?_⟩
      show Except.ok (withContext _) = Except.ok _
      rw [retimed_withContext]

end Assemble

end Page

end SiteIndex
