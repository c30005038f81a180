import SiteIndex.Proofs.Page.Context
import SiteIndex.Proofs.Value.Encoding

/-!
# The attributes that every page has

Authors may write anything under any name, but what every page has is put over it: whatever a
frontmatter holds, the addresses, titles and other texts of pages are texts and their times are
times (`typeName_of_builtIn`). The second address is the exception. Only a page that has one puts it
over its frontmatter, so that a value that is no text stays where it was (`get?_permalink_iff`).
-/

namespace SiteIndex

open Files (FileSystem)
open Index.Attributes (mem_postings_iff postings)
open Markup (Formats)

namespace Page

/-! ## Putting entries over others -/

/-- Entries of different names that are put over a map are found, and the others as they were. -/
theorem get?_putAll {entries : List (String × Value)} (hnames : (entries.map (·.1)).Nodup)
    (context : Context) (name : String) :
    (putAll context entries).get? name = (entries.lookup name).or (context.get? name) := by
  induction entries generalizing context with
  | nil => rfl
  | cons e rest ih =>
      obtain ⟨hother, hrest⟩ := List.nodup_cons.1 hnames
      show (putAll (context.insert e.1 e.2) rest).get? name = _
      rw [ih hrest, NameMap.get?_insert, List.lookup_cons]
      by_cases h : name = e.1
      · have hnone : rest.lookup name = none := by
          refine List.lookup_eq_none_iff.2 fun p hp => bne_iff_ne.2 fun heq => hother ?_
          show e.1 ∈ _
          rw [← h, heq]
          exact List.mem_map_of_mem hp
        rw [if_pos h, hnone, beq_iff_eq.2 h]
        rfl
      · rw [if_neg h, beq_eq_false_iff_ne.2 h]

/-! ## Pages that are made -/

/-- The attributes that every page has, and the second address, with the types of their values. -/
def builtInTypes : List (String × String) :=
  [("url", "string"), ("title", "string"), ("description", "string"), ("language", "string"),
    ("format", "string"), ("section", "string"), ("created", "time"), ("updated", "time"),
    ("shasum", "string"), ("permalink", "string")]

/-- The page was made from a file. -/
def IsMade (page : Page) : Prop :=
  ∃ stub files formats, make stub files formats = .ok page

/-- The addresses of a page are in their one spelling, and all but the first are those of its
frontmatter. -/
structure Addressed (page : Page) : Prop where
  url : ∃ text, page.url = normalizeUrl text
  permalink : page.permalink = (textField? page.frontmatter "permalink").map normalizeUrl
  redirects : page.redirects = redirectsOf page.frontmatter
  translates : page.translates = (textField? page.frontmatter "translates").map normalizeUrl

/-- What the frontmatter has for a second address, if anything, is a text. -/
def PlainPermalink (page : Page) : Prop :=
  ∀ v, page.frontmatter.get? "permalink" = some v → v.typeName = "string"

section Made

variable {page : Page}

/-- A page that was made was put together from a text. -/
theorem IsMade.exists_assemble (h : page.IsMade) :
    ∃ stub raw created modified format, assemble stub raw created modified format = .ok page := by
  obtain ⟨stub, files, formats, hmake⟩ := h
  unfold make at hmake
  cases hread : files.read stub.source with
  | error failure => simp [hread, bind, Except.bind] at hmake
  | ok bytes =>
      cases hraw : Text.Utf8.decode? bytes with
      | none => simp [hread, hraw, bind, Except.bind] at hmake
      | some raw =>
          cases hcreated : files.created stub.source with
          | error failure => simp [hread, hraw, hcreated, bind, Except.bind] at hmake
          | ok created =>
              cases hmodified : files.modified stub.source with
              | error failure =>
                  simp [hread, hraw, hcreated, hmodified, bind, Except.bind] at hmake
              | ok modified =>
                  simp only [hread, hraw, hcreated, hmodified, bind, Except.bind] at hmake
                  exact ⟨stub, raw, created, modified, _, hmake⟩

/-- A page that was made has its attributes over its frontmatter and its addresses from there. -/
theorem IsMade.eqs (h : page.IsMade) : withContext page = page ∧ page.Addressed := by
  obtain ⟨stub, raw, created, modified, format, hassemble⟩ := h.exists_assemble
  unfold assemble at hassemble
  cases hsplit : Frontmatter.split raw with
  | error failure =>
      rw [hsplit] at hassemble
      cases hassemble
  | ok split =>
      rw [hsplit] at hassemble
      obtain rfl := Except.ok.inj hassemble
      refine ⟨withContext_withContext _, ?_, rfl, rfl, rfl⟩
      show ∃ text, ((textField? split.fields "url").map normalizeUrl).getD _ = normalizeUrl text
      cases textField? split.fields "url" with
      | none => exact ⟨_, rfl⟩
      | some text => exact ⟨text, rfl⟩

/-- No two of the attributes have one name. -/
theorem nodup_builtIns (page : Page) : (page.builtIns.map (·.1)).Nodup := by
  unfold builtIns
  cases page.permalink <;> simp

/-- An attribute is one that every page has, or else that of the frontmatter. -/
theorem IsMade.get?_context (h : page.IsMade) (name : String) :
    page.context.get? name = (page.builtIns.lookup name).or (page.frontmatter.get? name) := by
  rw [← h.eqs.1]
  exact get?_putAll (nodup_builtIns page) page.frontmatter name

/-- Every page has the attributes that are said to be built in, with values of their types; only the
second address may be missing. -/
theorem exists_builtIn (page : Page) {name type : String} (h : (name, type) ∈ builtInTypes) :
    (∃ v, page.builtIns.lookup name = some v ∧ v.typeName = type ∧ v.fanOut = [v]) ∨
      name = "permalink" ∧ type = "string" ∧ page.builtIns.lookup name = none := by
  simp only [builtInTypes, List.mem_cons, List.not_mem_nil, or_false, Prod.mk.injEq] at h
  rcases h with ⟨rfl, rfl⟩ | ⟨rfl, rfl⟩ | ⟨rfl, rfl⟩ | ⟨rfl, rfl⟩ | ⟨rfl, rfl⟩ | ⟨rfl, rfl⟩ |
    ⟨rfl, rfl⟩ | ⟨rfl, rfl⟩ | ⟨rfl, rfl⟩ | ⟨rfl, rfl⟩
  case inr.inr.inr.inr.inr.inr.inr.inr.inr =>
    unfold builtIns
    cases page.permalink with
    | none => exact .inr ⟨rfl, rfl, rfl⟩
    | some url => exact .inl ⟨_, rfl, rfl, rfl⟩
  all_goals exact .inl ⟨_, rfl, rfl, rfl⟩

/-- A page that was made is posted under values of the right types, but for a second address that
its author did not write as a text. -/
theorem IsMade.typeName_of_builtIn (h : page.IsMade) {name type : String} {value : Value}
    (htype : (name, type) ∈ builtInTypes) (hplain : name = "permalink" → page.PlainPermalink)
    (hvalue : (name, value) ∈ postings page.context) : value.typeName = type := by
  obtain ⟨-, field, hfield, hmem⟩ := mem_postings_iff.1 hvalue
  rw [h.get?_context] at hfield
  obtain ⟨v, hlookup, hv, hfanOut⟩ | ⟨rfl, rfl, hlookup⟩ := exists_builtIn page htype
  · rw [hlookup, Option.some_or] at hfield
    obtain rfl := Option.some.inj hfield
    rw [hfanOut] at hmem
    exact List.mem_singleton.1 hmem ▸ hv
  · rw [hlookup, Option.none_or] at hfield
    obtain ⟨s, rfl⟩ := Value.exists_text_of_typeName (hplain rfl field hfield)
    exact List.mem_singleton.1 hmem ▸ rfl

/-- The second address of a page stands in its context as it is if its author wrote it as a text,
and only then. -/
theorem IsMade.get?_permalink_iff (h : page.IsMade) :
    page.context.get? "permalink" = page.permalink.map .text ↔ page.PlainPermalink := by
  have hlookup : page.builtIns.lookup "permalink" = page.permalink.map .text := by
    unfold builtIns
    cases page.permalink <;> rfl
  have hpermalink := h.eqs.2.permalink
  rw [h.get?_context, hlookup, PlainPermalink]
  unfold textField? at hpermalink
  cases hfield : page.frontmatter.get? "permalink" with
  | none => exact ⟨fun _ => nofun, fun _ => Option.or_none⟩
  | some v =>
      rw [hfield] at hpermalink
      cases v with
      | text s =>
          rw [hpermalink]
          exact ⟨fun _ _ hv => Option.some.inj hv ▸ rfl, fun _ => rfl⟩
      | _ =>
          have hnone : page.permalink = none := hpermalink
          rw [hnone, Option.map_none, Option.none_or]
          refine iff_of_false (Option.some_ne_none _) fun hplain => absurd (hplain _ rfl) ?_
          simp [Value.typeName]

end Made

end Page

end SiteIndex
